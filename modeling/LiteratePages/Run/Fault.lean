import LiteratePages.Run.Value
import LiteratePages.Text.Quoted
import LiteratePages.Code.Token

namespace LiteratePages

inductive WantedType where
  | string
  | number
  | integer
  | integerIndex
  | list
  | map
  | stringKey
  | stringMapKey
  | measurable
  | indexable
  | iterable
  | matching
deriving Repr, DecidableEq

def WantedType.describe : WantedType → String
  | .string => "String"
  | .number => "Number"
  | .integer => "integer"
  | .integerIndex => "integer index"
  | .list => "List"
  | .map => "Map"
  | .stringKey => "String key"
  | .stringMapKey => "String map key"
  | .measurable => "String, List or Map"
  | .indexable => "List, String or Map"
  | .iterable => "List, Map or String"
  | .matching => "matching numeric, string or list types"

inductive Oversize where
  | range
  | repeated
  | concatenatedString
  | concatenatedList
deriving Repr, DecidableEq

def Oversize.describe : Oversize → String
  | .range => "range"
  | .repeated => "repeated string"
  | .concatenatedString => "concatenated string"
  | .concatenatedList => "concatenated list"

inductive Fault where
  | typeMismatch (wanted : WantedType) (got : String)
  | undefinedVariable (name : String)
  | notCallable (typeName : String)
  /-- A function that takes from `least` to `most` arguments was given another number. -/
  | arity (name : String) (least most given : Nat)
  | indexOutOfBounds (index : Int)
  | keyNotFound (key : String)
  | divisionByZero
  | stackOverflow
  | tooLarge (what : Oversize)
  | host (message : String)
deriving Repr, DecidableEq

def Fault.message : Fault → String
  | .typeMismatch wanted got => "type error: expected " ++ wanted.describe ++ ", got " ++ got
  | .undefinedVariable name => "undefined variable: " ++ name
  | .notCallable typeName => "value of type " ++ typeName ++ " is not callable"
  | .arity name least most given =>
      let wanted := if least = most then toString least else toString least ++ " to " ++ toString most
      name ++ "() takes " ++ wanted ++ " argument(s), " ++ toString given ++ " given"
  | .indexOutOfBounds index => "index " ++ toString index ++ " out of bounds"
  | .keyNotFound key => "key not found: " ++ quoted key
  | .divisionByZero => "division by zero"
  | .stackOverflow => "stack overflow"
  | .tooLarge what => what.describe ++ " is too large"
  | .host message => message

/-- A fault, and the code that raised it as far as that is known. -/
structure Failure where
  fault : Fault
  span : Option Code.Span

inductive ExecutionError where
  | syntactic (error : Code.SyntaxError)
  | runtime (failure : Failure)

def ExecutionError.message : ExecutionError → String
  | .syntactic error => error.message
  | .runtime failure => "runtime error: " ++ failure.fault.message

end LiteratePages
