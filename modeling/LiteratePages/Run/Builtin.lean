import LiteratePages.Run.Operators
import LiteratePages.Text.Casing

namespace LiteratePages.Builtin

def checkArity (builtin : Builtin) (least most : Nat) (arguments : List Value) :
    Except Fault Unit :=
  if arguments.length < least ∨ most < arguments.length then
    .error (.arity builtin.name least most arguments.length)
  else .ok ()

/-- A number without fraction, as a signed word. -/
def asInteger (value : Value) : Except Fault Int := do
  let n ← value.asNumber
  if Number.isFloor n then return Number.toSigned64 n
  else throw (.typeMismatch .integer (Number.text n))

/-- How many whole numbers there are from `first` up to but not including `stop`, as far as a word
can say. -/
def span (first stop : Int) : Nat :=
  (Number.unsigned64? (Number.saturatingSubtract stop first)).getD 0

/-- The whole numbers from `first` up to but not including `stop`. -/
def wholeNumbers (first stop : Int) : List Int :=
  (List.range (stop - first).toNat).map fun (n : Nat) => first + n

@[simp] theorem length_wholeNumbers (first stop : Int) :
    (wholeNumbers first stop).length = (stop - first).toNat := by
  simp [wholeNumbers]

def rangeOf (first stop : Int) : Except Fault Value := do
  Value.checkLength (some (span first stop)) .range
  return .list ((wholeNumbers first stop).map fun n => .number (Float.ofInt n))

/-- What a function gives for its arguments. Of those called `print` alone also prints. -/
def result (builtin : Builtin) (arguments : List Value) : Except Fault Value :=
  match builtin, arguments with
  | .print, _ => .ok .none
  | .len, [value] => match value with
      | .string text => .ok (.number (Float.ofInt text.length))
      | .list items => .ok (.number (Float.ofInt items.length))
      | .map entries => .ok (.number (Float.ofInt entries.length))
      | other => .error (Value.mismatch .measurable other)
  | .str, [value] => .ok (.string value.display)
  | .range, [stop] => do rangeOf 0 (← asInteger stop)
  | .range, [first, stop] => do
      let first ← asInteger first
      let stop ← asInteger stop
      rangeOf first stop
  | .join, value :: rest => do
      let separator ← match rest with
        | separator :: _ => separator.asString
        | [] => pure ""
      match value with
      | .list items => return .string (separator.intercalate (items.map Value.display))
      | other => throw (Value.mismatch .list other)
  | .keys, [value] => match value with
      | .map entries => .ok (.list ((Entries.keys entries).map .string))
      | other => .error (Value.mismatch .map other)
  | .upper, [value] => do return .string (toUpperCase (← value.asString))
  | .lower, [value] => do return .string (toLowerCase (← value.asString))
  | .get, target :: key :: rest => match target with
      | .map entries => do
          let key ← key.asString
          return (Entries.get? entries key).getD (rest.head?.getD .none)
      | other => throw (Value.mismatch .map other)
  | _, _ => .ok .none

/-- The least and the greatest number of arguments. Anything can be printed. -/
def bounds? : Builtin → Option (Nat × Nat)
  | .print => none
  | .len | .str | .keys | .upper | .lower => some (1, 1)
  | .range | .join => some (1, 2)
  | .get => some (2, 3)

def apply (builtin : Builtin) (arguments : List Value) : Except Fault Value := do
  match builtin.bounds? with
  | some (least, most) => builtin.checkArity least most arguments
  | none => pure ()
  builtin.result arguments

/-- What a call prints: the arguments of `print`, a blank between each two, on a line. -/
def printed (builtin : Builtin) (arguments : List Value) : String :=
  match builtin with
  | .print => " ".intercalate (arguments.map Value.display) ++ "\n"
  | _ => ""

end LiteratePages.Builtin
