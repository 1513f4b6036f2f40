/-!
The parsed form of embedded code. Places are kept only where a failure may have to point at them.
-/
namespace LiteratePages.Code

/-- The bytes of a text from `start` up to but not including `stop`. -/
structure Span where
  start : Nat
  stop : Nat
deriving Repr, DecidableEq

def Span.shift (bytes : Nat) (span : Span) : Span := ⟨span.start + bytes, span.stop + bytes⟩

inductive Unary where
  | negation
  | logicalNot
deriving Repr, DecidableEq

inductive Binary where
  | add
  | subtract
  | multiply
  | divide
  | modulo
  | and
  | or
  | equal
  | unequal
  | greater
  | less
  | greaterOrEqual
  | lessOrEqual
deriving Repr, DecidableEq

/-- How tightly an operator binds; the higher the tighter. -/
def Binary.level : Binary → Nat
  | .or => 1
  | .and => 3
  | .equal | .unequal => 5
  | .greater | .less | .greaterOrEqual | .lessOrEqual => 7
  | .add | .subtract => 9
  | .multiply | .divide | .modulo => 11

mutual

inductive Expr where
  | string (value : String)
  | number (value : Float)
  | boolean (value : Bool)
  | none
  | format (pieces : List Piece)
  | list (items : List Expr)
  | map (entries : List (Expr × Expr))
  | variable (name : String) (span : Span)
  | call (callee : Expr) (arguments : List Expr) (span : Span)
  | index (target : Expr) (position : Expr) (span : Span)
  | unary (operator : Unary) (operand : Expr)
  | binary (operator : Binary) (left right : Expr)

inductive Piece where
  | text (value : String)
  | code (value : Expr)

end

instance : Inhabited Expr := ⟨.none⟩

inductive Statement where
  | assign (name : String) (value : Expr) (span : Span)
  | expr (value : Expr) (span : Span)
  /-- Conditions with their bodies, and what is done when none holds. -/
  | cond (branches : List (Expr × List Statement)) (otherwise : Option (List Statement)) (span : Span)
  | loop (name : String) (source : Expr) (body : List Statement) (span : Span)

def Statement.span : Statement → Span
  | .assign _ _ span | .expr _ span | .cond _ _ span | .loop _ _ _ span => span

abbrev Program := List Statement

end LiteratePages.Code
