import LiteratePages.Proofs.Meets
import LiteratePages.Run.Builtin

namespace LiteratePages

/-- If the computation fails, then for another reason than its depth. -/
abbrev Shallow {α : Type} (result : Except Fault α) : Prop :=
  Meets (fun _ => True) (· ≠ Fault.stackOverflow) result

namespace Value

variable (value left right : Value)

theorem asNumber_shallow : Shallow value.asNumber := by
  cases value with
  | number _ => trivial
  | _ => exact fun same => Fault.noConfusion same

theorem asString_shallow : Shallow value.asString := by
  cases value with
  | string _ => trivial
  | _ => exact fun same => Fault.noConfusion same

theorem checkLength_shallow (length : Option Nat) (what : Oversize) :
    Shallow (checkLength length what) := by
  unfold checkLength
  split
  · split
    · trivial
    · exact fun same => Fault.noConfusion same
  · exact fun same => Fault.noConfusion same

theorem arithmetic_shallow (operation : Float → Float → Float) :
    Shallow (arithmetic left right operation) :=
  left.asNumber_shallow.bind fun _ _ => right.asNumber_shallow.bind fun _ _ => trivial

theorem quotient_shallow (operation : Float → Float → Float) :
    Shallow (quotient left right operation) := by
  refine left.asNumber_shallow.bind fun a _ => right.asNumber_shallow.bind fun b _ => ?_
  dsimp only
  split
  · exact fun same => Fault.noConfusion same
  · trivial

theorem add_shallow : Shallow (add left right) := by
  unfold add
  split
  · trivial
  · exact (checkLength_shallow _ _).bind fun _ _ => trivial
  · exact (checkLength_shallow _ _).bind fun _ _ => trivial
  · exact fun same => Fault.noConfusion same

theorem repeatedTimes_shallow (text : String) (count : Nat) :
    Shallow (repeatedTimes text count) := by
  unfold repeatedTimes
  split
  · trivial
  · exact (checkLength_shallow _ _).bind fun _ _ => trivial

theorem multiply_shallow : Shallow (multiply left right) := by
  unfold multiply
  split
  · exact repeatedTimes_shallow _ _
  · exact repeatedTimes_shallow _ _
  · exact arithmetic_shallow _ _ _

theorem ordered_shallow (strings : String → String → Bool) (numbers : Float → Float → Bool) :
    Shallow (ordered left right strings numbers) := by
  unfold ordered
  split
  · trivial
  · exact (asNumber_shallow _).bind fun _ _ => (asNumber_shallow _).bind fun _ _ => trivial

theorem binary_shallow (op : Code.Binary) : Shallow (binary op left right) := by
  cases op with
  | add => exact add_shallow left right
  | multiply => exact multiply_shallow left right
  | subtract => exact arithmetic_shallow left right _
  | divide | modulo => exact quotient_shallow left right _
  | greater | less | greaterOrEqual | lessOrEqual => exact ordered_shallow left right _ _
  | equal | unequal | and | or => trivial

theorem unary_shallow (op : Code.Unary) : Shallow (value.unary op) := by
  cases op with
  | negation => exact value.asNumber_shallow.bind fun _ _ => trivial
  | logicalNot => trivial

theorem position_shallow (index : Int) (length : Nat) : Shallow (position index length) := by
  unfold position
  dsimp only
  generalize (if index < 0 then _ else index) = resolved
  split
  · exact fun same => Fault.noConfusion same
  · trivial

theorem pick_shallow {α : Type} (items : List α) (index : Int) : Shallow (pick items index) := by
  refine (position_shallow _ _).bind fun place _ => ?_
  split
  · trivial
  · exact fun same => Fault.noConfusion same

theorem select_shallow {α : Type} (items : List α) (index : Value) :
    Shallow (select items index) := by
  refine index.asNumber_shallow.bind fun n _ => ?_
  dsimp only
  split
  · exact fun same => Fault.noConfusion same
  · exact pick_shallow _ _

theorem atIndex_shallow : Shallow (left.atIndex right) := by
  unfold atIndex
  split
  · exact select_shallow _ _
  · exact (select_shallow _ _).bind fun _ _ => trivial
  · split
    · split
      · trivial
      · exact fun same => Fault.noConfusion same
    · exact fun same => Fault.noConfusion same
  · exact fun same => Fault.noConfusion same

theorem iterate_shallow : Shallow value.iterate := by
  cases value with
  | list _ | map _ | string _ => trivial
  | _ => exact fun same => Fault.noConfusion same

end Value

namespace Builtin

theorem asInteger_shallow (value : Value) : Shallow (asInteger value) := by
  refine value.asNumber_shallow.bind fun n _ => ?_
  split
  · trivial
  · exact fun same => Fault.noConfusion same

theorem rangeOf_shallow (first stop : Int) : Shallow (rangeOf first stop) :=
  (Value.checkLength_shallow _ _).bind fun _ _ => trivial

theorem result_shallow (builtin : Builtin) (arguments : List Value) :
    Shallow (builtin.result arguments) := by
  unfold result
  split
  · trivial
  · split
    · trivial
    · trivial
    · trivial
    · exact fun same => Fault.noConfusion same
  · trivial
  · exact (asInteger_shallow _).bind fun _ _ => rangeOf_shallow _ _
  · exact (asInteger_shallow _).bind fun _ _ =>
      (asInteger_shallow _).bind fun _ _ => rangeOf_shallow _ _
  · rename_i value rest
    cases rest with
    | nil =>
        cases value with
        | list items => trivial
        | _ => exact fun same => Fault.noConfusion same
    | cons separator more =>
        refine separator.asString_shallow.bind fun text _ => ?_
        cases value with
        | list items => trivial
        | _ => exact fun same => Fault.noConfusion same
  · split
    · trivial
    · exact fun same => Fault.noConfusion same
  · exact (Value.asString_shallow _).bind fun _ _ => trivial
  · exact (Value.asString_shallow _).bind fun _ _ => trivial
  · split
    · exact (Value.asString_shallow _).bind fun _ _ => trivial
    · exact fun same => Fault.noConfusion same
  · trivial

theorem apply_shallow (builtin : Builtin) (arguments : List Value) :
    Shallow (builtin.apply arguments) := by
  unfold apply checkArity
  split
  · split
    · exact fun same => Fault.noConfusion same
    · exact result_shallow builtin arguments
  · exact result_shallow builtin arguments

end Builtin
end LiteratePages
