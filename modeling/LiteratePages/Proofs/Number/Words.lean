import LiteratePages.Number.Words
import Mathlib.Algebra.Group.Int.Defs
import Mathlib.Algebra.Group.Nat.Defs

namespace LiteratePages.Number

theorem unsigned64?_eq_some_iff {n : Int} {word : Nat} :
    unsigned64? n = some word ↔ n = word ∧ word < 2 ^ 64 := by
  have bound : Nat.pow 2 64 = 2 ^ 64 := rfl
  unfold unsigned64?
  split
  · rw [Option.some.injEq]
    omega
  · simp only [reduceCtorEq, false_iff]
    omega

theorem wrapSigned64_of_mem {n : Int} (low : -2 ^ 63 ≤ n) (high : n < 2 ^ 63) :
    wrapSigned64 n = n :=
  Int.bmod_eq_of_le low high

example : wrapSigned64 (2 ^ 63) = -2 ^ 63 := by decide +kernel

theorem wrapUnsigned64_of_mem {n : Int} (low : 0 ≤ n) (high : n < 2 ^ 64) :
    wrapUnsigned64 n = n.toNat :=
  congrArg Int.toNat (Int.emod_eq_of_lt low high)

theorem saturatingSubtract_eq (a b : Int) :
    saturatingSubtract a b = max (-2 ^ 63) (min (2 ^ 63 - 1) (a - b)) := rfl

example : saturatingSubtract (2 ^ 63 - 1) (-2 ^ 63) = 2 ^ 63 - 1 := by decide +kernel

/-- A float is taken to a word. -/
theorem toSigned64_mem (x : Float) : -2 ^ 63 ≤ toSigned64 x ∧ toSigned64 x < 2 ^ 63 := by
  unfold toSigned64
  have bound : Int.pow 2 63 = 2 ^ 63 := rfl
  cases Exact.ofFloat x with
  | nan => exact ⟨by decide, by decide⟩
  | infinite negative => cases negative <;> exact ⟨by decide, by decide⟩
  | finite negative mantissa exponent =>
      simp only [Exact.toIntClamped, clamp]
      omega

end LiteratePages.Number
