/-!
Sets of code points, written as the points at which membership changes: `[a, b, c, d]` holds the
code points from `a` up to but not including `b`, and those from `c` up to but not including `d`.
-/
namespace LiteratePages.Text

/-- A code point is in the set when an odd number of changes lie at or below it. -/
def inRanges (changes : List Nat) (point : Nat) : Bool :=
  (changes.takeWhile (· ≤ point)).length % 2 == 1

example : inRanges [3, 5, 9, 10] 2 = false := rfl
example : inRanges [3, 5, 9, 10] 3 = true := rfl
example : inRanges [3, 5, 9, 10] 4 = true := rfl
example : inRanges [3, 5, 9, 10] 5 = false := rfl
example : inRanges [3, 5, 9, 10] 9 = true := rfl

end LiteratePages.Text
