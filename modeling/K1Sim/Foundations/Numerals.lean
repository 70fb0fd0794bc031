import Mathlib.Algebra.Ring.Nat

/-!
# Foundations/Numerals — shortcut instances for small numerals

The numerals of a field rest on `Nat.AtLeastTwo` and those of `Fin` on `NeZero`; these name the
instances that definitions use.
-/

namespace Foundations

instance atLeastTwo_two : Nat.AtLeastTwo 2 := ⟨by decide⟩

instance atLeastTwo_three : Nat.AtLeastTwo 3 := ⟨by decide⟩

instance atLeastTwo_four : Nat.AtLeastTwo 4 := ⟨by decide⟩

instance atLeastTwo_five : Nat.AtLeastTwo 5 := ⟨by decide⟩

instance atLeastTwo_six : Nat.AtLeastTwo 6 := ⟨by decide⟩

instance atLeastTwo_eight : Nat.AtLeastTwo 8 := ⟨by decide⟩

instance atLeastTwo_nine : Nat.AtLeastTwo 9 := ⟨by decide⟩

instance atLeastTwo_ten : Nat.AtLeastTwo 10 := ⟨by decide⟩

instance atLeastTwo_thirteen : Nat.AtLeastTwo 13 := ⟨by decide⟩

instance atLeastTwo_fourteen : Nat.AtLeastTwo 14 := ⟨by decide⟩

instance atLeastTwo_hundred : Nat.AtLeastTwo 100 := ⟨by decide⟩

instance atLeastTwo_hundredEighty : Nat.AtLeastTwo 180 := ⟨by decide⟩

instance atLeastTwo_thousand : Nat.AtLeastTwo 1000 := ⟨by decide⟩

instance atLeastTwo_billion : Nat.AtLeastTwo 1000000000 := ⟨by decide⟩

instance neZero_two : NeZero 2 := ⟨by decide⟩

instance neZero_three : NeZero 3 := ⟨by decide⟩

end Foundations
