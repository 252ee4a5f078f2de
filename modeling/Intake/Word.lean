/-!
# Words

Integers that fit words of a number of bits, with a sign or without.
-/

namespace Intake.Word

/-- How many values a word of so many bits has. -/
def size (bits : Nat) : Nat := Nat.pow 2 bits

/-- Whether an integer fits a word with a sign. -/
def fitsSigned (bits : Nat) (value : Int) : Bool :=
  -(size (bits - 1) : Int) ≤ value && value < size (bits - 1)

/-- Whether an integer fits a word without a sign. -/
def fitsUnsigned (bits : Nat) (value : Int) : Bool := 0 ≤ value && value < size bits

/-- Whether an integer fits a word of either kind. -/
def fits (bits : Nat) (value : Int) : Bool := fitsSigned bits value || fitsUnsigned bits value

theorem size_succ (bits : Nat) : size (bits + 1) = size bits * 2 := rfl

theorem fits_iff (bits : Nat) (value : Int) :
    fits (bits + 1) value = true ↔ -(size bits : Int) ≤ value ∧ value < size (bits + 1) := by
  have wider : (size (bits + 1) : Int) = size bits * 2 := by rw [size_succ]; rfl
  simp only [fits, fitsSigned, fitsUnsigned, Nat.add_sub_cancel, Bool.or_eq_true,
    Bool.and_eq_true, decide_eq_true_eq, wider]
  omega

end Intake.Word
