/-!
# Binary floating point numbers

A finite number is `significand * 2 ^ exponent`, with a significand below
`2 ^ 53` and an exponent of at least -1074, and a significand of at least
`2 ^ 52` unless the exponent is the least one.
-/

namespace Intake

/-- A double precision number. -/
inductive Binary64 where
  | finite (negative : Bool) (significand : Nat) (exponent : Int)
  | infinite (negative : Bool)
  | notANumber
  deriving Repr, DecidableEq, Inhabited

namespace Binary64

/-- The quotient rounded to the nearest number, a tie to the even one. -/
def roundQuotient (num den : Nat) : Nat :=
  let q := num / den
  let r := num % den
  if 2 * r < den then q
  else if den < 2 * r then q + 1
  else if q % 2 = 0 then q else q + 1

/-- The number nearest to `num / den`. -/
def ofQuotient (negative : Bool) (num den : Nat) : Binary64 :=
  if num = 0 then .finite negative 0 (-1074)
  else
    let scale (exponent : Int) : Nat :=
      if exponent ≥ 0 then roundQuotient num (den <<< exponent.toNat)
      else roundQuotient (num <<< (-exponent).toNat) den
    let guess : Int := (num.log2 : Int) - (den.log2 : Int) - 53
    let exponent := [guess, guess + 1, guess + 2].find? fun e =>
      if e ≥ 0 then num < den <<< (53 + e.toNat)
      else num <<< (-e).toNat < den <<< 53
    let exponent := max (exponent.getD (guess + 2)) (-1074)
    let significand := scale exponent
    let (significand, exponent) :=
      if significand = 1 <<< 53 then (1 <<< 52, exponent + 1) else (significand, exponent)
    if exponent > 971 then .infinite negative else .finite negative significand exponent

/-- The number nearest to `digits * 10 ^ exponent`. -/
def ofDecimal (negative : Bool) (digits : Nat) (exponent : Int) : Binary64 :=
  let magnitude := (Nat.toDigits 10 digits).length + exponent
  if digits = 0 ∨ magnitude < -330 then .finite negative 0 (-1074)
  else if magnitude > 320 then .infinite negative
  else if exponent ≥ 0 then ofQuotient negative (digits * Nat.pow 10 exponent.toNat) 1
  else ofQuotient negative digits (Nat.pow 10 (-exponent).toNat)

end Binary64

end Intake
