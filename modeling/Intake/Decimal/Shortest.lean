import Intake.Decimal.Binary64

/-!
# The shortest decimal that reads back

Of all decimals that round to a given binary number, the one with the fewest
digits is written, and of those the nearest.  The search goes through the
decimal grids from coarse to fine and looks at the two grid points around the
number.
-/

namespace Intake.Binary64

/-- A decimal `digits * 10 ^ exponent`. -/
structure Decimal where
  digits : Nat
  exponent : Int
  deriving Repr, DecidableEq

/-- The number `significand * 2 ^ exponent` and the ends of the interval of
reals that round to it, all as multiples of one unit `1 / den`. -/
structure Interval where
  low : Nat
  value : Nat
  high : Nat
  den : Nat
  closed : Bool

/-- The rounding interval of a finite positive number. -/
def interval (significand : Nat) (exponent : Int) : Interval :=
  let narrow := significand = 1 <<< 52 ∧ exponent > -1074
  let up := if exponent ≥ 0 then 1 <<< exponent.toNat else 1
  let den := if exponent ≥ 0 then 1 else 1 <<< (-exponent).toNat
  { low := (4 * significand - if narrow then 1 else 2) * up
    value := 4 * significand * up
    high := (4 * significand + 2) * up
    den := 4 * den
    closed := significand % 2 = 0 }

/-- Whether `point / scale` lies in the interval. -/
def Interval.holds (range : Interval) (point scale : Nat) : Bool :=
  let p := point * range.den
  let low := range.low * scale
  let high := range.high * scale
  if range.closed then low ≤ p && p ≤ high else low < p && p < high

/-- The point of the grid `10 ^ exponent` to write, if one of the two around
the number reads back. -/
def Interval.onGrid (range : Interval) (exponent : Int) : Option Decimal :=
  let step := if exponent ≥ 0 then Nat.pow 10 exponent.toNat else 1
  let scale := if exponent ≥ 0 then 1 else Nat.pow 10 (-exponent).toNat
  let below := range.value * scale / (range.den * step)
  let above := below + 1
  let lowFits := below > 0 && range.holds (below * step) scale
  let highFits := range.holds (above * step) scale
  let twice := 2 * range.value * scale
  let middle := (below + above) * range.den * step
  let nearLow := twice < middle || (twice == middle && below % 2 == 0)
  if lowFits && (nearLow || !highFits) then some ⟨below, exponent⟩
  else if highFits then some ⟨above, exponent⟩
  else none

/-- The decimal exponent of the leading digit, give or take one. -/
def Interval.leading (range : Interval) : Int :=
  ((Nat.toDigits 10 range.value).length : Int) - (Nat.toDigits 10 range.den).length

def Decimal.trim (d : Decimal) : Nat → Decimal
  | 0 => d
  | fuel + 1 =>
      if d.digits % 10 = 0 ∧ d.digits ≠ 0 then
        Decimal.trim ⟨d.digits / 10, d.exponent + 1⟩ fuel
      else d

/-- The shortest decimal that reads back as a finite positive number. -/
def shortest (significand : Nat) (exponent : Int) : Decimal :=
  let range := interval significand exponent
  let top := range.leading + 1
  let grids := (List.range 21).map fun (i : Nat) => top - (i : Int)
  ((grids.findSome? range.onGrid).getD ⟨range.value / range.den, 0⟩).trim 20

/-- How the text of a number is laid out. -/
structure Layout where
  /-- Least exponent of the leading digit that is written without an exponent. -/
  leastFixed : Int
  /-- Greatest exponent of the leading digit that is written without one. -/
  greatestFixed : Int

def zeros (n : Nat) : String := String.ofList (List.replicate n '0')

/-- The text of a positive decimal without an exponent, with one digit at
least on each side of the point. -/
def Decimal.positional (d : Decimal) : String :=
  let digits := toString d.digits
  if d.exponent ≥ 0 then digits ++ zeros d.exponent.toNat ++ ".0"
  else
    let places := (-d.exponent).toNat
    let digits := zeros (places + 1 - digits.length) ++ digits
    (digits.take (digits.length - places)).toString ++ "." ++
      (digits.drop (digits.length - places)).toString

/-- The text of a positive decimal with an exponent, which has a sign and two
digits at least. -/
def Decimal.scientific (d : Decimal) : String :=
  let digits := toString d.digits
  let exponent := d.exponent + (digits.length : Int) - 1
  let magnitude := toString exponent.natAbs
  (digits.take 1).toString ++
    (if digits.length > 1 then "." ++ (digits.drop 1).toString else "") ++
    "e" ++ (if exponent < 0 then "-" else "+") ++
    (if magnitude.length < 2 then "0" ++ magnitude else magnitude)

/-- The text of a number in a layout. -/
def text (layout : Layout) : Binary64 → String
  | .notANumber => "NaN"
  | .infinite negative => if negative then "-inf" else "inf"
  | .finite negative significand exponent =>
      let sign := if negative then "-" else ""
      if significand = 0 then sign ++ "0.0"
      else
        let d := shortest significand exponent
        let leading := d.exponent + ((toString d.digits).length : Int) - 1
        if layout.leastFixed ≤ leading ∧ leading ≤ layout.greatestFixed then
          sign ++ d.positional
        else sign ++ d.scientific

end Intake.Binary64
