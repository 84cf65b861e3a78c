import Conform.Number.Binary64

/-! The written form of a floating-point number: the fewest digits that read back
to it, the nearest such number among those. -/

namespace Conform.Binary64

/-- Positive powers compared without fractions: `binary * 2 ^ e` against
`decimal * 10 ^ t`, both multiplied by the same powers of two and ten. -/
private structure Scale where
  binaryExponent : Int
  decimalExponent : Int

private def Scale.binary (scale : Scale) (count : Nat) : Nat :=
  count * Nat.pow 2 scale.binaryExponent.toNat * Nat.pow 10 (-scale.decimalExponent).toNat

private def Scale.decimal (scale : Scale) (count : Nat) : Nat :=
  count * Nat.pow 10 scale.decimalExponent.toNat * Nat.pow 2 (-scale.binaryExponent).toNat

/-- The count of digits before the point of `significand * 2 ^ exponent`; it is zero
or negative when zeros follow the point. -/
def pointOf (significand : Nat) (exponent : Int) : Int :=
  let dividend := significand * Nat.pow 2 exponent.toNat
  let divisor := Nat.pow 2 (-exponent).toNat
  if divisor ≤ dividend then ((Nat.toDigits 10 (dividend / divisor)).length : Int)
  else
    let ceiling := (divisor + dividend - 1) / dividend
    1 - ((Nat.toDigits 10 (ceiling - 1)).length : Int)

/-- The nearest multiple of `10 ^ decimalExponent` that reads back, if there is one.
The interval of decimals read as the number reaches half way to its neighbours, and
holds its ends when the significand is even. -/
def gridPoint? (significand : Nat) (exponent decimalExponent : Int) : Option Nat :=
  let scale : Scale := ⟨exponent - 2, decimalExponent⟩
  let lowerGap := if significand = Nat.pow 2 52 ∧ leastExponent < exponent then 1 else 2
  let low := scale.binary (4 * significand - lowerGap)
  let middle := scale.binary (4 * significand)
  let high := scale.binary (4 * significand + 2)
  let below := middle / scale.decimal 1
  let reads (count : Nat) : Bool :=
    let point := scale.decimal count
    if significand % 2 = 0 then low ≤ point && point ≤ high else low < point && point < high
  match reads below, reads (below + 1) with
  | true, true =>
    let doubled := scale.decimal below + scale.decimal (below + 1)
    if 2 * middle < doubled then some below
    else if doubled < 2 * middle then some (below + 1)
    else if below % 2 = 0 then some below
    else some (below + 1)
  | true, false => some below
  | false, true => some (below + 1)
  | false, false => none

private def dropTrailingZeros (digits : List Char) : List Char :=
  (digits.reverse.dropWhile (· = '0')).reverse

/-- The fewest digits that read back as a positive number, with the count of them
before the point. Seventeen digits always suffice. -/
def shortestDigits (significand : Nat) (exponent : Int) : List Char × Int :=
  let point := pointOf significand exponent
  let found := (List.range 17).findSome? fun (further : Nat) =>
    let decimalExponent := point - 1 - (further : Int)
    (gridPoint? significand exponent decimalExponent).map fun digits => (digits, decimalExponent)
  match found with
  | some (count, decimalExponent) =>
    let digits := Nat.toDigits 10 count
    (dropTrailingZeros digits, decimalExponent + digits.length)
  | none => (['0'], 1)

/-- Numbers from `0.0001` up to `10 ^ 16` are written with a point, others with an
exponent of at least two digits. `wholeEnding` follows a number without a fraction. -/
def textWith (wholeEnding : String) : Binary64 → String
  | .nan _ => "nan"
  | .infinite negative => if negative then "-inf" else "inf"
  | .finite negative significand exponent =>
    let (digits, point) :=
      if significand = 0 then (['0'], 1) else shortestDigits significand exponent
    let power := point - 1
    let magnitude :=
      if -4 ≤ power ∧ power < 16 then Numeral.positional digits point wholeEnding
      else
        let size := toString power.natAbs
        Numeral.mantissa digits ++ "e" ++ (if power < 0 then "-" else "+") ++
          (if size.length < 2 then "0" ++ size else size)
    if negative then "-" ++ magnitude else magnitude

/-- The written form of a number standing alone. -/
def text (number : Binary64) : String := number.textWith ".0"

end Conform.Binary64
