namespace Conform

/-- The number `± coefficient * 10 ^ exponent`, with its trailing zeros kept. -/
structure Numeral where
  negative : Bool
  coefficient : Nat
  exponent : Int
deriving DecidableEq

namespace Numeral

private def splitSign : List Char → Bool × List Char
  | '-' :: rest => (true, rest)
  | '+' :: rest => (false, rest)
  | chars => (false, chars)

/-- The number written by a run of decimal digits; the empty run is zero. -/
def ofDigits (digits : List Char) : Nat :=
  digits.foldl (fun total digit => 10 * total + (digit.toNat - '0'.toNat)) 0

/-- An exponent part: nothing at all, or a mark, a sign and at least one digit. -/
private def readExponent? : List Char → Option Int
  | [] => some 0
  | mark :: rest =>
    let (negative, digits) := splitSign rest
    if (mark = 'e' ∨ mark = 'E') ∧ digits ≠ [] ∧ digits.all Char.isDigit then
      some (if negative then -(ofDigits digits : Int) else ofDigits digits)
    else none

/-- Reads digits with an optional sign, point and exponent. -/
def parse? (text : String) : Option Numeral :=
  let (negative, body) := splitSign text.toList
  let whole := body.takeWhile Char.isDigit
  let afterWhole := body.dropWhile Char.isDigit
  let (part, tail) : List Char × List Char :=
    match afterWhole with
    | '.' :: rest => (rest.takeWhile Char.isDigit, rest.dropWhile Char.isDigit)
    | rest => ([], rest)
  if whole ++ part = [] then none
  else (readExponent? tail).map fun exponent =>
    ⟨negative, ofDigits (whole ++ part), exponent - part.length⟩

/-- Digits with a point after the first `point` of them. Zeros fill the gap on
either side, and `wholeEnding` follows a number without a fraction. -/
def positional (digits : List Char) (point : Int) (wholeEnding : String) : String :=
  if point ≤ 0 then
    "0." ++ String.ofList (List.replicate (-point).toNat '0' ++ digits)
  else if digits.length ≤ point.toNat then
    String.ofList (digits ++ List.replicate (point.toNat - digits.length) '0') ++ wholeEnding
  else
    String.ofList (digits.take point.toNat) ++ "." ++ String.ofList (digits.drop point.toNat)

/-- Digits with a point after the first one, when more follow. -/
def mantissa (digits : List Char) : String :=
  match digits with
  | [] => ""
  | [digit] => String.singleton digit
  | digit :: rest => String.singleton digit ++ "." ++ String.ofList rest

/-- A number with its sign always written. -/
def signed (value : Int) : String :=
  (if value < 0 then "-" else "+") ++ toString value.natAbs

end Numeral

end Conform
