import Conform.Number.Numeral
import Conform.Text.Digit

/-! Decimal numbers, whose written form keeps every digit of the coefficient. Their
exponents may be too large for the number to be written out, so they are compared by
coefficient and exponent. -/

namespace Conform

/-- A decimal number. Those that are not a number have a sign and a payload of digits,
may signal when they are compared, and are told apart by their mark. -/
inductive Decimal where
  | finite (numeral : Numeral)
  | infinite (negative : Bool)
  | nan (negative signalling : Bool) (payload mark : Nat)
deriving DecidableEq

namespace Decimal

/-- The largest power of ten that the first digit of a number may stand for. -/
def greatestPower : Int := 999999999999999999

/-- The smallest exponent that a number may have. -/
def leastExponent : Int := -1999999999999999997

/-- A numeral as a decimal number, if its exponents are within bounds. -/
def ofNumeral? (numeral : Numeral) : Option Decimal :=
  let digits := (Nat.toDigits 10 numeral.coefficient).length
  if greatestPower < numeral.exponent + digits - 1 ∨ numeral.exponent < leastExponent then none
  else some (.finite numeral)

private def special? (mark : Nat) (negative : Bool) (word : List Char) : Option Decimal :=
  let letters := String.ofList (word.takeWhile (!·.isDigit))
  let digits := word.dropWhile (!·.isDigit)
  if !digits.all Char.isDigit then none
  else if letters = "nan" then some (.nan negative false (Numeral.ofDigits digits) mark)
  else if letters = "snan" then some (.nan negative true (Numeral.ofDigits digits) mark)
  else if (letters = "inf" ∨ letters = "infinity") ∧ digits = [] then some (.infinite negative)
  else none

/-- Reads a numeral, an infinity or a word for no number, which receives the given mark.
Letter case, blanks around the text and underscores in it do not matter. -/
def parse? (mark : Nat) (text : String) : Option Decimal :=
  let chars := ((Text.trim Text.isSpace text.toList).filter (· ≠ '_')).map Text.asciiDigit
  match Numeral.parse? (String.ofList chars) with
  | some numeral => ofNumeral? numeral
  | none =>
    match chars.map Char.toLower with
    | '-' :: word => special? mark true word
    | '+' :: word => special? mark false word
    | word => special? mark false word

/-- A decimal with no positive exponent and fewer than six zeros after its point is
written in full, any other with an exponent. -/
def text : Decimal → String
  | .nan negative signalling payload _ =>
    (if negative then "-" else "") ++ (if signalling then "sNaN" else "NaN") ++
      (if payload = 0 then "" else toString payload)
  | .infinite negative => if negative then "-Infinity" else "Infinity"
  | .finite numeral =>
    let digits := Nat.toDigits 10 numeral.coefficient
    let point := numeral.exponent + digits.length
    let magnitude :=
      if numeral.exponent ≤ 0 ∧ -6 < point then Numeral.positional digits point ""
      else
        Numeral.mantissa digits ++
          (if point = 1 then "" else "E" ++ Numeral.signed (point - 1))
    if numeral.negative then "-" ++ magnitude else magnitude

def isZero : Decimal → Bool
  | .finite numeral => numeral.coefficient = 0
  | _ => false

/-- What is no number and must not be compared with any. -/
def isSignalling : Decimal → Bool
  | .nan _ signalling _ _ => signalling
  | _ => false

/-- The coefficient without its trailing zeros, and the exponent that makes up for them. -/
def reduced (numeral : Numeral) : Nat × Int :=
  let digits := Nat.toDigits 10 numeral.coefficient
  let zeros := (digits.reverse.takeWhile (· = '0')).length
  (numeral.coefficient / Nat.pow 10 zeros, numeral.exponent + zeros)

/-- Equal numbers, however they are written. -/
def agrees : Decimal → Decimal → Bool
  | .finite left, .finite right =>
    if left.coefficient = 0 ∨ right.coefficient = 0 then
      left.coefficient = 0 && right.coefficient = 0
    else left.negative = right.negative && reduced left = reduced right
  | .infinite left, .infinite right => left = right
  | _, _ => false

/-- Whether a numeral is a quotient in lowest terms. A power of ten divides the dividend,
and a power of two or five the divisor, so larger exponents need no look at the digits. -/
def isQuotient (numeral : Numeral) (quotient : Rat) : Bool :=
  if numeral.coefficient = 0 then quotient = 0
  else
    let (coefficient, exponent) := reduced numeral
    numeral.negative = (quotient < 0) &&
      if 0 ≤ exponent then
        exponent.toNat ≤ quotient.num.natAbs.log2 && quotient.den = 1 &&
          quotient.num.natAbs = coefficient * Nat.pow 10 exponent.toNat
      else
        (-exponent).toNat ≤ quotient.den.log2 &&
          quotient.num.natAbs * Nat.pow 10 (-exponent).toNat = coefficient * quotient.den

/-- The largest exponent with which a number is written out as an integer. -/
def greatestWritten : Int := 100000

/-- A finite number without its fraction; one that is too large to write out has none. -/
def truncated? (numeral : Numeral) : Option Int :=
  let magnitude? : Option Nat :=
    if numeral.exponent < 0 then
      let places := (-numeral.exponent).toNat
      if (Nat.toDigits 10 numeral.coefficient).length < places then some 0
      else some (numeral.coefficient / Nat.pow 10 places)
    else if numeral.coefficient = 0 then some 0
    else if greatestWritten < numeral.exponent then none
    else some (numeral.coefficient * Nat.pow 10 numeral.exponent.toNat)
  magnitude?.map fun magnitude => if numeral.negative then -(magnitude : Int) else magnitude

end Decimal

end Conform
