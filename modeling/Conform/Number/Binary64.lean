import Conform.Number.Numeral
import Conform.Text.Digit

/-! Floating-point numbers of 53 binary digits, held as a significand and a power
of two. Every written decimal is read to the nearest such number, a half going to
the even significand. -/

namespace Conform

/-- A floating-point number. A finite one is `± significand * 2 ^ exponent`, with
the significand below `2 ^ 53` and the exponent as small as that and `-1074` allow.
Numbers that are not a number are told apart by their mark. -/
inductive Binary64 where
  | finite (negative : Bool) (significand : Nat) (exponent : Int)
  | infinite (negative : Bool)
  | nan (mark : Nat)
deriving DecidableEq

namespace Binary64

def leastExponent : Int := -1074

def greatestExponent : Int := 971

def significandBound : Nat := Nat.pow 2 53

/-- The quotient rounded to the nearest number, a half to the even one. -/
def roundQuotient (dividend divisor : Nat) : Nat :=
  let quotient := dividend / divisor
  let remainder := dividend % divisor
  if 2 * remainder < divisor then quotient
  else if divisor < 2 * remainder then quotient + 1
  else if quotient % 2 = 0 then quotient
  else quotient + 1

/-- The exponent at which the quotient has 53 digits before its fraction. -/
private def fittingExponent (dividend divisor : Nat) : Int :=
  let width : Int := (dividend.log2 : Int) - divisor.log2
  let candidate := max (width - 53) leastExponent
  let scaled := dividend * Nat.pow 2 (-candidate).toNat / (divisor * Nat.pow 2 candidate.toNat)
  if scaled < significandBound then candidate else candidate + 1

/-- The floating-point number nearest to a quotient of natural numbers. -/
def ofQuotient (negative : Bool) (dividend divisor : Nat) : Binary64 :=
  if dividend = 0 then .finite negative 0 leastExponent
  else
    let exponent := fittingExponent dividend divisor
    let rounded :=
      roundQuotient (dividend * Nat.pow 2 (-exponent).toNat) (divisor * Nat.pow 2 exponent.toNat)
    let (significand, exponent) :=
      if rounded = significandBound then (Nat.pow 2 52, exponent + 1) else (rounded, exponent)
    if greatestExponent < exponent then .infinite negative
    else .finite negative significand exponent

def ofNumeral (numeral : Numeral) : Binary64 :=
  ofQuotient numeral.negative (numeral.coefficient * Nat.pow 10 numeral.exponent.toNat)
    (Nat.pow 10 (-numeral.exponent).toNat)

/-- The number that a word in small letters stands for. -/
private def ofWord? (mark : Nat) (negative : Bool) (word : String) : Option Binary64 :=
  if word = "nan" then some (.nan mark)
  else if word = "inf" ∨ word = "infinity" then some (.infinite negative)
  else none

/-- Reads a numeral, an infinity or the word `nan`, which receives the given mark. Letter
case, blanks around the text and underscores between digits do not matter. -/
def parse? (mark : Nat) (text : String) : Option Binary64 :=
  let written := Text.trim Text.isAsciiBlank (text.toList.map Text.readable)
  match Numeral.parse? (String.ofList (Text.withoutSeparators written)) with
  | some numeral => some (ofNumeral numeral)
  | none =>
    match written.map Char.toLower with
    | '-' :: word => ofWord? mark true (String.ofList word)
    | '+' :: word => ofWord? mark false (String.ofList word)
    | word => ofWord? mark false (String.ofList word)

def isZero : Binary64 → Bool
  | .finite _ significand _ => significand = 0
  | _ => false

end Binary64

end Conform
