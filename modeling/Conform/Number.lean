import Conform.Number.Shortest
import Conform.Number.Decimal
import Conform.Number.Integer

namespace Conform

/-- An exact value on the extended rational line, or none at all. -/
inductive Exact where
  | finite (value : Rat)
  | infinite (negative : Bool)
  | undefined
deriving DecidableEq

namespace Exact

/-- Equal values; an undefined one equals nothing, not even itself. -/
def agrees : Exact → Exact → Bool
  | .finite left, .finite right => left = right
  | .infinite left, .infinite right => left = right
  | _, _ => false

/-- The strict order; an undefined value is below and above nothing. -/
def below : Exact → Exact → Bool
  | .finite left, .finite right => left < right
  | .finite _, .infinite negative => !negative
  | .infinite negative, .finite _ => negative
  | .infinite left, .infinite right => left && !right
  | _, _ => false

def isZero : Exact → Bool
  | .finite value => value = 0
  | _ => false

end Exact

private def scaledRat (negative : Bool) (count : Nat) (exponent : Int) : Rat :=
  let magnitude := mkRat (count * Nat.pow 2 exponent.toNat : Nat) (Nat.pow 2 (-exponent).toNat)
  if negative then -magnitude else magnitude

def Binary64.exact : Binary64 → Exact
  | .finite negative significand exponent => .finite (scaledRat negative significand exponent)
  | .infinite negative => .infinite negative
  | .nan _ => .undefined

def Decimal.agreesExact : Decimal → Exact → Bool
  | .finite numeral, .finite value => isQuotient numeral value
  | .infinite left, .infinite right => left = right
  | _, _ => false

/-- A real number: an integer, a floating-point number or a fraction. -/
inductive Number where
  | integer (value : Int)
  | float (value : Binary64)
  | fraction (value : Rat)
deriving DecidableEq

namespace Number

/-- The value by which a number compares, without rounding. -/
def exact : Number → Exact
  | .integer value => .finite value
  | .float value => value.exact
  | .fraction value => .finite value

/-- The number as it stands in a message, unless an integer in it has too many digits. -/
def text? : Number → Option String
  | .integer value => Integer.text? value
  | .float value => some value.text
  | .fraction value =>
    if value.den = 1 then Integer.text? value.num
    else do return (← Integer.text? value.num) ++ "/" ++ (← Integer.text? value.den)

/-- The number as it stands inside the form of a larger value. -/
def form? : Number → Option String
  | .fraction value => do
    return "Fraction(" ++ (← Integer.text? value.num) ++ ", " ++ (← Integer.text? value.den) ++ ")"
  | number => number.text?

theorem text?_isSome_of_form? {number : Number} (written : number.form?.isSome = true) :
    number.text?.isSome = true := by
  cases number with
  | integer value => exact written
  | float value => rfl
  | fraction value =>
    cases top : Integer.text? value.num with
    | none => simp [form?, top] at written
    | some above =>
      cases bottom : Integer.text? value.den with
      | none => simp [form?, top, bottom] at written
      | some below =>
        simp only [text?, top, bottom]
        split <;> rfl

/-- The integer that a number is, if it is one by type. -/
def integer? : Number → Option Int
  | .integer value => some value
  | _ => none

end Number

/-- What numbers of all representations are compared by. -/
inductive Quantity where
  | real (value : Exact)
  | decimal (value : Decimal)
  | complex (re im : Exact)
deriving DecidableEq

namespace Quantity

private def agreesDecimal? (written : Decimal) (value : Exact) : Option Bool :=
  if written.isSignalling then none else some (written.agreesExact value)

/-- Equal quantities. A complex one is real when its imaginary part is zero. There is no
answer when a signalling decimal meets a real number. -/
def agrees? : Quantity → Quantity → Option Bool
  | .real left, .real right => some (left.agrees right)
  | .complex re im, .complex re' im' => some (re.agrees re' && im.agrees im')
  | .real value, .complex re im | .complex re im, .real value =>
    some (value.agrees re && im.isZero)
  | .decimal left, .decimal right =>
    if left.isSignalling || right.isSignalling then none else some (left.agrees right)
  | .decimal written, .real value | .real value, .decimal written =>
    agreesDecimal? written value
  | .decimal written, .complex re im | .complex re im, .decimal written =>
    if im.isZero then agreesDecimal? written re else some false

end Quantity

/-- The form of a complex number: a real part of positive zero is left out, and
whole parts have no point. -/
def complexForm (re im : Binary64) : String :=
  let imaginary := im.textWith ""
  if re = .finite false 0 Binary64.leastExponent then imaginary ++ "j"
  else
    let sign := if imaginary.startsWith "-" then "" else "+"
    "(" ++ re.textWith "" ++ sign ++ imaginary ++ "j)"

end Conform
