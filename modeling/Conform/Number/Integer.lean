import Conform.Text.Digit

/-! Integers read from digits of a base between 2 and 36, with a sign, a mark of the
base and underscores between digits, and integers written. Neither goes beyond 4300 digits,
except that a base of a power of two is read at any length. -/

namespace Conform.Integer

/-- The number of digits up to which integers are read and written. -/
def greatestLength : Nat := 4300

/-- The least number with more digits than that, which is ten to that power; the exponents are
small enough for each power to be evaluated. -/
def limit : Nat := Nat.pow (Nat.pow 10 43) 100

/-- An integer as it is written, unless it has too many digits. -/
def text? (value : Int) : Option String :=
  if value.natAbs < limit then some (toString value) else none

/-- What is no further from zero than an integer that is written is written too. -/
theorem text?_isSome_of_le {value bound : Int} (small : value.natAbs ≤ bound.natAbs)
    (written : (text? bound).isSome = true) : (text? value).isSome = true := by
  have bounded : bound.natAbs < limit := by
    unfold text? at written
    split at written
    · assumption
    · simp at written
  simp [text?, Nat.lt_of_le_of_lt small bounded]

/-- The value of a digit or of a letter that stands for one. -/
def digit? (char : Char) : Option Nat :=
  if char.isDigit then some (char.toNat - '0'.toNat)
  else if char.isLower then some (char.toNat - 'a'.toNat + 10)
  else if char.isUpper then some (char.toNat - 'A'.toNat + 10)
  else none

/-- The number written by digits below a base, after those that make up `total`. One
underscore may stand between two digits. -/
def readDigits? (base total : Nat) : List Char → Option Nat
  | [] => none
  | char :: rest =>
    match digit? char with
    | none => none
    | some digit =>
      if digit < base then
        match rest with
        | [] => some (base * total + digit)
        | '_' :: more => readDigits? base (base * total + digit) more
        | more => readDigits? base (base * total + digit) more
      else none

/-- The base that a letter after a zero marks. -/
def markedBase? (mark : Char) : Option Nat :=
  if mark = 'x' ∨ mark = 'X' then some 16
  else if mark = 'o' ∨ mark = 'O' then some 8
  else if mark = 'b' ∨ mark = 'B' then some 2
  else none

/-- Reads digits of a base, of which there may not be too many unless the base is a power of
two. Underscores do not count. -/
def readNumber? (base : Nat) (chars : List Char) : Option Nat :=
  if base ∈ [2, 4, 8, 16, 32] ∨ (chars.filter (· ≠ '_')).length ≤ greatestLength then
    readDigits? base 0 chars
  else none

private def afterMark : List Char → List Char
  | '_' :: rest => rest
  | rest => rest

/-- The number written without a sign. Base zero leaves the base to the mark; without a
mark the number is decimal and starts with a zero only if it is zero. -/
def readMagnitude? (base : Nat) (chars : List Char) : Option Nat :=
  let plain : Option Nat :=
    if base = 0 then
      match readNumber? 10 chars with
      | some value => if chars.head? = some '0' ∧ value ≠ 0 then none else some value
      | none => none
    else readNumber? base chars
  match chars with
  | '0' :: mark :: rest =>
    match markedBase? mark with
    | some marked =>
      if base = 0 ∨ base = marked then readNumber? marked (afterMark rest) else plain
    | none => plain
  | _ => plain

/-- Reads an integer with ASCII blanks around it. -/
def read? (base : Nat) (chars : List Char) : Option Int :=
  match Text.trim Text.isAsciiBlank chars with
  | '-' :: rest => (readMagnitude? base rest).map fun value => -(value : Int)
  | '+' :: rest => (readMagnitude? base rest).map Int.ofNat
  | rest => (readMagnitude? base rest).map Int.ofNat

def ofText? (base : Nat) (content : String) : Option Int :=
  read? base (content.toList.map Text.readable)

def ofBytes? (base : Nat) (bytes : List UInt8) : Option Int :=
  read? base (bytes.map fun byte => Char.ofNat byte.toNat)

end Conform.Integer
