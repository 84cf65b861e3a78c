/-! Characters that count as decimal digits or as blanks in written numbers, by Unicode
general category and white space property. -/

namespace Conform.Text

/-- The code points of the zeros of category Nd. Each of them is followed by the other
nine digits of its script. -/
def zeros : List Nat :=
  [0x30, 0x660, 0x6f0, 0x7c0, 0x966, 0x9e6, 0xa66, 0xae6, 0xb66, 0xbe6, 0xc66, 0xce6, 0xd66,
   0xde6, 0xe50, 0xed0, 0xf20, 0x1040, 0x1090, 0x17e0, 0x1810, 0x1946, 0x19d0, 0x1a80, 0x1a90,
   0x1b50, 0x1bb0, 0x1c40, 0x1c50, 0xa620, 0xa8d0, 0xa900, 0xa9d0, 0xa9f0, 0xaa50, 0xabf0,
   0xff10, 0x104a0, 0x10d30, 0x11066, 0x110f0, 0x11136, 0x111d0, 0x112f0, 0x11450, 0x114d0,
   0x11650, 0x116c0, 0x11730, 0x118e0, 0x11950, 0x11c50, 0x11d50, 0x11da0, 0x16a60, 0x16ac0,
   0x16b50, 0x1d7ce, 0x1d7d8, 0x1d7e2, 0x1d7ec, 0x1d7f6, 0x1e140, 0x1e2f0, 0x1e950, 0x1fbf0]

/-- A decimal digit of any script as the ASCII digit of its value; other characters stay
as they are. -/
def asciiDigit (char : Char) : Char :=
  match zeros.find? fun first => first ≤ char.toNat && char.toNat < first + 10 with
  | some first => Char.ofNat ('0'.toNat + (char.toNat - first))
  | none => char

/-- The blanks of ASCII that may stand around a written number. -/
def isAsciiBlank (char : Char) : Bool :=
  char = ' ' || ('\t' ≤ char && char ≤ '\r')

/-- The code points of the blanks beyond ASCII, as ranges with both ends included. -/
def blankRanges : List (Nat × Nat) :=
  [(0x85, 0x85), (0xa0, 0xa0), (0x1680, 0x1680), (0x2000, 0x200a), (0x2028, 0x2029),
   (0x202f, 0x202f), (0x205f, 0x205f), (0x3000, 0x3000)]

/-- Blanks of any script, without the separators among the control characters. -/
def isBlank (char : Char) : Bool :=
  isAsciiBlank char ||
    blankRanges.any fun (first, last) => first ≤ char.toNat && char.toNat ≤ last

/-- Blanks of any script and the four separators among the control characters. -/
def isSpace (char : Char) : Bool :=
  isBlank char || (0x1c ≤ char.toNat && char.toNat ≤ 0x1f)

/-- A character of a text as a number is read from it: digits and blanks of any script
count as those of ASCII. -/
def readable (char : Char) : Char :=
  if char.toNat < 127 then char
  else if isBlank char then ' '
  else asciiDigit char

/-- Digits without the underscores between two of them. Any other underscore stays. -/
def withoutSeparators : List Char → List Char
  | first :: '_' :: second :: rest =>
    if first.isDigit && second.isDigit then first :: withoutSeparators (second :: rest)
    else first :: '_' :: withoutSeparators (second :: rest)
  | char :: rest => char :: withoutSeparators rest
  | [] => []

/-- Characters without the blanks at both ends. -/
def trim (blank : Char → Bool) (chars : List Char) : List Char :=
  ((chars.dropWhile blank).reverse.dropWhile blank).reverse

example : asciiDigit '٣' = '3' ∧ asciiDigit '７' = '7' ∧ asciiDigit 'x' = 'x' := by decide

example : withoutSeparators "1_0__0_".toList = "10__0_".toList := by decide

example : trim isBlank [' ', '1', ' ', '\n'] = ['1'] := by decide

end Conform.Text
