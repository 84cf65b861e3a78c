import Conform.Text.Digit

/-! Hexadecimal digits: the digits of a number, and bytes written with two digits each.
Bytes read back as they were written. -/

namespace Conform.Text

/-- A number in hexadecimal digits, filled up with zeros to a width. -/
def hexadecimal (width number : Nat) : List Char :=
  let digits := Nat.toDigits 16 number
  List.replicate (width - digits.length) '0' ++ digits

/-- The value of a digit in either letter case. -/
def hexadecimalDigit? (char : Char) : Option Nat :=
  if char.isDigit then some (char.toNat - '0'.toNat)
  else if 'a' ≤ char ∧ char ≤ 'f' then some (char.toNat - 'a'.toNat + 10)
  else if 'A' ≤ char ∧ char ≤ 'F' then some (char.toNat - 'A'.toNat + 10)
  else none

def pairedByte? (high low : Char) : Option UInt8 := do
  return UInt8.ofNat (16 * (← hexadecimalDigit? high) + (← hexadecimalDigit? low))

def ofBytes (bytes : List UInt8) : List Char :=
  bytes.flatMap fun byte => hexadecimal 2 byte.toNat

/-- Reads bytes with two digits each. Blanks may stand around the pairs of digits. -/
def bytes? : List Char → Option (List UInt8)
  | [] => some []
  | [char] => if isAsciiBlank char then some [] else none
  | high :: low :: rest =>
    if isAsciiBlank high then bytes? (low :: rest)
    else do return (← pairedByte? high low) :: (← bytes? rest)

theorem hexadecimal_of_small : ∀ number : Fin 256, ∃ high low : Char,
    hexadecimal 2 number.val = [high, low] ∧ isAsciiBlank high = false ∧
      pairedByte? high low = some (UInt8.ofNat number.val) := by
  intro number
  refine ⟨(hexadecimal 2 number.val).headD '0', (hexadecimal 2 number.val).getD 1 '0', ?_⟩
  revert number
  decide +kernel

theorem bytes?_ofBytes (bytes : List UInt8) : bytes? (ofBytes bytes) = some bytes := by
  induction bytes with
  | nil => rfl
  | cons byte rest inductionHypothesis =>
    obtain ⟨high, low, written, visible, paired⟩ :=
      hexadecimal_of_small ⟨byte.toNat, byte.toNat_lt⟩
    have exact : UInt8.ofNat byte.toNat = byte := UInt8.ofNat_toNat
    simp only [exact] at paired
    have split : ofBytes (byte :: rest) = high :: low :: ofBytes rest := by
      simp [ofBytes, written]
    simp [split, bytes?, visible, paired, inductionHypothesis]

end Conform.Text
