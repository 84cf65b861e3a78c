import Conform.Text.Printable
import Conform.Text.Hexadecimal

/-! Quoted text: single quotes, or double ones around a text that holds single quotes
only. A backslash marks the quote itself and every character without a visible form. -/

namespace Conform.Text

/-- Double quotes are chosen only when they spare a backslash. -/
def chooseQuote (chars : List Char) : Char :=
  if '\'' ∈ chars ∧ '"' ∉ chars then '"' else '\''

/-- The written form of one character between quotes. -/
def escape (quote char : Char) : List Char :=
  if char = quote ∨ char = '\\' then ['\\', char]
  else if char = '\n' then ['\\', 'n']
  else if char = '\t' then ['\\', 't']
  else if char = '\r' then ['\\', 'r']
  else if isPrintable char then [char]
  else if char.toNat < 0x100 then '\\' :: 'x' :: hexadecimal 2 char.toNat
  else if char.toNat < 0x10000 then '\\' :: 'u' :: hexadecimal 4 char.toNat
  else '\\' :: 'U' :: hexadecimal 8 char.toNat

def quoted (text : String) : String :=
  let quote := chooseQuote text.toList
  String.ofList (quote :: text.toList.flatMap (escape quote) ++ [quote])

/-- The written form of one byte between quotes: bytes beyond the printable ASCII
characters have two hexadecimal digits. -/
def escapeByte (quote : Char) (byte : UInt8) : List Char :=
  let char := Char.ofNat byte.toNat
  if byte < 0x7f then escape quote char
  else '\\' :: 'x' :: hexadecimal 2 byte.toNat

/-- Bytes between quotes, marked by a leading letter. Single quotes have a backslash
wherever the outer quotes are single, and in any case when `always` is set. -/
def quotedBytes (bytes : List UInt8) (always : Bool) : String :=
  let quote := chooseQuote (bytes.map fun byte => Char.ofNat byte.toNat)
  let marked := if always then '\'' else quote
  String.ofList ('b' :: quote :: bytes.flatMap (escapeByte marked) ++ [quote])

end Conform.Text
