namespace Conform.Text

inductive Encoding where
  | utf8
  | latin1
  | ascii
deriving DecidableEq

namespace Encoding

/-- The names of an encoding, in lower case and with underscores between their parts. -/
def names : Encoding → List String
  | .utf8 => ["utf_8", "utf8", "u8", "utf", "utf8_ucs2", "utf8_ucs4", "cp65001"]
  | .latin1 =>
    ["latin_1", "latin1", "latin", "l1", "iso_8859_1", "iso8859_1", "iso8859", "8859", "cp819",
      "iso_8859_1_1987", "iso_ir_100", "ibm819", "csisolatin1"]
  | .ascii =>
    ["ascii", "us_ascii", "us", "646", "iso646_us", "iso_646.irv_1991", "iso_ir_6", "cp367",
      "ibm367", "csascii", "ansi_x3.4_1968", "ansi_x3_4_1968", "ansi_x3.4_1986"]

/-- The encoding with a name in any letter case and with any separators. -/
def ofName? (name : String) : Option Encoding :=
  let plain := name.toList.map fun char =>
    if char = '-' ∨ char = ' ' then '_' else char.toLower
  [utf8, latin1, ascii].find? fun encoding => String.ofList plain ∈ encoding.names

/-- The text that bytes stand for, if they stand for one. -/
def decode? : Encoding → List UInt8 → Option String
  | .utf8, bytes => String.fromUTF8? ⟨bytes.toArray⟩
  | .latin1, bytes => some (String.ofList (bytes.map fun byte => Char.ofNat byte.toNat))
  | .ascii, bytes =>
    if bytes.all (· < 128) then
      some (String.ofList (bytes.map fun byte => Char.ofNat byte.toNat))
    else none

end Encoding

end Conform.Text
