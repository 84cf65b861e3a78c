namespace Conform.Text

/-- A character that a name can start with. All characters beyond ASCII count as letters. -/
def isLetter (char : Char) : Bool := char.isAlpha || char = '_' || 127 < char.toNat

/-- A name of letters, digits and underscores that does not start with a digit. -/
def isIdentifier (name : String) : Bool :=
  name.toList.head?.any isLetter && name.toList.all fun char => isLetter char || char.isDigit

/-- A name that a position can have. Those that start with an underscore are reserved. -/
def isLabel (name : String) : Bool := isIdentifier name && name.toList.head? ≠ some '_'

example : isLabel "x1" ∧ ¬isLabel "1x" ∧ ¬isLabel "_x" ∧ ¬isLabel "" ∧ isIdentifier "_x" := by
  decide

end Conform.Text
