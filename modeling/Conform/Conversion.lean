import Conform.Form
import Conform.Number.Integer
import Conform.Text.Encoding

/-! Conversions: the integer and the text that can be made of values, as the types of
integers and texts make them of their arguments. -/

namespace Conform

/-- A finite number without its fraction. -/
def Binary64.truncated (negative : Bool) (significand : Nat) (exponent : Int) : Int :=
  let magnitude := significand * Nat.pow 2 exponent.toNat / Nat.pow 2 (-exponent).toNat
  if negative then -(magnitude : Int) else magnitude

/-- The integer between zero and a number that is nearest to the number. -/
def Number.truncated : Number → Except Fault Int
  | .integer value => .ok value
  | .fraction value => .ok (value.num.tdiv value.den)
  | .float (.finite negative significand exponent) =>
    .ok (Binary64.truncated negative significand exponent)
  | .float (.infinite _) => .error .tooLarge
  | .float (.nan _) => .error .noNumeral

namespace Store

private def readOr (read : Option Int) : Except Fault Int :=
  match read with
  | some value => .ok value
  | none => .error .noNumeral

/-- The integer made of a value: a number loses its fraction, and a text or bytes are
read as a decimal integer. -/
def integerOf (store : Store) (value : Value) : Except Fault Int :=
  match store.integer? value, value with
  | some known, _ => .ok known
  | none, .number number => number.truncated
  | none, .decimal (.finite numeral) =>
    match Decimal.truncated? numeral with
    | some known => .ok known
    | none => .error .tooLarge
  | none, .decimal (.infinite _) => .error .tooLarge
  | none, .decimal (.nan ..) => .error .noNumeral
  | none, _ =>
    match store.content? value, store.bytes? value with
    | some content, _ => readOr (Integer.ofText? 10 content)
    | none, some bytes => readOr (Integer.ofBytes? 10 bytes)
    | none, none => .error .unsuitable

/-- The integer that a string or bytes write in a base, which is zero or between 2 and 36. -/
def integerInBase (store : Store) (value base : Value) : Except Fault Int :=
  match store.integer? base with
  | none => .error .unsuitable
  | some base =>
    if base ≠ 0 ∧ (base < 2 ∨ 36 < base) then .error .noNumeral
    else
      match store.string? value, store.bytes? value with
      | some content, _ => readOr (Integer.ofText? base.toNat content)
      | none, some bytes => readOr (Integer.ofBytes? base.toNat bytes)
      | none, none => .error .unsuitable

/-- The integer made of arguments: none make zero, a second one is a base. -/
def integerOfAll (store : Store) : List Value → Except Fault Int
  | [] => .ok 0
  | [value] => store.integerOf value
  | [value, base] => store.integerInBase value base
  | _ => .error .unsuitable

/-- The text that bytes stand for in an encoding given by its name. -/
def decoded (store : Store) (value name : Value) : Except Fault String :=
  match store.string? name, store.bytes? value with
  | some name, some bytes =>
    match Text.Encoding.ofName? name with
    | none => .error .unknownEncoding
    | some encoding =>
      match encoding.decode? bytes with
      | some content => .ok content
      | none => .error .undecodable
  | _, _ => .error .unsuitable

/-- The text made of arguments: none make the empty one, one its text in messages, and
two or three are bytes, an encoding and a way to treat errors. -/
def textOfAll (store : Store) : List Value → Except Fault String
  | [] => .ok ""
  | [value] => store.text value
  | [value, name] => store.decoded value name
  | [value, name, treatment] =>
    if (store.string? treatment).isSome then store.decoded value name else .error .unsuitable
  | _ => .error .unsuitable

private def demandString (store : Store) (value : Value) : Except Fault Unit := do
  if (store.string? value).isSome then return ()
  let _ ← store.form value
  throw .unsuitable

/-- The text made of arguments that have to be strings, but for the first of several. A
refusal shows what it refuses. -/
def stringOfAll (store : Store) (values : List Value) : Except Fault String := do
  match values with
  | [] | [_] => values.forM (demandString store)
  | [_, name] => demandString store name
  | [_, name, treatment] =>
    demandString store name
    demandString store treatment
  | _ =>
    values.forM fun value => do
      let _ ← store.form value
    throw .unsuitable
  store.textOfAll values

end Store

end Conform
