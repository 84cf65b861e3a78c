import Conform.Conversion
import Conform.Equality

/-! Enumerated types: their assembly from names and values, and the member that a name
or a value stands for. A value that occurred before makes its name an alias. -/

namespace Conform

/-- What a name stands for among the names of an enumerated type. -/
inductive NameRole where
  | member
  | attribute
  | reserved
deriving DecidableEq

namespace NameRole

private def isFramed (width : Nat) (name : List Char) : Bool :=
  let size := name.length
  2 * width < size && (name.take width).all (· = '_') && name.getD width '_' ≠ '_' &&
    (name.drop (size - width)).all (· = '_') && name.getD (size - width - 1) '_' ≠ '_'

/-- Names between single underscores that have a meaning of their own. -/
def special : List String :=
  ["_order_", "_generate_next_value_", "_numeric_repr_", "_missing_", "_ignore_",
    "_iter_member_", "_iter_member_by_value_", "_iter_member_by_def_"]

private def isPrivate (typeName name : String) : Bool :=
  let marked := "_" ++ typeName ++ "__"
  let rest := name.toList.drop marked.length
  name.startsWith marked && !rest.isEmpty &&
    (rest.getLast? ≠ some '_' || rest.reverse.getD 1 '_' ≠ '_')

/-- Names between single underscores are reserved; those between double ones and those
private to the type belong to the type and not to a member. -/
def of (typeName name : String) : NameRole :=
  if isPrivate typeName name then .attribute
  else if isFramed 1 name.toList then if name ∈ special then .attribute else .reserved
  else if isFramed 2 name.toList then .attribute
  else .member

end NameRole

namespace Store

/-- The names and values that make members. No name may occur twice, in which case the
first value is shown. -/
def memberFields (store : Store) (typeName : String) : Fields → Fields → Except Fault Fields
  | declared, [] =>
    if declared.any fun field => field.1 = "mro" ∨ field.1 = "" then .error .reservedName
    else .ok declared
  | declared, (name, value) :: rest =>
    match NameRole.of typeName name with
    | .reserved => .error .reservedName
    | .attribute => store.memberFields typeName declared rest
    | .member =>
      match Fields.named? declared name with
      | some first => do
        let _ ← store.form first
        throw .unsuitable
      | none => store.memberFields typeName (declared ++ [(name, value)]) rest

/-- The items of a tuple of any form. -/
def tuple? (store : Store) (value : Value) : Option (List Value) :=
  match store.object? value with
  | some (.sequence .tuple items) | some (.sequence (.named ..) items) => some items
  | _ => none

/-- The value of a member as its base makes it. The items of a tuple are arguments. -/
def baseConversion (store : Store) (base : EnumBase) (value : Value) : Except Fault Value :=
  let arguments := (store.tuple? value).getD [value]
  match base with
  | .plain => .ok value
  | .integer => (store.integerOfAll arguments).map .integer
  | .text => (store.textOfAll arguments).map .text
  | .textual => (store.stringOfAll arguments).map .text

/-- The place of the member with a value. A value that can be a key is looked for among
those that can, any other is compared with each. -/
def memberWith? (store : Store) (value : Value) : Fields → Except Fault (Option Nat)
  | [] => .ok none
  | member :: rest => do
    let found ←
      if store.hashable value then
        pure (store.hashable member.2 && store.agrees member.2 value)
      else store.equal member.2 value
    if found then return some 0
    return (← store.memberWith? value rest).map (· + 1)

/-- The enumerated type with some members, added one by one. -/
def withMembers (store : Store) (type : EnumType) : Fields → Except Fault EnumType
  | [] => .ok type
  | (name, value) :: rest => do
    let converted ← store.baseConversion type.base value
    match ← store.memberWith? converted type.members with
    | some index =>
      store.withMembers { type with aliases := type.aliases ++ [(name, index)] } rest
    | none => store.withMembers { type with members := type.members ++ [(name, converted)] } rest

/-- The enumerated type with a name, a base and written names and values. -/
def enumTypeOf (store : Store) (name : String) (base : EnumBase) (written : Fields) :
    Except Fault EnumType := do
  store.withMembers ⟨name, base, [], []⟩ (← store.memberFields name [] written)

def enumType? (store : Store) (value : Value) : Option (Ref × EnumType) :=
  match value, store.object? value with
  | .object ref, some (.enumType type) => some (ref, type)
  | _, _ => none

def namedMember? (owner : Ref) (type : EnumType) (name : String) : Option Value :=
  ((type.members.findIdx? fun member => member.1 = name).or (type.aliases.lookup name)).map
    (.member owner)

/-- The member of an enumerated type with a name. -/
def memberNamed (store : Store) (owner : Value) (name : String) : Except Fault Value :=
  match store.enumType? owner with
  | some (ref, type) =>
    match namedMember? ref type name with
    | some member => .ok member
    | none => .error (.noEntry (.text name))
  | none => .error .unsuitable

/-- The member that is a value or has it. A refusal shows the value. -/
def memberOf (store : Store) (owner : Ref) (type : EnumType) (value : Value) :
    Except Fault Value := do
  match value with
  | .member ref index => if ref = owner then return .member ref index
  | _ => pure ()
  match ← store.memberWith? value type.members with
  | some index => return .member owner index
  | none =>
    let _ ← store.form value
    throw .noMember

end Store

end Conform
