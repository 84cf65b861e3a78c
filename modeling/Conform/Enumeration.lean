import Conform.Descriptor
import Conform.Enumerated

/-! Enumerations: closed sets of numbers and strings, drawn from an enumerated type or
from the values of a mapping. -/

namespace Conform

/-- A closed set of values with the name that messages use. -/
structure Enumeration where
  name : String
  values : List Value
deriving DecidableEq

namespace Store

/-- Only numbers and strings can be members of an enumeration. -/
def enumerable (store : Store) (value : Value) : Bool :=
  store.kind value = .number || store.kind value = .string

def memberValues (store : Store) (owner : Ref) (type : EnumType) : List Value :=
  (List.range type.members.length).filterMap fun index =>
    (store.member? (.member owner index)).map MemberOf.value

/-- The value that is looked for: an enumerated type's member stands for its value. -/
def underlying (store : Store) (value : Value) : Value :=
  match store.member? value with
  | some member => member.value
  | none => value

/-- Membership by value: names of members play no part. -/
def belongs (store : Store) (enumeration : Enumeration) (value : Value) : Bool :=
  let sought := store.underlying value
  store.enumerable sought && enumeration.values.any fun declared => store.agrees declared sought

private def sortedTexts (texts : List String) : List String :=
  texts.mergeSort fun left right => left ≤ right

/-- Builds an enumeration from values, leaving out those that cannot be members. -/
def enumerate (store : Store) (name : String) (values : List Value) : Run Enumeration := do
  let kept := store.distinct (values.filter store.enumerable)
  let texts ← Run.ofExcept (kept.mapM store.text)
  let shown := listed ((sortedTexts texts).map Text.quoted)
  Run.debug .enumeration ("Built enum definition " ++ name ++ " with values [" ++ shown ++ "]")
  return ⟨name, kept⟩

/-- The name of an enumeration drawn from a mapping lists the mapping's keys. -/
def mappingName (store : Store) (entries : List (Value × Value)) : Except Fault String := do
  let keys ← entries.mapM fun entry => store.text entry.1
  return "enum \x7b" ++ listed keys ++ "\x7d"

def enumeration? (store : Store) (value : Value) : Option Enumeration :=
  match store.object? value with
  | some (.enumeration name values) => some ⟨name, (store.elements? values).getD []⟩
  | _ => none

/-- The enumeration drawn from a value: one that is built already, the members of an
enumerated type, or the values of a mapping. -/
def enumerationOf (store : Store) (source : Value) : Run Enumeration :=
  match store.enumeration? source, store.enumType? source, store.mapping? source with
  | some enumeration, _, _ => return enumeration
  | none, some (owner, type), _ => store.enumerate type.name (store.memberValues owner type)
  | none, none, some entries => do
    let name ← Run.ofExcept (store.mappingName entries)
    store.enumerate name (entries.map Prod.snd)
  | none, none, none => Run.fail (.invalidCheck (.notEnumerable (store.typeName source)))

def isMember (store : Store) (value source : Value) : Run Bool := do
  let enumeration ← store.enumerationOf source
  return store.belongs enumeration value

end Store

end Conform
