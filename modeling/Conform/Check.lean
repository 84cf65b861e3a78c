import Conform.Enumeration

namespace Conform

/-- A check. Without a test the kind of a value decides; a test is a value that is
called with the value under check; an enumeration has to hold it. -/
inductive Check where
  | byKind
  | predicate (test : Value)
  | enumeration (enumeration : Enumeration)
deriving DecidableEq

namespace Store

def check? (store : Store) (value : Value) : Option Check :=
  match store.object? value with
  | some .noCheck => some .byKind
  | some (.predicate test) => some (.predicate test)
  | _ => (store.enumeration? value).map .enumeration

/-- The check that a value stands for: null for none, a check for itself, an enumerated
type or a mapping for an enumeration, anything else that can be called for a predicate. -/
def checkOf (store : Store) (source : Value) : Run Check :=
  if source = .null then return .byKind
  else
    match store.check? source with
    | some check => return check
    | none =>
      if (store.enumType? source).isSome || (store.mapping? source).isSome then do
        return .enumeration (← store.enumerationOf source)
      else if store.callable source then return .predicate source
      else Run.fail (.invalidCheck (.unsupported (store.typeName source)))

end Store

end Conform
