import Conform.Field
import Conform.Action

namespace Conform

/-- How a value is copied: it is its own copy, or a new object is. -/
inductive Copied where
  | itself
  | object (object : Object)
deriving DecidableEq

namespace Store

/-- Entries put one by one into a new mapping, each value looked up under its key: keys that have
come to be equal share the first of their entries. -/
def gathered (store : Store) (entries : List (Value × Value)) : List (Value × Value) :=
  entries.foldl (fun made entry =>
    store.put made entry.1 ((store.find? entries entry.1).getD entry.2)) []

/-- The copy of an object. A mapping of any form is copied to a plain one, as it stands if it is
one itself and key by key otherwise. Views and generators cannot be copied; what cannot change is
its own copy, except a named tuple. -/
def objectCopy (store : Store) : Object → Except Fault Copied
  | .mapping .plain entries => .ok (.object (.mapping .plain entries))
  | .mapping _ entries => .ok (.object (.mapping .plain (store.gathered entries)))
  | .sequence .tuple _ | .range .. | .function _ | .enumType _ => .ok .itself
  | .set true _ => .ok .itself
  | .view .. | .generator _ => .error .unsuitable
  | object => .ok (.object object)

/-- The copy of a value. One without parts is its own copy, and so is a member. -/
def copied (store : Store) (value : Value) : Except Fault Copied :=
  match value with
  | .object ref => store.objectCopy (store.read ref)
  | .wrapped _ => .ok (.object (.derived value))
  | _ => .ok .itself

end Store

/-- The copy of a value, in the store if it is a new object, and whether it is the value
itself. -/
def Action.copy (value : Value) : Action (Value × Bool) := do
  let store ← Action.store
  match ← Action.ofExcept (store.copied value) with
  | .itself => return (value, true)
  | .object object =>
    let other ← Action.alloc object
    match object with
    | .sequence (.custom _) _ | .derived _ => Action.attach other (store.attributesOf value)
    | _ => pure ()
    return (other, false)

end Conform
