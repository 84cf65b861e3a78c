import Conform.Rule
import Conform.Copy
import Conform.Outcome

/-! Assembly of a mapping from the fields of an object: all of them pass a guard and are
copied or remade, or there is no mapping. -/

namespace Conform

/-- A reply as a value, in the store if it is a new list. -/
def Action.replyValue : Reply → Action Value
  | .value value => return value
  | .list items => Action.alloc (.sequence .list items)

/-- What takes the place of a field's value: the creator's reply, or a copy when there is
no creator or one that counts as false. -/
def Action.remade (creator value : Value) : Action Value := do
  let store ← Action.store
  if ← Action.ofExcept (store.truth creator) then
    Action.replyValue (← Action.reading fun store => store.call creator value)
  else return (← Action.copy value).1

/-- Demands that the guard passes the value of a field. -/
def Store.demandGuard (store : Store) (guard key value : Value) : Run Unit := do
  if ← store.passes guard value then return ()
  let place ← Run.ofExcept (store.text key)
  Run.debug .assertion ("create_dictionary(): type guard rejected key '" ++ place ++ "'")
  Run.fail
    (store.nonconforming (.text ("create_dictionary(): source[" ++ place ++ "] type mismatch")))

/-- Assembles entries one by one after those that are done. A key that cannot be one, or
the fault that ends the reading, ends the assembly. -/
def Action.assembleEach (guard creator : Value) (fault? : Option Fault) :
    List (Value × Value) → List (Value × Value) → Action (List (Value × Value))
  | finished, [] =>
    match fault? with
    | some fault => Action.fail fault
    | none => return finished
  | finished, (key, value) :: rest => do
    Action.reading fun store => store.demandGuard guard key value
    let made ← Action.remade creator value
    let store ← Action.store
    Action.ofExcept (store.requireHashable key)
    Action.assembleEach guard creator fault? (store.put finished key made) rest

/-- A new mapping from the fields of an object. -/
def Action.assemble (source guard creator : Value) : Action Value := do
  let store ← Action.store
  if store.hasFields source then
    let fields := store.ownFields source
    let entries ← Action.assembleEach guard creator fields.fault? [] fields.items
    Action.alloc (.mapping .plain entries)
  else Action.fail (store.nonconforming (.text "create_dictionary(): source is not object"))

end Conform
