import Conform.Judgement
import Conform.Action

/-! Outcomes: verdicts as objects, with a truth value and the text of the reason. Their
parts may be any values. -/

namespace Conform

/-- The outcome object of a verdict. All accepted ones share one object. -/
def Action.outcome : Verdict → Action Value
  | .accepted => return .success
  | .rejected reason => Action.alloc (.outcome (.boolean false) (.text reason))

/-- An object that has the operations of an outcome. -/
def Object.isOutcome : Object → Bool
  | .outcome .. => true
  | _ => false

/-- The message that a caller gave, or another if it gave null. -/
def Value.messageOr (given : Value) (otherwise : String) : Value :=
  if given = .null then .text otherwise else given

namespace Store

def outcomeParts (store : Store) (value : Value) : Except Fault (Value × Value) :=
  match store.object? value with
  | some (.outcome ok error) => .ok (ok, error)
  | _ => .error .noAttribute

/-- The fault of an unmet demand on a judgement, with its message. -/
def nonconforming (store : Store) (message : Value) : Fault :=
  .nonconforming message (store.text message).toOption

/-- The fault of an unmet demand on a condition, with its message. -/
def failedAssertion (store : Store) (message : Value) : Fault :=
  .failedAssertion message (store.text message).toOption

/-- Demands that an outcome is a success. The message of a refusal is the one that the
caller gave, or the error of the outcome if it gave null. -/
def unwrap (store : Store) (value message : Value) : Except Fault Unit := do
  let (ok, error) ← store.outcomeParts value
  if ← store.truth ok then return ()
  throw (store.nonconforming (if message = .null then error else message))

end Store

/-- The outcome with a text in front of its error. A success stays the same object, and
the text is the whole error of an outcome without one. -/
def Action.outcomeAt (value place : Value) : Action Value := do
  let store ← Action.store
  let (ok, error) ← Action.ofExcept (store.outcomeParts value)
  if ← Action.ofExcept (store.truth ok) then return value
  if error = .null then Action.alloc (.outcome (.boolean false) place)
  else
    let front ← Action.ofExcept (store.text place)
    let reason ← Action.ofExcept (store.text error)
    Action.alloc (.outcome (.boolean false) (.text (front ++ " " ++ reason)))

end Conform
