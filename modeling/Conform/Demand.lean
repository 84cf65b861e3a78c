import Conform.Rule
import Conform.Outcome

/-! Demands: judgements whose rejection is a fault, with the caller's message or with one
that names the demand. -/

namespace Conform

/-- The demands on a condition or value alone. -/
inductive Demand where
  | truth
  | presence
  | approval
deriving DecidableEq

/-- What is demanded of judgements. -/
inductive ConformanceDemand where
  | value
  | entries
  | fields
deriving DecidableEq

def Demand.message : Demand → String
  | .truth => "assert_boolean(): assert failed"
  | .presence => "assert_value(): assert failed"
  | .approval => "assert_that(): assert failed"

/-- The message of an unmet demand on a judgement, with its reason. -/
def ConformanceDemand.message (demand : ConformanceDemand) (reason : String) : String :=
  let name :=
    match demand with
    | .value => "assert_mixed"
    | .entries => "assert_iterables"
    | .fields => "assert_dictionary"
  name ++ "(): assert failed, " ++ reason

namespace Store

/-- Whether a demand is met: by what is true, by what is not absent, or by what is
neither absent nor the truth value false. -/
def meets (store : Store) (demand : Demand) (value : Value) : Except Fault Bool :=
  match demand with
  | .truth => store.truth value
  | .presence => .ok !value.isAbsent
  | .approval => .ok (value ≠ .boolean false && !value.isAbsent)

def demand (store : Store) (demand : Demand) (value message : Value) : Except Fault Unit := do
  if ← store.meets demand value then return ()
  throw (store.failedAssertion (message.messageOr demand.message))

def demandAccepted (store : Store) (message : Value) (reasonMessage : String → String)
    (verdict : Run Verdict) : Run Unit := do
  match ← verdict with
  | .accepted => return ()
  | .rejected reason => Run.fail (store.nonconforming (message.messageOr (reasonMessage reason)))

def demandValue (store : Store) (value descriptor check message : Value) : Run Unit :=
  store.demandAccepted message (ConformanceDemand.message .value)
    (store.judge value descriptor (store.checkOf check))

def demandEntries (store : Store) (value descriptor check message : Value) : Run Unit :=
  store.demandAccepted message (ConformanceDemand.message .entries)
    (store.judgeContainer value descriptor check)

def demandFields (store : Store) (value rules message : Value) : Run Unit :=
  store.demandAccepted message (ConformanceDemand.message .fields) (store.judgeFields value rules)

def demandMember (store : Store) (value source : Value) : Run Unit :=
  store.demandAccepted .null id (store.judgeMember value source)

end Store

end Conform
