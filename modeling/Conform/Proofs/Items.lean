import Conform.Judgement
import Conform.Proofs.Checks

namespace Conform

namespace Store

/-- The traced function that a call comes down to through at most `depth` predicates. -/
def tracedWithin (store : Store) : Nat → Value → Option String
  | 0, _ => none
  | depth + 1, callee =>
    match store.object? callee with
    | some (.function function) => some function.name
    | some (.predicate test) => store.tracedWithin depth test
    | _ => none

/-- The name under which the calls of a test are traced, if they are. -/
def traced? (store : Store) (test : Value) : Option String :=
  store.tracedWithin (store.size + 1) test

/-- The calls that a check makes for one item: its test is called once with the item as
it is, and nothing else is called. -/
def callsFor (store : Store) (check : Check) (item : Value) : List Call :=
  match check with
  | .predicate test => (store.traced? test).toList.map fun name => ⟨name, item⟩
  | _ => []

/-- What a check answers for an item: whether its test replies something true, whether
its enumeration holds the item, or whether the item is of the kind. -/
def answer (store : Store) (check : Check) (kindName : String) (item : Value) :
    Except Fault Bool :=
  match check with
  | .predicate test => (store.passes test item).outcome
  | .enumeration enumeration => .ok (store.belongs enumeration item)
  | .byKind => .ok ((store.kind item).name = kindName)

def refusal (store : Store) (shown : String) (check : Check) (item : Value) :
    Except Fault String :=
  match check with
  | .predicate _ => .ok ("expected is " ++ shown)
  | .enumeration _ => do
    return "expected is " ++ shown ++ ", actual is " ++ (← store.display item)
  | .byKind => .ok ("expected is " ++ shown ++ ", actual is " ++ (store.kind item).name)

/-- No call that is made of a test for items in order, up to the first that is refused,
ends by a fault. -/
def Undisturbed (store : Store) (test : Value) : List Value → Prop
  | [] => True
  | item :: rest =>
    ∃ met, (store.passes test item).outcome = .ok met ∧ (met = true → store.Undisturbed test rest)

variable {store : Store} {check : Check} {expected : Expectation} {kindName : String}
  {item : Value}

theorem calls_callWithin (depth : Nat) (callee argument : Value) :
    (store.callWithin depth callee argument).calls =
      (store.tracedWithin depth callee).toList.map fun name => ⟨name, argument⟩ := by
  induction depth generalizing callee with
  | zero => rfl
  | succ depth inductionHypothesis =>
    cases callee with
    | object ref =>
      simp only [callWithin, tracedWithin, object?]
      cases here : store.read ref with
      | function function => rfl
      | enumType type => rfl
      | predicate test =>
        rw [← inductionHypothesis test]
        exact Run.calls_bind_of_silent _ fun _ => Run.calls_bind_of_silent _ fun _ => rfl
      | _ =>
        simp only
        split <;> rfl
    | builtin type => rfl
    | _ => rfl

theorem calls_passes (test item : Value) :
    (store.passes test item).calls = store.callsFor (.predicate test) item :=
  (Run.calls_bind_of_silent _ fun _ => rfl).trans (calls_callWithin (store.size + 1) test item)

theorem calls_judgeItem (expected : Expectation) (check : Check) (item : Value) :
    (store.judgeItem expected check item).calls = store.callsFor check item := by
  cases check with
  | predicate test =>
    rw [← calls_passes test item]
    exact Run.calls_bind_of_silent _ fun met => by split <;> rfl
  | enumeration enumeration =>
    simp only [judgeItem]
    split
    · rfl
    · exact Run.calls_bind_of_silent _ fun _ => rfl
  | byKind =>
    simp only [judgeItem]
    split <;> rfl

theorem outcome_judgeItem (named : expected.content? = some kindName) (check : Check)
    (item : Value) :
    (store.judgeItem expected check item).outcome = do
      if ← store.answer check kindName item then return .accepted
      else return .rejected (← store.refusal expected.shown check item) := by
  cases check with
  | predicate test =>
    simp only [judgeItem, answer, Run.outcome_bind]
    congr 1
    funext met
    cases met <;> rfl
  | enumeration enumeration =>
    by_cases held : store.belongs enumeration item = true
    · simp [judgeItem, answer, held]
    · cases written : store.display item <;> simp [judgeItem, answer, refusal, held, written]
  | byKind =>
    simp only [judgeItem, answer, named, Option.some.injEq, eq_comm (a := kindName)]
    by_cases same : (store.kind item).name = kindName <;> simp [same, refusal]

theorem refusal_of_text (written : ∃ text, store.text item = .ok text) (shown : String)
    (check : Check) : ∃ reason, store.refusal shown check item = .ok reason := by
  cases check with
  | predicate test => exact ⟨_, rfl⟩
  | enumeration enumeration =>
    obtain ⟨actual, displayed⟩ := display_of_text written
    exact ⟨"expected is " ++ shown ++ ", actual is " ++ actual, by simp [refusal, displayed]⟩
  | byKind => exact ⟨_, rfl⟩

end Store

end Conform
