import Conform.Run
import Conform.Store

namespace Conform

/-- A run that reads a store and leaves one behind, also when it ends by a fault. -/
def Action (α : Type) : Type := Store → Run α × Store

namespace Action

def answer (value : α) : Action α := fun store => (.answer value, store)

/-- An action followed by the one that its answer selects. -/
def andThen (first : Action α) (next : α → Action β) : Action β := fun store =>
  let (run, middle) := first store
  match run.outcome with
  | .error fault => (⟨.error fault, run.calls, run.log⟩, middle)
  | .ok value =>
    let (second, last) := next value middle
    (⟨second.outcome, run.calls ++ second.calls, run.log ++ second.log⟩, last)

instance : Monad Action where
  pure := answer
  bind := andThen

instance : LawfulMonad Action := LawfulMonad.mk' Action
  (by
    intro α action
    funext store
    simp only [Functor.map, andThen]
    rcases action store with ⟨⟨outcome, calls, log⟩, later⟩
    cases outcome <;> simp [answer, Run.answer])
  (by
    intro α β value next
    funext store
    simp [Bind.bind, Pure.pure, andThen, answer, Run.answer])
  (by
    intro α β γ action next last
    funext store
    simp only [Bind.bind, andThen]
    rcases action store with ⟨⟨outcome, calls, log⟩, later⟩
    cases outcome with
    | error fault => rfl
    | ok value =>
      rcases inner : next value later with ⟨⟨middle, moreCalls, moreLog⟩, latest⟩
      cases middle <;> simp [inner, List.append_assoc])

/-- A run that only reads the store. -/
def reading (run : Store → Run α) : Action α := fun store => (run store, store)

def store : Action Store := reading Run.answer

/-- An outcome without a trace. -/
def ofExcept (outcome : Except Fault α) : Action α := reading fun _ => .ofExcept outcome

def fail (fault : Fault) : Action α := ofExcept (.error fault)

/-- Places a new object in the store and answers a reference to it. -/
def alloc (object : Object) : Action Value := fun store =>
  (.answer (.object store.next), store.alloc object)

def write (ref : Ref) (object : Object) : Action Unit := fun store =>
  (.answer (), store.write ref object)

/-- Replaces the attributes attached to a value. -/
def attach (value : Value) (attributes : Attributes) : Action Unit := fun store =>
  (.answer (), store.attach value attributes)

/-- An action that answers a value and leaves a store behind. -/
def Settles (action : Action α) (store : Store) (answer : α) (later : Store) : Prop :=
  (action store).1.outcome = .ok answer ∧ (action store).2 = later

variable {α β : Type} {store middle later : Store}

theorem settles_pure (answer : α) : (pure answer : Action α).Settles store answer store :=
  ⟨rfl, rfl⟩

theorem settles_reading {run : Store → Run α} {answer : α}
    (settled : (run store).outcome = .ok answer) : (reading run).Settles store answer store :=
  ⟨settled, rfl⟩

theorem settles_store : Action.store.Settles store store store := ⟨rfl, rfl⟩

theorem settles_ofExcept {outcome : Except Fault α} {answer : α} (settled : outcome = .ok answer) :
    (ofExcept outcome).Settles store answer store := ⟨settled, rfl⟩

theorem settles_alloc (object : Object) :
    (alloc object).Settles store (.object store.next) (store.alloc object) := ⟨rfl, rfl⟩

theorem Settles.unique {action : Action α} {answer other : α}
    (here : action.Settles store answer middle) (there : action.Settles store other later) :
    answer = other ∧ middle = later :=
  ⟨Except.ok.inj (here.1.symm.trans there.1), here.2.symm.trans there.2⟩

/-- One after the other: the second action starts from the store that the first one leaves. -/
theorem Settles.bind {first : Action α} {next : α → Action β} {answer : α} {result : β}
    (here : first.Settles store answer middle) (there : (next answer).Settles middle result later) :
    (first >>= next).Settles store result later := by
  obtain ⟨answered, rfl⟩ := here
  obtain ⟨ended, rfl⟩ := there
  rcases ran : first store with ⟨⟨outcome, calls, log⟩, left⟩
  rw [ran] at answered ended
  cases answered
  constructor
  · simpa [Bind.bind, andThen, ran] using ended
  · simp [Bind.bind, andThen, ran]

theorem Settles.split {first : Action α} {next : α → Action β} {result : β}
    (settled : (first >>= next).Settles store result later) :
    ∃ answer middle, first.Settles store answer middle ∧
      (next answer).Settles middle result later := by
  obtain ⟨answered, left⟩ := settled
  rcases ran : first store with ⟨⟨outcome, calls, log⟩, middle⟩
  simp only [Bind.bind, andThen, ran] at answered left
  cases outcome with
  | error fault => cases answered
  | ok answer =>
    refine ⟨answer, middle, ⟨by rw [ran], by rw [ran]⟩, answered, left⟩

/-- What an action comes to: its outcome, the calls on the way, and the store that it leaves behind,
also when it ends by a fault. -/
structure Ends (action : Action α) (store : Store) (outcome : Except Fault α) (calls : List Call)
    (later : Store) : Prop where
  outcome : (action store).1.outcome = outcome
  calls : (action store).1.calls = calls
  later : (action store).2 = later

theorem ends_pure (answer : α) : (pure answer : Action α).Ends store (.ok answer) [] store :=
  ⟨rfl, rfl, rfl⟩

theorem ends_store : Action.store.Ends store (.ok store) [] store := ⟨rfl, rfl, rfl⟩

theorem ends_ofExcept {outcome ended : Except Fault α} (same : outcome = ended) :
    (ofExcept outcome).Ends store ended [] store := ⟨same, rfl, rfl⟩

theorem ends_alloc (object : Object) :
    (alloc object).Ends store (.ok (.object store.next)) [] (store.alloc object) := ⟨rfl, rfl, rfl⟩

theorem ends_attach (value : Value) (attributes : Attributes) :
    (attach value attributes).Ends store (.ok ()) [] (store.attach value attributes) :=
  ⟨rfl, rfl, rfl⟩

section Ends

variable {first : Action α} {next : α → Action β} {answer : α} {outcome : Except Fault β}
  {fault : Fault} {calls more : List Call}

/-- One after the other: the calls of the second action follow those of the first one. -/
theorem Ends.bind (here : first.Ends store (.ok answer) calls middle)
    (there : (next answer).Ends middle outcome more later) :
    (first >>= next).Ends store outcome (calls ++ more) later := by
  obtain ⟨answered, rfl, rfl⟩ := here
  obtain ⟨rfl, rfl, rfl⟩ := there
  rcases ran : first store with ⟨⟨outcome, calls, log⟩, left⟩
  rw [ran] at answered
  cases answered
  constructor <;> simp [Bind.bind, andThen, ran]

theorem Ends.bind_of_error (here : first.Ends store (.error fault) calls later) :
    (first >>= next).Ends store (.error fault) calls later := by
  obtain ⟨failed, rfl, rfl⟩ := here
  rcases ran : first store with ⟨⟨outcome, calls, log⟩, left⟩
  rw [ran] at failed
  cases failed
  constructor <;> simp [Bind.bind, andThen, ran]

end Ends

end Action

end Conform
