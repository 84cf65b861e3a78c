import Conform.Fault

/-! Runs: an outcome together with the calls of traced functions and the records
written on the way. A fault ends a run and keeps what was called and written before it. -/

namespace Conform

inductive Level where
  | debug
  | warning
  | error
deriving DecidableEq

inductive Topic where
  | descriptor
  | enumeration
  | validation
  | table
  | assertion
deriving DecidableEq

structure LogRecord where
  level : Level
  topic : Topic
  message : String
deriving DecidableEq

structure Call where
  function : String
  argument : Value
deriving DecidableEq

structure Run (α : Type) where
  outcome : Except Fault α
  calls : List Call
  log : List LogRecord

namespace Run

def answer (value : α) : Run α := ⟨.ok value, [], []⟩

def fail (fault : Fault) : Run α := ⟨.error fault, [], []⟩

/-- A run followed by the one that its answer selects. -/
def andThen (first : Run α) (next : α → Run β) : Run β :=
  match first.outcome with
  | .error fault => ⟨.error fault, first.calls, first.log⟩
  | .ok value =>
    let second := next value
    ⟨second.outcome, first.calls ++ second.calls, first.log ++ second.log⟩

instance : Monad Run where
  pure := answer
  bind := andThen

/-- An outcome without a trace. -/
def ofExcept (outcome : Except Fault α) : Run α := ⟨outcome, [], []⟩

def write (level : Level) (topic : Topic) (message : String) : Run Unit :=
  ⟨.ok (), [], [⟨level, topic, message⟩]⟩

def debug (topic : Topic) (message : String) : Run Unit := write .debug topic message

/-- A run that goes on as the handler says when it ends by a fault. -/
def recover (run : Run α) (handler : Fault → Run α) : Run α :=
  match run.outcome with
  | .ok _ => run
  | .error fault =>
    let next := handler fault
    ⟨next.outcome, run.calls ++ next.calls, run.log ++ next.log⟩

def call (function : String) (argument : Value) : Run Unit :=
  ⟨.ok (), [⟨function, argument⟩], []⟩

theorem bind_of_ok (first : Run α) (next : α → Run β) (value : α)
    (succeeded : first.outcome = .ok value) :
    first >>= next = ⟨(next value).outcome, first.calls ++ (next value).calls,
      first.log ++ (next value).log⟩ := by
  change first.andThen next = _
  simp [andThen, succeeded]

theorem bind_of_error (first : Run α) (next : α → Run β) (fault : Fault)
    (failed : first.outcome = .error fault) :
    first >>= next = ⟨.error fault, first.calls, first.log⟩ := by
  change first.andThen next = _
  simp [andThen, failed]

theorem bind_congr {first : Run α} {next other : α → Run β}
    (each : ∀ value, first.outcome = .ok value → next value = other value) :
    first >>= next = first >>= other := by
  cases ended : first.outcome with
  | error fault => rw [bind_of_error first next fault ended, bind_of_error first other fault ended]
  | ok value =>
    rw [bind_of_ok first next value ended, bind_of_ok first other value ended, each value ended]

instance : LawfulMonad Run := LawfulMonad.mk' Run
  (by
    intro α run
    rcases run with ⟨outcome, calls, log⟩
    cases outcome <;> simp [Functor.map, andThen, answer])
  (by
    intro α β value next
    simp [Bind.bind, Pure.pure, andThen, answer])
  (by
    intro α β γ run next last
    rcases run with ⟨outcome, calls, log⟩
    cases outcome with
    | error fault => simp [Bind.bind, andThen]
    | ok value =>
      cases inner : (next value).outcome <;>
        simp [Bind.bind, andThen, inner, List.append_assoc])

@[simp] theorem outcome_pure (value : α) : (pure value : Run α).outcome = .ok value := rfl

@[simp] theorem calls_pure (value : α) : (pure value : Run α).calls = [] := rfl

@[simp] theorem log_pure (value : α) : (pure value : Run α).log = [] := rfl

@[simp] theorem outcome_fail (fault : Fault) : (fail fault : Run α).outcome = .error fault := rfl

@[simp] theorem calls_fail (fault : Fault) : (fail fault : Run α).calls = [] := rfl

@[simp] theorem log_fail (fault : Fault) : (fail fault : Run α).log = [] := rfl

@[simp] theorem fail_bind (fault : Fault) (next : α → Run β) :
    (fail fault >>= next) = fail fault := rfl

@[simp] theorem ofExcept_ok (value : α) : ofExcept (.ok value) = pure value := rfl

@[simp] theorem ofExcept_error (fault : Fault) :
    (ofExcept (.error fault) : Run α) = fail fault := rfl

@[simp] theorem outcome_ofExcept (outcome : Except Fault α) :
    (ofExcept outcome).outcome = outcome := rfl

@[simp] theorem calls_ofExcept (outcome : Except Fault α) : (ofExcept outcome).calls = [] := rfl

@[simp] theorem outcome_bind (first : Run α) (next : α → Run β) :
    (first >>= next).outcome = first.outcome >>= fun value => (next value).outcome := by
  cases succeeded : first.outcome with
  | ok value => rw [bind_of_ok first next value succeeded, ok_bind]
  | error fault => rw [bind_of_error first next fault succeeded, error_bind]

@[simp] theorem outcome_map (run : Run α) (make : α → β) :
    (make <$> run).outcome = run.outcome.map make := by
  rcases run with ⟨outcome, calls, log⟩
  cases outcome <;> rfl

@[simp] theorem calls_map (run : Run α) (make : α → β) : (make <$> run).calls = run.calls := by
  rcases run with ⟨outcome, calls, log⟩
  cases outcome <;> simp [Functor.map, andThen, answer]

@[simp] theorem log_map (run : Run α) (make : α → β) : (make <$> run).log = run.log := by
  rcases run with ⟨outcome, calls, log⟩
  cases outcome <;> simp [Functor.map, andThen, answer]

theorem calls_bind_of_ok {first : Run α} (next : α → Run β) {value : α}
    (succeeded : first.outcome = .ok value) :
    (first >>= next).calls = first.calls ++ (next value).calls := by
  rw [bind_of_ok first next value succeeded]

theorem calls_bind_of_error {first : Run α} (next : α → Run β) {fault : Fault}
    (failed : first.outcome = .error fault) : (first >>= next).calls = first.calls := by
  rw [bind_of_error first next fault failed]

/-- What is run last and calls nothing leaves the calls as they are. -/
theorem calls_bind_of_silent (first : Run α) {next : α → Run β}
    (silent : ∀ value, (next value).calls = []) : (first >>= next).calls = first.calls := by
  cases succeeded : first.outcome with
  | ok value => rw [calls_bind_of_ok next succeeded, silent, List.append_nil]
  | error fault => rw [calls_bind_of_error next succeeded]

@[simp] theorem outcome_write (level : Level) (topic : Topic) (message : String) :
    (write level topic message).outcome = .ok () := rfl

@[simp] theorem outcome_debug (topic : Topic) (message : String) :
    (debug topic message).outcome = .ok () := rfl

@[simp] theorem calls_debug (topic : Topic) (message : String) :
    (debug topic message).calls = [] := rfl

@[simp] theorem calls_debug_bind (topic : Topic) (message : String) (next : Unit → Run β) :
    (debug topic message >>= next).calls = (next ()).calls := rfl

theorem outcome_recover (run : Run α) (handler : Fault → Run α) :
    (run.recover handler).outcome =
      match run.outcome with
      | .ok value => .ok value
      | .error fault => (handler fault).outcome := by
  unfold recover
  cases ended : run.outcome with
  | ok value => exact ended
  | error fault => rfl

theorem calls_recover (run : Run α) {handler : Fault → Run α}
    (silent : ∀ fault, (handler fault).calls = []) : (run.recover handler).calls = run.calls := by
  unfold recover
  cases run.outcome with
  | ok value => rfl
  | error fault => simp [silent]

/-- Two runs that end alike and call alike. Their records may differ. -/
structure SameAnswer (one other : Run α) : Prop where
  outcome : one.outcome = other.outcome
  calls : one.calls = other.calls

theorem SameAnswer.refl (run : Run α) : run.SameAnswer run := ⟨rfl, rfl⟩

theorem SameAnswer.symm {one other : Run α} (same : one.SameAnswer other) :
    other.SameAnswer one := ⟨same.outcome.symm, same.calls.symm⟩

theorem SameAnswer.trans {one other third : Run α} (here : one.SameAnswer other)
    (there : other.SameAnswer third) : one.SameAnswer third :=
  ⟨here.outcome.trans there.outcome, here.calls.trans there.calls⟩

/-- What answers without a call is as good as its answer. -/
theorem sameAnswer_bind_of_silent {first : Run α} {answer : α} (next : α → Run β)
    (answered : first.outcome = .ok answer) (silent : first.calls = []) :
    (first >>= next).SameAnswer (next answer) := by
  rw [bind_of_ok first next answer answered, silent]
  exact ⟨rfl, rfl⟩

theorem SameAnswer.bind {one other : Run α} {next next' : α → Run β} (here : one.SameAnswer other)
    (there : ∀ value, one.outcome = .ok value → (next value).SameAnswer (next' value)) :
    (one >>= next).SameAnswer (other >>= next') := by
  cases ended : one.outcome with
  | error fault =>
    rw [bind_of_error one next fault ended,
      bind_of_error other next' fault (here.outcome.symm.trans ended)]
    exact ⟨rfl, here.calls⟩
  | ok value =>
    rw [bind_of_ok one next value ended,
      bind_of_ok other next' value (here.outcome.symm.trans ended)]
    exact ⟨(there value ended).outcome, by rw [here.calls, (there value ended).calls]⟩

end Run

/-- A log whose records are all for debugging. -/
def OnlyDebug (log : List LogRecord) : Prop := ∀ record ∈ log, record.level = .debug

theorem OnlyDebug.append {one other : List LogRecord} (here : OnlyDebug one)
    (there : OnlyDebug other) : OnlyDebug (one ++ other) := by
  intro record member
  rcases List.mem_append.mp member with first | second
  · exact here record first
  · exact there record second

/-- A run that writes records for debugging only and ends by no fault but an allowed one. -/
structure Run.Subdued (allowed : Fault → Prop) (run : Run α) : Prop where
  faults : OnlyFaults allowed run.outcome
  log : OnlyDebug run.log

/-- A run that writes records for debugging only and ends by none of the library's own faults. -/
abbrev Run.Harmless (run : Run α) : Prop := run.Subdued fun fault => fault.isOwn = false

namespace Run.Subdued

variable {allowed : Fault → Prop} {first : Run α} {next : α → Run β}

theorem pure (value : α) : (pure value : Run α).Subdued allowed := ⟨.ok value, nofun⟩

theorem ofExcept {outcome : Except Fault α} (faults : OnlyFaults allowed outcome) :
    (Run.ofExcept outcome).Subdued allowed := ⟨faults, nofun⟩

theorem fail {fault : Fault} (admitted : allowed fault) :
    (Run.fail fault : Run α).Subdued allowed := ⟨.error admitted, nofun⟩

theorem debug (topic : Topic) (message : String) : (Run.debug topic message).Subdued allowed :=
  ⟨.ok (), fun _ member => by rw [List.mem_singleton.mp member]⟩

theorem call (function : String) (argument : Value) :
    (Run.call function argument).Subdued allowed := ⟨.ok (), nofun⟩

theorem bind (here : first.Subdued allowed) (there : ∀ value, (next value).Subdued allowed) :
    (first >>= next).Subdued allowed := by
  cases ended : first.outcome with
  | error fault =>
    rw [bind_of_error first next fault ended]
    exact ⟨.error (here.faults fault ended), here.log⟩
  | ok value =>
    rw [bind_of_ok first next value ended]
    exact ⟨(there value).faults, here.log.append (there value).log⟩

theorem mono {wider : Fault → Prop} (here : first.Subdued allowed)
    (weaker : ∀ fault, allowed fault → wider fault) : first.Subdued wider :=
  ⟨here.faults.mono weaker, here.log⟩

end Run.Subdued

end Conform
