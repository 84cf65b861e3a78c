import Conform.Table
import Conform.Proofs.Checks
import Conform.Proofs.Foreign

/-! Demands and their judgements. A demand answers just when its judgement accepts, is unmet just
when its judgement rejects, with the caller's message or with the reason, and otherwise ends by the
fault of its judgement. The reason of a rejection is never empty. -/

namespace Conform

/-- A judgement that gives a reason whenever it rejects. -/
def Run.Reasoned (run : Run Verdict) : Prop :=
  ∀ reason, run.outcome = .ok (.rejected reason) → reason ≠ ""

namespace Run.Reasoned

variable {run : Run Verdict}

theorem accepted : (pure .accepted : Run Verdict).Reasoned := nofun

theorem rejected {reason : String} (given : reason ≠ "") :
    (pure (.rejected reason) : Run Verdict).Reasoned := by
  rintro other same
  cases same
  exact given

theorem fail (fault : Fault) : (Run.fail fault : Run Verdict).Reasoned := nofun

theorem bind {first : Run α} {next : α → Run Verdict} (each : ∀ value, (next value).Reasoned) :
    (first >>= next).Reasoned := by
  intro reason ended
  rw [outcome_bind] at ended
  obtain ⟨value, -, ended⟩ := ok_of_bind_ok ended
  exact each value reason ended

/-- A judgement that goes on with what another one gives as a reason. -/
theorem bind_verdict {first : Run Verdict} {next : Verdict → Run Verdict}
    (reasoned : first.Reasoned) (accepts : (next .accepted).Reasoned)
    (rejects : ∀ reason, reason ≠ "" → (next (.rejected reason)).Reasoned) :
    (first >>= next).Reasoned := by
  intro reason ended
  rw [outcome_bind] at ended
  obtain ⟨verdict, judged, ended⟩ := ok_of_bind_ok ended
  cases verdict with
  | accepted => exact accepts reason ended
  | rejected inner => exact rejects inner (reasoned inner judged) reason ended

end Run.Reasoned

namespace Store

variable {store : Store}

section Reasons

open Run

theorem judgeItem_reasoned (expected : Expectation) (check : Check) (item : Value) :
    (store.judgeItem expected check item).Reasoned := by
  cases check with
  | predicate test =>
    refine .bind fun met => ?_
    split
    · exact .accepted
    · exact .rejected (by simp)
  | enumeration enumeration =>
    simp only [judgeItem]
    split
    · exact .accepted
    · exact .bind fun actual => .rejected (by simp)
  | byKind =>
    simp only [judgeItem]
    split
    · exact .accepted
    · exact .rejected (by simp)

theorem rejectEntry_reasoned (key : Value) (reason : String) :
    (store.rejectEntry key reason).Reasoned :=
  .bind fun place => .bind fun _ => .rejected (by simp)

/-- One item after the other, by induction on the items. -/
theorem judgeEach_reasoned (expected : Expectation) (check : Check) (fault? : Option Fault)
    (entries : List (Value × Value)) :
    (store.judgeEach expected check fault? entries).Reasoned := by
  induction entries with
  | nil =>
    cases fault? with
    | none => exact .accepted
    | some fault => exact .fail fault
  | cons entry rest inductionHypothesis =>
    exact .bind_verdict (judgeItem_reasoned expected check entry.2) inductionHypothesis
      fun reason _ => rejectEntry_reasoned entry.1 reason

theorem judgeEntries_reasoned (value : Value) (expected : Expectation) (check : Run Check) :
    (store.judgeEntries value expected check).Reasoned := by
  refine .bind fun form => .bind fun _ => ?_
  split
  · exact .rejected (by simp)
  · refine .bind fun resolved => ?_
    rw [judgeAll_eq]
    exact judgeEach_reasoned expected resolved _ _

theorem judgeContainer_reasoned (value descriptor check : Value) :
    (store.judgeContainer value descriptor check).Reasoned :=
  .bind fun expected => judgeEntries_reasoned value expected _

theorem judgeBare_reasoned (value : Value) (descriptor : Descriptor) (check : Check) :
    (store.judgeBare value descriptor check).Reasoned := by
  refine .bind fun container? => ?_
  split
  · split
    · exact .rejected (by simp)
    · exact .bind fun _ => judgeEntries_reasoned value _ _
  · split
    · exact .accepted
    · exact judgeItem_reasoned _ check value

theorem judge_reasoned (value descriptor : Value) (check : Run Check) :
    (store.judge value descriptor check).Reasoned := by
  refine .bind fun form => .bind fun shown => .bind fun _ => .bind fun written => ?_
  dsimp only
  split
  · exact .bind fun _ => .accepted
  · exact .bind fun resolved => judgeBare_reasoned value _ resolved

theorem judgeMember_reasoned (value source : Value) :
    (store.judgeMember value source).Reasoned := by
  refine .bind fun enumeration => ?_
  split
  · exact .accepted
  · exact .bind fun actual => .rejected (by simp)

theorem judgeField_reasoned (name value rule : Value) :
    (store.judgeField name value rule).Reasoned := by
  refine .bind fun resolved => .bind_verdict (judge_reasoned value _ _) .accepted fun reason _ => ?_
  exact .bind fun place => .rejected (by simp)

/-- One rule after the other, by induction on the rules. The reason is the field's own. -/
theorem judgeRules_reasoned (value : Value) (entries : List (Value × Value)) :
    (store.judgeRules value entries).Reasoned := by
  induction entries with
  | nil => exact .accepted
  | cons entry rest inductionHypothesis =>
    refine .bind fun field => .bind_verdict (judgeField_reasoned entry.1 field entry.2)
      inductionHypothesis fun reason given => ?_
    exact .bind fun shown => .bind fun _ => .rejected given

theorem judgeFields_reasoned (value rules : Value) : (store.judgeFields value rules).Reasoned := by
  unfold judgeFields
  split
  · exact .bind fun entries => judgeRules_reasoned value entries
  · exact .rejected (by simp)

theorem judgeByTable_reasoned (table value : Value) :
    (store.judgeByTable table value).Reasoned :=
  .bind fun rules => judgeFields_reasoned value rules

theorem judgeFieldByTable_reasoned (table name value : Value) :
    (store.judgeFieldByTable table name value).Reasoned :=
  .bind fun rule => judgeField_reasoned name value rule

end Reasons

/-- A demand that enforces a judgement: it answers just when the judgement accepts, and is unmet
just when the judgement rejects, with the caller's message, whatever value that is, unless it is
null, or else with a wording of the reason. It ends by every fault of its judgement, and it calls
what that one calls. -/
structure Enforces (store : Store) (message : Value) (wording : String → String) (answer : α)
    (judgement : Run Verdict) (demand : Run α) : Prop where
  answers : ∀ result, demand.outcome = .ok result ↔
    judgement.outcome = .ok .accepted ∧ result = answer
  refuses : ∀ given shown?, demand.outcome = .error (.nonconforming given shown?) ↔
    ∃ reason, judgement.outcome = .ok (.rejected reason) ∧
      (message = .null ∧ given = .text (wording reason) ∨ message ≠ .null ∧ given = message) ∧
      shown? = (store.text given).toOption
  refused : (∃ given shown?, demand.outcome = .error (.nonconforming given shown?)) ↔
    ∃ reason, judgement.outcome = .ok (.rejected reason)
  fails : ∀ fault, judgement.outcome = .error fault → demand.outcome = .error fault
  calls : demand.calls = judgement.calls

section Enforcing

variable {message : Value} {wording : String → String} {answer : α} {judgement : Run Verdict}

theorem messageOr_eq_iff {otherwise : String} {given : Value} :
    given = message.messageOr otherwise ↔
      message = .null ∧ given = .text otherwise ∨ message ≠ .null ∧ given = message := by
  unfold Value.messageOr
  split
  · rename_i absent
    simp [absent]
  · rename_i present
    simp [present]

/-- What answers after an acceptance, and after a rejection refuses silently with the message that
there is, enforces its judgement. -/
theorem enforces {refuse : String → Run α}
    (undemanding : ∀ given shown?, judgement.outcome ≠ .error (.nonconforming given shown?))
    (refusal : ∀ reason, (refuse reason).outcome =
      .error (store.nonconforming (message.messageOr (wording reason))))
    (silent : ∀ reason, (refuse reason).calls = []) :
    store.Enforces message wording answer judgement (do
      match ← judgement with
      | .accepted => return answer
      | .rejected reason => refuse reason) := by
  have refuses_iff (reason : String) (given : Value) (shown? : Option String) :
      (refuse reason).outcome = .error (.nonconforming given shown?) ↔
        (message = .null ∧ given = .text (wording reason) ∨ message ≠ .null ∧ given = message) ∧
          shown? = (store.text given).toOption := by
    rw [refusal, ← messageOr_eq_iff, nonconforming]
    simp only [Except.error.injEq, Fault.nonconforming.injEq]
    constructor
    · rintro ⟨rfl, rfl⟩
      exact ⟨rfl, rfl⟩
    · rintro ⟨rfl, rfl⟩
      exact ⟨rfl, rfl⟩
  cases ended : judgement.outcome with
  | error fault =>
    rw [Run.bind_of_error judgement _ fault ended]
    have other (given : Value) (shown? : Option String) : fault ≠ .nonconforming given shown? := by
      rintro rfl
      exact undemanding given shown? ended
    constructor <;> simp [ended, other]
  | ok verdict =>
    rw [Run.bind_of_ok judgement _ verdict ended]
    cases verdict with
    | accepted => constructor <;> simp [ended, eq_comm]
    | rejected reason =>
      constructor
      · simp [ended, refusal]
      · simp [ended, refuses_iff]
      · simp [ended, refusal, nonconforming]
      · simp [ended]
      · simp [silent]

theorem enforces_demandAccepted
    (undemanding : ∀ given shown?, judgement.outcome ≠ .error (.nonconforming given shown?)) :
    store.Enforces message wording () judgement
      (store.demandAccepted message wording judgement) :=
  enforces undemanding (fun _ => rfl) fun _ => rfl

theorem enforces_validate {table value : Value}
    (undemanding : ∀ given shown?, (store.judgeByTable table value).outcome ≠
      .error (.nonconforming given shown?)) :
    store.Enforces message ("validate(): assert failed, " ++ ·) value
      (store.judgeByTable table value) (store.validate table value message) := by
  refine enforces undemanding (fun reason => ?_) fun reason => ?_
  · simp only [Run.outcome_bind, Run.outcome_debug, Run.outcome_fail, ok_bind]
  · rw [Run.calls_debug_bind]
    rfl

end Enforcing

theorem judgeByTable_faults (table value : Value) :
    OnlyFaults Fault.OfRule (store.judgeByTable table value).outcome := by
  rw [judgeByTable, Run.outcome_bind]
  refine .bind ?_ fun rules => judgeFields_faults value rules
  rw [Run.outcome_ofExcept, tableRules]
  split
  · split
    · exact .ok _
    · exact .error (.inl (.inl rfl))
  · exact .error (.inl (.inl rfl))

theorem validateWith_eq {table value message : Value}
    (own : (store.object? table).any (Object.isTable "check") = true) :
    store.validateWith table value message = store.validate table value message := by
  cases here : store.object? table with
  | none => simp [here] at own
  | some object =>
    cases object <;> simp [here, Object.isTable] at own
    simp [validateWith, here, own]

/-- The judgements that callers can ask for. -/
inductive Judges (store : Store) : Run Verdict → Prop where
  | value (value descriptor check : Value) :
      Judges store (store.judge value descriptor (store.checkOf check))
  | entries (value descriptor check : Value) :
      Judges store (store.judgeContainer value descriptor check)
  | fields (value rules : Value) : Judges store (store.judgeFields value rules)
  | field (name value rule : Value) : Judges store (store.judgeField name value rule)
  | byTable (table value : Value) : Judges store (store.judgeByTable table value)
  | fieldByTable (table name value : Value) :
      Judges store (store.judgeFieldByTable table name value)
  | member (value source : Value) : Judges store (store.judgeMember value source)

theorem Judges.reasoned {run : Run Verdict} (judges : store.Judges run) : run.Reasoned := by
  cases judges with
  | value value descriptor check => exact judge_reasoned value descriptor _
  | entries value descriptor check => exact judgeContainer_reasoned value descriptor check
  | fields value rules => exact judgeFields_reasoned value rules
  | field name value rule => exact judgeField_reasoned name value rule
  | byTable table value => exact judgeByTable_reasoned table value
  | fieldByTable table name value => exact judgeFieldByTable_reasoned table name value
  | member value source => exact judgeMember_reasoned value source

/-- The object of a verdict: a success without an error, or a failure with its reason. -/
def IsOutcomeOf (store : Store) (verdict : Verdict) (outcome : Value) : Prop :=
  match verdict with
  | .accepted => store.object? outcome = some (.outcome (.boolean true) .null)
  | .rejected reason => store.object? outcome = some (.outcome (.boolean false) (.text reason))

theorem outcome_settles (shared : store.object? .success = some (.outcome (.boolean true) .null))
    (verdict : Verdict) :
    ∃ outcome later, (Action.outcome verdict).Settles store outcome later ∧
      later.IsOutcomeOf verdict outcome := by
  cases verdict with
  | accepted => exact ⟨.success, store, Action.settles_pure _, shared⟩
  | rejected reason =>
    refine ⟨_, _, Action.settles_alloc _, ?_⟩
    exact congrArg some (store.read_alloc_next _)

theorem unwrap_eq {verdict : Verdict} {outcome : Value} (made : store.IsOutcomeOf verdict outcome)
    (message : Value) :
    store.unwrap outcome message = (store.demandAccepted message id (pure verdict)).outcome := by
  cases verdict with
  | accepted =>
    have parts : store.object? outcome = some (.outcome (.boolean true) .null) := made
    simp [unwrap, outcomeParts, parts, truth, demandAccepted]
  | rejected reason =>
    have parts : store.object? outcome = some (.outcome (.boolean false) (.text reason)) := made
    simp [unwrap, outcomeParts, parts, truth, demandAccepted, Value.messageOr]
    rfl

/-- What is demanded is what is judged. Each demand answers just when its judgement accepts, is
unmet just when its judgement rejects, and ends by the faults of its judgement besides; a table
answers the value that it was asked about. A judgement that rejects gives a reason that is not
empty, so its object is either the success without an error or a failure with such a reason, and
unwrapping it is a demand like the others. -/
theorem demands_enforce_judgements
    (shared : store.object? .success = some (.outcome (.boolean true) .null)) :
    (∀ value descriptor check message, store.Enforces message
      ("assert_mixed(): assert failed, " ++ ·) ()
      (store.judge value descriptor (store.checkOf check))
      (store.demandValue value descriptor check message)) ∧
    (∀ value descriptor check message, store.Enforces message
      ("assert_iterables(): assert failed, " ++ ·) ()
      (store.judgeContainer value descriptor check)
      (store.demandEntries value descriptor check message)) ∧
    (∀ value rules message, store.Enforces message ("assert_dictionary(): assert failed, " ++ ·) ()
      (store.judgeFields value rules) (store.demandFields value rules message)) ∧
    (∀ table value message, (store.object? table).any (Object.isTable "check") = true →
      store.Enforces message ("validate(): assert failed, " ++ ·) value
        (store.judgeByTable table value) (store.validateWith table value message)) ∧
    (∀ value source, store.Enforces .null id () (store.judgeMember value source)
      (store.demandMember value source)) ∧
    (∀ run verdict, store.Judges run → run.outcome = .ok verdict →
      verdict ≠ .rejected "" ∧
      ∃ outcome later, (Action.outcome verdict).Settles store outcome later ∧
        later.IsOutcomeOf verdict outcome ∧
        ∀ message, later.unwrap outcome message =
          (later.demandAccepted message id (pure verdict)).outcome) := by
  have of_judgement {run : Run Verdict} (faults : OnlyFaults Fault.OfJudgement run.outcome) :
      ∀ given shown?, run.outcome ≠ .error (.nonconforming given shown?) :=
    fun given shown? ended => (faults _ ended).ne_nonconforming given shown? rfl
  have of_rule {run : Run Verdict} (faults : OnlyFaults Fault.OfRule run.outcome) :
      ∀ given shown?, run.outcome ≠ .error (.nonconforming given shown?) :=
    fun given shown? ended => (faults _ ended).ne_nonconforming given shown? rfl
  refine ⟨?value, ?entries, ?fields, ?table, ?member, ?reasons⟩
  case value =>
    intro value descriptor check message
    have faults : OnlyFaults Fault.OfJudgement
        (store.judge value descriptor (store.checkOf check)).outcome :=
      judge_faults value descriptor (fun _ => Or.inl) (checkOf_faults check)
    exact enforces_demandAccepted (of_judgement faults)
  case entries =>
    intro value descriptor check message
    exact enforces_demandAccepted (of_judgement (judgeContainer_faults value descriptor check))
  case fields =>
    intro value rules message
    exact enforces_demandAccepted (of_rule (judgeFields_faults value rules))
  case table =>
    intro table value message own
    rw [validateWith_eq own]
    exact enforces_validate (of_rule (judgeByTable_faults table value))
  case member =>
    intro value source
    exact enforces_demandAccepted (of_judgement (judgeMember_faults value source))
  case reasons =>
    intro run verdict judges ended
    obtain ⟨outcome, later, settled, made⟩ := outcome_settles shared verdict
    refine ⟨?_, outcome, later, settled, made, unwrap_eq made⟩
    rintro rfl
    exact judges.reasoned "" ended rfl

/-- A rejection without a message names the demand and gives the reason, and an empty message is a
message. So is a table without rules, which has no text. -/
theorem demand_with_empty_message :
    let store := initial.alloc (.table .empty)
    let table : Value := .object ⟨4⟩
    store.object? .success = some (.outcome (.boolean true) .null) ∧
      (store.demandValue (.integer 1) (.text "boolean") .null .null).outcome =
        .error (.nonconforming
          (.text "assert_mixed(): assert failed, expected is boolean, actual is number")
          (some "assert_mixed(): assert failed, expected is boolean, actual is number")) ∧
      (store.demandValue (.integer 1) (.text "boolean") .null (.text "")).outcome =
        .error (.nonconforming (.text "") (some "")) ∧
      (store.demandValue (.integer 1) (.text "boolean") .null table).outcome =
        .error (.nonconforming table none) := by
  intro store table
  have shared : store.object? .success = some (.outcome (.boolean true) .null) := rfl
  have rejects : (store.judge (.integer 1) (.text "boolean") (store.checkOf .null)).outcome =
      .ok (.rejected "expected is boolean, actual is number") := rfl
  obtain ⟨enforces, -⟩ := demands_enforce_judgements shared
  refine ⟨shared, ?_, ?_, ?_⟩
  · exact ((enforces _ _ _ .null).refuses _ _).mpr ⟨_, rejects, .inl ⟨rfl, rfl⟩, rfl⟩
  · exact ((enforces _ _ _ (.text "")).refuses _ _).mpr ⟨_, rejects, .inr ⟨nofun, rfl⟩, rfl⟩
  · exact ((enforces _ _ _ table).refuses _ _).mpr ⟨_, rejects, .inr ⟨nofun, rfl⟩, rfl⟩

end Store

end Conform
