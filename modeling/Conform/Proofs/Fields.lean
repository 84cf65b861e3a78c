import Conform.Proofs.Entries
import Conform.Proofs.Rules

namespace Conform

/-- The run that ends by an outcome after others, whose calls and records it keeps. -/
def Run.after (runs : List (Run α)) (outcome : Except Fault β) : Run β :=
  ⟨outcome, runs.flatMap Run.calls, runs.flatMap Run.log⟩

namespace Store

/-- Judges what a value holds under the name of one entry of the rules. The field is read
before the rule is. -/
def judgeEntry (store : Store) (value : Value) (entry : Value × Value) : Run Verdict := do
  let field ← Run.ofExcept (store.field value entry.1)
  store.judgeField entry.1 field entry.2

def Accepted (store : Store) (value : Value) (entry : Value × Value) : Prop :=
  (store.judgeEntry value entry).outcome = .ok .accepted

def rejectedField (shown reason : String) : LogRecord :=
  ⟨.debug, .validation, "  Field '" ++ shown ++ "' failed: " ++ reason⟩

variable {store : Store} {value field name rule : Value} {entry : Value × Value}
  {before after : List (Value × Value)} {fault : Fault} {reason : String}

theorem judgeRules_cons (value : Value) (entry : Value × Value) (rest : List (Value × Value)) :
    store.judgeRules value (entry :: rest) = do
      match ← store.judgeEntry value entry with
      | .accepted => store.judgeRules value rest
      | .rejected reason =>
        let shown ← Run.ofExcept (store.text entry.1)
        Run.debug .validation ("  Field '" ++ shown ++ "' failed: " ++ reason)
        return .rejected reason := by
  rw [judgeEntry, bind_assoc]
  rfl

/-- One step: a field that is accepted leaves its trace in front of the rest. -/
theorem judgeRules_cons_of_accepted (accepted : store.Accepted value entry)
    (rest : List (Value × Value)) :
    store.judgeRules value (entry :: rest) =
      ⟨(store.judgeRules value rest).outcome,
        (store.judgeEntry value entry).calls ++ (store.judgeRules value rest).calls,
        (store.judgeEntry value entry).log ++ (store.judgeRules value rest).log⟩ := by
  rw [judgeRules_cons, Run.bind_of_ok _ _ _ accepted]

/-- A whole front of accepted fields, by induction over the steps. -/
theorem judgeRules_append_of_accepted (earlier : ∀ entry ∈ before, store.Accepted value entry)
    (rest : List (Value × Value)) :
    store.judgeRules value (before ++ rest) =
      ⟨(store.judgeRules value rest).outcome,
        (before.map (store.judgeEntry value)).flatMap Run.calls ++
          (store.judgeRules value rest).calls,
        (before.map (store.judgeEntry value)).flatMap Run.log ++
          (store.judgeRules value rest).log⟩ := by
  induction before with
  | nil => rfl
  | cons entry before inductionHypothesis =>
    obtain ⟨first, others⟩ := List.forall_mem_cons.mp earlier
    rw [List.cons_append, judgeRules_cons_of_accepted first, inductionHypothesis others]
    simp only [List.map_cons, List.flatMap_cons, List.append_assoc]

theorem judgeRules_of_all_accepted {entries : List (Value × Value)}
    (each : ∀ entry ∈ entries, store.Accepted value entry) :
    store.judgeRules value entries =
      .after (entries.map (store.judgeEntry value)) (.ok .accepted) := by
  have whole := judgeRules_append_of_accepted each []
  rw [List.append_nil] at whole
  rw [whole]
  simp [judgeRules, Run.after]

theorem judgeRules_of_fault (earlier : ∀ entry ∈ before, store.Accepted value entry)
    (failed : (store.judgeEntry value entry).outcome = .error fault) :
    store.judgeRules value (before ++ entry :: after) =
      .after ((before ++ [entry]).map (store.judgeEntry value)) (.error fault) := by
  rw [judgeRules_append_of_accepted earlier, judgeRules_cons, Run.bind_of_error _ _ _ failed]
  simp [Run.after]

theorem judgeRules_of_rejected {shown : String}
    (earlier : ∀ entry ∈ before, store.Accepted value entry)
    (rejected : (store.judgeEntry value entry).outcome = .ok (.rejected reason))
    (titled : store.text entry.1 = .ok shown) :
    store.judgeRules value (before ++ entry :: after) =
      .after ((before ++ [entry]).map (store.judgeEntry value) ++
        [⟨.ok .accepted, [], [rejectedField shown reason]⟩]) (.ok (.rejected reason)) := by
  rw [judgeRules_append_of_accepted earlier, judgeRules_cons, Run.bind_of_ok _ _ _ rejected]
  simp only [titled, Run.ofExcept_ok, pure_bind]
  rw [Run.bind_of_ok _ _ () rfl]
  simp [Run.after, rejectedField, Run.debug, Run.write]

theorem judgeEntry_of_unread (unread : store.field value name = .error fault) (rule : Value) :
    store.judgeEntry value (name, rule) = Run.fail fault := by
  simp [judgeEntry, unread]

theorem judgeEntry_of_read (read : store.field value name = .ok field) (rule : Value) :
    store.judgeEntry value (name, rule) = store.judgeField name field rule := by
  simp [judgeEntry, read]

theorem judgeField_of_invalid (invalid : (store.ruleOf name rule).outcome = .error fault)
    (field : Value) :
    store.judgeField name field rule = ⟨.error fault, [], (store.ruleOf name rule).log⟩ := by
  rw [judgeField, Run.bind_of_error _ _ _ invalid, calls_ruleOf]

/-- With a rule that is valid, a field is judged as its descriptor and its check say, and the
name goes in front of the reason. -/
theorem judgeField_of_valid {resolved : Rule}
    (valid : (store.ruleOf name rule).outcome = .ok resolved) (field : Value) :
    let judged := store.judge field resolved.descriptor (pure resolved.check)
    store.judgeField name field rule =
      ⟨judged.outcome >>= fun
          | .accepted => .ok .accepted
          | .rejected reason => (store.text name).map fun shown =>
            .rejected (shown ++ " " ++ reason),
        judged.calls, (store.ruleOf name rule).log ++ judged.log⟩ := by
  intro judged
  rw [judgeField, Run.bind_of_ok _ _ _ valid, calls_ruleOf, List.nil_append]
  cases ended : judged.outcome with
  | error fault =>
    rw [Run.bind_of_error _ _ _ ended]
    rfl
  | ok verdict =>
    rw [Run.bind_of_ok _ _ _ ended]
    cases verdict with
    | accepted => simp [judged]
    | rejected reason => cases titled : store.text name <;> simp [Verdict.at, judged]

/-- A field that is rejected has a name that can be written, which the reason starts with. -/
theorem text_of_rejected (rejected : (store.judgeEntry value entry).outcome = .ok (.rejected reason)) :
    ∃ shown, store.text entry.1 = .ok shown := by
  obtain ⟨name, rule⟩ := entry
  cases read : store.field value name with
  | error fault => simp [judgeEntry_of_unread read] at rejected
  | ok field =>
    rw [judgeEntry_of_read read] at rejected
    cases ruled : (store.ruleOf name rule).outcome with
    | error fault => simp [judgeField_of_invalid ruled] at rejected
    | ok resolved =>
      rw [judgeField_of_valid ruled] at rejected
      obtain ⟨verdict, -, ended⟩ := ok_of_bind_ok rejected
      cases verdict with
      | accepted => simp at ended
      | rejected inner =>
        cases titled : store.text name with
        | error fault => simp [titled] at ended
        | ok shown => exact ⟨shown, rfl⟩

/-- The first field that is not accepted decides: rules end as it does, and what is called is what
the fields up to there call. -/
theorem judgeRules_of_first (earlier : ∀ entry ∈ before, store.Accepted value entry)
    (missed : ¬ store.Accepted value entry) :
    (store.judgeRules value (before ++ entry :: after)).outcome =
        (store.judgeEntry value entry).outcome ∧
      (store.judgeRules value (before ++ entry :: after)).calls =
        ((before ++ [entry]).map (store.judgeEntry value)).flatMap Run.calls := by
  cases ended : (store.judgeEntry value entry).outcome with
  | error fault =>
    rw [judgeRules_of_fault earlier ended]
    exact ⟨rfl, rfl⟩
  | ok verdict =>
    cases verdict with
    | accepted => exact absurd ended missed
    | rejected reason =>
      obtain ⟨shown, titled⟩ := text_of_rejected ended
      rw [judgeRules_of_rejected earlier ended titled]
      exact ⟨rfl, by simp [Run.after]⟩

theorem judgeFields_of_shapeless (rules : Value) (shapeless : store.hasFields value = false) :
    store.judgeFields value rules = ⟨.ok (.rejected "is not object"), [], []⟩ := by
  rw [judgeFields, if_neg (by simp [shapeless])]
  rfl

theorem judgeFields_of_mapping {rules : Value} {entries : List (Value × Value)}
    (shaped : store.hasFields value = true) (mapping : store.mapping? rules = some entries) :
    store.judgeFields value rules = store.judgeRules value entries := by
  simp [judgeFields, shaped, Store.rules, mapping]

/-- Judging fields is a fold over the rules that stops at the first field that is not accepted.
A value without fields is rejected whatever the rules are. Otherwise the first field that is not
accepted decides, by its fault or by its reason, and the trace is that of the fields up to it,
followed by one record when it is rejected; no rule behind it takes part. A field is read, its
rule is resolved, and only then it is judged. -/
theorem judgeFields_in_order (store : Store) (value rules : Value) :
    (store.hasFields value = false →
      store.judgeFields value rules = ⟨.ok (.rejected "is not object"), [], []⟩) ∧
    (∀ entries, store.hasFields value = true → store.mapping? rules = some entries →
      ((∀ entry ∈ entries, store.Accepted value entry) →
        store.judgeFields value rules =
          .after (entries.map (store.judgeEntry value)) (.ok .accepted)) ∧
      (∀ before entry after, entries = before ++ entry :: after →
        (∀ earlier ∈ before, store.Accepted value earlier) →
        (∀ fault, (store.judgeEntry value entry).outcome = .error fault →
          store.judgeFields value rules =
            .after ((before ++ [entry]).map (store.judgeEntry value)) (.error fault)) ∧
        (∀ reason, (store.judgeEntry value entry).outcome = .ok (.rejected reason) →
          ∃ shown, store.text entry.1 = .ok shown ∧
            store.judgeFields value rules =
              .after ((before ++ [entry]).map (store.judgeEntry value) ++
                [⟨.ok .accepted, [], [rejectedField shown reason]⟩]) (.ok (.rejected reason))))) ∧
    (∀ name rule,
      (∀ fault, store.field value name = .error fault →
        store.judgeEntry value (name, rule) = Run.fail fault) ∧
      (∀ field, store.field value name = .ok field →
        store.judgeEntry value (name, rule) = store.judgeField name field rule ∧
        (∀ fault, (store.ruleOf name rule).outcome = .error fault →
          store.judgeEntry value (name, rule) =
            ⟨.error fault, [], (store.ruleOf name rule).log⟩) ∧
        (∀ resolved, (store.ruleOf name rule).outcome = .ok resolved →
          let judged := store.judge field resolved.descriptor (pure resolved.check)
          store.judgeEntry value (name, rule) =
            ⟨judged.outcome >>= fun
                | .accepted => .ok .accepted
                | .rejected reason => (store.text name).map fun shown =>
                  .rejected (shown ++ " " ++ reason),
              judged.calls, (store.ruleOf name rule).log ++ judged.log⟩))) := by
  refine ⟨judgeFields_of_shapeless rules, ?_, ?_⟩
  · intro entries shaped mapping
    rw [judgeFields_of_mapping shaped mapping]
    constructor
    · exact judgeRules_of_all_accepted
    · intro before entry after split earlier
      subst split
      constructor
      · intro fault failed
        exact judgeRules_of_fault earlier failed
      · intro reason rejected
        obtain ⟨shown, titled⟩ := text_of_rejected rejected
        exact ⟨shown, titled, judgeRules_of_rejected earlier rejected titled⟩
  · intro name rule
    constructor
    · intro fault unread
      exact judgeEntry_of_unread unread rule
    · intro field read
      rw [judgeEntry_of_read read]
      refine ⟨rfl, ?_, ?_⟩
      · intro fault invalid
        exact judgeField_of_invalid invalid field
      · intro resolved valid
        exact judgeField_of_valid valid field

/-- A store with two fields, a table of three rules for them, and the test of the first rule.
The second field does not meet its rule and the third rule is none. -/
def withRules : Store :=
  ((initial.alloc (.mapping .plain [(.text "a", .integer 4), (.text "b", .boolean true)])).alloc
    (.function .isEven)).alloc
    (.mapping .plain
      [(.text "a", .object ⟨7⟩), (.text "b", .text "number"), (.text "c", .integer 5)])
      |>.alloc (.mapping .plain [(.text "type", .text "number"), (.text "check", .object ⟨5⟩)])

/-- The second field is the first that is rejected; the rule behind it goes unnoticed. -/
theorem judgeFields_stops_at_second :
    let run := withRules.judgeFields (.object ⟨4⟩) (.object ⟨6⟩)
    run.outcome = .ok (.rejected "b expected is number, actual is boolean") ∧
      run.calls = [⟨"is_even", .integer 4⟩] ∧
      run.log.getLast? =
        some (rejectedField "b" "b expected is number, actual is boolean") := by
  let before : List (Value × Value) := [(.text "a", .object ⟨7⟩)]
  let after : List (Value × Value) := [(.text "c", .integer 5)]
  have earlier : ∀ entry ∈ before, withRules.Accepted (.object ⟨4⟩) entry := by
    simp only [before, List.forall_mem_cons]
    exact ⟨rfl, by simp⟩
  obtain ⟨-, fold, -⟩ := judgeFields_in_order withRules (.object ⟨4⟩) (.object ⟨6⟩)
  obtain ⟨-, stops⟩ := fold (before ++ (.text "b", .text "number") :: after) rfl rfl
  obtain ⟨shown, titled, whole⟩ :=
    (stops before (.text "b", .text "number") after rfl earlier).2
      "b expected is number, actual is boolean" rfl
  cases titled
  rw [whole]
  exact ⟨rfl, rfl, rfl⟩

end Store

end Conform
