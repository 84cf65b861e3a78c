import Conform.Proofs.Surroundings

/-! Announcements: the records by which the log tells of a fault before it ends a run. A warning is
written for brackets that are left open or nested and for a rule that is invalid, an error for rules
that are no mapping. All other records are for debugging, and those of a run that ends by any other
fault are no exception. -/

namespace Conform

/-- The faults that are announced in the log before they end a run. -/
def Fault.isAnnounced : Fault → Bool
  | .malformedDescriptor .unclosed _ | .malformedDescriptor .nested _ | .invalidRule ..
  | .rulesNotMapping _ => true
  | _ => false

/-- The records that announce a fault. That of a rule shows what is wrong, the rule or the source of
its check, which the fault itself does not name. -/
inductive Announces : Fault → LogRecord → Prop where
  | unclosed (shown : String) :
      Announces (.malformedDescriptor .unclosed shown)
        ⟨.warning, .descriptor, "Descriptor '" ++ shown ++ "' has no closing '>'"⟩
  | nested (shown : String) :
      Announces (.malformedDescriptor .nested shown)
        ⟨.warning, .descriptor, "Nested container descriptor rejected: '" ++ shown ++ "'"⟩
  | rule (name form : String) :
      Announces (.invalidRule name none)
        ⟨.warning, .validation, "Invalid rule for field '" ++ name ++ "': " ++ form⟩
  | check (name form : String) (flaw : CheckFlaw) :
      Announces (.invalidRule name (some flaw))
        ⟨.warning, .validation, "Invalid check in rule for field '" ++ name ++ "': " ++ form⟩
  | rules (typeName type : String) :
      Announces (.rulesNotMapping type)
        ⟨.error, .table, "Init failed: rules is " ++ typeName ++ ", not a mapping"⟩

/-- An outcome that is no fault which has to be announced. -/
abbrev Unannounced (outcome : Except Fault α) : Prop :=
  OnlyFaults (fun fault => fault.isAnnounced = false) outcome

theorem Announces.isAnnounced {fault : Fault} {record : LogRecord}
    (announces : Announces fault record) : fault.isAnnounced = true := by
  cases announces <;> rfl

theorem Fault.isAnnounced_of_foreign {fault : Fault} (foreign : fault.isOwn = false) :
    fault.isAnnounced = false := by
  cases fault <;> first | rfl | cases foreign

theorem unannounced_of_foreign {outcome : Except Fault α} (foreign : Foreign outcome) :
    Unannounced outcome := foreign.mono fun _ => Fault.isAnnounced_of_foreign

namespace Run

/-- A run that writes records for debugging only and ends by no fault that has to be announced. -/
abbrev Unremarked (run : Run α) : Prop := run.Subdued fun fault => fault.isAnnounced = false

/-- A run that announces its fault, if that has to be, in the last of its records and in no other
one. -/
inductive Announced : Run α → Prop where
  | subdued {run : Run α} (subdued : run.Unremarked) : Announced run
  | warned {fault : Fault} {calls : List Call} {before : List LogRecord} {record : LogRecord}
      (debugging : OnlyDebug before) (announces : Announces fault record) :
      Announced ⟨.error fault, calls, before ++ [record]⟩

theorem Harmless.unremarked {run : Run α} (harmless : run.Harmless) : run.Unremarked :=
  harmless.mono fun _ => Fault.isAnnounced_of_foreign

/-- Of a check that cannot be drawn nothing is written. -/
theorem Subdued.unremarked {run : Run α} (drawn : run.Subdued Fault.OfCheck) : run.Unremarked := by
  refine drawn.mono fun fault known => ?_
  rcases known with foreign | check
  · exact Fault.isAnnounced_of_foreign foreign
  · cases fault <;> first | rfl | cases check

namespace Announced

variable {first : Run α} {next : α → Run β}

theorem bind (here : first.Announced) (there : ∀ value, (next value).Announced) :
    (first >>= next).Announced := by
  cases here with
  | warned debugging announces => exact .warned debugging announces
  | subdued here =>
    cases ended : first.outcome with
    | error fault =>
      rw [bind_of_error first next fault ended]
      exact .subdued ⟨.error (here.faults fault ended), here.log⟩
    | ok value =>
      rw [bind_of_ok first next value ended]
      have there := there value
      generalize next value = second at there ⊢
      cases there with
      | subdued there => exact .subdued ⟨there.faults, here.log.append there.log⟩
      | warned debugging announces =>
        rw [← List.append_assoc]
        exact .warned (here.log.append debugging) announces

theorem pure (value : α) : (pure value : Run α).Announced := .subdued (.pure value)

theorem of_foreign {outcome : Except Fault α} (foreign : Foreign outcome) :
    (Run.ofExcept outcome).Announced := .subdued (.ofExcept (unannounced_of_foreign foreign))

theorem debug (topic : Topic) (message : String) : (Run.debug topic message).Announced :=
  .subdued (.debug topic message)

/-- A record just before the fault that it announces. -/
theorem write {level : Level} {topic : Topic} {message : String} {fault : Fault}
    (announces : Announces fault ⟨level, topic, message⟩) :
    (do Run.write level topic message; Run.fail fault : Run α).Announced := by
  have nothing : OnlyDebug [] := nofun
  exact warned nothing announces

/-- A handler that announces what it makes of a fault. -/
theorem recover {run : Run α} {handler : Fault → Run α} (subdued : run.Unremarked)
    (handled : ∀ fault, fault.isAnnounced = false → (handler fault).Announced) :
    (run.recover handler).Announced := by
  unfold Run.recover
  cases ended : run.outcome with
  | ok value => exact .subdued subdued
  | error fault =>
    have handled := handled fault (subdued.faults fault ended)
    dsimp only
    generalize handler fault = next at handled ⊢
    cases handled with
    | subdued next => exact .subdued ⟨next.faults, subdued.log.append next.log⟩
    | warned debugging announces =>
      rw [← List.append_assoc]
      exact .warned (subdued.log.append debugging) announces

/-- What the log tells of the fault that ends an announced run. -/
theorem of_error {run : Run α} {fault : Fault} (announced : run.Announced)
    (ended : run.outcome = .error fault) :
    (fault.isAnnounced = true → ∃ before record, run.log = before ++ [record] ∧
      OnlyDebug before ∧ Announces fault record) ∧
    (fault.isAnnounced = false → OnlyDebug run.log) := by
  cases announced with
  | subdued subdued =>
    have unannounced := subdued.faults fault ended
    exact ⟨fun announced => by simp [announced] at unannounced, fun _ => subdued.log⟩
  | warned debugging announces =>
    cases ended
    exact ⟨fun _ => ⟨_, _, rfl, debugging, announces⟩,
      fun unannounced => by simp [announces.isAnnounced] at unannounced⟩

end Announced

end Run

namespace Store

variable {store : Store} {drawing : Run Check}

section Judging

/-- Brackets that are left open or nested are announced, an empty kind or element is not. -/
theorem container?_announced (descriptor : Descriptor) : descriptor.container?.Announced := by
  unfold Descriptor.container?
  dsimp only
  split
  · exact .pure _
  · exact .bind (.debug _ _) fun _ => .pure _
  · rename_i flaw _
    cases flaw with
    | unclosed => exact .write (.unclosed _)
    | nested => exact .write (.nested _)
    | missingKind => exact .subdued (.fail rfl)
    | missingElement => exact .subdued (.fail rfl)

theorem judgeBare_announced (value : Value) (descriptor : Descriptor) (check : Check) :
    (store.judgeBare value descriptor check).Announced := by
  refine .bind (container?_announced descriptor) fun container? => ?_
  cases container? with
  | some container =>
    dsimp only
    split
    · exact .pure _
    · exact .bind (.debug _ _) fun _ =>
        .subdued (judgeEntries_subdued value _ (fun _ => Fault.isAnnounced_of_foreign)
          (.pure check))
  | none =>
    dsimp only
    split
    · exact .pure _
    · exact .subdued (judgeItem_harmless _ check value).unremarked

theorem judge_announced (value descriptor : Value) (drawn : drawing.Unremarked) :
    (store.judge value descriptor drawing).Announced := by
  refine .bind (.of_foreign (form_foreign value)) fun _ => ?_
  refine .bind (.of_foreign (text_foreign descriptor)) fun _ => .bind (.debug _ _) fun _ => ?_
  refine .bind (.of_foreign (descriptor_foreign descriptor)) fun written => ?_
  dsimp only
  split
  · exact .bind (.debug _ _) fun _ => .pure _
  · exact .bind (.subdued drawn) fun check => judgeBare_announced value _ check

end Judging

section Ruling

theorem ruleOf_announced (name rule : Value) : (store.ruleOf name rule).Announced := by
  have refused {α : Type} (message : String → String → String) (shape : Value)
      {cause : Option CheckFlaw} (announces : ∀ shown form,
        Announces (.invalidRule shown cause) ⟨.warning, .validation, message shown form⟩) : (do
          let shown ← Run.ofExcept (store.text name)
          let form ← Run.ofExcept (store.form shape)
          Run.write .warning .validation (message shown form)
          Run.fail (.invalidRule shown cause) : Run α).Announced :=
    .bind (.of_foreign (text_foreign name)) fun shown =>
      .bind (.of_foreign (form_foreign shape)) fun form => .write (announces shown form)
  unfold ruleOf
  split
  rename_i descriptor source _
  split
  · exact refused _ rule Announces.rule
  · refine .bind (.recover (checkOf_subdued source).unremarked fun fault unannounced => ?_)
      fun _ => .pure _
    split
    · exact refused _ source fun shown form => .check shown form _
    · exact .subdued (.fail unannounced)

theorem judgeField_announced (name value rule : Value) :
    (store.judgeField name value rule).Announced := by
  refine .bind (ruleOf_announced name rule) fun resolved => ?_
  refine .bind (judge_announced value resolved.descriptor (.pure resolved.check)) fun verdict => ?_
  cases verdict with
  | accepted => exact .pure _
  | rejected reason => exact .bind (.of_foreign (text_foreign name)) fun _ => .pure _

/-- One rule after the other, by induction on the rules. -/
theorem judgeRules_announced (value : Value) (entries : List (Value × Value)) :
    (store.judgeRules value entries).Announced := by
  induction entries with
  | nil => exact .pure _
  | cons entry rest inductionHypothesis =>
    refine .bind (.of_foreign (field_foreign value entry.1)) fun field => ?_
    refine .bind (judgeField_announced entry.1 field entry.2) fun verdict => ?_
    cases verdict with
    | accepted => exact inductionHypothesis
    | rejected reason =>
      exact .bind (.of_foreign (text_foreign entry.1)) fun _ => .bind (.debug _ _) fun _ => .pure _

theorem judgeFields_announced (value rules : Value) :
    (store.judgeFields value rules).Announced := by
  unfold judgeFields
  split
  · exact .bind (.of_foreign (rules_foreign rules)) (judgeRules_announced value)
  · exact .pure _

end Ruling

section Demanding

variable {message : Value}

theorem demand_unannounced (demand : Demand) (value : Value) :
    Unannounced (store.demand demand value message) := by
  have met : Foreign (store.meets demand value) := by
    cases demand with
    | truth => exact truth_foreign value
    | presence => exact .ok _
    | approval => exact .ok _
  refine .bind (unannounced_of_foreign met) fun met => ?_
  split
  · exact .ok ()
  · exact .error rfl

theorem demandAccepted_announced (wording : String → String) {verdict : Run Verdict}
    (announced : verdict.Announced) :
    (store.demandAccepted message wording verdict).Announced := by
  refine .bind announced fun verdict => ?_
  cases verdict with
  | accepted => exact .pure _
  | rejected reason => exact .subdued (.fail rfl)

theorem unwrap_unannounced (value : Value) : Unannounced (store.unwrap value message) := by
  refine .bind (unannounced_of_foreign (outcomeParts_foreign value)) fun parts => ?_
  refine .bind (unannounced_of_foreign (truth_foreign parts.1)) fun met => ?_
  split
  · exact .ok ()
  · exact .error rfl

theorem demandGuard_unremarked (guard key value : Value) :
    (store.demandGuard guard key value).Unremarked := by
  refine .bind (passes_harmless guard value).unremarked fun met => ?_
  split
  · exact .pure _
  · exact .bind (.ofExcept (unannounced_of_foreign (text_foreign key))) fun _ =>
      .bind (.debug _ _) fun _ => .fail rfl

end Demanding

section Tabling

theorem tableRule_unannounced (table name : Value) : Unannounced (store.tableRule table name) := by
  refine .bind (unannounced_of_foreign (tableRules_foreign table)) fun rules => ?_
  refine .bind (unannounced_of_foreign (holds_foreign rules name)) fun held => ?_
  split
  · exact unannounced_of_foreign (item_foreign rules name)
  · exact .bind (unannounced_of_foreign (text_foreign name)) fun _ => .error rfl

theorem tableRuleOf_announced (table name : Value) : (store.tableRuleOf table name).Announced :=
  .bind (.subdued (.ofExcept (tableRule_unannounced table name))) fun rule =>
    ruleOf_announced name rule

theorem judgeByTable_announced (table value : Value) :
    (store.judgeByTable table value).Announced :=
  .bind (.of_foreign (tableRules_foreign table)) fun rules => judgeFields_announced value rules

theorem judgeFieldByTable_announced (table name value : Value) :
    (store.judgeFieldByTable table name value).Announced :=
  .bind (.subdued (.ofExcept (tableRule_unannounced table name))) fun rule =>
    judgeField_announced name value rule

theorem validate_announced (table value message : Value) :
    (store.validate table value message).Announced := by
  refine .bind (judgeByTable_announced table value) fun verdict => ?_
  cases verdict with
  | accepted => exact .pure _
  | rejected reason => exact .bind (.debug _ _) fun _ => .subdued (.fail rfl)

theorem validateBy_announced (judgement value message : Value) :
    (store.validateBy judgement value message).Announced := by
  have required {target name : Value} :
      (Run.ofExcept (store.requiredAttribute target name)).Announced :=
    .of_foreign (requiredAttribute_foreign target name)
  have unwrapped (verdict given : Value) : (do
      if (store.object? verdict).any Object.isOutcome then
        Run.ofExcept (store.unwrap verdict given)
      else
        let unwrap ← Run.ofExcept (store.requiredAttribute verdict (.text "unwrap"))
        let _ ← store.call unwrap given
      return value : Run Value).Announced := by
    split
    · exact .bind (.subdued (.ofExcept (unwrap_unannounced verdict))) fun _ => .pure _
    · exact .bind required fun unwrap =>
        .bind (.subdued (call_harmless unwrap given).unremarked) fun _ => .pure _
  refine .bind (.subdued (call_harmless judgement value).unremarked) fun reply => ?_
  cases reply with
  | list items => exact .subdued (.fail rfl)
  | value verdict =>
    refine .bind required fun ok => .bind (.of_foreign (truth_foreign ok)) fun met => ?_
    split
    · exact .pure _
    · exact .bind required fun error => .bind (.of_foreign (text_foreign error)) fun _ =>
        .bind (.debug _ _) fun _ => unwrapped verdict _

theorem validateWith_announced (table value message : Value) :
    (store.validateWith table value message).Announced := by
  unfold validateWith
  split
  · split
    · exact validateBy_announced _ value message
    · exact validate_announced table value message
  · exact validate_announced table value message

theorem bindRules_announced (rules : Value) : (store.bindRules rules).Announced := by
  unfold bindRules
  split
  · exact .bind (.of_foreign (.mapM (fun _ => form_foreign _) _)) fun _ => .debug _ _
  · exact .write (.rules _ _)

end Tabling

end Store

end Conform
