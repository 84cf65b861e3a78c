import Conform.Proofs.Demands
import Conform.Proofs.Itemwise
import Conform.Proofs.NormalForms

/-! One question, asked in many ways. Whether an enumeration holds a value can be asked directly, by
a judgement under the name of any kind, by one of a container with the value for its only item, or
by one of a field, and of the source as well as of the enumeration object built from it: the answer
is the same, and so is the way in which a refusal shows the value. -/

namespace Conform

namespace Store

/-- The judgements that ask whether what is drawn from a source holds a value, each with the text
that a refusal puts in front of the value. No kind that a descriptor names plays a part, but for a
value by itself the descriptor must not be that of a container or of an optional type. -/
inductive Route (store : Store) (value source : Value) : String → Run Verdict → Prop where
  | member {front : String}
      (shows : ∀ drawn, (store.enumerationOf source).outcome = .ok drawn →
        front = "expected is " ++ drawn.name) :
      Route store value source front (store.judgeMember value source)
  | value {descriptor : Value} {content shown : String}
      (string : store.string? descriptor = some content)
      (titled : store.text descriptor = .ok shown) (unbracketed : '<' ∉ content.toList)
      (unmarked : content.toList.getLast? ≠ some optionalMark) :
      Route store value source ("expected is " ++ shown)
        (store.judge value descriptor (store.checkOf source))
  | entry {container descriptor : Value} {content shown : String}
      (string : store.string? descriptor = some content)
      (titled : store.text descriptor = .ok shown)
      (alone : store.object? container = some (.sequence .list [value]))
      (written : ∃ form, store.form container = .ok form) :
      Route store value source ("[0] expected is " ++ shown)
        (store.judgeContainer container descriptor source)
  | field {name rule descriptor : Value} {place content shown : String}
      (named : store.text name = .ok place)
      (ruled : store.object? rule = some (.rule descriptor source))
      (string : store.string? descriptor = some content)
      (titled : store.text descriptor = .ok shown) (unbracketed : '<' ∉ content.toList)
      (unmarked : content.toList.getLast? ≠ some optionalMark) :
      Route store value source (place ++ " expected is " ++ shown)
        (store.judgeField name value rule)

/-- The verdict on a value that an enumeration holds or does not hold. -/
def heldOr (store : Store) (drawn : Enumeration) (value : Value) (reason : String) : Verdict :=
  if store.belongs drawn value then .accepted else .rejected reason

variable {store last : Store} {value source source' : Value} {drawn : Enumeration}
  {actual front : String} {run : Run Verdict} {fault : Fault}

section Sources

theorem checkOf_of_enumerates (enumerates : store.Enumerates source) :
    (store.checkOf source).outcome =
      (store.enumerationOf source).outcome.map .enumeration := by
  have drawn (same : store.checkOf source =
      (do return .enumeration (← store.enumerationOf source))) :
      (store.checkOf source).outcome =
        (store.enumerationOf source).outcome.map .enumeration := by
    rw [same, Run.outcome_bind]
    cases (store.enumerationOf source).outcome <;> rfl
  rcases enumerates with built | typed | mapped
  · obtain ⟨drawn, built⟩ := Option.isSome_iff_exists.mp built
    rw [checkOf_of_check (check?_of_enumeration built)]
    simp [enumerationOf, built]
  · obtain ⟨⟨owner, type⟩, found⟩ := Option.isSome_iff_exists.mp typed
    exact drawn (checkOf_of_declares (.type found))
  · obtain ⟨entries, found⟩ := Option.isSome_iff_exists.mp mapped
    exact drawn (checkOf_of_declares (.mapping found))

/-- Where there is something to draw an enumeration from, only writing it can fail. -/
theorem enumerationOf_foreign (enumerates : store.Enumerates source) :
    Foreign (store.enumerationOf source).outcome := by
  unfold enumerationOf
  split
  · exact .ok _
  · exact enumerate_foreign _ _
  · rename_i entries _ _ _
    have named : Foreign (store.mappingName entries) :=
      .bind (.mapM (fun entry => text_foreign entry.1) entries) fun _ => .ok _
    rw [Run.outcome_bind]
    exact .bind named fun _ => enumerate_foreign _ _
  · rename_i unbuilt untyped unmapped
    simp [Enumerates, unbuilt, untyped, unmapped] at enumerates

theorem enumerates_of_drawn (ran : (store.enumerationOf source).outcome = .ok drawn) :
    store.Enumerates source := by
  by_contra other
  rw [enumerationOf_of_not_enumerates other] at ran
  cases ran

end Sources

section Routes

/-- What an enumeration says about an item does not depend on what is expected of it, only how a
refusal begins. -/
theorem judgeItem_of_enumeration (displayed : store.display value = .ok actual)
    (expected : Expectation) (drawn : Enumeration) :
    (store.judgeItem expected (.enumeration drawn) value).outcome =
      .ok (store.heldOr drawn value
        ("expected is " ++ expected.shown ++ ", actual is " ++ actual)) := by
  by_cases held : store.belongs drawn value = true <;> simp [judgeItem, heldOr, held, displayed]

theorem entries_of_singleton {container : Value}
    (alone : store.object? container = some (.sequence .list [value])) :
    store.entries? container = some (.complete [(.integer 0, value)]) := by
  obtain ⟨ref, rfl, read⟩ := eq_object_of_object? alone
  simp [entries?, mapping?, sequence?, base, member?, object?, read, seriesEntries, numbered]

theorem Route.outcome (route : store.Route value source front run) (shown : store.Shown value)
    (displayed : store.display value = .ok actual)
    (ran : (store.enumerationOf source).outcome = .ok drawn) :
    run.outcome = .ok (store.heldOr drawn value (front ++ ", actual is " ++ actual)) := by
  have checked : (store.checkOf source).outcome = .ok (.enumeration drawn) := by
    rw [checkOf_of_enumerates (enumerates_of_drawn ran), ran, map_ok]
  have alone {descriptor : Value} {content title : String}
      (string : store.string? descriptor = some content)
      (titled : store.text descriptor = .ok title) (unbracketed : '<' ∉ content.toList)
      (unmarked : content.toList.getLast? ≠ some optionalMark) :
      (store.judge value descriptor (store.checkOf source)).outcome =
        .ok (store.heldOr drawn value ("expected is " ++ title ++ ", actual is " ++ actual)) := by
    rw [(judge_of_plain shown.form string titled unbracketed unmarked checked).outcome]
    simpa using judgeItem_of_enumeration displayed ⟨some content, title⟩ drawn
  cases route with
  | member shows =>
    obtain rfl := shows drawn ran
    by_cases held : store.belongs drawn value = true <;>
      simp [judgeMember, heldOr, ran, held, displayed]
  | value string titled unbracketed unmarked => exact alone string titled unbracketed unmarked
  | @entry container descriptor content shown string titled listed written =>
    have judged := judgeItem_of_enumeration displayed ⟨some content, shown⟩ drawn
    have keyed : store.text (.integer 0) = .ok "0" := rfl
    rw [(judgeContainer_of_entries string titled (entries_of_singleton listed) written checked).1]
    by_cases held : store.belongs drawn value = true
    · simp [Entries.items, Entries.complete, judgeEach, judged, heldOr, held, Entries.fault?]
    · have spaced (rest : String) :
          "[0] expected is " ++ rest = "[0] " ++ ("expected is " ++ rest) := by
        rw [← String.append_assoc]
        rfl
      simp [Entries.items, Entries.complete, judgeEach, judged, heldOr, held,
        (rejectEntry_of_text keyed _).1, spaced, String.append_assoc]
  | @field name rule descriptor place content shown named ruled string titled unbracketed unmarked =>
    have parts : store.ruleParts rule = (descriptor, source) := by simp [Store.ruleParts, ruled]
    have valid : (store.ruleOf name rule).outcome = .ok ⟨descriptor, source, .enumeration drawn⟩ := by
      simp [outcome_ruleOf, parts, string, checked]
    have asked : (pure (.enumeration drawn) : Run Check).DrawAlike (store.checkOf source) :=
      ⟨_, _, rfl, checked, rfl, rfl, calls_checkOf source⟩
    rw [judgeField_of_valid valid]
    dsimp only
    rw [(judge_alike asked value descriptor).outcome, alone string titled unbracketed unmarked]
    by_cases held : store.belongs drawn value = true
    · simp [heldOr, held]
    · have spaced (rest : String) :
          " expected is " ++ rest = " " ++ ("expected is " ++ rest) := by
        rw [← String.append_assoc]
        rfl
      simp [heldOr, held, named, spaced, String.append_assoc]

/-- Where no enumeration can be drawn, every route ends by the fault of drawing it. -/
theorem Route.fails (route : store.Route value source front run) (shown : store.Shown value)
    (enumerates : store.Enumerates source)
    (failed : (store.enumerationOf source).outcome = .error fault) :
    run.outcome = .error fault := by
  have unchecked : (store.checkOf source).outcome = .error fault := by
    rw [checkOf_of_enumerates enumerates, failed, map_error]
  cases route with
  | member => rw [judgeMember, Run.bind_of_error _ _ _ failed]
  | @value descriptor content title string titled unbracketed unmarked =>
    have known := descriptor_of_string string titled
    have stripped : (⟨content, title, false⟩ : Descriptor).withoutMark =
        (⟨content, title, false⟩, false) := Descriptor.withoutMark_of_unmarked unmarked
    have required : ¬ ((⟨content, title, false⟩ : Descriptor).withoutMark.2 = true ∧
        value.isAbsent = true) := by simp [stripped]
    rw [judge_of_required shown ⟨title, titled⟩ known required, unchecked, error_bind]
  | @entry container descriptor content shown string titled listed written =>
    obtain ⟨form, formed⟩ := written
    simp [judgeContainer, expectation_of_string string titled, judgeEntries, formed,
      entries_of_singleton listed, unchecked]
  | @field name rule descriptor place content shown named ruled string titled unbracketed unmarked =>
    have parts : store.ruleParts rule = (descriptor, source) := by simp [Store.ruleParts, ruled]
    have invalid : (store.ruleOf name rule).outcome = .error fault := by
      have foreign := enumerationOf_foreign enumerates fault failed
      rw [outcome_ruleOf]
      simp only [parts, string, unchecked]
      cases fault <;> trivial
    rw [judgeField_of_invalid invalid]

end Routes

end Store

end Conform
