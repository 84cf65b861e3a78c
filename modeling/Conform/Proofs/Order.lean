import Conform.Proofs.Misuse

/-! Acceptance does not depend on order. A container is accepted when every one of its items passes,
and an object when every one of its rules is met, in whatever order they come and however they are
split up; only what is said about the first of those that do not is another. -/

namespace Conform

namespace Store

/-- A check whose test, if it has one, ends no call for any of the items by a fault. -/
def Unfailing (store : Store) (check : Check) (items : List Value) : Prop :=
  ∀ test, check = .predicate test →
    ∀ item ∈ items, ∃ met, (store.passes test item).outcome = .ok met

/-- An entry of rules whose name and rule can be reported, and whose field can be read and shown,
without a failure of the test of the rule. -/
structure Judgeable (store : Store) (value : Value) (entry : Value × Value) : Prop where
  titled : ∃ shown, store.text entry.1 = .ok shown
  rule : store.RuleShown entry.2
  field : ∃ field, store.field value entry.1 = .ok field ∧ store.ShownWhole field ∧
    store.CalmRule field entry.2

variable {store : Store} {value descriptor source : Value} {check : Check} {content : String}
  {entries : List (Value × Value)} {items items' : List Value} {fault : Fault}

section Containers

/-- By induction on the items, which all of the calls are made for if none is refused. -/
theorem Unfailing.steady (unfailing : store.Unfailing check items) : store.Steady check items := by
  rintro test rfl
  have each := unfailing test rfl
  clear unfailing
  induction items with
  | nil => exact trivial
  | cons item rest inductionHypothesis =>
    obtain ⟨⟨met, answered⟩, others⟩ := List.forall_mem_cons.mp each
    exact ⟨met, answered, fun _ => inductionHypothesis others⟩

/-- A container is accepted just when its check can be drawn and every item passes it. -/
theorem judgeContainer_accepts_iff {shape : Entries}
    (written : ∃ shown, store.form value = .ok shown)
    (shaped : store.entries? value = some shape) (unbroken : shape.fault? = none)
    (string : store.string? descriptor = some content) :
    (store.judgeContainer value descriptor source).outcome = .ok .accepted ↔
      ∃ check, (store.checkOf source).outcome = .ok check ∧
        ∀ item ∈ shape.items.map Prod.snd, store.answer check content item = .ok true := by
  obtain ⟨shown, titled⟩ := text_of_string string
  have named : (⟨some content, shown⟩ : Expectation).content? = some content := rfl
  cases drawn : (store.checkOf source).outcome with
  | error fault =>
    obtain ⟨form, formed⟩ := written
    simp [judgeContainer, expectation_of_string string titled, judgeEntries, formed, shaped, drawn]
  | ok check =>
    rw [(judgeContainer_of_entries string titled shaped written drawn).1,
      judgeEach_accepts_iff _ named, unbroken]
    simp only [Except.ok.injEq, exists_eq_left', List.forall_mem_map, true_and]
    rfl

end Containers

section Tables

/-- An object is accepted by rules just when every one of them is met. -/
theorem judgeRules_accepts_iff :
    (store.judgeRules value entries).outcome = .ok .accepted ↔
      ∀ entry ∈ entries, store.Accepted value entry := by
  constructor
  · intro accepted
    rcases all_or_first (store.Accepted value) entries with
      each | ⟨before, entry, after, rfl, earlier, missed⟩
    · exact each
    · rw [(judgeRules_of_first earlier missed).1] at accepted
      exact absurd accepted missed
  · intro each
    rw [judgeRules_of_all_accepted each]
    rfl

/-- Where the names, the rules and the fields can be shown, what goes wrong is a rule or the
descriptor of one: the first that is not met. -/
theorem judgeRules_error_family (judgeable : ∀ entry ∈ entries, store.Judgeable value entry)
    (failed : (store.judgeRules value entries).outcome = .error fault) :
    fault.family = .invalidRule ∨ fault.family = .invalidDescriptor := by
  rcases all_or_first (store.Accepted value) entries with
    each | ⟨before, ⟨name, rule⟩, after, rfl, earlier, missed⟩
  · rw [judgeRules_of_all_accepted each] at failed
    cases failed
  · obtain ⟨⟨title, titled⟩, ruled, field, read, shown, calm⟩ :=
      judgeable (name, rule) (by simp)
    rw [(judgeRules_of_first earlier missed).1, judgeEntry_of_read read] at failed
    exact ((judgeField_error_of_titled shown ruled titled calm).mp failed).family

end Tables

/-- Acceptance does not depend on order. Containers that hold the same items, each as often, are
accepted both or neither, whatever their keys and their shapes are; and unless the test of the check
fails, they both have a verdict or both end by the same fault. An object is accepted by rules in any
order or in none, and by rules split into parts just when by each part; where it is not, it is
rejected, or a rule or its descriptor is at fault, and which of these it is may depend on the
order. -/
theorem acceptance_ignores_order (store : Store) :
    (∀ value value' shape shape' descriptor content source,
      (∃ shown, store.form value = .ok shown) → (∃ shown, store.form value' = .ok shown) →
      store.entries? value = some shape → store.entries? value' = some shape' →
      shape.fault? = none → shape'.fault? = none →
      (shape.items.map Prod.snd).Perm (shape'.items.map Prod.snd) →
      store.string? descriptor = some content →
      ((store.judgeContainer value descriptor source).outcome = .ok .accepted ↔
        (store.judgeContainer value' descriptor source).outcome = .ok .accepted) ∧
      (store.ShownWhole value → store.ShownWhole value' → store.Drawable source →
        (∀ check, (store.checkOf source).outcome = .ok check →
          store.Unfailing check (shape.items.map Prod.snd)) →
        ∀ fault, (store.judgeContainer value descriptor source).outcome = .error fault ↔
          (store.judgeContainer value' descriptor source).outcome = .error fault)) ∧
    (∀ value rules rules' entries entries', store.hasFields value = true →
      store.mapping? rules = some entries → store.mapping? rules' = some entries' →
      entries.Perm entries' →
      ((store.judgeFields value rules).outcome = .ok .accepted ↔
        (store.judgeFields value rules').outcome = .ok .accepted)) ∧
    (∀ value rules first second entries front back, store.hasFields value = true →
      store.mapping? rules = some entries → store.mapping? first = some front →
      store.mapping? second = some back → entries.Perm (front ++ back) →
      ((store.judgeFields value rules).outcome = .ok .accepted ↔
        (store.judgeFields value first).outcome = .ok .accepted ∧
          (store.judgeFields value second).outcome = .ok .accepted)) ∧
    (∀ value rules entries, store.hasFields value = true → store.mapping? rules = some entries →
      (∀ entry ∈ entries, store.Judgeable value entry) →
      (store.judgeFields value rules).outcome = .ok .accepted ∨
        (∃ reason, (store.judgeFields value rules).outcome = .ok (.rejected reason)) ∨
        ∃ fault, (store.judgeFields value rules).outcome = .error fault ∧
          (fault.family = .invalidRule ∨ fault.family = .invalidDescriptor)) := by
  refine ⟨?containers, ?tables, ?parts, ?others⟩
  case containers =>
    intro value value' shape shape' descriptor content source written written' shaped shaped'
      unbroken unbroken' alike string
    constructor
    · rw [judgeContainer_accepts_iff written shaped unbroken string,
        judgeContainer_accepts_iff written' shaped' unbroken' string]
      refine exists_congr fun check => and_congr_right fun _ => ?_
      simp only [alike.mem_iff]
    · intro shown shown' drawable unfailing fault
      have calm : ∀ check, (store.checkOf source).outcome = .ok check →
          store.Steady check (store.itemsOf value) := by
        intro check drawn
        simpa [itemsOf, shaped] using (unfailing check drawn).steady
      have calm' : ∀ check, (store.checkOf source).outcome = .ok check →
          store.Steady check (store.itemsOf value') := by
        intro check drawn
        have same : store.Unfailing check (shape'.items.map Prod.snd) :=
          fun test known item member =>
            unfailing check drawn test known item (alike.mem_iff.mpr member)
        simpa [itemsOf, shaped'] using same.steady
      rw [judgeContainer_error_iff shown drawable string calm,
        judgeContainer_error_iff shown' drawable string calm']
      simp [shaped, shaped']
  case tables =>
    intro value rules rules' entries entries' shaped mapping mapping' alike
    rw [judgeFields_of_mapping shaped mapping, judgeFields_of_mapping shaped mapping',
      judgeRules_accepts_iff, judgeRules_accepts_iff]
    simp only [alike.mem_iff]
  case parts =>
    intro value rules first second entries front back shaped mapping mapping' mapping'' split
    rw [judgeFields_of_mapping shaped mapping, judgeFields_of_mapping shaped mapping',
      judgeFields_of_mapping shaped mapping'', judgeRules_accepts_iff, judgeRules_accepts_iff,
      judgeRules_accepts_iff, ← List.forall_mem_append]
    simp only [split.mem_iff]
  case others =>
    intro value rules entries shaped mapping judgeable
    rw [judgeFields_of_mapping shaped mapping]
    cases ended : (store.judgeRules value entries).outcome with
    | error fault =>
      exact .inr (.inr ⟨fault, rfl, judgeRules_error_family judgeable ended⟩)
    | ok verdict =>
      cases verdict with
      | accepted => exact .inl rfl
      | rejected reason => exact .inr (.inl ⟨reason, rfl⟩)

/-- A store with a list and a mapping of the same two numbers, an object with two fields, and two
orders of the same rules for them. The first field does not meet its rule, and the rule for the
second one is none. -/
def withOrders : Store :=
  let unmet : Value × Value := (.text "a", .text "number")
  let invalid : Value × Value := (.text "b", .integer 5)
  let cells : List Object :=
    [.sequence .list [.integer 1, .integer 2],
      .mapping .plain [(.text "x", .integer 2), (.text "y", .integer 1)],
      .mapping .plain [(.text "a", .boolean true), (.text "b", .integer 1)],
      .mapping .plain [unmet, invalid], .mapping .plain [invalid, unmet]]
  cells.foldl alloc initial

/-- The mapping is accepted as the list is. The object is accepted in neither order, but it is
rejected in one of them and ends by the fault of a rule in the other. -/
theorem mapping_is_accepted_as_list :
    (withOrders.judgeContainer (.object ⟨5⟩) (.text "number") .null).outcome = .ok .accepted ∧
      (withOrders.judgeFields (.object ⟨6⟩) (.object ⟨8⟩)).outcome ≠ .ok .accepted ∧
      (withOrders.judgeFields (.object ⟨6⟩) (.object ⟨7⟩)).outcome =
        .ok (.rejected "a expected is number, actual is boolean") ∧
      (withOrders.judgeFields (.object ⟨6⟩) (.object ⟨8⟩)).outcome =
        .error (.invalidRule "b" none) := by
  have list : ∃ shown, withOrders.form (.object ⟨4⟩) = .ok shown := ⟨_, rfl⟩
  have mapping : ∃ shown, withOrders.form (.object ⟨5⟩) = .ok shown := ⟨_, rfl⟩
  obtain ⟨containers, tables, -⟩ := acceptance_ignores_order withOrders
  have number : withOrders.string? (.text "number") = some "number" := rfl
  have items := (containers _ _ _ _ _ _ .null list mapping rfl rfl rfl rfl (.swap ..) number).1
  have rules := tables (.object ⟨6⟩) (.object ⟨7⟩) (.object ⟨8⟩) _ _ rfl rfl rfl (.swap ..)
  refine ⟨items.mp rfl, fun accepted => ?_, rfl, rfl⟩
  cases rules.mpr accepted

/-- A table that has lost its rules has no more entries than the empty tuple, and its test fails for
none of them; but it cannot be shown, so the one is accepted and the other ends by a fault. -/
theorem order_needs_legible :
    let table : Value := .object ⟨7⟩
    let tuple : Value := .object ⟨3⟩
    withGaps.WellFormed table ∧ withGaps.WellFormed tuple ∧
      withGaps.entries? table = some (.complete []) ∧
      withGaps.entries? tuple = some (.complete []) ∧
      (withGaps.judgeContainer tuple (.text "object") (.builtin .boolean)).outcome =
        .ok .accepted ∧
      (withGaps.judgeContainer table (.text "object") (.builtin .boolean)).outcome =
        .error .noAttribute := by
  have tableWhole : withGaps.WellFormed (.object ⟨7⟩) :=
    wellFormed_of_closed [.object ⟨7⟩] (by decide) (by decide) (by decide)
  have tupleWhole : withGaps.WellFormed (.object ⟨3⟩) :=
    wellFormed_of_closed [.object ⟨3⟩] (by decide) (by decide) (by decide)
  exact ⟨tableWhole, tupleWhole, rfl, rfl, rfl, rfl⟩

end Store

end Conform
