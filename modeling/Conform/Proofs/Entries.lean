import Conform.Proofs.Items

/-! Entries of a container are judged in order, each once, up to the first that does not
pass. A run over them is its passing front, one step for each entry, followed by what
happens at the first other one. -/

namespace Conform

theorem all_or_first (passes : α → Prop) (items : List α) :
    (∀ item ∈ items, passes item) ∨
      ∃ before item after, items = before ++ item :: after ∧
        (∀ earlier ∈ before, passes earlier) ∧ ¬ passes item := by
  induction items with
  | nil =>
    left
    simp
  | cons head rest inductionHypothesis =>
    by_cases first : passes head
    · rcases inductionHypothesis with each | ⟨before, item, after, rfl, earlier, refused⟩
      · left
        exact List.forall_mem_cons.mpr ⟨first, each⟩
      · right
        refine ⟨head :: before, item, after, rfl, ?_, refused⟩
        exact List.forall_mem_cons.mpr ⟨first, earlier⟩
    · right
      exact ⟨[], head, rest, rfl, by simp, first⟩

namespace Store

def callsForAll (store : Store) (check : Check) (entries : List (Value × Value)) : List Call :=
  entries.flatMap fun entry => store.callsFor check entry.2

/-- An entry whose item a check answers with yes. -/
def Passes (store : Store) (check : Check) (kindName : String) (entry : Value × Value) : Prop :=
  store.answer check kindName entry.2 = .ok true

variable {store : Store} {check : Check} {expected : Expectation} {kindName : String}
  {key item value : Value}

theorem rejectEntry_of_text {place : String} (keyed : store.text key = .ok place)
    (reason : String) :
    (store.rejectEntry key reason).outcome = .ok (.rejected ("[" ++ place ++ "] " ++ reason)) ∧
      (store.rejectEntry key reason).calls = [] := by
  have spaced : "[" ++ place ++ "]" ++ " " = "[" ++ place ++ "] " := by
    rw [String.append_assoc]
    rfl
  rw [rejectEntry, keyed, ← spaced]
  exact ⟨rfl, rfl⟩

theorem rejectEntry_not_accepted (key : Value) (reason : String) :
    (store.rejectEntry key reason).outcome ≠ .ok .accepted := by
  cases keyed : store.text key with
  | error fault => simp [rejectEntry, keyed]
  | ok place => simp [(rejectEntry_of_text keyed reason).1]

section

variable (fault? : Option Fault) (named : expected.content? = some kindName)

include named

/-- One step: an entry that passes adds its calls and nothing else to what follows. -/
theorem judgeEach_cons_of_passes (key : Value)
    (passes : store.answer check kindName item = .ok true) (rest : List (Value × Value)) :
    (store.judgeEach expected check fault? ((key, item) :: rest)).outcome =
        (store.judgeEach expected check fault? rest).outcome ∧
      (store.judgeEach expected check fault? ((key, item) :: rest)).calls =
        store.callsFor check item ++ (store.judgeEach expected check fault? rest).calls := by
  have accepted : (store.judgeItem expected check item).outcome = .ok .accepted := by
    rw [outcome_judgeItem named, passes]
    rfl
  constructor
  · rw [judgeEach, Run.outcome_bind, accepted, ok_bind]
  · rw [judgeEach, Run.calls_bind_of_ok _ accepted, calls_judgeItem]

/-- A whole front of entries that pass, by induction over the steps. -/
theorem judgeEach_append_of_passes {before : List (Value × Value)}
    (earlier : ∀ entry ∈ before, store.Passes check kindName entry)
    (rest : List (Value × Value)) :
    (store.judgeEach expected check fault? (before ++ rest)).outcome =
        (store.judgeEach expected check fault? rest).outcome ∧
      (store.judgeEach expected check fault? (before ++ rest)).calls =
        store.callsForAll check before ++ (store.judgeEach expected check fault? rest).calls := by
  induction before with
  | nil => exact ⟨rfl, rfl⟩
  | cons entry before inductionHypothesis =>
    obtain ⟨first, others⟩ := List.forall_mem_cons.mp earlier
    obtain ⟨outcome, calls⟩ := inductionHypothesis others
    obtain ⟨stepOutcome, stepCalls⟩ :=
      judgeEach_cons_of_passes fault? named entry.1 first (before ++ rest)
    constructor
    · exact stepOutcome.trans outcome
    · rw [List.cons_append, stepCalls, calls, ← List.append_assoc]
      rfl

theorem judgeEach_of_all_pass {entries : List (Value × Value)}
    (each : ∀ entry ∈ entries, store.Passes check kindName entry) :
    (store.judgeEach expected check fault? entries).outcome =
        (match fault? with
        | none => .ok .accepted
        | some fault => .error fault) ∧
      (store.judgeEach expected check fault? entries).calls =
        store.callsForAll check entries := by
  obtain ⟨outcome, calls⟩ := judgeEach_append_of_passes fault? named each []
  rw [List.append_nil] at outcome calls
  rw [outcome, calls]
  cases fault? with
  | none => exact ⟨rfl, List.append_nil _⟩
  | some fault => exact ⟨rfl, List.append_nil _⟩

theorem judgeEach_of_refused {before after : List (Value × Value)} {place reason : String}
    (earlier : ∀ entry ∈ before, store.Passes check kindName entry)
    (refused : store.answer check kindName item = .ok false)
    (keyed : store.text key = .ok place)
    (explained : store.refusal expected.shown check item = .ok reason) :
    (store.judgeEach expected check fault? (before ++ (key, item) :: after)).outcome =
        .ok (.rejected ("[" ++ place ++ "] " ++ reason)) ∧
      (store.judgeEach expected check fault? (before ++ (key, item) :: after)).calls =
        store.callsForAll check (before ++ [(key, item)]) := by
  have rejected : (store.judgeItem expected check item).outcome = .ok (.rejected reason) := by
    rw [outcome_judgeItem named, refused, explained]
    rfl
  obtain ⟨outcome, calls⟩ :=
    judgeEach_append_of_passes fault? named earlier ((key, item) :: after)
  constructor
  · rw [outcome, judgeEach, Run.outcome_bind, rejected, ok_bind]
    exact (rejectEntry_of_text keyed reason).1
  · rw [calls, judgeEach, Run.calls_bind_of_ok _ rejected, calls_judgeItem,
      (rejectEntry_of_text keyed reason).2]
    simp [callsForAll]

/-- Entries are accepted when all of them pass and none is left unread, and only then. An entry
that is refused is never accepted, even if its key or its item cannot be written. -/
theorem judgeEach_accepts_iff {entries : List (Value × Value)} :
    (store.judgeEach expected check fault? entries).outcome = .ok .accepted ↔
      fault? = none ∧ ∀ entry ∈ entries, store.Passes check kindName entry := by
  constructor
  · intro accepted
    rcases all_or_first (store.Passes check kindName) entries with
      each | ⟨before, ⟨key, item⟩, after, rfl, earlier, refused⟩
    · rw [(judgeEach_of_all_pass fault? named each).1] at accepted
      cases fault? with
      | none => exact ⟨rfl, each⟩
      | some fault => simp at accepted
    · rw [(judgeEach_append_of_passes fault? named earlier _).1, judgeEach, Run.outcome_bind,
        outcome_judgeItem named] at accepted
      cases answered : store.answer check kindName item with
      | error fault => simp [answered] at accepted
      | ok met =>
        cases met with
        | true => exact absurd answered refused
        | false =>
          cases explained : store.refusal expected.shown check item with
          | error fault => simp [answered, explained] at accepted
          | ok reason =>
            simp only [answered, explained, ok_bind, pure_eq_ok] at accepted
            exact absurd accepted (rejectEntry_not_accepted key reason)
  · rintro ⟨unbroken, each⟩
    rw [(judgeEach_of_all_pass fault? named each).1, unbroken]

end

theorem judgeEntries_of_entries {entries : Entries} {drawing : Run Check}
    (written : ∃ shown, store.form value = .ok shown)
    (shape : store.entries? value = some entries) (drawn : drawing.outcome = .ok check)
    (expected : Expectation) :
    (store.judgeEntries value expected drawing).outcome =
        (store.judgeEach expected check entries.fault? entries.items).outcome ∧
      (store.judgeEntries value expected drawing).calls =
        drawing.calls ++ (store.judgeEach expected check entries.fault? entries.items).calls := by
  obtain ⟨form, written⟩ := written
  simp only [judgeEntries, written, shape, Run.ofExcept_ok, pure_bind, Run.outcome_bind,
    Run.outcome_debug, ok_bind, Run.calls_debug_bind, drawn, judgeAll_eq, true_and]
  exact Run.calls_bind_of_ok _ drawn

theorem judgeEntries_of_no_entries (written : ∃ shown, store.form value = .ok shown)
    (shape : store.entries? value = none) (expected : Expectation) (drawing : Run Check) :
    (store.judgeEntries value expected drawing).outcome =
        .ok (.rejected "is not iterables type") ∧
      (store.judgeEntries value expected drawing).calls = [] := by
  obtain ⟨form, written⟩ := written
  simp [judgeEntries, written, shape]

theorem expectation_of_string {descriptor : Value} {content shown : String}
    (string : store.string? descriptor = some content)
    (written : store.text descriptor = .ok shown) :
    store.expectation descriptor = .ok ⟨some content, shown⟩ := by
  simp [Store.expectation, written, content_of_string string]

theorem entries?_of_declared {object : Object} {names : List String}
    (here : store.object? value = some object) (declares : object.declared? = some names)
    (readable : store.hasFields value = true) :
    store.entries? value = some (.ofDeclared (store.attributeOf value) names) := by
  have own := ownFields_of_declared here declares
  obtain ⟨ref, rfl, read⟩ := eq_object_of_object? here
  cases object with
  | record whole | model whole =>
    simp [entries?, readable, own, mapping?, sequence?, elements?, base, member?, object?, read,
      Object.elements?]
  | _ => cases declares

theorem hasFields_of_model {model : Model} (here : store.object? value = some (.model model)) :
    store.hasFields value = true := by
  obtain ⟨ref, rfl, read⟩ := eq_object_of_object? here
  simp [hasFields, mapping?, kind, number?, string?, base, member?, sequence?, elements?, bytes?,
    object?, read, callable, Object.elements?]

theorem judgeContainer_of_entries {descriptor source : Value} {content shown : String}
    {entries : Entries} (string : store.string? descriptor = some content)
    (titled : store.text descriptor = .ok shown)
    (shape : store.entries? value = some entries)
    (written : ∃ form, store.form value = .ok form)
    (drawn : (store.checkOf source).outcome = .ok check) :
    (store.judgeContainer value descriptor source).outcome =
        (store.judgeEach ⟨some content, shown⟩ check entries.fault? entries.items).outcome ∧
      (store.judgeContainer value descriptor source).calls =
        (store.judgeEach ⟨some content, shown⟩ check entries.fault? entries.items).calls := by
  have judged := judgeEntries_of_entries written shape drawn ⟨some content, shown⟩
  rw [calls_checkOf, List.nil_append] at judged
  simpa only [judgeContainer, expectation_of_string string titled, Run.ofExcept_ok, pure_bind]
    using judged

/-- A store with the list `[2, 4, 3, 6]` and, next to it, the test for even integers. -/
def withList : Store :=
  (initial.alloc (.sequence .list [.integer 2, .integer 4, .integer 3, .integer 6])).alloc
    (.function .isEven)

end Store

end Conform
