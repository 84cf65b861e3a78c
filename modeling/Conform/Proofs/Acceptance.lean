import Conform.Proofs.Descriptors
import Conform.Proofs.Entries

/-! Acceptance: when a value meets a descriptor under a check. The stages of a judgement
come in a fixed order, and where none of them faults there is a verdict. -/

namespace Conform

namespace Store

/-- A value that has a form and a text. -/
structure Shown (store : Store) (value : Value) : Prop where
  form : ∃ shown, store.form value = .ok shown
  text : ∃ shown, store.text value = .ok shown

/-- A value that is shown, and whose entries, if it has any, can all be read and written. -/
structure ShownWhole (store : Store) (value : Value) : Prop extends Shown store value where
  unbroken : ∀ entries, store.entries? value = some entries → entries.fault? = none
  texts : ∀ entries, store.entries? value = some entries → ∀ entry ∈ entries.items,
    (∃ shown, store.text entry.1 = .ok shown) ∧ ∃ shown, store.text entry.2 = .ok shown

/-- The items that a container is gone through by; other values have none. -/
def itemsOf (store : Store) (value : Value) : List Value :=
  ((store.entries? value).map fun entries => entries.items.map Prod.snd).getD []

/-- The values that a check may be asked about under a descriptor without its mark: the value
itself, or its items when the descriptor names a known kind of container. -/
def examined (store : Store) (bare : String) (value : Value) : List Value :=
  match Container.split? bare.toList with
  | .ok none => [value]
  | .ok (some (kindChars, _)) =>
    if (ContainerKind.ofName? (String.ofList kindChars)).isSome then store.itemsOf value else []
  | .error _ => []

/-- A value that is shown entry by entry, where a descriptor without its mark names a known kind of
container and so has the entries gone through. -/
def ShownUnder (store : Store) (bare : String) (value : Value) : Prop :=
  ∀ kindChars elementChars, Container.split? bare.toList = .ok (some (kindChars, elementChars)) →
    (ContainerKind.ofName? (String.ofList kindChars)).isSome = true → store.ShownWhole value

/-- A check whose test, if it has one, ends none of its calls for items by a fault. -/
def Steady (store : Store) (check : Check) (items : List Value) : Prop :=
  ∀ test, check = .predicate test → store.Undisturbed test items

/-- A value meets a descriptor without its mark under a check: as a container of a known
kind, in whatever case its name is written, each of whose items the check answers with yes;
as a whole, when there are no brackets; or as anything, for a string without a check. -/
inductive Accepts (store : Store) (check : Check) (bare : String) (value : Value) : Prop where
  | container {kindChars elementChars : List Char} {entries : Entries} (kind : ContainerKind)
      (parsed : Container.split? bare.toList = .ok (some (kindChars, elementChars)))
      (known : kind.name.toList = kindChars.map Char.toLower)
      (shape : store.entries? value = some entries)
      (each : ∀ entry ∈ entries.items, store.Passes check (String.ofList elementChars) entry)
  | whole (unbracketed : '<' ∉ bare.toList) (answered : store.answer check bare value = .ok true)
  | text (unchecked : check = .byKind) (named : bare = Kind.string.name)

variable {store : Store} {check : Check} {expected : Expectation} {kindName : String}
  {value item : Value} {rest : List Value}

theorem Sound.shown (sound : store.Sound value) : store.Shown value := ⟨sound.form, sound.text⟩

/-- A steady check answers for the first item, and stays steady if that answer is yes. -/
theorem Steady.head (steady : store.Steady check (item :: rest)) (kindName : String) :
    ∃ met, store.answer check kindName item = .ok met ∧
      (met = true → store.Steady check rest) := by
  cases check with
  | predicate test =>
    obtain ⟨met, answered, later⟩ := steady test rfl
    refine ⟨met, answered, ?_⟩
    intro yes other same
    cases same
    exact later yes
  | enumeration enumeration =>
    refine ⟨_, rfl, ?_⟩
    intro _ test same
    cases same
  | byKind =>
    refine ⟨_, rfl, ?_⟩
    intro _ test same
    cases same

theorem judgeItem_settles (named : expected.content? = some kindName)
    (steady : store.Steady check [item]) (written : ∃ shown, store.text item = .ok shown) :
    ∃ verdict, (store.judgeItem expected check item).outcome = .ok verdict ∧
      (verdict = .accepted ↔ store.answer check kindName item = .ok true) := by
  obtain ⟨met, answered, -⟩ := steady.head kindName
  rw [outcome_judgeItem named, answered]
  cases met with
  | true => exact ⟨.accepted, rfl, by simp⟩
  | false =>
    obtain ⟨reason, explained⟩ := refusal_of_text written expected.shown check
    exact ⟨.rejected reason, by simp [explained], by simp⟩

/-- Entries that can be written, under a steady check, have a verdict: the induction is on the
entries, and a check that says yes to the first stays steady for the others. -/
theorem judgeEach_settles {entries : List (Value × Value)}
    (named : expected.content? = some kindName)
    (steady : store.Steady check (entries.map Prod.snd))
    (texts : ∀ entry ∈ entries, (∃ shown, store.text entry.1 = .ok shown) ∧
      ∃ shown, store.text entry.2 = .ok shown) :
    ∃ verdict, (store.judgeEach expected check none entries).outcome = .ok verdict ∧
      (verdict = .accepted ↔ ∀ entry ∈ entries, store.Passes check kindName entry) := by
  induction entries with
  | nil => exact ⟨.accepted, rfl, by simp⟩
  | cons entry rest inductionHypothesis =>
    obtain ⟨key, item⟩ := entry
    obtain ⟨⟨⟨place, keyed⟩, known⟩, others⟩ := List.forall_mem_cons.mp texts
    obtain ⟨met, answered, later⟩ := steady.head kindName
    cases met with
    | true =>
      obtain ⟨verdict, ended, all⟩ := inductionHypothesis (later rfl) others
      refine ⟨verdict, ?_, ?_⟩
      · rw [(judgeEach_cons_of_passes none named key answered rest).1, ended]
      · rw [all, List.forall_mem_cons]
        constructor
        · intro each
          exact ⟨answered, each⟩
        · rintro ⟨-, each⟩
          exact each
    | false =>
      obtain ⟨reason, explained⟩ := refusal_of_text known expected.shown check
      have atOnce : ∀ entry ∈ ([] : List (Value × Value)),
          store.Passes check kindName entry := by simp
      refine ⟨.rejected ("[" ++ place ++ "] " ++ reason), ?_, ?_⟩
      · exact (judgeEach_of_refused none named atOnce answered keyed explained).1
      · constructor
        · intro same
          cases same
        · intro each
          have first : store.answer check kindName item = .ok true := each (key, item) (by simp)
          rw [answered] at first
          cases first

theorem judgeEntries_settles {drawing : Run Check} (shown : store.ShownWhole value)
    (named : expected.content? = some kindName) (drawn : drawing.outcome = .ok check)
    (steady : store.Steady check (store.itemsOf value)) :
    ∃ verdict, (store.judgeEntries value expected drawing).outcome = .ok verdict ∧
      (verdict = .accepted ↔ ∃ entries, store.entries? value = some entries ∧
        ∀ entry ∈ entries.items, store.Passes check kindName entry) := by
  cases shape : store.entries? value with
  | none =>
    refine ⟨.rejected "is not iterables type", ?_, by simp⟩
    exact (judgeEntries_of_no_entries shown.form shape expected drawing).1
  | some entries =>
    have unbroken := shown.unbroken entries shape
    have listed : store.Steady check (entries.items.map Prod.snd) := by
      simpa [itemsOf, shape] using steady
    obtain ⟨verdict, ended, all⟩ := judgeEach_settles named listed (shown.texts entries shape)
    refine ⟨verdict, ?_, by simpa using all⟩
    rw [(judgeEntries_of_entries shown.form shape drawn expected).1, unbroken, ended]

theorem judgeBare_of_flaw {descriptor : Descriptor} {flaw : DescriptorFlaw}
    (malformed : Container.split? descriptor.content.toList = .error flaw) (value : Value)
    (check : Check) :
    (store.judgeBare value descriptor check).outcome =
      .error (.malformedDescriptor flaw descriptor.shown) := by
  rw [judgeBare, Run.outcome_bind, Descriptor.outcome_container?, malformed]
  rfl

theorem accepts_of_unbracketed {bare : String}
    (unbracketed : Container.split? bare.toList = .ok none) :
    store.Accepts check bare value ↔
      store.answer check bare value = .ok true ∨ (check = .byKind ∧ bare = Kind.string.name) := by
  constructor
  · intro accepts
    cases accepts with
    | container kind parsed =>
      rw [unbracketed] at parsed
      cases parsed
    | whole _ answered => exact Or.inl answered
    | text unchecked named => exact Or.inr ⟨unchecked, named⟩
  · rintro (answered | ⟨unchecked, named⟩)
    · exact .whole (Container.split?_eq_none.mp unbracketed) answered
    · exact .text unchecked named

theorem accepts_of_bracketed {bare : String} {kindChars elementChars : List Char}
    (bracketed : Container.split? bare.toList = .ok (some (kindChars, elementChars))) :
    store.Accepts check bare value ↔
      (ContainerKind.ofName? (String.ofList kindChars)).isSome = true ∧
        ∃ entries, store.entries? value = some entries ∧
          ∀ entry ∈ entries.items, store.Passes check (String.ofList elementChars) entry := by
  have known : (ContainerKind.ofName? (String.ofList kindChars)).isSome = true ↔
      ∃ kind : ContainerKind, kind.name.toList = kindChars.map Char.toLower := by
    rw [ContainerKind.ofName?_isSome_iff, ContainerKind.Spelled, String.toList_ofList]
  rw [known]
  constructor
  · intro accepts
    cases accepts with
    | container kind parsed same shape each =>
      rw [bracketed] at parsed
      cases parsed
      exact ⟨⟨kind, same⟩, _, shape, each⟩
    | whole unbracketed =>
      rw [Container.split?_eq_none.mpr unbracketed] at bracketed
      cases bracketed
    | text _ named =>
      have plain : Container.split? Kind.string.name.toList = .ok none := by decide
      rw [named, plain] at bracketed
      cases bracketed
  · rintro ⟨⟨kind, same⟩, entries, shape, each⟩
    exact .container kind bracketed same shape each

theorem judgeBare_settles {descriptor : Descriptor} {parts : Option (List Char × List Char)}
    (parsed : Container.split? descriptor.content.toList = .ok parts)
    (shown : store.Shown value) (whole : store.ShownUnder descriptor.content value)
    (steady : store.Steady check (store.examined descriptor.content value)) :
    ∃ verdict, (store.judgeBare value descriptor check).outcome = .ok verdict ∧
      (verdict = .accepted ↔ store.Accepts check descriptor.content value) := by
  simp only [judgeBare, Run.outcome_bind, Descriptor.outcome_container?, parsed]
  cases parts with
  | none =>
    rw [accepts_of_unbracketed parsed]
    simp only [examined, parsed] at steady
    by_cases text : check = .byKind ∧ descriptor.content = Kind.string.name
    · exact ⟨.accepted, by simp [text], by simp [text]⟩
    · have named : descriptor.expectation.content? = some descriptor.content := rfl
      obtain ⟨verdict, ended, met⟩ := judgeItem_settles named steady shown.text
      refine ⟨verdict, by simp [text, ended], ?_⟩
      rw [met]
      constructor
      · intro answered
        exact Or.inl answered
      · intro either
        exact either.resolve_right text
  | some parts =>
    obtain ⟨kindChars, elementChars⟩ := parts
    rw [accepts_of_bracketed parsed]
    simp only [examined, parsed] at steady
    cases known : ContainerKind.ofName? (String.ofList kindChars) with
    | none =>
      refine ⟨.rejected ("unsupported container type " ++ String.ofList kindChars), ?_, by simp⟩
      simp [Container.kind?, known]
    | some kind =>
      simp only [known, Option.isSome_some, if_true] at steady
      let container : Container :=
        ⟨String.ofList kindChars, String.ofList elementChars, descriptor.wrapped⟩
      have named : container.elementDescriptor.expectation.content? =
          some (String.ofList elementChars) := rfl
      have drawn : (pure check : Run Check).outcome = .ok check := rfl
      obtain ⟨verdict, ended, met⟩ := judgeEntries_settles
        (whole kindChars elementChars parsed (by simp [known])) named drawn steady
      refine ⟨verdict, ?_, by simpa using met⟩
      simpa [Container.kind?, known] using ended

/-- An absent value meets an optional type before anything else is looked at. -/
theorem judge_of_optional {written : Descriptor} {descriptor : Value}
    (shown : store.Shown value) (titled : ∃ shown, store.text descriptor = .ok shown)
    (known : store.descriptor descriptor = .ok written) (optional : written.withoutMark.2 = true)
    (absent : value.isAbsent = true) (drawing : Run Check) :
    (store.judge value descriptor drawing).outcome = .ok .accepted ∧
      (store.judge value descriptor drawing).calls = [] := by
  obtain ⟨form, formed⟩ := shown.form
  obtain ⟨title, titled⟩ := titled
  obtain ⟨bare, stripped⟩ : ∃ bare, written.withoutMark = (bare, true) :=
    ⟨written.withoutMark.1, Prod.ext rfl optional⟩
  simp [judge, formed, titled, known, stripped, absent]

/-- Otherwise the value is shown, the check is drawn, and the rest of the descriptor decides. -/
theorem judge_sameAnswer_of_required {written : Descriptor} {descriptor : Value}
    (titled : ∃ shown, store.text descriptor = .ok shown)
    (known : store.descriptor descriptor = .ok written)
    (required : ¬ (written.withoutMark.2 = true ∧ value.isAbsent = true)) (drawing : Run Check) :
    (store.judge value descriptor drawing).SameAnswer (do
      let _ ← Run.ofExcept (store.form value)
      let check ← drawing
      store.judgeBare value written.withoutMark.1 check) := by
  obtain ⟨shown, titled⟩ := titled
  refine .bind (.refl _) fun form _ => ?_
  cases stripped : written.withoutMark with
  | mk bare optional =>
    have asked : ¬ (optional && value.isAbsent) = true := by
      simpa [stripped] using required
    simp only [titled, known, stripped, Run.ofExcept_ok, pure_bind, if_neg asked]
    exact Run.sameAnswer_bind_of_silent _ rfl rfl

theorem judge_of_required {written : Descriptor} {descriptor : Value}
    (shown : store.Shown value) (titled : ∃ shown, store.text descriptor = .ok shown)
    (known : store.descriptor descriptor = .ok written)
    (required : ¬ (written.withoutMark.2 = true ∧ value.isAbsent = true)) (drawing : Run Check) :
    (store.judge value descriptor drawing).outcome =
      drawing.outcome >>= fun check =>
        (store.judgeBare value written.withoutMark.1 check).outcome := by
  obtain ⟨form, formed⟩ := shown.form
  simpa [formed] using (judge_sameAnswer_of_required titled known required drawing).outcome

/-- A store with a mapping whose only key shows a record without its field, a table without
its rules, and a member of a type of integers whose value has become a text. -/
def withGaps : Store :=
  let record : Record := ⟨"P", 0, ["x"], [], false⟩
  let type : EnumType := ⟨"E", .integer, [("A", .integer 1)], []⟩
  let cells : List Object :=
    [.record record, .view .values [.object ⟨4⟩], .mapping .plain [(.object ⟨5⟩, .integer 1)],
      .table .empty, .enumType type]
  (cells.foldl alloc initial).attach (.member ⟨8⟩ 0) (.ofFields [("_value_", .text "x")])

end Store

end Conform
