import Conform.Proofs.Descriptors

/-! The grammar of container descriptors. A descriptor with an opening bracket is cut at the first
one and at the first closing bracket after it. It names a container just when neither part is empty
and the element has no bracket of its own; any other descriptor is refused for the first thing that
is wrong with it. -/

namespace Conform

section Cuts

variable [DecidableEq α] {separator : α} {front front' rest rest' : List α}

theorem takeWhile_of_cut (absent : separator ∉ front) :
    (front ++ separator :: rest).takeWhile (· ≠ separator) = front := by
  have before : ∀ item ∈ front, decide (item ≠ separator) = true := by
    intro item member
    simpa using ne_of_mem_of_not_mem member absent
  rw [List.takeWhile_append_of_pos before]
  simp

theorem dropWhile_of_cut (absent : separator ∉ front) :
    (front ++ separator :: rest).dropWhile (· ≠ separator) = separator :: rest := by
  have before : ∀ item ∈ front, decide (item ≠ separator) = true := by
    intro item member
    simpa using ne_of_mem_of_not_mem member absent
  rw [List.dropWhile_append_of_pos before]
  simp

/-- A list can be cut at the first place of a value in one way only. -/
theorem cut_unique (absent : separator ∉ front) (absent' : separator ∉ front')
    (same : front ++ separator :: rest = front' ++ separator :: rest') :
    front = front' ∧ rest = rest' := by
  constructor
  · have taken := congrArg (List.takeWhile (· ≠ separator)) same
    rwa [takeWhile_of_cut absent, takeWhile_of_cut absent'] at taken
  · have dropped : separator :: rest = separator :: rest' := by
      rw [← dropWhile_of_cut absent, same, dropWhile_of_cut absent']
    exact List.tail_eq_of_cons_eq dropped

end Cuts

/-- The ways in which brackets stand in a text: none is opened, the first one is not closed, or
it is closed by the first closing bracket after it. -/
inductive Bracketing : List Char → Prop where
  | unbracketed {chars : List Char} (absent : '<' ∉ chars) : Bracketing chars
  | opened {kind inner : List Char} (kindOpen : '<' ∉ kind) (unclosed : '>' ∉ inner) :
      Bracketing (kind ++ '<' :: inner)
  | closed {kind element tail : List Char} (kindOpen : '<' ∉ kind) (inside : '>' ∉ element) :
      Bracketing (kind ++ '<' :: (element ++ '>' :: tail))

theorem bracketing (chars : List Char) : Bracketing chars := by
  by_cases bracketed : '<' ∈ chars
  · obtain ⟨kind, inner, rfl, kindOpen⟩ := List.eq_append_cons_of_mem bracketed
    by_cases closed : '>' ∈ inner
    · obtain ⟨element, tail, rfl, inside⟩ := List.eq_append_cons_of_mem closed
      exact .closed kindOpen inside
    · exact .opened kindOpen closed
  · exact .unbracketed bracketed

namespace DescriptorFlaw

/-- What is wrong with a text by a flaw, whatever else is wrong with it. -/
def Applies (chars : List Char) : DescriptorFlaw → Prop
  | .unclosed => ∃ kind inner, chars = kind ++ '<' :: inner ∧ '<' ∉ kind ∧ '>' ∉ inner
  | .missingKind => ∃ inner, chars = '<' :: inner
  | .missingElement => ∃ kind tail, chars = kind ++ '<' :: '>' :: tail ∧ '<' ∉ kind
  | .nested => ∃ kind element tail, chars = kind ++ '<' :: (element ++ '>' :: tail) ∧
      '<' ∉ kind ∧ '>' ∉ element ∧ '<' ∈ element

/-- The flaws in the order in which they are noticed. -/
def noticed : List DescriptorFlaw := [.unclosed, .missingKind, .missingElement, .nested]

/-- A flaw that applies and none before it does. -/
def IsFirst (flaw : DescriptorFlaw) (chars : List Char) : Prop :=
  flaw.Applies chars ∧ ∀ earlier ∈ noticed.takeWhile (· ≠ flaw), ¬ earlier.Applies chars

variable {chars kind inner element tail : List Char} {flaw : DescriptorFlaw}

theorem not_applies_of_unbracketed (absent : '<' ∉ chars) : ¬ flaw.Applies chars := by
  intro applies
  cases flaw with
  | unclosed =>
    obtain ⟨kind, inner, rfl, -⟩ := applies
    simp at absent
  | missingKind =>
    obtain ⟨inner, rfl⟩ := applies
    simp at absent
  | missingElement =>
    obtain ⟨kind, tail, rfl, -⟩ := applies
    simp at absent
  | nested =>
    obtain ⟨kind, element, tail, rfl, -⟩ := applies
    simp at absent

/-- Which flaws a text with a closed bracket has is told by its two parts. -/
theorem applies_of_closed (kindOpen : '<' ∉ kind) (inside : '>' ∉ element) :
    flaw.Applies (kind ++ '<' :: (element ++ '>' :: tail)) ↔
      match flaw with
      | .unclosed => False
      | .missingKind => kind = []
      | .missingElement => element = []
      | .nested => '<' ∈ element := by
  cases flaw with
  | unclosed =>
    refine iff_false_intro ?_
    rintro ⟨kind', inner, same, kindOpen', unclosed⟩
    obtain ⟨-, rfl⟩ := cut_unique kindOpen kindOpen' same
    simp at unclosed
  | missingKind =>
    constructor
    · rintro ⟨inner, same⟩
      exact (cut_unique kindOpen List.not_mem_nil same).1
    · rintro rfl
      exact ⟨_, rfl⟩
  | missingElement =>
    constructor
    · rintro ⟨kind', tail', same, kindOpen'⟩
      obtain ⟨-, rest⟩ := cut_unique kindOpen kindOpen' same
      exact (cut_unique inside List.not_mem_nil rest).1
    · rintro rfl
      exact ⟨kind, tail, rfl, kindOpen⟩
  | nested =>
    constructor
    · rintro ⟨kind', element', tail', same, kindOpen', inside', nested⟩
      obtain ⟨-, rest⟩ := cut_unique kindOpen kindOpen' same
      obtain ⟨rfl, -⟩ := cut_unique inside inside' rest
      exact nested
    · intro nested
      exact ⟨kind, element, tail, rfl, kindOpen, inside, nested⟩

end DescriptorFlaw

/-- Two parts that brackets can frame: neither is empty, and only the kind may have a bracket,
which must not be an opening one. -/
structure Framed (kind element : List Char) : Prop where
  kindGiven : kind ≠ []
  kindOpen : '<' ∉ kind
  elementGiven : element ≠ []
  elementOpen : '<' ∉ element
  elementClosed : '>' ∉ element

namespace Container

variable {chars kind inner element tail : List Char} {flaw : DescriptorFlaw}

theorem split?_of_opened (kindOpen : '<' ∉ kind) (unclosed : '>' ∉ inner) :
    split? (kind ++ '<' :: inner) = .error .unclosed := by
  simp only [split?, dropWhile_of_cut kindOpen, unclosed, not_false_eq_true, if_true]

theorem split?_of_closed (kindOpen : '<' ∉ kind) (inside : '>' ∉ element) :
    split? (kind ++ '<' :: (element ++ '>' :: tail)) =
      if kind = [] then .error .missingKind
      else if element = [] then .error .missingElement
      else if '<' ∈ element then .error .nested
      else .ok (some (kind, element)) := by
  have closed : ¬ '>' ∉ element ++ '>' :: tail := by simp
  simp only [split?, dropWhile_of_cut kindOpen, takeWhile_of_cut kindOpen, takeWhile_of_cut inside,
    if_neg closed]

/-- Exactly the texts of the grammar are split, into the parts that they are made of. -/
theorem split?_eq_some_iff :
    split? chars = .ok (some (kind, element)) ↔
      Framed kind element ∧ ∃ tail, chars = kind ++ '<' :: (element ++ '>' :: tail) := by
  constructor
  · intro parsed
    cases bracketing chars with
    | unbracketed absent =>
      rw [split?_eq_none.mpr absent] at parsed
      cases parsed
    | opened kindOpen unclosed =>
      rw [split?_of_opened kindOpen unclosed] at parsed
      cases parsed
    | closed kindOpen inside =>
      rw [split?_of_closed kindOpen inside] at parsed
      split at parsed
      · cases parsed
      · rename_i kindGiven
        split at parsed
        · cases parsed
        · rename_i elementGiven
          split at parsed
          · cases parsed
          · rename_i elementOpen
            cases parsed
            exact ⟨⟨kindGiven, kindOpen, elementGiven, elementOpen, inside⟩, _, rfl⟩
  · rintro ⟨framed, tail, rfl⟩
    rw [split?_of_closed framed.kindOpen framed.elementClosed, if_neg framed.kindGiven,
      if_neg framed.elementGiven, if_neg framed.elementOpen]

/-- A text is refused for the first of its flaws. -/
theorem split?_eq_error_iff : split? chars = .error flaw ↔ flaw.IsFirst chars := by
  cases bracketing chars with
  | unbracketed absent =>
    rw [split?_eq_none.mpr absent]
    refine iff_of_false nofun fun first => ?_
    exact DescriptorFlaw.not_applies_of_unbracketed absent first.1
  | @opened kind inner kindOpen unclosed =>
    have applies : DescriptorFlaw.unclosed.Applies (kind ++ '<' :: inner) :=
      ⟨kind, inner, rfl, kindOpen, unclosed⟩
    rw [split?_of_opened kindOpen unclosed]
    constructor
    · rintro ⟨⟩
      exact ⟨applies, by simp [DescriptorFlaw.noticed]⟩
    · intro first
      cases flaw with
      | unclosed => rfl
      | _ => exact absurd applies (first.2 .unclosed (by decide))
  | @closed kind element tail kindOpen inside =>
    rw [split?_of_closed kindOpen inside, DescriptorFlaw.IsFirst]
    simp only [DescriptorFlaw.applies_of_closed kindOpen inside]
    by_cases kindGiven : kind = []
    · cases flaw <;> simp [DescriptorFlaw.noticed, kindGiven]
    · by_cases elementGiven : element = []
      · cases flaw <;> simp [DescriptorFlaw.noticed, kindGiven, elementGiven]
      · by_cases elementOpen : '<' ∈ element
        · cases flaw <;> simp [DescriptorFlaw.noticed, kindGiven, elementGiven, elementOpen]
        · cases flaw <;> simp [kindGiven, elementGiven, elementOpen]

end Container

namespace Container

abbrev IsFramed (container : Container) : Prop :=
  Framed container.kindName.toList container.element.toList

variable {descriptor : Descriptor} {container : Container}

/-- A text begins with the written form of a container when it is cut into the parts of it. -/
theorem eq_content_append_iff {content tail : String} :
    content = container.content ++ tail ↔
      content.toList = container.kindName.toList ++
        '<' :: (container.element.toList ++ '>' :: tail.toList) := by
  rw [← String.toList_inj]
  simp [Container.content]

/-- A descriptor is read as a container just when it begins with the written form of that
container, which has to be of the grammar. -/
theorem container?_eq_some_iff :
    descriptor.container?.outcome = .ok (some container) ↔
      container.wrapped = descriptor.wrapped ∧ container.IsFramed ∧
        ∃ tail, descriptor.content = container.content ++ tail := by
  have parsed : descriptor.container?.outcome = .ok (some container) ↔
      container.wrapped = descriptor.wrapped ∧ split? descriptor.content.toList =
        .ok (some (container.kindName.toList, container.element.toList)) := by
    obtain ⟨kindName, element, wrapped⟩ := container
    rw [Descriptor.outcome_container?]
    cases split? descriptor.content.toList with
    | error flaw => simp
    | ok parts =>
      cases parts with
      | none => simp
      | some parts =>
        simp only [Except.ok.injEq, Option.some.injEq, mk.injEq, Prod.ext_iff,
          ← String.toList_inj, String.toList_ofList, eq_comm (a := wrapped)]
        exact and_rotate.symm
  rw [parsed, split?_eq_some_iff]
  constructor
  · rintro ⟨same, framed, tail, cut⟩
    refine ⟨same, framed, String.ofList tail, eq_content_append_iff.mpr ?_⟩
    rw [cut, String.toList_ofList]
  · rintro ⟨same, framed, tail, cut⟩
    exact ⟨same, framed, tail.toList, eq_content_append_iff.mp cut⟩

theorem container?_eq_none_iff :
    descriptor.container?.outcome = .ok none ↔ '<' ∉ descriptor.content.toList := by
  rw [← split?_eq_none, Descriptor.outcome_container?]
  cases split? descriptor.content.toList with
  | error flaw => simp
  | ok parts => cases parts <;> simp

/-- A descriptor is refused for the first of its flaws, and for nothing else. -/
theorem container?_eq_error_iff {fault : Fault} :
    descriptor.container?.outcome = .error fault ↔
      ∃ flaw, fault = .malformedDescriptor flaw descriptor.shown ∧
        flaw.IsFirst descriptor.content.toList := by
  simp only [← split?_eq_error_iff, Descriptor.outcome_container?]
  cases split? descriptor.content.toList with
  | error flaw => simp [eq_comm]
  | ok parts => cases parts <;> simp

/-- What two containers of the grammar are written alike by decides both of them. -/
theorem eq_of_content {other : Container} {content tail tail' : String}
    (framed : container.IsFramed) (framed' : other.IsFramed)
    (same : container.wrapped = other.wrapped) (written : content = container.content ++ tail)
    (written' : content = other.content ++ tail') : container = other := by
  have first : (Descriptor.ofContent content other.wrapped).container?.outcome =
      .ok (some container) := container?_eq_some_iff.mpr ⟨same, framed, tail, written⟩
  have second : (Descriptor.ofContent content other.wrapped).container?.outcome =
      .ok (some other) := container?_eq_some_iff.mpr ⟨rfl, framed', tail', written'⟩
  simpa using first.symm.trans second

/-- A text with an opening bracket that begins with no container of the grammar has a flaw. -/
theorem exists_flaw (bracketed : '<' ∈ descriptor.content.toList)
    (ungrammatical : ∀ (container : Container) tail, container.IsFramed →
      descriptor.content ≠ container.content ++ tail) :
    ∃ flaw, flaw.IsFirst descriptor.content.toList ∧
      descriptor.container?.outcome = .error (.malformedDescriptor flaw descriptor.shown) := by
  cases ended : descriptor.container?.outcome with
  | error fault =>
    obtain ⟨flaw, rfl, first⟩ := container?_eq_error_iff.mp ended
    exact ⟨flaw, first, rfl⟩
  | ok container? =>
    cases container? with
    | none => exact absurd bracketed (container?_eq_none_iff.mp ended)
    | some container =>
      obtain ⟨-, framed, tail, written⟩ := container?_eq_some_iff.mp ended
      exact absurd written (ungrammatical container tail framed)

/-- A container of the grammar is read from its written form. -/
theorem container?_of_content (framed : container.IsFramed) :
    (Descriptor.ofContent container.content container.wrapped).container?.outcome =
      .ok (some container) :=
  container?_eq_some_iff.mpr ⟨rfl, framed, "", by simp [Descriptor.ofContent]⟩

/-- The element of a container has no bracket, so it is no container itself. -/
theorem elementDescriptor_container? (framed : container.IsFramed) :
    container.elementDescriptor.container?.outcome = .ok none :=
  container?_eq_none_iff.mpr framed.elementOpen

end Container

namespace Store

/-- Reading a container descriptor accepts exactly its grammar. A string without an opening bracket
is none; one that begins with the written form of a container of the grammar is that container,
which is the only one; every other string is refused, and for the first of its flaws. What has been
read can be written and read again, and its element is no container. -/
theorem containers_by_grammar {store : Store} {value : Value} {content : String}
    (string : store.string? value = some content) :
    let run : Run (Option Container) := do
      let written ← Run.ofExcept (store.descriptor value)
      written.container?
    ∃ shown, store.text value = .ok shown ∧
      (run.outcome = .ok none ↔ '<' ∉ content.toList) ∧
      (∀ container, run.outcome = .ok (some container) ↔
        container.wrapped = false ∧ container.IsFramed ∧
          ∃ tail, content = container.content ++ tail) ∧
      (∀ (container other : Container) tail tail', container.IsFramed → other.IsFramed →
        container.wrapped = other.wrapped → content = container.content ++ tail →
        content = other.content ++ tail' → container = other) ∧
      ('<' ∈ content.toList →
        (∀ (container : Container) tail, container.IsFramed → content ≠ container.content ++ tail) →
        ∃ flaw, flaw.IsFirst content.toList ∧
          run.outcome = .error (.malformedDescriptor flaw shown)) ∧
      (∀ fault, run.outcome = .error fault ↔
        ∃ flaw, fault = .malformedDescriptor flaw shown ∧ flaw.IsFirst content.toList) ∧
      (∀ container, run.outcome = .ok (some container) →
        (Descriptor.ofContent container.content false).container?.outcome = .ok (some container) ∧
          container.elementDescriptor.container?.outcome = .ok none) := by
  obtain ⟨shown, titled⟩ := text_of_string string
  intro run
  have reading : run.outcome = (⟨content, shown, false⟩ : Descriptor).container?.outcome := by
    simp only [run, descriptor_of_string string titled, Run.ofExcept_ok, pure_bind]
  rw [reading]
  refine ⟨shown, titled, Container.container?_eq_none_iff,
    fun _ => Container.container?_eq_some_iff, ?unique, ?others,
    fun _ => Container.container?_eq_error_iff, ?again⟩
  case unique =>
    intro container other tail tail' framed framed' same written written'
    exact Container.eq_of_content framed framed' same written written'
  case others =>
    intro bracketed ungrammatical
    have bracketed' : '<' ∈ (⟨content, shown, false⟩ : Descriptor).content.toList := bracketed
    exact Container.exists_flaw bracketed' ungrammatical
  case again =>
    intro container ended
    obtain ⟨plain, framed, -⟩ := Container.container?_eq_some_iff.mp ended
    have again := Container.container?_of_content framed
    rw [show container.wrapped = false from plain] at again
    exact ⟨again, Container.elementDescriptor_container? framed⟩

/-- A closing bracket may stand in the kind, and anything behind the element. -/
theorem container_with_tail :
    initial.string? (.text "a>b<c>><?") = some "a>b<c>><?" ∧
      (do
        let written ← Run.ofExcept (initial.descriptor (.text "a>b<c>><?"))
        written.container? : Run (Option Container)).outcome = .ok (some ⟨"a>b", "c", false⟩) := by
  have string : initial.string? (.text "a>b<c>><?") = some "a>b<c>><?" := rfl
  obtain ⟨-, -, -, reads, -⟩ := containers_by_grammar string
  have framed : Framed "a>b".toList "c".toList :=
    ⟨by decide, by decide, by decide, by decide, by decide⟩
  exact ⟨string, (reads ⟨"a>b", "c", false⟩).mpr ⟨rfl, framed, "><?", by decide⟩⟩

end Store

end Conform
