import Conform.Proofs.Coverage
import Conform.Proofs.Grammar
import Conform.Proofs.Misuse

/-! Spelling of container descriptors. Neither the letter case of the kind, nor which of the kinds
it is, nor what stands behind the closing bracket changes a judgement, except for the mark at the
very end. A mark in front of the closing bracket belongs to the name of the element, and no kind has
such a name. -/

namespace Conform

theorem Kind.name_ne_marked (kind other : Kind) : kind.name ≠ other.name ++ "?" := by
  cases kind <;> cases other <;> decide

namespace ContainerKind

variable {name : String}

theorem Spelled.framed {element : List Char} (spelled : Spelled name) (given : element ≠ [])
    (opened : '<' ∉ element) (closed : '>' ∉ element) : Framed name.toList element := by
  obtain ⟨kind, lowered⟩ := spelled
  refine ⟨?_, ?_, given, opened, closed⟩
  · intro empty
    rw [empty] at lowered
    cases kind <;> cases lowered
  · intro bracketed
    have kept : '<' ∈ kind.name.toList := lowered ▸ List.mem_map_of_mem bracketed
    cases kind <;> revert kept <;> decide

end ContainerKind

theorem Descriptor.calls_container? (descriptor : Descriptor) :
    descriptor.container?.calls = [] := by
  unfold Descriptor.container?
  split
  · rfl
  · rfl
  · rename_i flaw _
    cases flaw <;> rfl

namespace Container

variable {container : Container} {descriptor : Descriptor} {tail : String}

/-- The mark of a written container is the end of what stands behind its bracket. -/
theorem getLast?_content_append :
    (container.content ++ tail).toList.getLast? = some optionalMark ↔
      tail.toList.getLast? = some optionalMark := by
  have spelled : container.content.toList =
      (container.kindName ++ "<" ++ container.element).toList ++ ['>'] := by simp [content]
  have closed : container.content.toList.getLast? = some '>' := by
    rw [spelled, List.getLast?_concat]
  rw [String.toList_append, List.getLast?_append, closed]
  cases tail.toList.getLast? with
  | none => exact iff_of_false (by decide) (by simp)
  | some last => rfl

theorem wrapped_withoutMark : descriptor.withoutMark.1.wrapped = descriptor.wrapped := by
  unfold Descriptor.withoutMark
  split
  · split <;> rfl
  · rfl

/-- Without its mark a written container is still one, with less behind its bracket. -/
theorem container?_withoutMark (framed : container.IsFramed)
    (wrapped : container.wrapped = descriptor.wrapped)
    (written : descriptor.content = container.content ++ tail) :
    descriptor.withoutMark.1.container?.outcome = .ok (some container) := by
  obtain ⟨spelled, -⟩ := descriptor.content_withoutMark
  refine container?_eq_some_iff.mpr ⟨wrapped.trans wrapped_withoutMark.symm, framed, ?_⟩
  cases marked : descriptor.withoutMark.2 with
  | false =>
    rw [marked, if_neg Bool.false_ne_true, List.append_nil, String.toList_inj] at spelled
    exact ⟨tail, spelled.symm.trans written⟩
  | true =>
    rw [marked, if_pos rfl] at spelled
    have whole : (container.content ++ tail).toList.getLast? = some optionalMark := by
      rw [← written, spelled, List.getLast?_concat]
    have last : tail.toList.getLast? = some optionalMark := getLast?_content_append.mp whole
    obtain ⟨front, behind⟩ := List.getLast?_eq_some_iff.mp last
    refine ⟨String.ofList front, String.toList_inj.mp ?_⟩
    rw [written, String.toList_append, behind, ← List.append_assoc] at spelled
    rw [String.toList_append, String.toList_ofList]
    exact (List.append_cancel_right spelled).symm

end Container

namespace Store

variable {store : Store} {value descriptor source : Value} {expected : Expectation} {check : Check}
  {kindName element tail : String}

/-- Going through entries shows the container again, which changes nothing. -/
theorem judgeEntries_shown (drawing : Run Check) :
    (do
      let _ ← Run.ofExcept (store.form value)
      store.judgeEntries value expected drawing).SameAnswer
        (store.judgeEntries value expected drawing) := by
  cases shown : store.form value with
  | ok form => exact .refl _
  | error fault =>
    simp only [judgeEntries, shown, Run.ofExcept_error, Run.fail_bind]
    exact .refl _

/-- It does not matter whether a check is drawn before the entries are looked for. -/
theorem judgeEntries_drawn (drawn : (store.checkOf source).outcome = .ok check) :
    (store.judgeEntries value expected (pure check)).SameAnswer
      (store.judgeEntries value expected (store.checkOf source)) := by
  refine .bind (.refl _) fun form _ => .bind (.refl _) fun _ _ => ?_
  cases store.entries? value with
  | none => exact .refl _
  | some entries => exact .bind ⟨drawn.symm, (calls_checkOf source).symm⟩ fun _ _ => .refl _

theorem waived_iff_of_framed {shown : String} :
    Waived ⟨kindName ++ "<" ++ element ++ ">" ++ tail, shown, false⟩ value ↔
      tail.toList.getLast? = some optionalMark ∧ value.isAbsent = true := by
  let container : Container := ⟨kindName, element, false⟩
  have last : (container.content ++ tail).toList.getLast? = some optionalMark ↔
      tail.toList.getLast? = some optionalMark := Container.getLast?_content_append
  exact and_congr_left' last

/-- A value under a written container: the kind is looked at once the check is drawn, and the
element is all that is left of the descriptor after that. -/
theorem judge_of_framed (framed : Framed kindName.toList element.toList)
    (string : store.string? descriptor = some (kindName ++ "<" ++ element ++ ">" ++ tail))
    (required : ¬ (tail.toList.getLast? = some optionalMark ∧ value.isAbsent = true))
    (drawn : (store.checkOf source).outcome = .ok check) :
    (store.judge value descriptor (store.checkOf source)).SameAnswer (do
      let _ ← Run.ofExcept (store.form value)
      if (ContainerKind.ofName? kindName).isSome then
        store.judgeEntries value ⟨some element, element⟩ (store.checkOf source)
      else return .rejected ("unsupported container type " ++ kindName)) := by
  let container : Container := ⟨kindName, element, false⟩
  obtain ⟨shown, titled⟩ := text_of_string string
  let written : Descriptor := ⟨container.content ++ tail, shown, false⟩
  have known : store.descriptor descriptor = .ok written := descriptor_of_string string titled
  have asked : ¬ (written.withoutMark.2 = true ∧ value.isAbsent = true) :=
    mt (fun optional => waived_iff_of_framed.mp (waived_iff.mpr optional)) required
  have parsed : written.withoutMark.1.container?.outcome = .ok (some container) :=
    Container.container?_withoutMark framed rfl rfl
  refine (judge_sameAnswer_of_required ⟨shown, titled⟩ known asked _).trans ?_
  refine .bind (.refl _) fun form _ => ?_
  -- the check is drawn before the brackets are looked at, and neither makes a call
  refine (Run.sameAnswer_bind_of_silent _ drawn (calls_checkOf source)).trans ?_
  refine (Run.sameAnswer_bind_of_silent _ parsed (Descriptor.calls_container? _)).trans ?_
  cases named : ContainerKind.ofName? kindName with
  | none =>
    simp only [Container.kind?, named, container]
    exact .refl _
  | some kind =>
    simp only [Container.kind?, named, container]
    exact (Run.sameAnswer_bind_of_silent _ rfl rfl).trans (judgeEntries_drawn drawn)

theorem judge_of_spelled (framed : Framed kindName.toList element.toList)
    (string : store.string? descriptor = some (kindName ++ "<" ++ element ++ ">" ++ tail))
    (required : ¬ (tail.toList.getLast? = some optionalMark ∧ value.isAbsent = true))
    (drawn : (store.checkOf source).outcome = .ok check)
    (spelled : ContainerKind.Spelled kindName) :
    (store.judge value descriptor (store.checkOf source)).SameAnswer
      (store.judgeEntries value ⟨some element, element⟩ (store.checkOf source)) := by
  have judged := judge_of_framed framed string required drawn
  rw [if_pos (ContainerKind.ofName?_isSome_iff.mpr spelled)] at judged
  exact judged.trans (judgeEntries_shown _)

theorem not_passes_marked (kind : Kind) (entry : Value × Value) :
    ¬ store.Passes .byKind (kind.name ++ "?") entry :=
  mt passes_byKind_iff.mp (Kind.name_ne_marked _ kind)

theorem framed_marked (spelled : ContainerKind.Spelled kindName) (kind : Kind) :
    Framed kindName.toList (kind.name ++ "?").toList := by
  cases kind <;> exact spelled.framed (by decide) (by decide) (by decide)

/-- A container whose first item is refused is rejected for it. -/
theorem judgeEntries_of_first_refused {entries : Entries} {key item : Value}
    {rest : List (Value × Value)} {content place reason : String} {drawing : Run Check}
    (written : ∃ shown, store.form value = .ok shown) (named : expected.content? = some content)
    (drawn : drawing.outcome = .ok check) (shape : store.entries? value = some entries)
    (front : entries.items = (key, item) :: rest)
    (refused : store.answer check content item = .ok false) (keyed : store.text key = .ok place)
    (why : store.refusal expected.shown check item = .ok reason) :
    (store.judgeEntries value expected drawing).outcome =
      .ok (.rejected ("[" ++ place ++ "] " ++ reason)) := by
  have atOnce : ∀ entry ∈ ([] : List (Value × Value)), store.Passes check content entry := by simp
  rw [(judgeEntries_of_entries written shape drawn expected).1, front]
  exact (judgeEach_of_refused entries.fault? named atOnce refused keyed why).1

/-- A mark in front of the closing bracket does not make the elements optional: it stays a part of
the name that the kinds of the items are compared with, and no kind is called so. A container is
accepted just when it has no items at all, and is otherwise rejected for the first one, whether that
is of the kind, absent, or neither. -/
theorem marked_elements_are_refused {kind : Kind} {kindName : String} {descriptor : Value}
    (value : Value) (spelled : ContainerKind.Spelled kindName)
    (string : store.string? descriptor = some (kindName ++ "<" ++ (kind.name ++ "?") ++ ">")) :
    let run := store.judge value descriptor (store.checkOf .null)
    (run.outcome = .ok .accepted ↔ (∃ shown, store.form value = .ok shown) ∧
      ∃ entries, store.entries? value = some entries ∧ entries.fault? = none ∧
        entries.items = []) ∧
    ((∃ shown, store.form value = .ok shown) →
      (store.entries? value = none → run.outcome = .ok (.rejected "is not iterables type")) ∧
      (∀ entries key item rest place, store.entries? value = some entries →
        entries.items = (key, item) :: rest → store.text key = .ok place →
        run.outcome = .ok (.rejected ("[" ++ place ++ "] " ++
          ("expected is " ++ (kind.name ++ "?") ++ ", actual is " ++
            (store.kind item).name))))) := by
  intro run
  let expected : Expectation := ⟨some (kind.name ++ "?"), kind.name ++ "?"⟩
  have named : expected.content? = some (kind.name ++ "?") := rfl
  have drawn : (store.checkOf .null).outcome = .ok .byKind := rfl
  have unmarked : ¬ ("".toList.getLast? = some optionalMark ∧ value.isAbsent = true) := by simp
  have judged : run.SameAnswer (store.judgeEntries value expected (store.checkOf .null)) :=
    judge_of_spelled (framed_marked spelled kind) (by simpa using string) unmarked drawn spelled
  rw [judged.outcome]
  refine ⟨?_, fun written => ⟨fun shape => ?_, ?_⟩⟩
  · rw [judgeEntries_accepts_iff named drawn]
    have empty (entries : Entries) :
        (∀ entry ∈ entries.items, store.Passes .byKind (kind.name ++ "?") entry) ↔
          entries.items = [] := by
      simp [not_passes_marked, List.eq_nil_iff_forall_not_mem]
    simp only [empty]
  · exact (judgeEntries_of_no_entries written shape expected _).1
  · intro entries key item rest place shape front keyed
    have refused : store.answer .byKind (kind.name ++ "?") item = .ok false := by
      simpa [answer] using Kind.name_ne_marked (store.kind item) kind
    exact judgeEntries_of_first_refused written named drawn shape front refused keyed rfl

/-- Four numbers are no array of optional numbers, although each of them is an optional number; a
container without items is one of every kind of optional elements. -/
theorem list_of_marked_numbers :
    (withList.judge (.object ⟨4⟩) (.text "array<number?>") (withList.checkOf .null)).outcome =
        .ok (.rejected "[0] expected is number?, actual is number") ∧
      (withList.judge (.object ⟨3⟩) (.text "Array<number?>") (withList.checkOf .null)).outcome =
        .ok .accepted ∧
      ∀ item ∈ withList.itemsOf (.object ⟨4⟩), withList.kind item = .number ∧
        (withList.judge item (.text "number?") (withList.checkOf .null)).outcome =
          .ok .accepted := by
  have lower : ContainerKind.Spelled "array" := ⟨.array, by decide⟩
  have upper : ContainerKind.Spelled "Array" := ⟨.array, by decide⟩
  have string : withList.string? (.text "array<number?>") =
      some ("array" ++ "<" ++ (Kind.number.name ++ "?") ++ ">") := by decide
  have string' : withList.string? (.text "Array<number?>") =
      some ("Array" ++ "<" ++ (Kind.number.name ++ "?") ++ ">") := by decide
  obtain ⟨-, refused⟩ := marked_elements_are_refused (.object ⟨4⟩) lower string
  obtain ⟨empty, -⟩ := marked_elements_are_refused (.object ⟨3⟩) upper string'
  have ended := (refused ⟨_, rfl⟩).2 _ _ _ _ _ rfl rfl rfl
  refine ⟨ended, empty.mpr ⟨⟨_, rfl⟩, _, rfl, rfl, rfl⟩, ?_⟩
  decide

end Store

end Conform
