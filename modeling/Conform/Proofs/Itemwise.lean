import Conform.Proofs.Coverage

/-! The entries of a container are judged as values are judged by themselves: under a descriptor
without brackets and without the mark, the verdict on a container is the first verdict on one of
its items that is no acceptance, with the key of the item in front. The only exception is the name
`string` without a check, which every value meets by itself, but only strings meet as items. -/

namespace Conform

namespace Descriptor

variable {descriptor : Descriptor}

theorem withoutMark_of_unmarked
    (unmarked : descriptor.content.toList.getLast? ≠ some optionalMark) :
    descriptor.withoutMark = (descriptor, false) := by
  unfold withoutMark
  split
  · rename_i last rest reversed
    have spelled : descriptor.content.toList = rest.reverse ++ [last] := by
      simpa using congrArg List.reverse reversed
    have other : last ≠ optionalMark := by
      rintro rfl
      exact unmarked (by simp [spelled])
    simp [other]
  · rfl

theorem container?_of_unbracketed (unbracketed : '<' ∉ descriptor.content.toList) :
    descriptor.container? = pure none := by
  simp only [container?, Container.split?_eq_none.mpr unbracketed]

end Descriptor

namespace Store

variable {store : Store} {value item descriptor source : Value} {check : Check}
  {content shown : String} {entries : List (Value × Value)}

/-- A value by itself is judged by the check alone when the descriptor has neither brackets nor the
mark. -/
theorem judge_of_plain (written : ∃ form, store.form item = .ok form)
    (string : store.string? descriptor = some content)
    (titled : store.text descriptor = .ok shown) (unbracketed : '<' ∉ content.toList)
    (unmarked : content.toList.getLast? ≠ some optionalMark)
    (drawn : (store.checkOf source).outcome = .ok check) :
    (store.judge item descriptor (store.checkOf source)).SameAnswer
      (if check = .byKind ∧ content = Kind.string.name then return .accepted
      else store.judgeItem ⟨some content, shown⟩ check item) := by
  obtain ⟨form, formed⟩ := written
  have known := descriptor_of_string string titled
  have stripped : (⟨content, shown, false⟩ : Descriptor).withoutMark =
      (⟨content, shown, false⟩, false) := Descriptor.withoutMark_of_unmarked unmarked
  have bare : (⟨content, shown, false⟩ : Descriptor).container? = pure none :=
    Descriptor.container?_of_unbracketed unbracketed
  have required : ¬ ((⟨content, shown, false⟩ : Descriptor).withoutMark.2 = true ∧
      item.isAbsent = true) := by simp [stripped]
  refine (judge_sameAnswer_of_required ⟨shown, titled⟩ known required _).trans ?_
  simp only [formed, stripped, Run.ofExcept_ok, pure_bind]
  refine (Run.sameAnswer_bind_of_silent _ drawn (calls_checkOf source)).trans ?_
  simp only [judgeBare, bare, pure_bind]
  exact .refl _

end Store

end Conform
