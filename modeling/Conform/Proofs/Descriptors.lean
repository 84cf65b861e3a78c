import Mathlib.Data.List.TakeWhile
import Conform.Descriptor
import Conform.Proofs.Checks

namespace Conform

namespace Descriptor

/-- The mark is one last character: what is left is all in front of it, and a descriptor
without the mark stays as it is. -/
theorem content_withoutMark (descriptor : Descriptor) :
    descriptor.content.toList = descriptor.withoutMark.1.content.toList ++
        (if descriptor.withoutMark.2 = true then [optionalMark] else []) ∧
      (descriptor.withoutMark.2 = false →
        descriptor.content.toList.getLast? ≠ some optionalMark) := by
  unfold withoutMark
  split
  · rename_i last rest reversed
    have spelled : descriptor.content.toList = rest.reverse ++ [last] := by
      simpa using congrArg List.reverse reversed
    by_cases marked : last = optionalMark
    · simp [marked, spelled, ofContent]
    · simp [marked, spelled]
  · rename_i reversed
    have empty : descriptor.content.toList = [] := by simpa using reversed
    simp [empty]

end Descriptor

namespace Container

variable {chars : List Char}

/-- Exactly the texts without an opening bracket name no container. -/
theorem split?_eq_none : split? chars = .ok none ↔ '<' ∉ chars := by
  have outside : chars.dropWhile (· ≠ '<') = [] ↔ '<' ∉ chars := by
    rw [List.dropWhile_eq_nil_iff]
    constructor
    · intro each member
      simpa using each '<' member
    · intro absent char member
      simpa using ne_of_mem_of_not_mem member absent
  rw [← outside]
  unfold split?
  split
  · rename_i unbracketed
    exact iff_of_true rfl unbracketed
  · rename_i bracketed
    refine iff_of_false ?_ (by rw [bracketed]; exact List.cons_ne_nil _ _)
    dsimp only
    repeat' split
    all_goals simp

end Container

namespace Descriptor

theorem outcome_container? (descriptor : Descriptor) :
    descriptor.container?.outcome =
      match Container.split? descriptor.content.toList with
      | .ok none => .ok none
      | .ok (some (kindChars, elementChars)) =>
        .ok (some ⟨String.ofList kindChars, String.ofList elementChars, descriptor.wrapped⟩)
      | .error flaw => .error (.malformedDescriptor flaw descriptor.shown) := by
  cases parsed : Container.split? descriptor.content.toList with
  | error flaw => cases flaw <;> simp [container?, parsed]
  | ok parts =>
    cases parts with
    | none => simp [container?, parsed]
    | some parts => simp [container?, parsed]

end Descriptor

namespace ContainerKind

def Spelled (name : String) : Prop :=
  ∃ kind : ContainerKind, kind.name.toList = name.toList.map Char.toLower

theorem ofName?_isSome_iff {name : String} : (ofName? name).isSome = true ↔ Spelled name := by
  have listed (kind : ContainerKind) : kind ∈ all := by
    cases kind <;> decide
  simp [ofName?, Spelled, listed]

end ContainerKind

namespace Store

variable {store : Store} {descriptor : Value} {content : String}

theorem descriptor_of_string {shown : String} (string : store.string? descriptor = some content)
    (written : store.text descriptor = .ok shown) :
    store.descriptor descriptor = .ok ⟨content, shown, false⟩ := by
  simp [Store.descriptor, base_of_string string, written]

end Store

end Conform
