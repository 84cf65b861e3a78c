import Mathlib.Data.List.Perm.Subperm
import Mathlib.Logic.Relation
import Conform.Proofs.Parts

/-! Writing succeeds: a value that lacks nothing and comes nowhere to be written inside itself
has a form, a text and a display. What may stand for itself inside its own form may hold itself. -/

namespace Conform

theorem writtenOr_ok {shown? : Option String} (written : shown?.isSome = true) :
    ∃ shown, writtenOr shown? = .ok shown := by
  obtain ⟨shown, rfl⟩ := Option.isSome_iff_exists.mp written
  exact ⟨shown, rfl⟩

/-- What the form of an object shows are its parts, but for texts. -/
theorem Object.mem_parts_of_written {object : Object} {self : Ref} {value : Value}
    (shown : value ∈ object.written self) :
    value ∈ object.parts ∨ ∃ content, value = .text content := by
  cases object with
  | mapping form entries =>
    cases form with
    | custom callable => simp [written] at shown
    | _ => exact Or.inl shown
  | sequence form items =>
    cases form with
    | custom callable => simp [written] at shown
    | _ => exact Or.inl shown
  | model whole =>
    obtain ⟨field, member, rfl⟩ := List.mem_map.mp shown
    rcases List.mem_append.mp member with own | extra
    · obtain ⟨held, inside, rfl⟩ := List.mem_map.mp own
      by_cases itself : held.2 = .object self
      · exact Or.inr ⟨_, if_pos itself⟩
      · simp only [if_neg itself]
        exact Or.inl (List.mem_append_left _ (List.mem_append_left _ (List.mem_map_of_mem inside)))
    · exact Or.inl (List.mem_append_right _ (List.mem_map_of_mem extra))
  | table own =>
    have found : own.named? "rules" = some value := by simpa [written] using shown
    exact Or.inl (Attributes.mem_parts_of_named? found)
  | enumeration name values =>
    simp only [written, List.mem_cons, List.not_mem_nil, or_false] at shown
    rcases shown with rfl | rfl
    · exact Or.inr ⟨name, rfl⟩
    · exact Or.inl (by simp [parts])
  | set frozen items => exact Or.inl shown
  | view part items => exact Or.inl shown
  | derived base => exact Or.inl shown
  | record whole => exact Or.inl shown
  | predicate test => exact Or.inl shown
  | rule type check => exact Or.inl shown
  | outcome ok error => exact Or.inl shown
  | container kindName element => exact Or.inl shown
  | _ => simp [written] at shown

namespace Store

variable {store : Store} {value part : Value} {ref : Ref}

theorem baseForm_ok {member : MemberOf} (suits : member.suits store = true)
    (based : member.type.base ≠ .plain) :
    ∃ shown, store.baseForm member.type.base member.value = .ok shown := by
  simp only [MemberOf.suits, Bool.and_eq_true] at suits
  replace suits := suits.2
  unfold baseForm
  cases base : member.type.base with
  | plain => exact absurd base based
  | integer =>
    rw [base] at suits
    obtain ⟨number, known, written⟩ := Option.any_eq_true _ _ |>.mp suits
    obtain ⟨shown, here⟩ := writtenOr_ok written
    exact ⟨shown, by simp [known, here]⟩
  | text | textual =>
    rw [base] at suits
    obtain ⟨content, known⟩ := Option.isSome_iff_exists.mp suits
    exact ⟨Text.quoted content, by cases store.integer? member.value <;> simp [known]⟩

theorem Sound.written (sound : store.Sound (.object ref))
    (shown : part ∈ (store.read ref).written ref) : store.Sound part := by
  rcases Object.mem_parts_of_written shown with held | ⟨content, rfl⟩
  · exact sound.object_part rfl held
  · exact sound_text content

theorem holds_of_written (shown : part ∈ (store.read ref).written ref) : store.Holds ref := by
  refine holds_of_read rfl fun vacant => ?_
  simp [vacant, Object.written] at shown

theorem mem_nodes_of_member {owner : Ref} {index : Nat} {member : MemberOf}
    (known : store.member? (.member owner index) = some member) :
    Value.member owner index ∈ store.nodes := by
  simp only [member?] at known
  split at known
  · rename_i type here
    have held : owner.address < store.size := holds_of_read here (by simp)
    obtain ⟨field, found, -⟩ := Option.map_eq_some_iff.mp known
    obtain ⟨bounded, -⟩ := List.getElem?_eq_some_iff.mp found
    refine List.mem_flatMap.mpr ⟨owner.address, List.mem_range.mpr held, ?_⟩
    simp [here, bounded]
  · simp at known

theorem mem_nodes_of_exposes (exposes : store.Exposes value part) : value ∈ store.nodes := by
  cases value with
  | object ref =>
    simp only [Exposes, exposed] at exposes
    split at exposes
    · simp at exposes
    · exact List.mem_flatMap.mpr
        ⟨ref.address, List.mem_range.mpr (holds_of_written exposes), by simp⟩
  | member owner index =>
    simp only [Exposes, exposed] at exposes
    split at exposes
    · rename_i member known
      exact mem_nodes_of_member known
    · simp at exposes
  | _ => simp [Exposes, exposed] at exposes

/-- The guarded objects that are opened are of the store and differ. -/
structure Opened (store : Store) (opened : List Ref) : Prop where
  distinct : opened.Nodup
  held : ∀ ref ∈ opened, ref.address < store.size

theorem Opened.length_le {opened : List Ref} (known : store.Opened opened) :
    opened.length ≤ store.size := by
  have distinct : (opened.map Ref.address).Nodup :=
    List.Pairwise.map _ (fun _ _ apart same => apart (congrArg Ref.mk same)) known.distinct
  have held : opened.map Ref.address ⊆ List.range store.size := by
    intro address member
    obtain ⟨ref, inside, rfl⟩ := List.mem_map.mp member
    exact List.mem_range.mpr (known.held ref inside)
  simpa using (distinct.subperm held).length_le

theorem Opened.cons {opened : List Ref} (known : store.Opened opened) (fresh : ref ∉ opened)
    (held : ref.address < store.size) : store.Opened (ref :: opened) where
  distinct := List.nodup_cons.mpr ⟨fresh, known.distinct⟩
  held := by simpa using ⟨held, known.held⟩

/-- The values written one inside the other since the last object was opened: they differ, and each
leads to the value that is written now. -/
structure Trail (store : Store) (trail : List Value) (value : Value) : Prop where
  distinct : trail.Nodup
  leads : ∀ earlier ∈ trail, Relation.TransGen store.Exposes earlier value

theorem Trail.length_le {trail : List Value} (known : store.Trail trail value) :
    trail.length ≤ store.nodes.length := by
  have held : trail ⊆ store.nodes := by
    intro earlier member
    obtain ⟨next, step, -⟩ := Relation.TransGen.head'_iff.mp (known.leads earlier member)
    exact mem_nodes_of_exposes step
  exact (known.distinct.subperm held).length_le

theorem Trail.cons {trail : List Value} (known : store.Trail trail value)
    (apart : ¬ Relation.TransGen store.Exposes value value) (step : store.Exposes value part) :
    store.Trail (value :: trail) part where
  distinct := List.nodup_cons.mpr ⟨fun again => apart (known.leads value again), known.distinct⟩
  leads := by
    simp only [List.mem_cons, forall_eq_or_imp]
    exact ⟨.single step, fun earlier member => (known.leads earlier member).tail step⟩

/-- The induction is on the depth. It is spent on opening an object, of which there are only so
many, or on one more value of a trail, in which none comes twice. -/
theorem Sound.formWithin (sound : store.Sound value) {depth : Nat} {opened : List Ref}
    (trail : List Value) (guards : store.Opened opened) (under : store.Trail trail value)
    (deep : (store.size - opened.length) * (store.nodes.length + 1) +
      (store.nodes.length - trail.length) < depth) :
    ∃ shown, store.formWithin depth opened value = .ok shown := by
  induction depth generalizing value opened trail with
  | zero => omega
  | succ depth inductionHypothesis =>
    have apart := sound.grounded value .self
    have further {part : Value} (inside : store.Sound part) (step : store.Exposes value part) :
        ∃ shown, store.formWithin depth opened part = .ok shown := by
      have longer := (under.cons apart step)
      have bounded := longer.length_le
      refine inductionHypothesis inside _ guards longer ?_
      simp only [List.length_cons] at bounded ⊢
      omega
    cases value with
    | member owner index =>
      simp only [Store.formWithin]
      cases known : store.member? (.member owner index) with
      | none => exact ⟨"<object>", rfl⟩
      | some member =>
        by_cases plain : member.type.base = .plain
        · obtain ⟨shown, written⟩ := further (sound.part (mem_parts_of_member known))
            (by simp [Exposes, exposed, known, plain])
          exact ⟨"<" ++ member.type.name ++ "." ++ member.name ++ ": " ++ shown ++ ">", by
            simp [plain, written]⟩
        · obtain ⟨shown, written⟩ := baseForm_ok (sound.suits known) plain
          exact ⟨"<" ++ member.type.name ++ "." ++ member.name ++ ": " ++ shown ++ ">", by
            simp [plain, written]⟩
    | object ref =>
      simp only [Store.formWithin]
      split
      · rename_i ellipsis guarded
        split
        · exact ⟨_, rfl⟩
        · rename_i fresh
          have held : ref.address < store.size := by
            refine holds_of_read rfl fun vacant => ?_
            simp [vacant, Object.ellipsis?, Object.frozen?] at guarded
          have wider := guards.cons fresh held
          have bounded := wider.length_le
          refine Object.formWith_ok (sound.wellFormed.isComplete rfl) (sound.isLegible rfl)
            fun part shown => ?_
          refine inductionHypothesis (sound.written shown) [] wider ⟨.nil, by simp⟩ ?_
          simp only [List.length_cons, List.length_nil] at bounded ⊢
          have fewer : store.size - opened.length = store.size - (opened.length + 1) + 1 := by omega
          rw [fewer, Nat.add_one_mul] at deep
          omega
      · rename_i unguarded
        refine Object.formWith_ok (sound.wellFormed.isComplete rfl) (sound.isLegible rfl)
          fun part shown => ?_
        exact further (sound.written shown) (by simpa [Exposes, exposed, unguarded] using shown)
    | number known =>
      obtain ⟨shown, written⟩ := writtenOr_ok sound.ownLegible
      exact ⟨shown, written⟩
    | _ => exact ⟨_, rfl⟩

theorem Sound.form (sound : store.Sound value) : ∃ shown, store.form value = .ok shown := by
  refine sound.formWithin [] ⟨.nil, by simp⟩ ⟨.nil, by simp⟩ ?_
  simp only [formDepth, List.length_nil, Nat.sub_zero]
  rw [Nat.add_one_mul]
  omega

theorem Sound.text (sound : store.Sound value) : ∃ shown, store.text value = .ok shown := by
  cases value with
  | member owner index =>
    simp only [Store.text]
    split
    · rename_i known
      have suits := sound.suits known
      simp only [MemberOf.suits, Bool.and_eq_true] at suits
      exact writtenOr_ok (Number.text?_isSome_of_form? suits.1)
    all_goals exact ⟨_, rfl⟩
  | object ref =>
    simp only [Store.text]
    split
    · exact ⟨_, rfl⟩
    · exact ⟨_, rfl⟩
    · exact ⟨_, rfl⟩
    · rename_i entries here
      have held : ref.address < store.size := holds_of_read here nofun
      refine Object.formWith_ok rfl rfl fun part shown => ?_
      have inside : part ∈ (store.read ref).written ref := by simpa [here, Object.written] using shown
      refine (sound.written inside).formWithin [] ⟨by simp, by simpa using held⟩
        ⟨.nil, by simp⟩ ?_
      simp only [formDepth, List.length_nil, List.length_singleton, Nat.sub_zero]
      have fewer : (store.size - 1) * (store.nodes.length + 1) ≤
          store.size * (store.nodes.length + 1) := Nat.mul_le_mul_right _ (Nat.sub_le _ _)
      rw [Nat.add_one_mul]
      omega
    · rename_i whole here
      refine map_ok_of_ok (String.intercalate " ") (mapM_ok_of_each _ fun field member => ?_)
      have inside : field.2 ∈ (store.read ref).written ref := by
        simpa [here, Object.written] using List.mem_map_of_mem (f := Prod.snd) member
      obtain ⟨shown, known⟩ := (sound.written inside).form
      exact ⟨field.1 ++ "=" ++ shown, by simp [known]⟩
    · exact sound.form
  | number known => exact writtenOr_ok (Number.text?_isSome_of_form? sound.ownLegible)
  | text content => exact ⟨_, rfl⟩
  | wrapped content => exact ⟨_, rfl⟩
  | decimal decimal => exact ⟨_, rfl⟩
  | _ => exact sound.form

theorem display_of_text (written : ∃ shown, store.text value = .ok shown) :
    ∃ shown, store.display value = .ok shown := by
  unfold Store.display
  split
  · exact ⟨_, rfl⟩
  · exact ⟨_, rfl⟩
  · exact ⟨_, rfl⟩
  · exact written

end Store

end Conform
