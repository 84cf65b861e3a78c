import Conform.Rule
import Conform.Proofs.Checks

namespace Conform

namespace Store

/-- A rule that can be reported when it is none, and that a check can be drawn from when it is. -/
structure RuleShown (store : Store) (rule : Value) : Prop where
  form : ∃ shown, store.form rule = .ok shown
  check : ∃ shown, store.form (store.ruleParts rule).2 = .ok shown
  drawable : store.Drawable (store.ruleParts rule).2

variable {store : Store} {name rule : Value}

/-- The descriptor and the check of a rule are inside it, but for a null in place of an absent
one. -/
theorem reaches_ruleParts (rule : Value) :
    (store.Reaches rule (store.ruleParts rule).1 ∨ (store.ruleParts rule).1 = .null) ∧
      (store.Reaches rule (store.ruleParts rule).2 ∨ (store.ruleParts rule).2 = .null) := by
  have found {entries : List (Value × Value)} (mapping : store.mapping? rule = some entries)
      (key : Value) : store.Reaches rule ((store.find? entries key).getD .null) ∨
        (store.find? entries key).getD .null = .null := by
    cases here : store.find? entries key with
    | none => exact Or.inr rfl
    | some held =>
      obtain ⟨entry, member, rfl⟩ := mem_of_find? here
      exact Or.inl (.part (mem_parts_of_mapping mapping entry member).2 .self)
  unfold Store.ruleParts
  split
  · rename_i type check here
    exact ⟨Or.inl (.part (mem_parts_of_object here (by simp [Object.parts])) .self),
      Or.inl (.part (mem_parts_of_object here (by simp [Object.parts])) .self)⟩
  · rename_i entries mapping _
    exact ⟨found mapping _, found mapping _⟩
  · split
    · exact ⟨Or.inl .self, Or.inr rfl⟩
    · exact ⟨Or.inr rfl, Or.inr rfl⟩

theorem Sound.ruleParts (sound : store.Sound rule) :
    store.Sound (store.ruleParts rule).1 ∧ store.Sound (store.ruleParts rule).2 := by
  have either {part : Value} (found : store.Reaches rule part ∨ part = .null) :
      store.Sound part := by
    rcases found with path | rfl
    · exact sound.reached path
    · exact sound_null
  obtain ⟨descriptor, check⟩ := store.reaches_ruleParts rule
  exact ⟨either descriptor, either check⟩

theorem ruleOf_of_shapeless {shown : String} (ruled : store.RuleShown rule)
    (titled : store.text name = .ok shown)
    (shapeless : (store.string? (store.ruleParts rule).1).isSome = false) :
    (store.ruleOf name rule).outcome = .error (.invalidRule shown none) := by
  obtain ⟨form, formed⟩ := ruled.form
  have none : store.string? (store.ruleParts rule).1 = none := by simpa using shapeless
  simp [ruleOf, none, titled, formed]

theorem ruleOf_of_unsupported {shown : String} (ruled : store.RuleShown rule)
    (titled : store.text name = .ok shown)
    (string : (store.string? (store.ruleParts rule).1).isSome = true)
    (other : ¬ store.Supports (store.ruleParts rule).2) :
    (store.ruleOf name rule).outcome =
      .error (.invalidRule shown
        (some (.unsupported (store.typeName (store.ruleParts rule).2)))) := by
  obtain ⟨form, formed⟩ := ruled.check
  obtain ⟨content, known⟩ := Option.isSome_iff_exists.mp string
  simp [ruleOf, known, checkOf_of_unsupported other, Run.outcome_recover, titled, formed]

theorem ruleOf_of_supported (ruled : store.RuleShown rule) (name : Value)
    (string : (store.string? (store.ruleParts rule).1).isSome = true)
    (supported : store.Supports (store.ruleParts rule).2) :
    ∃ check, (store.checkOf (store.ruleParts rule).2).outcome = .ok check ∧
      (store.ruleOf name rule).outcome =
        .ok ⟨(store.ruleParts rule).1, (store.ruleParts rule).2, check⟩ := by
  obtain ⟨check, drawn⟩ := checkOf_ok supported ruled.drawable
  obtain ⟨content, known⟩ := Option.isSome_iff_exists.mp string
  exact ⟨check, drawn, by simp [ruleOf, known, Run.outcome_recover, drawn]⟩

theorem calls_ruleOf (name rule : Value) : (store.ruleOf name rule).calls = [] := by
  unfold ruleOf
  split
  rename_i descriptor source _
  split
  · exact Run.calls_bind_of_silent _ fun _ => Run.calls_bind_of_silent _ fun _ => rfl
  · refine (Run.calls_bind_of_silent _ fun _ => rfl).trans ?_
    refine (Run.calls_recover _ fun fault => ?_).trans (calls_checkOf source)
    cases fault with
    | invalidCheck flaw =>
      exact Run.calls_bind_of_silent _ fun _ => Run.calls_bind_of_silent _ fun _ => rfl
    | _ => rfl

theorem outcome_ruleOf (name rule : Value) :
    (store.ruleOf name rule).outcome =
      if (store.string? (store.ruleParts rule).1).isNone then do
        let shown ← store.text name
        let _ ← store.form rule
        .error (.invalidRule shown none)
      else
        match (store.checkOf (store.ruleParts rule).2).outcome with
        | .ok check => .ok ⟨(store.ruleParts rule).1, (store.ruleParts rule).2, check⟩
        | .error (.invalidCheck flaw) => do
          let shown ← store.text name
          let _ ← store.form (store.ruleParts rule).2
          .error (.invalidRule shown (some flaw))
        | .error fault => .error fault := by
  unfold ruleOf
  split
  rename_i descriptor source parts
  simp only [parts]
  split
  · simp
  · simp only [Run.outcome_bind, Run.outcome_recover]
    cases drawn : (store.checkOf source).outcome with
    | ok check => rfl
    | error fault =>
      cases fault with
      | invalidCheck flaw =>
        simp only [Run.outcome_bind, Run.outcome_ofExcept, Run.outcome_write, Run.outcome_fail]
        cases store.text name with
        | error fault => rfl
        | ok shown =>
          cases store.form source <;> rfl
      | _ => rfl

/-- A rule that is drawn has the descriptor that is written, and a check drawn from the other
part. -/
theorem drawn_of_ruleOf {resolved : Rule} (drawn : (store.ruleOf name rule).outcome = .ok resolved) :
    resolved.descriptor = (store.ruleParts rule).1 ∧
      (store.checkOf (store.ruleParts rule).2).outcome = .ok resolved.check := by
  rw [outcome_ruleOf] at drawn
  split at drawn
  · obtain ⟨shown, -, drawn⟩ := ok_of_bind_ok drawn
    obtain ⟨form, -, drawn⟩ := ok_of_bind_ok drawn
    cases drawn
  · split at drawn
    · rename_i check made
      cases drawn
      exact ⟨rfl, made⟩
    · obtain ⟨shown, -, drawn⟩ := ok_of_bind_ok drawn
      obtain ⟨form, -, drawn⟩ := ok_of_bind_ok drawn
      cases drawn
    · cases drawn

end Store

end Conform
