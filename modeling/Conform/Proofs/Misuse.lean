import Conform.Proofs.Acceptance
import Conform.Proofs.Attributes
import Conform.Proofs.Fields

/-! Misuse: the checks end by a fault for what the caller got wrong, a check or a descriptor
or a rule, and never for the value that is checked. -/

namespace Conform

namespace Store

/-- An absent value under an optional type, for which the rest of the descriptor and the check
are not looked at. -/
def Waived (descriptor : Descriptor) (value : Value) : Prop :=
  descriptor.content.toList.getLast? = some optionalMark ∧ value.isAbsent = true

/-- What a caller can get wrong about the rule for a field: it has no string for a descriptor,
its check has the wrong shape, or else the brackets of its descriptor are not in order. -/
inductive RuleMisuse (store : Store) (name value rule : Value) : Fault → Prop where
  | shapeless {shown : String} (titled : store.text name = .ok shown)
      (shapeless : (store.string? (store.ruleParts rule).1).isSome = false) :
      RuleMisuse store name value rule (.invalidRule shown none)
  | check {shown : String} (titled : store.text name = .ok shown)
      (string : (store.string? (store.ruleParts rule).1).isSome = true)
      (other : ¬ store.Supports (store.ruleParts rule).2) :
      RuleMisuse store name value rule
        (.invalidRule shown (some (.unsupported (store.typeName (store.ruleParts rule).2))))
  | descriptor {written : Descriptor} {flaw : DescriptorFlaw}
      (string : (store.string? (store.ruleParts rule).1).isSome = true)
      (supported : store.Supports (store.ruleParts rule).2)
      (known : store.descriptor (store.ruleParts rule).1 = .ok written)
      (required : ¬ Waived written value)
      (malformed : Container.split? written.withoutMark.1.content.toList = .error flaw) :
      RuleMisuse store name value rule
        (.malformedDescriptor flaw written.withoutMark.1.shown)

/-- What a caller can get wrong about rules: the first field that is not accepted has a rule
that is misused. Rules behind it do not count. -/
inductive RulesMisuse (store : Store) (value : Value) : List (Value × Value) → Fault → Prop where
  | here {name held rule : Value} {rest : List (Value × Value)} {fault : Fault}
      (read : store.field value name = .ok held)
      (misuse : RuleMisuse store name held rule fault) :
      RulesMisuse store value ((name, rule) :: rest) fault
  | later {entry : Value × Value} {rest : List (Value × Value)} {fault : Fault}
      (accepted : store.Accepted value entry) (deeper : RulesMisuse store value rest fault) :
      RulesMisuse store value (entry :: rest) fault

/-- The test that a value stands for, if any, ends none of the calls by a fault that judging a
value makes of it. -/
def Calm (store : Store) (value : Value) (descriptor : Descriptor) (source : Value) : Prop :=
  ∀ check, (store.checkOf source).outcome = .ok check →
    store.Steady check (store.examined descriptor.withoutMark.1.content value)

/-- The same of the test that a rule comes with. -/
def CalmRule (store : Store) (field rule : Value) : Prop :=
  ∀ descriptor, store.descriptor (store.ruleParts rule).1 = .ok descriptor →
    store.Calm field descriptor (store.ruleParts rule).2

variable {store : Store} {value descriptor source name field rule : Value} {content : String}
  {written : Descriptor} {fault : Fault}

theorem waived_iff : Waived written value ↔
    written.withoutMark.2 = true ∧ value.isAbsent = true := by
  obtain ⟨spelled, unmarked⟩ := written.content_withoutMark
  constructor
  · rintro ⟨marked, absent⟩
    cases last : written.withoutMark.2 with
    | true => exact ⟨rfl, absent⟩
    | false => exact absurd marked (unmarked last)
  · rintro ⟨optional, absent⟩
    refine ⟨?_, absent⟩
    rw [spelled, optional]
    simp

theorem exists_descriptor (string : store.string? descriptor = some content) :
    ∃ written, store.descriptor descriptor = .ok written := by
  obtain ⟨shown, titled⟩ := text_of_string string
  exact ⟨_, descriptor_of_string string titled⟩

/-- A judgement under a check that is drawn already ends by a fault for the brackets of the
descriptor only. -/
theorem judge_of_drawn {check : Check} {drawing : Run Check} (shown : store.ShownWhole value)
    (string : store.string? descriptor = some content)
    (known : store.descriptor descriptor = .ok written) (drawn : drawing.outcome = .ok check)
    (steady : store.Steady check (store.examined written.withoutMark.1.content value)) :
    (store.judge value descriptor drawing).outcome = .error fault ↔
      ¬ Waived written value ∧ ∃ flaw,
        Container.split? written.withoutMark.1.content.toList = .error flaw ∧
          fault = .malformedDescriptor flaw written.withoutMark.1.shown := by
  have titled := text_of_string string
  by_cases waived : Waived written value
  · obtain ⟨optional, absent⟩ := waived_iff.mp waived
    rw [(judge_of_optional shown.toShown titled known optional absent drawing).1]
    simp [waived]
  · rw [judge_of_required shown.toShown titled known (mt waived_iff.mpr waived), drawn, ok_bind]
    cases parsed : Container.split? written.withoutMark.1.content.toList with
    | error flaw =>
      rw [judgeBare_of_flaw parsed]
      simp [waived, eq_comm]
    | ok parts =>
      obtain ⟨verdict, ended, -⟩ :=
        judgeBare_settles parsed shown.toShown (fun _ _ _ _ => shown) steady
      simp [ended]

theorem judgeContainer_error_iff (shown : store.ShownWhole value) (drawable : store.Drawable source)
    (string : store.string? descriptor = some content)
    (calm : ∀ check, (store.checkOf source).outcome = .ok check →
      store.Steady check (store.itemsOf value)) :
    (store.judgeContainer value descriptor source).outcome = .error fault ↔
      (store.entries? value).isSome = true ∧ ¬ store.Supports source ∧
        fault = .invalidCheck (.unsupported (store.typeName source)) := by
  obtain ⟨title, titled⟩ := text_of_string string
  have named : (⟨some content, title⟩ : Expectation).content? = some content := rfl
  have judged : (store.judgeContainer value descriptor source).outcome =
      (store.judgeEntries value ⟨some content, title⟩ (store.checkOf source)).outcome := by
    simp [judgeContainer, expectation_of_string string titled]
  rw [judged]
  by_cases supported : store.Supports source
  · obtain ⟨check, drawn⟩ := checkOf_ok supported drawable
    obtain ⟨verdict, ended, -⟩ := judgeEntries_settles shown named drawn (calm check drawn)
    simp [ended, supported]
  · cases shape : store.entries? value with
    | none =>
      rw [(judgeEntries_of_no_entries shown.form shape _ _).1]
      simp
    | some entries =>
      obtain ⟨form, formed⟩ := shown.form
      simp [judgeEntries, formed, shape, checkOf_of_unsupported supported, supported, eq_comm]

/-- With a rule that is valid and a name that can be written, only the judgement may fault. -/
theorem judgeField_error_of_valid {resolved : Rule} {shown : String}
    (valid : (store.ruleOf name rule).outcome = .ok resolved)
    (titled : store.text name = .ok shown) :
    (store.judgeField name value rule).outcome = .error fault ↔
      (store.judge value resolved.descriptor (pure resolved.check)).outcome = .error fault := by
  rw [judgeField_of_valid valid]
  dsimp only
  cases (store.judge value resolved.descriptor (pure resolved.check)).outcome with
  | error other => rfl
  | ok verdict => cases verdict <;> simp [titled]

theorem judgeField_error_of_titled {title : String} (shown : store.ShownWhole value)
    (ruled : store.RuleShown rule) (titled : store.text name = .ok title)
    (calm : store.CalmRule value rule) :
    (store.judgeField name value rule).outcome = .error fault ↔
      store.RuleMisuse name value rule fault := by
  cases string : (store.string? (store.ruleParts rule).1).isSome with
  | false =>
    rw [judgeField_of_invalid (ruleOf_of_shapeless ruled titled string)]
    constructor
    · intro failed
      cases failed
      exact .shapeless titled string
    · intro misuse
      cases misuse with
      | shapeless other =>
        rw [Except.ok.inj (other.symm.trans titled)]
      | check _ same => simp [string] at same
      | descriptor same => simp [string] at same
  | true =>
    by_cases supported : store.Supports (store.ruleParts rule).2
    · obtain ⟨check, drawn, resolved⟩ := ruleOf_of_supported ruled name string supported
      obtain ⟨spelled, isString⟩ := Option.isSome_iff_exists.mp string
      obtain ⟨written, known⟩ := exists_descriptor isString
      have steady := calm written known check drawn
      have drawing : (pure check : Run Check).outcome = .ok check := rfl
      rw [judgeField_error_of_valid resolved titled,
        judge_of_drawn shown isString known drawing steady]
      constructor
      · rintro ⟨required, flaw, malformed, rfl⟩
        exact .descriptor string supported known required malformed
      · intro misuse
        cases misuse with
        | shapeless _ same => simp [string] at same
        | check _ _ other => exact absurd supported other
        | descriptor _ _ same required malformed =>
          obtain rfl := Except.ok.inj (known.symm.trans same)
          exact ⟨required, _, malformed, rfl⟩
    · rw [judgeField_of_invalid (ruleOf_of_unsupported ruled titled string supported)]
      constructor
      · intro failed
        cases failed
        exact .check titled string supported
      · intro misuse
        cases misuse with
        | shapeless _ same => simp [string] at same
        | check other => rw [Except.ok.inj (other.symm.trans titled)]
        | descriptor _ same => exact absurd same supported

/-- A misused rule is an invalid rule or a malformed descriptor; that its check is wrong does
not show but as the cause. -/
theorem RuleMisuse.family (misuse : store.RuleMisuse name value rule fault) :
    fault.family = .invalidRule ∨ fault.family = .invalidDescriptor := by
  cases misuse with
  | shapeless => exact Or.inl rfl
  | check => exact Or.inl rfl
  | descriptor => exact Or.inr rfl

theorem RulesMisuse.family {entries : List (Value × Value)}
    (misuse : store.RulesMisuse value entries fault) :
    fault.family = .invalidRule ∨ fault.family = .invalidDescriptor := by
  induction misuse with
  | here _ misuse => exact misuse.family
  | later _ _ inductionHypothesis => exact inductionHypothesis

end Store

end Conform
