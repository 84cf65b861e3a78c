import Conform.Proofs.LiveTables
import Conform.Proofs.QuietGrowth

/-! Normal forms of checks and rules. A check object stands for itself, and so does a rule object
that holds one. What a value is drawn to and the object made from it are judged by alike, so an
argument or any of the rules of a table can be replaced by its normal form. -/

namespace Conform

/-- A check apart from the name of its enumeration, which no judgement of a value shows. -/
def Check.unnamed : Check → Check
  | .enumeration drawn => .enumeration ⟨"", drawn.values⟩
  | check => check

namespace Run

/-- Two runs that draw a check, one as good as the other, and call nothing. -/
def DrawAlike (one other : Run Check) : Prop :=
  ∃ check check', one.outcome = .ok check ∧ other.outcome = .ok check' ∧
    check.unnamed = check'.unnamed ∧ one.calls = [] ∧ other.calls = []

theorem DrawAlike.bind {one other : Run Check} {next : Check → Run β} (alike : one.DrawAlike other)
    (blind : ∀ check, next check.unnamed = next check) :
    (one >>= next).SameAnswer (other >>= next) := by
  obtain ⟨check, check', drawn, drawn', same, silent, silent'⟩ := alike
  have answers : next check = next check' := by rw [← blind check, same, blind check']
  rw [bind_of_ok one next check drawn, bind_of_ok other next check' drawn', answers]
  exact ⟨rfl, by rw [silent, silent']⟩

end Run

namespace Store

variable {store later last : Store} {source made value descriptor name : Value} {check : Check}

section Judgements

theorem judgeItem_unnamed (expected : Expectation) (check : Check) (item : Value) :
    store.judgeItem expected check.unnamed item = store.judgeItem expected check item := by
  cases check <;> rfl

theorem judgeEach_unnamed (expected : Expectation) (check : Check) (fault? : Option Fault)
    (entries : List (Value × Value)) :
    store.judgeEach expected check.unnamed fault? entries =
      store.judgeEach expected check fault? entries := by
  induction entries with
  | nil => rfl
  | cons entry rest inductionHypothesis =>
    simp only [judgeEach, judgeItem_unnamed, inductionHypothesis]

theorem unnamed_eq_byKind : check.unnamed = .byKind ↔ check = .byKind := by
  cases check <;> simp [Check.unnamed]

theorem judgeBare_unnamed (value : Value) (bare : Descriptor) (check : Check) :
    store.judgeBare value bare check.unnamed = store.judgeBare value bare check := by
  simp only [judgeBare, judgeEntries, pure_bind, judgeAll_eq, judgeEach_unnamed,
    judgeItem_unnamed, unnamed_eq_byKind]

theorem judge_alike {one other : Run Check} (alike : one.DrawAlike other)
    (value descriptor : Value) :
    (store.judge value descriptor one).SameAnswer (store.judge value descriptor other) := by
  refine .bind (.refl _) fun form _ => .bind (.refl _) fun shown _ => .bind (.refl _) fun _ _ =>
    .bind (.refl _) fun written _ => ?_
  dsimp only
  split
  · exact .refl _
  · exact alike.bind (judgeBare_unnamed value _)

end Judgements

section Checks

theorem allocEnumeration_quiet {drawn : Enumeration}
    (settled : (Action.allocEnumeration drawn).Settles store made later) :
    store.GrowsQuietly later := by
  obtain ⟨rfl, rfl⟩ := settled.unique
    (.bind (Action.settles_alloc _) (Action.settles_alloc _))
  exact (growsQuietly_alloc _ rfl).trans (growsQuietly_alloc _ rfl)

theorem MakesCheck.quiet (makes : store.MakesCheck source check made later) :
    store.GrowsQuietly later := by
  cases makes with
  | null | built | byKind => exact .refl store
  | predicate => exact growsQuietly_alloc store rfl
  | enumeration _ _ settled => exact allocEnumeration_quiet settled

theorem drawn_cases (present : source ≠ .null) (unchecked : store.check? source = none)
    (drawn : (store.checkOf source).outcome = .ok check) :
    (∃ values enumeration, check = .enumeration enumeration ∧ store.Declares source values ∧
      (store.enumerationOf source).outcome = .ok enumeration) ∨
    (check = .predicate source ∧ store.enumType? source = none ∧ store.mapping? source = none ∧
      store.callable source = true) := by
  rw [checkOf, if_neg present, unchecked] at drawn
  dsimp only at drawn
  split at drawn
  · rename_i declared
    rw [Run.outcome_bind] at drawn
    obtain ⟨enumeration, ran, made⟩ := ok_of_bind_ok drawn
    cases made
    left
    cases typed : store.enumType? source with
    | some found => exact ⟨_, enumeration, rfl, .type typed, ran⟩
    | none =>
      cases mapped : store.mapping? source with
      | some entries => exact ⟨_, enumeration, rfl, .mapping mapped, ran⟩
      | none => simp [typed, mapped] at declared
  · rename_i undeclared
    split at drawn
    · rename_i callable
      cases drawn
      simp only [Bool.or_eq_true, not_or, Bool.not_eq_true, Option.isSome_eq_false_iff,
        Option.isNone_iff_eq_none] at undeclared
      exact .inr ⟨rfl, undeclared.1, undeclared.2, callable⟩
    · cases drawn

theorem exists_object_of_check (known : (store.check? source).isSome = true) :
    ∃ object, store.object? source = some object ∧ object ≠ .bare := by
  cases source with
  | object ref =>
    refine ⟨store.read ref, rfl, fun bare => ?_⟩
    simp [check?, enumeration?, object?, bare] at known
  | _ => cases known

/-- Whether a value is a check already depends on its object alone. -/
theorem isSome_check?_congr (same : later.object? value = store.object? value) :
    (later.check? value).isSome = (store.check? value).isSome := by
  simp only [check?, enumeration?, same]
  split <;> simp
  split <;> rfl

/-- What is drawn from declared values is an enumeration. -/
theorem checkOf_of_declares {values : List Value} (declares : store.Declares source values) :
    store.checkOf source = (do return .enumeration (← store.enumerationOf source)) := by
  cases declares with
  | mapping found => exact checkOf_of_mapping found
  | type found =>
    obtain ⟨rfl, here⟩ := eq_of_enumType found
    simp [checkOf, check?, enumeration?, object?, here, found]

/-- A value that is called for its answer is drawn to a predicate as long as its object stays. -/
theorem Grows.checkOf_of_callable (grows : store.Grows later)
    (unchecked : store.check? source = none) (untyped : store.enumType? source = none)
    (unmapped : store.mapping? source = none) (callable : store.callable source = true) :
    later.checkOf source = return .predicate source := by
  have alike : later.object? source = store.object? source ∧
      later.callable source = store.callable source := by
    cases source with
    | object ref =>
      have known : store.read ref ≠ .bare := by
        intro bare
        simp [Store.callable, bare] at callable
      have kept := grows.kept ref (holds_of_read rfl known)
      simp only [Store.object?, Store.callable, kept, and_self]
    | _ => exact ⟨rfl, rfl⟩
  have present : source ≠ .null := by
    rintro rfl
    cases callable
  have unchecked' : later.check? source = none := by
    simpa [unchecked] using isSome_check?_congr alike.1
  have untyped' : later.enumType? source = none := by
    simpa only [enumType?, alike.1] using untyped
  have unmapped' : later.mapping? source = none := by
    simpa only [Store.mapping?, alike.1] using unmapped
  simp [Store.checkOf, present, unchecked', untyped', unmapped', alike.2, callable]

/-- A value is drawn like a check object that differs from its check in a name at most. -/
theorem drawAlike_of_check {known : Check} (built : store.check? made = some known)
    (drawn : (store.checkOf source).outcome = .ok check) (same : check.unnamed = known.unnamed) :
    (store.checkOf source).DrawAlike (store.checkOf made) := by
  rw [checkOf_of_check built]
  exact ⟨check, known, drawn, rfl, same, calls_checkOf source, rfl⟩

/-- A check object and the value that it was made from are drawn alike from then on, as long as
the value can be drawn at all. -/
theorem drawAlike_of_makesCheck {again : Check} (shared : store.object? .noCheck = some .noCheck)
    (drawn : (store.checkOf source).outcome = .ok check)
    (makes : store.MakesCheck source check made later) (quiet : later.GrowsQuietly last)
    (drawn' : (last.checkOf source).outcome = .ok again) :
    (last.checkOf source).DrawAlike (last.checkOf made) := by
  have whole : store.GrowsQuietly last := makes.quiet.trans quiet
  cases makes with
  | null absent =>
    subst absent
    have kept : last.object? .noCheck = some .noCheck := whole.toGrows.object? shared nofun
    have known : last.check? .noCheck = some .byKind := by simp only [check?, kept]
    exact drawAlike_of_check known rfl rfl
  | built present known =>
    obtain ⟨object, here, used⟩ := exists_object_of_check known
    have kept : last.object? source = store.object? source :=
      (whole.toGrows.object? here used).trans here.symm
    obtain ⟨one, known'⟩ :=
      Option.isSome_iff_exists.mp ((isSome_check?_congr kept).trans known)
    exact drawAlike_of_check known' (congrArg Run.outcome (checkOf_of_check known')) rfl
  | byKind present unchecked => exact absurd rfl (ne_byKind_of_drawn present unchecked drawn)
  | predicate present unchecked =>
    rcases drawn_cases present unchecked drawn with ⟨values, enumeration, other, -⟩ |
      ⟨same, untyped, unmapped, callable⟩
    · cases other
    · cases same
      have kept : last.object? (.object store.next) = some (.predicate source) :=
        quiet.toGrows.object? (congrArg some (read_alloc_next store _)) (by simp)
      have known : last.check? (.object store.next) = some (.predicate source) := by
        simp only [check?, kept]
      refine drawAlike_of_check known ?_ rfl
      rw [whole.toGrows.checkOf_of_callable unchecked untyped unmapped callable]
      rfl
  | @enumeration built _ _ present unchecked settled =>
    rcases drawn_cases present unchecked drawn with ⟨values, enumeration, same, declares, ran⟩ |
      ⟨other, -⟩
    · cases same
      have known := check?_of_enumeration (enumeration_stays settled quiet.toGrows.evolves)
      have drawing := drawn'
      rw [checkOf_of_declares (whole.declares declares), Run.outcome_bind] at drawing
      obtain ⟨renamed, ran', same⟩ := ok_of_bind_ok drawing
      cases same
      refine drawAlike_of_check known drawn' ?_
      simp only [Check.unnamed, whole.enumerationOf declares ran ran']
    · cases other

end Checks

section CheckObjects

end CheckObjects

section Rules

/-- The descriptor and the source of the check that a rule states: a string is the descriptor
itself, a rule object holds both, and a mapping has them under their names. -/
inductive States (store : Store) (rule : Value) : Value → Value → Prop where
  | string {content : String} (spelled : store.string? rule = some content) :
      States store rule rule .null
  | rule {descriptor source : Value} (here : store.object? rule = some (.rule descriptor source)) :
      States store rule descriptor source
  | mapping {entries : List (Value × Value)} (found : store.mapping? rule = some entries) :
      States store rule ((store.find? entries (.text "type")).getD .null)
        ((store.find? entries (.text "check")).getD .null)

variable {written : Value}

theorem States.ruleParts (states : store.States written descriptor source) :
    store.ruleParts written = (descriptor, source) := by
  cases states with
  | string spelled =>
    unfold Store.ruleParts
    split
    · rename_i here
      obtain ⟨ref, rfl, read⟩ := eq_object_of_object? here
      simp [string?, base, member?, here] at spelled
    · rename_i found _
      cases spelled.symm.trans (string?_of_mapping found)
    · simp [spelled]
  | rule here => simp only [Store.ruleParts, here]
  | mapping found =>
    obtain ⟨form, here⟩ := object?_of_mapping? found
    simp only [Store.ruleParts, here, found]

/-- Rules of one descriptor whose checks are drawn alike judge alike. -/
theorem judgeAlike_of_parts {one other source' : Value}
    (here : store.ruleParts one = (descriptor, source))
    (there : store.ruleParts other = (descriptor, source'))
    (stringy : (store.string? descriptor).isSome = true)
    (alike : (store.checkOf source).DrawAlike (store.checkOf source')) :
    store.JudgeAlike one other := by
  intro name value
  obtain ⟨check, check', drawn, drawn', same, -, -⟩ := alike
  have spelled : (store.string? descriptor).isNone = false := by
    simpa [Option.isSome_iff_ne_none] using stringy
  have first : (store.ruleOf name one).outcome = .ok ⟨descriptor, source, check⟩ := by
    simp [outcome_ruleOf, here, spelled, drawn]
  have second : (store.ruleOf name other).outcome = .ok ⟨descriptor, source', check'⟩ := by
    simp [outcome_ruleOf, there, spelled, drawn']
  have checks : (pure check : Run Check).DrawAlike (pure check') :=
    ⟨check, check', rfl, rfl, same, rfl, rfl⟩
  obtain ⟨placed, opened⟩ : ∃ placed : Verdict → Run Verdict, ∀ rule,
      store.judgeField name value rule = (do
        let resolved ← store.ruleOf name rule
        store.judge value resolved.descriptor (pure resolved.check) >>= placed) :=
    ⟨_, fun _ => rfl⟩
  have judged : (store.judge value descriptor (pure check) >>= placed).SameAnswer
      (store.judge value descriptor (pure check') >>= placed) :=
    .bind (judge_alike checks value descriptor) fun _ _ => .refl _
  rw [opened, opened, Run.bind_of_ok _ _ _ first, Run.bind_of_ok _ _ _ second, calls_ruleOf,
    calls_ruleOf]
  exact ⟨judged.outcome, congrArg ([] ++ ·) judged.calls⟩

/-- A rule object that was made from a rule which is still valid. Since then the store has grown
quietly. -/
def IsNormalForm (last : Store) (written made : Value) : Prop :=
  ∃ store later name, store.object? .noCheck = some .noCheck ∧
    (Action.rule fun current => current.ruleOf name written).Settles store made later ∧
    later.GrowsQuietly last ∧ ∃ resolved, (last.ruleOf name written).outcome = .ok resolved

theorem IsNormalForm.judgeAlike (normal : last.IsNormalForm written made) :
    last.JudgeAlike written made := by
  obtain ⟨store, later, name, shared, settled, quiet, again, drawn'⟩ := normal
  obtain ⟨resolved, held, middle, drawn, placed, rfl, rfl⟩ := rule_settles settled
  obtain ⟨parts, stringy, checked⟩ := parts_of_ruleOf drawn
  have onward : middle.GrowsQuietly last :=
    (growsQuietly_alloc middle rfl).trans quiet
  have whole : store.GrowsQuietly last := (makesCheck placed).quiet.trans onward
  have parts' : last.ruleParts written = (resolved.descriptor, resolved.source) := by
    rw [whole.ruleParts (by rw [parts]; exact stringy), parts]
  have object : last.object? (.object middle.next) = some (.rule resolved.descriptor held) :=
    quiet.toGrows.object? (congrArg some (read_alloc_next middle _)) nofun
  obtain ⟨parts_again, -, checked'⟩ := parts_of_ruleOf drawn'
  obtain ⟨-, same⟩ := Prod.mk.inj (parts'.symm.trans parts_again)
  rw [← same] at checked'
  have alike := drawAlike_of_makesCheck shared checked (makesCheck placed) onward checked'
  refine judgeAlike_of_parts parts' (States.rule object).ruleParts ?_ alike
  rw [whole.string?]
  exact stringy

end Rules

end Store

end Conform
