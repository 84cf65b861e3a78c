import Mathlib.Data.List.Forall2
import Conform.Proofs.Tables

/-! Tables over copied rules. What a table answers depends on the entries of its mapping, on the
entries of the rules in it and on those of the mappings that stand for their checks, but not on
which objects these are: a table over copies of all of them answers the same. -/

namespace Conform

namespace Store

/-- A value that may stand for another one: that value itself, or a mapping with the same entries
in the same order. -/
def Repeats (store : Store) (one other : Value) : Prop :=
  one = other ∨
    ∃ entries, store.mapping? one = some entries ∧ store.mapping? other = some entries

/-- Entries with the same keys in the same order, and with related values under them. -/
abbrev Entrywise (related : Value → Value → Prop) (left right : List (Value × Value)) : Prop :=
  List.Forall₂ (fun one other => one.1 = other.1 ∧ related one.2 other.2) left right

/-- A rule that may stand for another one: that rule itself, or one that can be written as well
and repeats its parts. -/
inductive RepeatsRule (store : Store) : Value → Value → Prop where
  | same (rule : Value) : RepeatsRule store rule rule
  | rule {one other descriptor check check' : Value}
      (left : store.object? one = some (.rule descriptor check))
      (right : store.object? other = some (.rule descriptor check'))
      (checks : store.Repeats check check')
      (written : ∃ shown, store.form one = .ok shown)
      (written' : ∃ shown, store.form other = .ok shown) : RepeatsRule store one other
  | mapping {one other : Value} {entries entries' : List (Value × Value)}
      (left : store.mapping? one = some entries) (right : store.mapping? other = some entries')
      (alike : Entrywise store.Repeats entries entries')
      (written : ∃ shown, store.form one = .ok shown)
      (written' : ∃ shown, store.form other = .ok shown) : RepeatsRule store one other

/-- Rules by which every field is judged alike. -/
def JudgeAlike (store : Store) (one other : Value) : Prop :=
  ∀ name value, (store.judgeField name value one).SameAnswer (store.judgeField name value other)

def ruling (rule : Rule) : Value × Check := (rule.descriptor, rule.check)

/-- A table that gives the answers of another one. Only the records of what is wrong with a rule
may show that the objects are others. -/
structure Mirrors (store : Store) (table other : Value) : Prop where
  names : (Action.tableNames table store).1 = (Action.tableNames other store).1
  holds : ∀ name, store.holds table name = store.holds other name
  rule : ∀ name, (ruling <$> store.tableRuleOf table name).SameAnswer
    (ruling <$> store.tableRuleOf other name)
  field : ∀ name value, (store.judgeFieldByTable table name value).SameAnswer
    (store.judgeFieldByTable other name value)
  whole : ∀ value, (store.judgeByTable table value).SameAnswer (store.judgeByTable other value)
  validate : ∀ value message, (store.validate table value message).SameAnswer
    (store.validate other value message)

variable {store : Store} {one other name : Value} {left right : List (Value × Value)}
  {related : Value → Value → Prop}

theorem entrywise_of_refl (same : ∀ value, related value value) (entries : List (Value × Value)) :
    Entrywise related entries entries :=
  List.forall₂_same.mpr fun _ _ => ⟨rfl, same _⟩

theorem Entrywise.keys (alike : Entrywise related left right) :
    left.map Prod.fst = right.map Prod.fst := by
  induction alike with
  | nil => rfl
  | cons here _ inductionHypothesis => simp [here.1, inductionHypothesis]

/-- A key finds related values in entries that have the same keys. -/
theorem Entrywise.find? (alike : Entrywise related left right) (key : Value) :
    Option.Rel related (store.find? left key) (store.find? right key) := by
  induction alike with
  | nil => exact .none
  | @cons one other _ _ here _ inductionHypothesis =>
    obtain ⟨sameKey, values⟩ := here
    by_cases found : store.agrees one.1 key = true
    · have found' : store.agrees other.1 key = true := sameKey ▸ found
      simpa [Store.find?, found, found'] using Option.Rel.some values
    · have missed : store.agrees other.1 key = false := by
        rw [← sameKey]
        simpa using found
      simpa [Store.find?, found, missed] using inductionHypothesis

/-- Keys none of which is taken for another one are put into a new mapping one after another, each
with its own value. The induction is on the entries that are left. -/
theorem gathered_of_distinct {entries : List (Value × Value)}
    (distinct : entries.Pairwise fun one other => store.agrees one.1 other.1 = false) :
    store.gathered entries = entries := by
  have whole : ∀ rest before : List (Value × Value), before ++ rest = entries →
      rest.foldl (fun made entry =>
        store.put made entry.1 ((store.find? entries entry.1).getD entry.2)) before = entries := by
    intro rest
    induction rest with
    | nil => exact fun before same => (List.append_nil before).symm.trans same
    | cons entry rest inductionHypothesis =>
      intro before same
      have absent : ∀ earlier ∈ before, store.agrees earlier.1 entry.1 = false := by
        rw [← same, List.pairwise_append] at distinct
        exact fun earlier member => distinct.2.2 earlier member entry List.mem_cons_self
      have found : store.find? entries entry.1 = some entry.2 :=
        find?_of_distinct distinct (same ▸ List.mem_append_right _ List.mem_cons_self)
      rw [List.foldl_cons, found, Option.getD_some, put_of_absent absent]
      exact inductionHypothesis (before ++ [entry]) (by rw [List.append_assoc]; exact same)
  exact whole entries [] rfl

section Sources

/-- A mapping is no string, no check and no enumerated type, and is drawn from by its entries. -/
theorem string?_of_mapping (mapping : store.mapping? one = some left) : store.string? one = none := by
  obtain ⟨ref, form, rfl, read⟩ := exists_of_mapping mapping
  simp [string?, base, member?, object?, read]

theorem Repeats.string? (repeated : store.Repeats one other) :
    store.string? one = store.string? other := by
  rcases repeated with rfl | ⟨entries, here, there⟩
  · rfl
  · rw [string?_of_mapping here, string?_of_mapping there]

theorem Repeats.eq_of_string {content : String} (repeated : store.Repeats one other)
    (string : store.string? one = some content) : one = other := by
  rcases repeated with same | ⟨entries, here, -⟩
  · exact same
  · rw [string?_of_mapping here] at string
    cases string

/-- What is wrong with a mapping of values is never its being a mapping. -/
theorem checkOf_foreign_of_mapping (mapping : store.mapping? one = some left) :
    Foreign (store.checkOf one).outcome := by
  have named : Foreign (store.mappingName left) :=
    .bind (.mapM (fun _ => text_foreign _) _) fun _ => .ok _
  rw [checkOf_of_mapping mapping, enumerationOf_of_mapping mapping]
  simp only [Run.outcome_bind, Run.outcome_ofExcept]
  exact .bind (.bind named fun shown => enumerate_foreign shown _) fun _ => .ok _

theorem Repeats.checkOf (repeated : store.Repeats one other) :
    store.checkOf one = store.checkOf other := by
  rcases repeated with rfl | ⟨entries, here, there⟩
  · rfl
  · rw [checkOf_of_mapping here, checkOf_of_mapping there, enumerationOf_of_mapping here,
      enumerationOf_of_mapping there]

end Sources

section Rules

theorem Entrywise.find?_or_null (alike : Entrywise store.Repeats left right) (key : Value) :
    store.Repeats ((store.find? left key).getD .null) ((store.find? right key).getD .null) := by
  have both : Option.Rel store.Repeats (store.find? left key) (store.find? right key) :=
    alike.find? key
  generalize store.find? left key = here at both ⊢
  generalize store.find? right key = there at both ⊢
  cases both with
  | none => exact Or.inl rfl
  | some values => exact values

theorem RepeatsRule.ruleParts (repeated : store.RepeatsRule one other) :
    store.Repeats (store.ruleParts one).1 (store.ruleParts other).1 ∧
      store.Repeats (store.ruleParts one).2 (store.ruleParts other).2 := by
  cases repeated with
  | same => exact ⟨Or.inl rfl, Or.inl rfl⟩
  | rule left right checks =>
    simp only [Store.ruleParts, left, right]
    exact ⟨Or.inl rfl, checks⟩
  | mapping left right alike =>
    obtain ⟨form, here⟩ := object?_of_mapping? left
    obtain ⟨form', there⟩ := object?_of_mapping? right
    simp only [Store.ruleParts, left, right, here, there]
    exact ⟨alike.find?_or_null _, alike.find?_or_null _⟩

theorem RepeatsRule.written (repeated : store.RepeatsRule one other) :
    one = other ∨ (∃ shown, store.form one = .ok shown) ∧ ∃ shown, store.form other = .ok shown := by
  cases repeated with
  | same => exact Or.inl rfl
  | rule _ _ _ written written' => exact Or.inr ⟨written, written'⟩
  | mapping _ _ _ written written' => exact Or.inr ⟨written, written'⟩

/-- Repeated rules are drawn alike, and what is wrong with them is the same. -/
theorem RepeatsRule.ruleOf (repeated : store.RepeatsRule one other) (name : Value) :
    (ruling <$> store.ruleOf name one).SameAnswer (ruling <$> store.ruleOf name other) := by
  constructor
  · obtain ⟨descriptors, sources⟩ := repeated.ruleParts
    simp only [Run.outcome_map, outcome_ruleOf, descriptors.string?]
    split
    · rcases repeated.written with rfl | ⟨⟨shown, written⟩, shown', written'⟩
      · rfl
      · rw [written, written']
        rfl
    · rename_i stringy
      obtain ⟨content, string⟩ : ∃ content, store.string? (store.ruleParts other).1 = some content :=
        Option.ne_none_iff_exists'.mp (by simpa using stringy)
      have descriptor : (store.ruleParts one).1 = (store.ruleParts other).1 :=
        descriptors.eq_of_string (descriptors.string?.trans string)
      rw [sources.checkOf, descriptor]
      rcases sources with source | ⟨entries, -, mapping⟩
      · rw [source]
      · cases drawn : (store.checkOf (store.ruleParts other).2).outcome with
        | ok check => rfl
        | error fault =>
          have foreign : fault.isOwn = false := checkOf_foreign_of_mapping mapping fault drawn
          cases fault with
          | invalidCheck flaw => cases foreign
          | _ => rfl
  · simp only [Run.calls_map, calls_ruleOf]

theorem judgeField_eq (name value rule : Value) :
    store.judgeField name value rule = (do
      let (descriptor, check) ← ruling <$> store.ruleOf name rule
      match ← store.judge value descriptor (pure check) with
      | .accepted => return .accepted
      | .rejected reason =>
        let place ← Run.ofExcept (store.text name)
        return (Verdict.rejected reason).at place) := by
  rw [bind_map_left]
  rfl

theorem RepeatsRule.judgeField (repeated : store.RepeatsRule one other) (name value : Value) :
    (store.judgeField name value one).SameAnswer (store.judgeField name value other) := by
  rw [judgeField_eq, judgeField_eq]
  exact .bind (repeated.ruleOf name) fun _ _ => .refl _

/-- One step is a field judged by one rule or the other; all of them by induction over the
entries. -/
theorem Entrywise.judgeRules (alike : Entrywise store.JudgeAlike left right) (value : Value) :
    (store.judgeRules value left).SameAnswer (store.judgeRules value right) := by
  induction alike with
  | nil => exact .refl _
  | cons here _ inductionHypothesis =>
    rename_i entry entry' _ _ _
    obtain ⟨name, rule⟩ := entry
    obtain ⟨name', rule'⟩ := entry'
    obtain ⟨rfl, judged⟩ : name = name' ∧ store.JudgeAlike rule rule' := here
    rw [judgeRules_cons, judgeRules_cons]
    refine .bind ?judged fun verdict _ => ?onward
    case judged => exact .bind (.refl _) fun field _ => judged name field
    case onward =>
      cases verdict with
      | accepted => exact inductionHypothesis
      | rejected reason => exact .refl _

/-- Fields are judged alike by mappings of rules that judge alike. -/
theorem Entrywise.judgeFields {rules rules' : Value} (alike : Entrywise store.JudgeAlike left right)
    (here : store.mapping? rules = some left) (there : store.mapping? rules' = some right)
    (value : Value) :
    (store.judgeFields value rules).SameAnswer (store.judgeFields value rules') := by
  cases shaped : store.hasFields value with
  | false =>
    rw [judgeFields_of_shapeless _ shaped, judgeFields_of_shapeless _ shaped]
    exact .refl _
  | true =>
    rw [judgeFields_of_mapping shaped here, judgeFields_of_mapping shaped there]
    exact alike.judgeRules value

/-- Repeated rules judge alike. -/
theorem Entrywise.judgeAlike (alike : Entrywise store.RepeatsRule left right) :
    Entrywise store.JudgeAlike left right :=
  alike.imp fun _ _ ⟨sameKey, repeated⟩ => ⟨sameKey, repeated.judgeField⟩

end Rules

section Tables

variable {table table' rules rules' : Ref} {form form' : MappingForm}

/-- The rule that a table has for a name is repeated in a table over repeated rules. -/
theorem Entrywise.tableRule (alike : Entrywise store.RepeatsRule left right)
    (here : store.Tabulates table rules form left)
    (there : store.Tabulates table' rules' form' right) {next next' : Value → Run α}
    (answers : ∀ rule rule', store.RepeatsRule rule rule' → (next rule).SameAnswer (next' rule'))
    (name : Value) :
    (Run.ofExcept (store.tableRule (.object table) name) >>= next).SameAnswer
      (Run.ofExcept (store.tableRule (.object table') name) >>= next') := by
  have both : Option.Rel store.RepeatsRule (store.find? left name) (store.find? right name) :=
    alike.find? name
  rw [here.tableRule, there.tableRule]
  cases allowed : store.requireHashable name with
  | error fault => exact .refl _
  | ok done =>
    generalize store.find? left name = found at both ⊢
    generalize store.find? right name = found' at both ⊢
    cases both with
    | none =>
      cases titled : store.text name <;> exact .refl _
    | some repeated => simpa using answers _ _ repeated

/-- A table over repeated rules mirrors the table over the rules themselves. -/
theorem Entrywise.mirrors (alike : Entrywise store.RepeatsRule left right)
    (here : store.Tabulates table rules form left)
    (there : store.Tabulates table' rules' form' right) :
    store.Mirrors (.object table) (.object table') := by
  have whole (value : Value) : (store.judgeByTable (.object table) value).SameAnswer
      (store.judgeByTable (.object table') value) := by
    rw [here.judgeByTable, there.judgeByTable]
    exact alike.judgeAlike.judgeFields here.mapping? there.mapping? value
  refine ⟨?names, ?holds, ?rule, ?field, whole, ?validate⟩
  case names => rw [here.tableNames, there.tableNames, alike.keys]
  case holds =>
    intro name
    have both : Option.Rel store.RepeatsRule (store.find? left name) (store.find? right name) :=
      alike.find? name
    rw [here.holds, there.holds]
    generalize store.find? left name = found at both ⊢
    generalize store.find? right name = found' at both ⊢
    cases both <;> rfl
  case rule =>
    intro name
    simp only [tableRuleOf, map_bind]
    exact alike.tableRule here there (fun _ _ repeated => repeated.ruleOf name) name
  case field =>
    intro name value
    exact alike.tableRule here there (fun _ _ repeated => repeated.judgeField name value) name
  case validate =>
    intro value message
    exact .bind (whole value) fun _ _ => .refl _

end Tables

end Store

end Conform
