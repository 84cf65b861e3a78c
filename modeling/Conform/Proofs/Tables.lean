import Conform.Table
import Conform.Proofs.Evolution
import Conform.Proofs.Fields
import Conform.Proofs.Foreign

/-! Rule tables read their rules anew. A table stays bound to its mapping whatever becomes of the
rules in it, and each of its operations is determined by the entries that the mapping has then:
which names are in the table, which rule belongs to a name, and what is judged by it. -/

namespace Conform

namespace Store

/-- A table bound to a mapping of rules, with the entries that the mapping has in a store. -/
structure Tabulates (store : Store) (table rules : Ref) (form : MappingForm)
    (entries : List (Value × Value)) : Prop where
  tableHeld : store.Holds table
  bound : store.read table = .table (.ofFields [("rules", .object rules)])
  rulesHeld : store.Holds rules
  contents : store.read rules = .mapping form entries

/-- Entries each of which is found under its own key. -/
def FindsOwn (store : Store) (entries : List (Value × Value)) : Prop :=
  ∀ entry ∈ entries, store.hashable entry.1 = true ∧ store.find? entries entry.1 = some entry.2

/-- Judges the fields under some names, one after the other, by the rules that a table has for
these names, up to the first field that is not accepted. -/
def judgeNamed (store : Store) (table value : Value) : List Value → Run Verdict
  | [] => return .accepted
  | name :: rest => do
    let field ← Run.ofExcept (store.field value name)
    match ← store.judgeFieldByTable table name field with
    | .accepted => store.judgeNamed table value rest
    | .rejected reason => return .rejected reason

variable {store later : Store} {table rules : Ref} {form : MappingForm}
  {entries : List (Value × Value)} {name value : Value} {content : String}

theorem Tabulates.evolved {alike : Value → Value → Prop}
    (tabulates : store.Tabulates table rules form entries)
    (evolves : store.EvolvesWith alike later) :
    ∃ current, later.Tabulates table rules form current ∧
      (Unrepeated alike entries → Unrepeated alike current) := by
  have bound : later.read table = .table (.ofFields [("rules", .object rules)]) :=
    evolves.kept tabulates.bound nofun rfl
  obtain ⟨current, contents, unrepeated⟩ : ∃ current,
      later.read rules = .mapping form current ∧
        (Unrepeated alike entries → Unrepeated alike current) := by
    have revised := evolves.revised rules tabulates.rulesHeld
    rw [tabulates.contents] at revised
    generalize later.read rules = object at revised ⊢
    cases revised with
    | same => exact ⟨entries, rfl, id⟩
    | mapping _ kept => exact ⟨_, rfl, kept⟩
  exact ⟨current, ⟨evolves.holds tabulates.tableHeld, bound, evolves.holds tabulates.rulesHeld,
    contents⟩, unrepeated⟩

theorem Tabulates.grown (tabulates : store.Tabulates table rules form entries)
    (grows : store.Grows later) : later.Tabulates table rules form entries where
  tableHeld := Nat.lt_of_lt_of_le tabulates.tableHeld grows.bounded
  bound := (grows.kept table tabulates.tableHeld).trans tabulates.bound
  rulesHeld := Nat.lt_of_lt_of_le tabulates.rulesHeld grows.bounded
  contents := (grows.kept rules tabulates.rulesHeld).trans tabulates.contents

theorem tabulates_table (contents : store.read rules = .mapping form entries) {made : Value}
    (settled : (Action.table (.object rules)).Settles store made later) :
    made = .object store.next ∧ store.Grows later ∧
      later.Tabulates store.next rules form entries := by
  obtain ⟨_, _, ⟨-, rfl⟩, answered, rfl⟩ := settled.split
  have grows := grows_alloc store (.table (.ofFields [("rules", .object rules)]))
  have held : store.Holds rules := holds_of_read contents nofun
  have placed : (store.alloc (.table (.ofFields [("rules", .object rules)]))).Holds store.next :=
    holds_of_read (read_alloc_next store _) nofun
  cases answered
  exact ⟨rfl, grows, placed, read_alloc_next store _, Nat.lt_of_lt_of_le held grows.bounded,
    (grows.kept rules held).trans contents⟩

private theorem named_rules (rules : Value) :
    (Attributes.ofFields [("rules", rules)]).named? "rules" = some rules := rfl

section Reading

variable (tabulates : store.Tabulates table rules form entries)

include tabulates

theorem Tabulates.mapping? : store.mapping? (.object rules) = some entries := by
  simp only [Store.mapping?, object?, tabulates.contents]

theorem Tabulates.tableRules : store.tableRules (.object table) = .ok (.object rules) := by
  simp only [Store.tableRules, object?, tabulates.bound, named_rules]

theorem Tabulates.isTable {operation : String} (other : operation ≠ "rules") :
    (store.object? (.object table)).any (Object.isTable operation) = true := by
  have missing : (Attributes.ofFields [("rules", .object rules)]).named? operation = none := by
    simp [Attributes.ofFields, Attributes.named?, Fields.named?, Fields.put, other.symm]
  simp [object?, tabulates.bound, Object.isTable, missing]

theorem Tabulates.tableNames :
    Action.tableNames (.object table) store = (Run.answer (entries.map Prod.fst), store) := by
  have contents : store.contents (.object rules) = .ok (entries.map Prod.fst) := by
    simp only [Store.contents, tabulates.mapping?]
  simp [Action.tableNames, Action.contents, Bind.bind, Action.andThen, Action.reading,
    Action.store, Run.answer, Run.ofExcept, Action.ofExcept, tabulates.tableRules, object?,
    tabulates.contents, contents]

/-- A mapping holds a key that can be one and finds an entry. -/
theorem Tabulates.holdsWithin (depth : Nat) (name : Value) :
    store.holdsWithin (depth + 1) (.object rules) name = do
      store.requireHashable name
      return (store.find? entries name).isSome := by
  simp [Store.holdsWithin, string?, bytes?, base, member?, object?, Store.mapping?,
    tabulates.contents]

theorem Tabulates.holds (name : Value) : store.holds (.object table) name = do
    store.requireHashable name
    return (store.find? entries name).isSome := by
  obtain ⟨depth, deep⟩ : ∃ depth, store.size = depth + 1 :=
    Nat.exists_eq_succ_of_ne_zero (Nat.ne_of_gt (Nat.zero_lt_of_lt tabulates.tableHeld))
  have asked (depth : Nat) : store.holdsWithin (depth + 1) (.object table) name =
      store.holdsWithin depth (.object rules) name := by
    simp [Store.holdsWithin, string?, bytes?, base, member?, object?, Store.mapping?,
      tabulates.bound, named_rules]
  rw [Store.holds, asked, deep, tabulates.holdsWithin depth name]

/-- The rule of a table for a name is the one that its mapping has for it now. -/
theorem Tabulates.tableRule (name : Value) : store.tableRule (.object table) name =
    (do
      store.requireHashable name
      match store.find? entries name with
      | some rule => return rule
      | none => throw (.noRule (← store.text name))) := by
  have held : store.holds (.object rules) name = (do
      store.requireHashable name
      return (store.find? entries name).isSome) := tabulates.holdsWithin store.size name
  simp only [Store.tableRule, tabulates.tableRules, ok_bind, held]
  cases allowed : store.requireHashable name with
  | error fault => rfl
  | ok done =>
    cases found : store.find? entries name with
    | none => rfl
    | some rule =>
      have kept : store.item (.object rules) name = .ok rule := by
        simp [item, keyed?, enumType?, object?, tabulates.contents, tabulates.mapping?, allowed,
          found]
      exact kept

theorem Tabulates.judgeByTable (value : Value) :
    store.judgeByTable (.object table) value = store.judgeFields value (.object rules) := by
  simp only [Store.judgeByTable, tabulates.tableRules, Run.ofExcept_ok, pure_bind]

end Reading

section Naming

variable (tabulates : store.Tabulates table rules form entries)

include tabulates

theorem Tabulates.judgeField_of_found {rule : Value} (allowed : store.hashable name = true)
    (found : store.find? entries name = some rule) (value : Value) :
    store.judgeFieldByTable (.object table) name value = store.judgeField name value rule := by
  simp [judgeFieldByTable, tabulates.tableRule, requireHashable, allowed, found]

/-- Judging by a table is judging the fields under its names one after the other, as long as each
entry of its mapping is found under its own name: the items and the look-ups are the same rules. -/
theorem judgeRules_by_names (value : Value) {rest : List (Value × Value)}
    (own : ∀ entry ∈ rest, store.hashable entry.1 = true ∧
      store.find? entries entry.1 = some entry.2) :
    (store.judgeRules value rest).SameAnswer
      (store.judgeNamed (.object table) value (rest.map Prod.fst)) := by
  induction rest with
  | nil => exact .refl _
  | cons entry rest inductionHypothesis =>
    obtain ⟨⟨allowed, found⟩, others⟩ := List.forall_mem_cons.mp own
    have asked : store.judgeNamed (.object table) value ((entry :: rest).map Prod.fst) = do
        match ← store.judgeEntry value entry with
        | .accepted => store.judgeNamed (.object table) value (rest.map Prod.fst)
        | .rejected reason => return .rejected reason := by
      simp only [List.map_cons, judgeNamed, judgeEntry, bind_assoc,
        tabulates.judgeField_of_found allowed found]
    rw [judgeRules_cons, asked]
    refine .bind (.refl _) fun verdict judged => ?_
    cases verdict with
    | accepted => exact inductionHypothesis others
    | rejected reason =>
      obtain ⟨shown, titled⟩ := text_of_rejected judged
      exact ⟨by simp [titled], by simp [titled]⟩

theorem Tabulates.holds_string (string : store.string? name = some content) :
    store.holds (.object table) name = .ok (store.find? entries name).isSome := by
  rw [tabulates.holds, requireHashable_of_string string]
  rfl

/-- A string is in a table just when it is one of its names. -/
theorem Tabulates.mem_names_iff (string : store.string? name = some content) :
    (entries.map Prod.fst).any (fun key => store.agrees key name) = true ↔
      store.holds (.object table) name = .ok true := by
  rw [tabulates.holds_string string]
  simp [find?]

/-- A string that is not in a table has no rule there, which is the fault of asking for it. -/
theorem Tabulates.tableRule_of_absent (string : store.string? name = some content)
    (absent : store.find? entries name = none) :
    ∃ shown, store.tableRule (.object table) name = .error (.noRule shown) := by
  obtain ⟨shown, titled⟩ := text_of_string string
  refine ⟨shown, ?_⟩
  rw [tabulates.tableRule, requireHashable_of_string string]
  simp [absent, titled]
  rfl

theorem Tabulates.tableRule_of_found (string : store.string? name = some content) {rule : Value}
    (found : store.find? entries name = some rule) :
    store.tableRule (.object table) name = .ok rule := by
  rw [tabulates.tableRule, requireHashable_of_string string]
  simp [found]

/-- A string is in a table just when a run that starts from its rule there does not end by there
being none, if nothing that the run does with a rule ends so. -/
theorem Tabulates.asked_iff (string : store.string? name = some content) {next : Value → Run α}
    (quiet : ∀ rule shown, (next rule).outcome ≠ .error (.noRule shown)) :
    (∀ shown, (Run.ofExcept (store.tableRule (.object table) name) >>= next).outcome ≠
        .error (.noRule shown)) ↔
      store.holds (.object table) name = .ok true := by
  rw [tabulates.holds_string string]
  cases found : store.find? entries name with
  | none =>
    obtain ⟨shown, absent⟩ := tabulates.tableRule_of_absent string found
    simp [absent]
  | some rule =>
    simpa [tabulates.tableRule_of_found string found] using quiet rule

/-- Asking for the rule of a string ends by there being none just when the string is not in the
table, whatever else is wrong with the rule. -/
theorem Tabulates.tableRuleOf_iff (string : store.string? name = some content) :
    (∀ shown, (store.tableRuleOf (.object table) name).outcome ≠ .error (.noRule shown)) ↔
      store.holds (.object table) name = .ok true := by
  apply tabulates.asked_iff string
  intro rule shown failed
  exact (ruleOf_faults name rule _ failed).ne_noRule shown rfl

/-- The same holds of judging a field of that name, whatever its value. -/
theorem Tabulates.judgeFieldByTable_iff (string : store.string? name = some content)
    (value : Value) :
    (∀ shown, (store.judgeFieldByTable (.object table) name value).outcome ≠
        .error (.noRule shown)) ↔
      store.holds (.object table) name = .ok true := by
  apply tabulates.asked_iff string
  intro rule shown failed
  exact (judgeField_faults name value rule _ failed).ne_noRule shown rfl

end Naming

/-- Where no key is taken for another one, each entry is found under its own key. -/
theorem findsOwn_of_distinct (allowed : ∀ entry ∈ entries, store.hashable entry.1 = true)
    (distinct : entries.Pairwise fun one other => store.agrees one.1 other.1 = false) :
    store.FindsOwn entries :=
  fun entry member => ⟨allowed entry member, find?_of_distinct distinct member⟩

/-- A field is judged by a table as its value is judged by the descriptor and the check of the
rule that the table has for it, with the name in front of the reason. -/
theorem judgeFieldByTable_eq {shown : String} (titled : store.text name = .ok shown)
    (table value : Value) :
    store.judgeFieldByTable table name value = (do
      let rule ← store.tableRuleOf table name
      let verdict ← store.judge value rule.descriptor (pure rule.check)
      return verdict.at shown) := by
  simp only [judgeFieldByTable, tableRuleOf, judgeField, bind_assoc]
  congr 1
  funext rule
  congr 1
  funext resolved
  congr 1
  funext verdict
  cases verdict with
  | accepted => rfl
  | rejected reason => simp [titled]

end Store

end Conform
