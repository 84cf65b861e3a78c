import Conform.Proofs.Copies
import Conform.Proofs.Sight

/-! Names and aliases of the fields of a model. A name that the model declares stands for the field
of that name, whatever aliases there are; any other stands for the first field that has it for its
alias. So a field can be named in either way: it is read and judged alike, and a reason or a fault
shows the name that was used. -/

namespace Conform

namespace Model

/-- The field of a model that a name stands for: the one of that name, or else the first with that
alias. -/
inductive StandsFor (model : Model) (name : String) : String → Prop where
  | declared (among : name ∈ model.fields.map ModelField.name) : StandsFor model name name
  | aliased {before after : List ModelField} {field : ModelField}
      (undeclared : name ∉ model.fields.map ModelField.name)
      (split : model.fields = before ++ field :: after) (known : field.alias? = some name)
      (first : ∀ earlier ∈ before, earlier.alias? ≠ some name) : StandsFor model name field.name

variable {model : Model} {name field : String}

/-- Just the names of fields and their aliases stand for fields. -/
theorem exists_standsFor_iff :
    (∃ field, model.StandsFor name field) ↔
      name ∈ model.fields.map ModelField.name ∨
        ∃ field ∈ model.fields, field.alias? = some name := by
  constructor
  · rintro ⟨field, stands⟩
    cases stands with
    | declared among => exact .inl among
    | aliased _ split known => exact .inr ⟨_, by simp [split], known⟩
  · intro known
    by_cases among : name ∈ model.fields.map ModelField.name
    · exact ⟨name, .declared among⟩
    · obtain ⟨field, member, spelled⟩ := known.resolve_left among
      rcases all_or_first (fun field : ModelField => field.alias? ≠ some name) model.fields with
        none | ⟨before, found, after, split, first, ended⟩
      · exact absurd spelled (none field member)
      · exact ⟨found.name, .aliased among split (not_not.mp ended) first⟩

theorem StandsFor.declared_field (stands : model.StandsFor name field) :
    field ∈ model.fields.map ModelField.name := by
  cases stands with
  | declared among => exact among
  | aliased _ split => simp [split]

end Model

/-- Drawing a check is not at fault for the rule that it belongs to. -/
theorem Fault.OfJudgement.not_of_rule {fault : Fault} (known : fault.OfJudgement) :
    fault.family ≠ .invalidRule := by
  intro family
  rcases known with (own | descriptor) | check
  · cases fault <;> simp [Fault.isOwn, Fault.family] at own family
  · cases descriptor.symm.trans family
  · cases check.symm.trans family

/-- How judgements of one field under two names are alike: both accept, or the reasons or the faults
differ in the name alone. -/
inductive Renamed (shown shown' : String) : Except Fault Verdict → Except Fault Verdict → Prop where
  | accepted : Renamed shown shown' (.ok .accepted) (.ok .accepted)
  | rejected (reason : String) :
      Renamed shown shown' (.ok (.rejected (shown ++ " " ++ reason)))
        (.ok (.rejected (shown' ++ " " ++ reason)))
  | invalid (cause : Option CheckFlaw) :
      Renamed shown shown' (.error (.invalidRule shown cause)) (.error (.invalidRule shown' cause))
  | fault {fault : Fault} (other : fault.family ≠ .invalidRule) :
      Renamed shown shown' (.error fault) (.error fault)

namespace Store

/-- What a model has under a name besides the fields that it declares. -/
def besides (store : Store) (value : Value) (model : Model) (name : String) : Option Value :=
  ((model.hidden.named? name).or (model.extra.named? name)).or
    ((store.attributesOf value).named? name)

variable {store : Store} {value name other rule : Value} {model : Model}
  {content field shown shown' : String}

theorem agrees_null_of_string (string : store.string? name = some content) :
    store.agrees .null name = false := by
  obtain ⟨depth, deep⟩ := store.exists_comparisonDepth
  have different : Value.null ≠ name := by
    rintro rfl
    cases string
  have uncounted : store.quantity? .null = none := rfl
  have wordless : store.content? .null = none := rfl
  simp [agrees, quietly, matching, different, Store.equal, deep, equalWithin,
    quantity_of_string string, content_of_string string, uncounted, wordless]

theorem string?_modelFieldName (string : store.string? name = some content)
    (stands : model.StandsFor content field) :
    store.string? (store.modelFieldName model name) = some field := by
  cases stands with
  | declared among => rw [modelFieldName_of_declared string among, string]
  | @aliased before after found undeclared split known first =>
    have unnamed : model.fields.find? (fun field => store.agrees (.text field.name) name) = none := by
      refine List.find?_eq_none.mpr fun field member => ?_
      rw [agrees_of_strings rfl string]
      intro same
      exact undeclared (List.mem_map.mpr ⟨field, member, of_decide_eq_true same⟩)
    have second (field : ModelField) :
        store.agrees ((field.alias?.map Value.text).getD .null) name =
          decide (field.alias? = some content) := by
      cases written : field.alias? with
      | none => simp [agrees_null_of_string string]
      | some spelled => simpa using agrees_of_strings rfl string
    have passed : before.find? (fun field => decide (field.alias? = some content)) = none := by
      simpa using first
    simp only [modelFieldName, unnamed, second]
    simp only [split, List.find?_append, passed, Option.none_or, List.find?_cons, known,
      decide_true]
    rfl

theorem field_of_standsFor (here : store.object? value = some (.model model))
    (string : store.string? name = some content) (stands : model.StandsFor content field) :
    store.field value name =
      .ok (((model.own.named? field).or (store.besides value model field)).getD .undefined) := by
  obtain ⟨ref, rfl, read⟩ := eq_object_of_object? here
  have noMapping : store.mapping? (.object ref) = none := by simp [mapping?, here]
  have asked : store.string? (store.resolved (.object ref) name) = some field := by
    simpa only [resolved, here] using string?_modelFieldName string stands
  rw [field_of_attribute noMapping asked (requireHashable_of_string string)]
  simp [attributeOf, read, objectAttribute, besides, Option.or_assoc]

section Renaming

variable (titled : store.text name = .ok shown) (titled' : store.text other = .ok shown')

include titled titled'

/-- A rule is drawn alike under any name, and what is wrong with it is said of the name. -/
theorem ruleOf_renamed (rule : Value) :
    (∃ resolved, (store.ruleOf name rule).outcome = .ok resolved ∧
      (store.ruleOf other rule).outcome = .ok resolved) ∨
    ∃ fault fault', (store.ruleOf name rule).outcome = .error fault ∧
      (store.ruleOf other rule).outcome = .error fault' ∧
      Renamed shown shown' (.error fault) (.error fault') := by
  have written (shape : Value) (cause : Option CheckFlaw) :
      ∃ fault fault',
        (do let _ ← store.form shape; .error (.invalidRule shown cause) : Except Fault Rule) =
          .error fault ∧
        (do let _ ← store.form shape; .error (.invalidRule shown' cause) : Except Fault Rule) =
          .error fault' ∧
        Renamed shown shown' (.error fault) (.error fault') := by
    cases formed : store.form shape with
    | ok form => exact ⟨_, _, rfl, rfl, .invalid cause⟩
    | error fault =>
      have foreign : fault.OfJudgement := .inl (.inl (form_foreign shape fault formed))
      exact ⟨_, _, rfl, rfl, .fault foreign.not_of_rule⟩
  simp only [outcome_ruleOf, titled, titled', ok_bind]
  split
  · exact .inr (written rule none)
  · cases drawn : (store.checkOf (store.ruleParts rule).2).outcome with
    | ok check => exact .inl ⟨_, rfl, rfl⟩
    | error fault =>
      have known := (checkOf_faults _ fault drawn).not_of_rule
      cases fault with
      | invalidCheck flaw => exact .inr (written _ (some flaw))
      | _ => exact .inr ⟨_, _, rfl, rfl, .fault known⟩

theorem judgeField_renamed (field rule : Value) :
    Renamed shown shown' (store.judgeField name field rule).outcome
        (store.judgeField other field rule).outcome ∧
      (store.judgeField name field rule).calls = (store.judgeField other field rule).calls := by
  rcases ruleOf_renamed titled titled' rule with
    ⟨resolved, valid, valid'⟩ | ⟨fault, fault', invalid, invalid', renamed⟩
  · rw [judgeField_of_valid valid, judgeField_of_valid valid']
    refine ⟨?_, rfl⟩
    dsimp only
    cases ended : (store.judge field resolved.descriptor (pure resolved.check)).outcome with
    | error fault =>
      have known : fault.OfJudgement :=
        judge_faults field resolved.descriptor (fun _ => .inl) (.ok resolved.check) fault ended
      exact .fault known.not_of_rule
    | ok verdict =>
      cases verdict with
      | accepted => exact .accepted
      | rejected reason =>
        simp only [ok_bind, titled, titled', map_ok]
        exact .rejected reason
  · rw [judgeField_of_invalid invalid, judgeField_of_invalid invalid']
    exact ⟨renamed, rfl⟩

end Renaming

/-- Names by which a model is asked for one field. -/
def SameField (store : Store) (model : Model) (name other : Value) : Prop :=
  ∃ content content' field, store.string? name = some content ∧
    store.string? other = some content' ∧ model.StandsFor content field ∧
    model.StandsFor content' field

/-- The same rule, under the same name or under two names for one field. -/
def Rekeyed (store : Store) (model : Model) (one other : Value × Value) : Prop :=
  one.2 = other.2 ∧ (one.1 = other.1 ∨ store.SameField model one.1 other.1)

/-- Outcomes for two names: the same one for the same name, else alike but for the names. -/
def EndsAlike (store : Store) (name other : Value) (outcome outcome' : Except Fault Verdict) : Prop :=
  name = other ∧ outcome = outcome' ∨
    ∃ shown shown', store.text name = .ok shown ∧ store.text other = .ok shown' ∧
      Renamed shown shown' outcome outcome'

theorem EndsAlike.accepts_iff {outcome outcome' : Except Fault Verdict}
    (alike : store.EndsAlike name other outcome outcome') :
    outcome = .ok .accepted ↔ outcome' = .ok .accepted := by
  rcases alike with ⟨-, rfl⟩ | ⟨shown, shown', -, -, renamed⟩
  · rfl
  · cases renamed <;> simp

section Tables

variable {entry entry' : Value × Value} {entries entries' before after : List (Value × Value)}

theorem exists_split_of_forall₂ {related : α → β → Prop} {before after : List α} {item : α}
    {others : List β} (all : List.Forall₂ related (before ++ item :: after) others) :
    ∃ before' item' after', others = before' ++ item' :: after' ∧
      List.Forall₂ related before before' ∧ related item item' := by
  induction before generalizing others with
  | nil =>
    obtain ⟨item', after', here, -, rfl⟩ := List.forall₂_cons_left_iff.mp all
    exact ⟨[], item', after', rfl, .nil, here⟩
  | cons first before inductionHypothesis =>
    obtain ⟨first', rest, here, later, rfl⟩ := List.forall₂_cons_left_iff.mp all
    obtain ⟨before', item', after', rfl, front, found⟩ := inductionHypothesis later
    exact ⟨first' :: before', item', after', rfl, .cons here front, found⟩

variable (here : store.object? value = some (.model model))

include here

/-- A field is read and judged alike under either of two names for it. -/
theorem judgeEntry_of_sameField (same : store.SameField model name other) (rule : Value) :
    ∃ shown shown', store.text name = .ok shown ∧ store.text other = .ok shown' ∧
      Renamed shown shown' (store.judgeEntry value (name, rule)).outcome
        (store.judgeEntry value (other, rule)).outcome ∧
      (store.judgeEntry value (name, rule)).calls =
        (store.judgeEntry value (other, rule)).calls := by
  obtain ⟨content, content', field, string, string', stands, stands'⟩ := same
  obtain ⟨shown, titled⟩ := text_of_string string
  obtain ⟨shown', titled'⟩ := text_of_string string'
  rw [judgeEntry_of_read (field_of_standsFor here string stands),
    judgeEntry_of_read (field_of_standsFor here string' stands')]
  exact ⟨shown, shown', titled, titled', judgeField_renamed titled titled' _ rule⟩

/-- One step: an entry of the rules and the rekeyed one are judged alike. -/
theorem judgeEntry_rekeyed (rekeyed : store.Rekeyed model entry entry') :
    store.EndsAlike entry.1 entry'.1 (store.judgeEntry value entry).outcome
        (store.judgeEntry value entry').outcome ∧
      (store.judgeEntry value entry).calls = (store.judgeEntry value entry').calls := by
  obtain ⟨name, rule⟩ := entry
  obtain ⟨other, rule'⟩ := entry'
  obtain ⟨sameRule, same⟩ := rekeyed
  obtain rfl : rule = rule' := sameRule
  rcases same with same | same
  · obtain rfl : name = other := same
    exact ⟨.inl ⟨rfl, rfl⟩, rfl⟩
  · obtain ⟨shown, shown', titled, titled', renamed, calls⟩ :=
      judgeEntry_of_sameField here same rule
    exact ⟨.inr ⟨shown, shown', titled, titled', renamed⟩, calls⟩

theorem accepted_rekeyed_iff (rekeyed : store.Rekeyed model entry entry') :
    store.Accepted value entry ↔ store.Accepted value entry' :=
  (judgeEntry_rekeyed here rekeyed).1.accepts_iff

/-- By induction on the rules, one step for each pair. -/
theorem all_accepted_rekeyed_iff (rekeyed : List.Forall₂ (store.Rekeyed model) entries entries') :
    ((∀ entry ∈ entries, store.Accepted value entry) ↔
        ∀ entry ∈ entries', store.Accepted value entry) ∧
      (entries.map (store.judgeEntry value)).flatMap Run.calls =
        (entries'.map (store.judgeEntry value)).flatMap Run.calls := by
  induction rekeyed with
  | nil => simp
  | cons first _ inductionHypothesis =>
    obtain ⟨accepted, calls⟩ := inductionHypothesis
    constructor
    · rw [List.forall_mem_cons, List.forall_mem_cons, accepted_rekeyed_iff here first, accepted]
    · simp only [List.map_cons, List.flatMap_cons, calls, (judgeEntry_rekeyed here first).2]

/-- The first field that is not accepted is the same one under either name, and ends alike. -/
theorem judgeRules_rekeyed_first
    (rekeyed : List.Forall₂ (store.Rekeyed model) (before ++ entry :: after) entries')
    (earlier : ∀ earlier ∈ before, store.Accepted value earlier)
    (missed : ¬ store.Accepted value entry) :
    ∃ before' entry' after', entries' = before' ++ entry' :: after' ∧
      before'.length = before.length ∧ (∀ earlier ∈ before', store.Accepted value earlier) ∧
      ¬ store.Accepted value entry' ∧ store.Rekeyed model entry entry' ∧
      store.EndsAlike entry.1 entry'.1 (store.judgeRules value (before ++ entry :: after)).outcome
        (store.judgeRules value entries').outcome ∧
      (store.judgeRules value (before ++ entry :: after)).calls =
        (store.judgeRules value entries').calls := by
  obtain ⟨before', entry', after', rfl, front, found⟩ := exists_split_of_forall₂ rekeyed
  have earlier' := (all_accepted_rekeyed_iff here front).1.mp earlier
  have missed' := mt (accepted_rekeyed_iff here found).mpr missed
  obtain ⟨alike, calls⟩ := judgeEntry_rekeyed here found
  refine ⟨before', entry', after', rfl, front.length_eq.symm, earlier', missed', found, ?_, ?_⟩
  · rw [(judgeRules_of_first earlier missed).1, (judgeRules_of_first earlier' missed').1]
    exact alike
  · rw [(judgeRules_of_first earlier missed).2, (judgeRules_of_first earlier' missed').2,
      List.map_append, List.map_append, List.flatMap_append, List.flatMap_append,
      (all_accepted_rekeyed_iff here front).2]
    simp [calls]

/-- Rules are judged alike by a model when some of their fields are named in another way. -/
theorem judgeRules_rekeyed (rekeyed : List.Forall₂ (store.Rekeyed model) entries entries') :
    ((store.judgeRules value entries).outcome = .ok .accepted ↔
        (store.judgeRules value entries').outcome = .ok .accepted) ∧
      (store.judgeRules value entries).calls = (store.judgeRules value entries').calls := by
  obtain ⟨accepted, calls⟩ := all_accepted_rekeyed_iff here rekeyed
  rcases all_or_first (store.Accepted value) entries with
    each | ⟨before, entry, after, rfl, earlier, missed⟩
  · rw [judgeRules_of_all_accepted each, judgeRules_of_all_accepted (accepted.mp each)]
    exact ⟨Iff.rfl, calls⟩
  · obtain ⟨before', entry', after', rfl, -, -, -, -, alike, calls⟩ :=
      judgeRules_rekeyed_first here rekeyed earlier missed
    exact ⟨alike.accepts_iff, calls⟩

end Tables

theorem judgeRules_singleton (value : Value) (entry : Value × Value) :
    (store.judgeRules value [entry]).outcome = (store.judgeEntry value entry).outcome ∧
      (store.judgeRules value [entry]).calls = (store.judgeEntry value entry).calls := by
  by_cases accepted : store.Accepted value entry
  · rw [judgeRules_cons_of_accepted accepted, accepted]
    exact ⟨rfl, List.append_nil _⟩
  · have none : ∀ earlier ∈ ([] : List (Value × Value)), store.Accepted value earlier := by simp
    have first : (store.judgeRules value ([] ++ entry :: [])).outcome =
          (store.judgeEntry value entry).outcome ∧
        (store.judgeRules value ([] ++ entry :: [])).calls =
          (([] ++ [entry]).map (store.judgeEntry value)).flatMap Run.calls :=
      judgeRules_of_first none accepted
    simpa using first

/-- A model's field can be named in either way. What is read under a name is what is set for the
field that the name stands for; if nothing is set, it is what the model has under the field's name
besides, if anything. A rule for the field is judged alike under either name, but for the name that
the reason or the fault shows, and with the same calls; and rules of which some name their fields in
another way accept the same models, stop at the same place, and make the same calls. -/
theorem names_and_aliases_agree (here : store.object? value = some (.model model)) :
    (∀ name, (∃ field, model.StandsFor name field) ↔
      name ∈ model.fields.map ModelField.name ∨
        ∃ field ∈ model.fields, field.alias? = some name) ∧
    (∀ name content field, store.string? name = some content → model.StandsFor content field →
      (∀ held, model.own.named? field = some held → store.field value name = .ok held) ∧
      (model.own.named? field = none →
        store.field value name = .ok ((store.besides value model field).getD .undefined)) ∧
      store.SameField model name (.text field)) ∧
    (∀ name other rule rules rules', store.SameField model name other →
      store.mapping? rules = some [(name, rule)] → store.mapping? rules' = some [(other, rule)] →
      ∃ shown shown', store.text name = .ok shown ∧ store.text other = .ok shown' ∧
        Renamed shown shown' (store.judgeFields value rules).outcome
          (store.judgeFields value rules').outcome ∧
        (store.judgeFields value rules).calls = (store.judgeFields value rules').calls) ∧
    (∀ rules rules' entries entries', store.mapping? rules = some entries →
      store.mapping? rules' = some entries' →
      List.Forall₂ (store.Rekeyed model) entries entries' →
      ((store.judgeFields value rules).outcome = .ok .accepted ↔
        (store.judgeFields value rules').outcome = .ok .accepted) ∧
      (store.judgeFields value rules).calls = (store.judgeFields value rules').calls ∧
      ∀ before entry after, entries = before ++ entry :: after →
        (∀ earlier ∈ before, store.Accepted value earlier) → ¬ store.Accepted value entry →
        ∃ before' entry' after', entries' = before' ++ entry' :: after' ∧
          before'.length = before.length ∧
          (∀ earlier ∈ before', store.Accepted value earlier) ∧
          ¬ store.Accepted value entry' ∧ store.Rekeyed model entry entry' ∧
          store.EndsAlike entry.1 entry'.1 (store.judgeFields value rules).outcome
            (store.judgeFields value rules').outcome) := by
  have shaped : store.hasFields value = true := hasFields_of_model here
  refine ⟨fun _ => Model.exists_standsFor_iff, ?reading, ?single, ?tables⟩
  case reading =>
    intro name content field string stands
    have read := field_of_standsFor here string stands
    refine ⟨fun held set => ?_, fun unset => ?_, ?_⟩
    · simpa [set] using read
    · simpa [unset] using read
    · exact ⟨content, field, field, string, rfl, stands, .declared stands.declared_field⟩
  case single =>
    intro name other rule rules rules' same mapping mapping'
    rw [judgeFields_of_mapping shaped mapping, judgeFields_of_mapping shaped mapping',
      (judgeRules_singleton value _).1, (judgeRules_singleton value _).1,
      (judgeRules_singleton value _).2, (judgeRules_singleton value _).2]
    exact judgeEntry_of_sameField here same rule
  case tables =>
    intro rules rules' entries entries' mapping mapping' rekeyed
    rw [judgeFields_of_mapping shaped mapping, judgeFields_of_mapping shaped mapping']
    obtain ⟨accepts, calls⟩ := judgeRules_rekeyed here rekeyed
    refine ⟨accepts, calls, ?_⟩
    rintro before entry after rfl earlier missed
    obtain ⟨before', entry', after', split, length, earlier', missed', found, alike, -⟩ :=
      judgeRules_rekeyed_first here rekeyed earlier missed
    exact ⟨before', entry', after', split, length, earlier', missed', found, alike⟩

/-- A store with a model that has the name of one field for the alias of another, and two fields of
one alias, of which the second is not set; and a rule for the first of these under its name and
under the alias. -/
def withAliases : Store :=
  let fields : List ModelField := [⟨"a", some "b"⟩, ⟨"b", some "z"⟩, ⟨"c", some "z"⟩]
  let cells : List Object :=
    [.model ⟨"M", 0, fields, [("a", .integer 1), ("b", .boolean true)], [], [], false⟩,
      .mapping .plain [(.text "b", .text "number")],
      .mapping .plain [(.text "z", .text "number")]]
  cells.foldl alloc initial

/-- The name of a field is not taken for an alias, an alias of two fields stands for the first of
them, and a field that is not set is undefined. The rule is not met under either name. -/
theorem alias_stands_for_second :
    let model : Value := .object ⟨4⟩
    withAliases.field model (.text "b") = .ok (.boolean true) ∧
      withAliases.field model (.text "z") = .ok (.boolean true) ∧
      withAliases.field model (.text "c") = .ok .undefined ∧
      Renamed "b" "z" (withAliases.judgeFields model (.object ⟨5⟩)).outcome
        (withAliases.judgeFields model (.object ⟨6⟩)).outcome ∧
      (withAliases.judgeFields model (.object ⟨6⟩)).outcome =
        .ok (.rejected "z expected is number, actual is boolean") := by
  let fields : List ModelField := [⟨"a", some "b"⟩, ⟨"b", some "z"⟩, ⟨"c", some "z"⟩]
  let whole : Model := ⟨"M", 0, fields, [("a", .integer 1), ("b", .boolean true)], [], [], false⟩
  have here : withAliases.object? (.object ⟨4⟩) = some (.model whole) := rfl
  obtain ⟨-, reading, single, -⟩ := names_and_aliases_agree here
  have second : whole.StandsFor "b" "b" := .declared (by decide)
  have third : whole.StandsFor "c" "c" := .declared (by decide)
  have aliased : whole.StandsFor "z" "b" := by
    have split : whole.fields = [⟨"a", some "b"⟩] ++ ⟨"b", some "z"⟩ :: [⟨"c", some "z"⟩] := rfl
    exact .aliased (by decide) split rfl (by decide)
  have named := reading (.text "b") "b" "b" rfl second
  have known := reading (.text "z") "z" "b" rfl aliased
  have unset := reading (.text "c") "c" "c" rfl third
  have same : withAliases.SameField whole (.text "b") (.text "z") :=
    ⟨"b", "z", "b", rfl, rfl, second, aliased⟩
  obtain ⟨shown, shown', titled, titled', renamed, -⟩ :=
    single _ _ (.text "number") (.object ⟨5⟩) (.object ⟨6⟩) same rfl rfl
  cases titled
  cases titled'
  exact ⟨named.1 _ rfl, known.1 _ rfl, unset.2.1 rfl, renamed, rfl⟩

/-- A store with a model that declares a field which is not set, and has an undeclared one of the
same name. -/
def withShadow : Store :=
  initial.alloc (.model ⟨"M", 0, [⟨"x", none⟩], [], [], [("x", .integer 1)], true⟩)

/-- A declared field that is not set is not undefined when the model has an undeclared one of the
same name. -/
theorem unset_field_is_shadowed :
    let whole : Model := ⟨"M", 0, [⟨"x", none⟩], [], [], [("x", .integer 1)], true⟩
    withShadow.object? (.object ⟨4⟩) = some (.model whole) ∧ whole.StandsFor "x" "x" ∧
      whole.own.named? "x" = none ∧
      withShadow.field (.object ⟨4⟩) (.text "x") = .ok (.integer 1) :=
  ⟨rfl, .declared (by decide), rfl, rfl⟩

end Store

end Conform
