import Conform.Proofs.LocalJudgements
import Conform.Proofs.Names

/-! What judging fields sees of a value: what the value holds under the names of the rules,
and nothing else. The shape in which the named parts are stored plays no part, and other parts may
come, go or change, unless the value is met again inside what is judged. -/

namespace Conform

/-- The shapes in which fields are stored. Objects of the library's own are none of them: a rule
table computes what it answers under some names, and the others cannot change. -/
def Object.storesFields : Object → Bool
  | .mapping .. | .plain _ | .slotted _ | .record _ | .model _ => true
  | _ => false

namespace Store

/-- The name under which a value is asked for an attribute. A model is asked for the field
that the name stands for. -/
def resolved (store : Store) (value name : Value) : Value :=
  match store.object? value with
  | some (.model model) => store.modelFieldName model name
  | _ => name

/-- A value that stores fields under their names: as the entries of a mapping, or as what an
object has of its own. A computed attribute of the type hides what is stored under its name. -/
inductive Stores (store : Store) (value : Value) (fields : Fields) : Prop where
  | mapping {form : MappingForm}
      (here : store.object? value =
        some (.mapping form (fields.map fun field => (.text field.1, field.2))))
  | plain {whole : Plain} (here : store.object? value = some (.plain whole))
      (own : whole.own.fields = fields) (inert : whole.callable = false)
      (visible : ∀ field ∈ fields, ∀ failure ∈ whole.failing, failure.1 ≠ field.1)
  | slotted {whole : Slotted} (here : store.object? value = some (.slotted whole))
      (own : whole.own = fields)
  | record {whole : Record} (here : store.object? value = some (.record whole))
      (own : whole.own = fields) (inert : whole.callable = false)
  | model {whole : Model} (here : store.object? value = some (.model whole))
      (own : whole.own = fields)
      (declared : ∀ field ∈ fields, field.1 ∈ whole.fields.map ModelField.name)

variable {store : Store} {value left right name key item : Value} {content : String}
  {object changed : Object} {fields : Fields} {entries before after : List (Value × Value)}

theorem field_of_mapping (found : store.mapping? value = some entries) (name : Value) :
    store.field value name =
      (store.requireHashable name).map fun _ => (store.find? entries name).getD .undefined := by
  cases hashed : store.requireHashable name <;> simp [Store.field, found, hashed]

/-- What is no mapping is asked for an attribute, under a name that has to be a string. -/
theorem field_of_attribute (noMapping : store.mapping? value = none)
    (string : store.string? (store.resolved value name) = some content)
    (hashed : store.requireHashable name = .ok ()) :
    store.field value name =
      (store.attributeOf value content).map fun held? => held?.getD .undefined := by
  have read (asked : Value) (string : store.string? asked = some content) :
      (do return (← store.attributeNamed value asked).getD .undefined : Except Fault Value) =
        (store.attributeOf value content).map fun held? => held?.getD .undefined := by
    cases held : store.attributeOf value content <;> simp [attributeNamed, string, held]
  unfold resolved at string
  cases here : store.object? value with
  | none =>
    simp only [here] at string
    simp only [Store.field, noMapping, here, pure_bind]
    exact read _ string
  | some object =>
    cases object with
    | model model =>
      simp only [here] at string
      simp only [Store.field, noMapping, here, hashed, ok_bind, pure_bind]
      exact read _ string
    | _ =>
      simp only [here] at string
      simp only [Store.field, noMapping, here, pure_bind]
      exact read _ string

/-- The rules are judged alike for values that hold the same under each of their names: the
induction is on the rules, each of which reads one field. -/
theorem judgeRules_congr
    (same : ∀ entry ∈ entries, store.field left entry.1 = store.field right entry.1) :
    store.judgeRules left entries = store.judgeRules right entries := by
  induction entries with
  | nil => rfl
  | cons entry rest inductionHypothesis =>
    obtain ⟨here, later⟩ := List.forall_mem_cons.mp same
    have step : store.judgeEntry left entry = store.judgeEntry right entry := by
      rw [judgeEntry, here, judgeEntry]
    rw [judgeRules_cons, judgeRules_cons, step, inductionHypothesis later]

theorem judgeFields_congr {rules : Value} (leftShaped : store.hasFields left = true)
    (rightShaped : store.hasFields right = true) (mapping : store.mapping? rules = some entries)
    (same : ∀ entry ∈ entries, store.field left entry.1 = store.field right entry.1) :
    store.judgeFields left rules = store.judgeFields right rules := by
  rw [judgeFields_of_mapping leftShaped mapping, judgeFields_of_mapping rightShaped mapping,
    judgeRules_congr same]

theorem find?_put_of_unnamed (entries : List (Value × Value)) (item : Value)
    (unnamed : ∀ other, other = key ∨ store.agrees other key = true →
      store.agrees other name = false) :
    store.find? (store.put entries key item) name = store.find? entries name := by
  induction entries with
  | nil => simp [Store.put, find?, unnamed key (Or.inl rfl)]
  | cons entry rest inductionHypothesis =>
    by_cases here : store.agrees entry.1 key = true
    · simp [Store.put, here, find?, unnamed entry.1 (Or.inr here)]
    · simp only [Store.put, here, Bool.false_eq_true, if_false]
      simp only [find?, List.find?_cons] at inductionHypothesis ⊢
      cases store.agrees entry.1 name
      · exact inductionHypothesis
      · rfl

theorem find?_filter_of_unnamed (entries : List (Value × Value))
    (unnamed : ∀ other, other = key ∨ store.agrees other key = true →
      store.agrees other name = false) :
    store.find? (entries.filter fun entry => !store.agrees entry.1 key) name =
      store.find? entries name := by
  simp only [find?, List.find?_filter]
  congr 2
  funext entry
  cases here : store.agrees entry.1 key
  · simp
  · simp [unnamed entry.1 (Or.inr here)]

/-- A key that holds the undefined value is as good as none, when no other entry has it. -/
theorem find?_of_undefined
    (absent : store.agrees key name = true → store.find? (before ++ after) name = none) :
    (store.find? (before ++ (key, .undefined) :: after) name).getD .undefined =
      (store.find? (before ++ after) name).getD .undefined := by
  cases here : store.agrees key name with
  | false => simp [find?, List.find?_append, here]
  | true =>
    have none := absent here
    simp only [find?, Option.map_eq_none_iff, List.find?_append, Option.or_eq_none_iff] at none
    simp [find?, List.find?_append, here, none.1, none.2]

theorem hasFields_of_stores (stores : store.Stores value fields) : store.hasFields value = true := by
  cases stores with
  | mapping here =>
    obtain ⟨ref, rfl, read⟩ := eq_object_of_object? here
    simp [hasFields, mapping?, object?, read]
  | plain here _ inert =>
    obtain ⟨ref, rfl, read⟩ := eq_object_of_object? here
    simp [hasFields, mapping?, kind, number?, string?, base, member?, sequence?, elements?, bytes?,
      object?, read, callable, Object.elements?, inert]
  | record here _ inert =>
    obtain ⟨ref, rfl, read⟩ := eq_object_of_object? here
    simp [hasFields, mapping?, kind, number?, string?, base, member?, sequence?, elements?, bytes?,
      object?, read, callable, Object.elements?, inert]
  | slotted here | model here =>
    obtain ⟨ref, rfl, read⟩ := eq_object_of_object? here
    simp [hasFields, mapping?, kind, number?, string?, base, member?, sequence?, elements?, bytes?,
      object?, read, callable, Object.elements?]

/-- A model is asked for a field that it declares under that field's own name. -/
theorem modelFieldName_of_declared {model : Model} (string : store.string? name = some content)
    (declared : content ∈ model.fields.map ModelField.name) :
    store.modelFieldName model name = name := by
  obtain ⟨field, member, rfl⟩ := List.mem_map.mp declared
  have found : (model.fields.find? fun field => store.agrees (.text field.name) name).isSome := by
    refine List.find?_isSome.mpr ⟨field, member, ?_⟩
    simp [agrees_of_strings (rfl : store.string? (.text field.name) = some field.name) string]
  obtain ⟨first, known⟩ := Option.isSome_iff_exists.mp found
  simp [modelFieldName, known]

/-- What stores fields has each of them under its name, in whatever shape. -/
theorem field_of_stores {held : Value} (stores : store.Stores value fields)
    (string : store.string? name = some content) (named : fields.named? content = some held) :
    store.field value name = .ok held := by
  have hashed := requireHashable_of_string string
  have member := Fields.mem_of_named? named
  have answer {ref : Ref} (noMapping : store.mapping? (.object ref) = none)
      (itself : store.resolved (.object ref) name = name)
      (own : store.objectAttribute ref (store.read ref) content = .ok (some held)) :
      store.field (.object ref) name = .ok held := by
    rw [field_of_attribute noMapping (by rw [itself, string]) hashed]
    simp [attributeOf, own]
  cases stores with
  | @mapping form here =>
    have mapping : store.mapping? value =
        some (fields.map fun field => (.text field.1, field.2)) := by
      simp only [mapping?, here]
    rw [field_of_mapping mapping, find?_of_named string, named, hashed]
    rfl
  | @plain whole here own _ visible =>
    obtain ⟨ref, rfl, read⟩ := eq_object_of_object? here
    have shown : whole.failing.find? (fun failure => failure.1 = content) = none := by
      simpa using fun failure kind failing => visible _ member (failure, kind) failing
    refine answer (by simp [mapping?, here]) (by simp [resolved, here]) ?_
    simp [read, objectAttribute, shown, Attributes.named?, own, named]
  | slotted here own =>
    obtain ⟨ref, rfl, read⟩ := eq_object_of_object? here
    refine answer (by simp [mapping?, here]) (by simp [resolved, here]) ?_
    simp [read, objectAttribute, own, named]
  | record here own =>
    obtain ⟨ref, rfl, read⟩ := eq_object_of_object? here
    refine answer (by simp [mapping?, here]) (by simp [resolved, here]) ?_
    simp [read, objectAttribute, own, named]
  | model here own declared =>
    obtain ⟨ref, rfl, read⟩ := eq_object_of_object? here
    have itself := modelFieldName_of_declared string (declared _ member)
    refine answer (by simp [mapping?, here]) (by simp [resolved, here, itself]) ?_
    simp [read, objectAttribute, own, named]

section Changes

variable {later : Store} {ref : Ref} {rules : Value} {hidden : String}

/-- What judging a value by rules looks at besides the value does not lead back to it: the rules
with their names, what the value holds under these names, its keys if it is a mapping, and what
custom functions answer. -/
structure Detached (store : Store) (value rules : Value) : Prop where
  rulesApart : ¬ store.Reaches rules value
  fieldsApart : ∀ entries, store.mapping? rules = some entries → ∀ entry ∈ entries, ∀ held,
    store.field value entry.1 = .ok held → ¬ store.Reaches held value
  keysApart : ∀ own, store.mapping? value = some own →
    ∀ entry ∈ own, ¬ store.Reaches entry.1 value
  answersApart : store.Withholds value

theorem exists_edited_of_settles {target : Value}
    (settled : (Action.setItem target key item).Settles store () later ∨
      (Action.dropItem target key).Settles store () later) :
    ∃ ref changed, target = .object ref ∧
      (store.withItem (store.read ref) key item = .ok changed ∨
        store.withoutItem (store.read ref) key = .ok changed) ∧ later = store.write ref changed := by
  rcases settled with given | taken
  · obtain ⟨_, _, read, further⟩ := given.split
    obtain ⟨rfl, rfl⟩ := read.unique Action.settles_store
    obtain ⟨ref, changed, same, edited, written⟩ := Action.settles_modify further
    exact ⟨ref, changed, same, Or.inl edited, written⟩
  · obtain ⟨_, _, read, further⟩ := taken.split
    obtain ⟨rfl, rfl⟩ := read.unique Action.settles_store
    obtain ⟨ref, changed, same, edited, written⟩ := Action.settles_modify further
    exact ⟨ref, changed, same, Or.inr edited, written⟩

/-- An item can be given to a value with fields, or taken from it, only if it is a mapping. -/
theorem mapping_of_edited (here : store.object? value = some object)
    (shaped : store.hasFields value = true)
    (edited : store.withItem object key item = .ok changed ∨
      store.withoutItem object key = .ok changed) :
    ∃ form entries, object = .mapping form entries ∧
      (changed = .mapping form (store.put entries key item) ∨
        changed = .mapping form (entries.filter fun entry => !store.agrees entry.1 key)) := by
  obtain ⟨ref, rfl, read⟩ := eq_object_of_object? here
  cases object with
  | mapping form entries =>
    refine ⟨form, entries, rfl, ?_⟩
    rcases edited with given | taken
    · left
      simp only [withItem] at given
      split at given
      · obtain ⟨_, _, known⟩ := ok_of_bind_ok given
        exact (Except.ok.inj known).symm
      · cases given
    · right
      simp only [withoutItem] at taken
      split at taken
      · obtain ⟨_, _, known⟩ := ok_of_bind_ok taken
        split at known
        · exact (Except.ok.inj known).symm
        · cases known
      · cases taken
  | sequence form items =>
    simp [hasFields, mapping?, sequence?, base, member?, object?, read] at shaped
  | byteArray bytes => simp [hasFields, mapping?, bytes?, object?, read] at shaped
  | _ => rcases edited with given | taken <;> simp [withItem, withoutItem] at *

/-- Rules that are the same in both stores judge a value alike whose named fields are the same. -/
theorem Shares.judgeFields {kept : Value → Prop} (shares : store.Shares later kept)
    (mapping : store.mapping? rules = some entries) (rules' : kept rules)
    (shaped : store.hasFields value = true) (shaped' : later.hasFields value = true)
    (same : ∀ entry ∈ entries, later.field value entry.1 = store.field value entry.1)
    (known : ∀ entry ∈ entries, ∀ held, store.field value entry.1 = .ok held → kept held) :
    later.judgeFields value rules = store.judgeFields value rules := by
  have mapping' : later.mapping? rules = some entries :=
    (shares.alike rules rules').mapping?.trans mapping
  rw [judgeFields_of_mapping shaped' mapping', judgeFields_of_mapping shaped mapping,
    shares.judgeRules (shares.entries rules' mapping) same known]

/-- Items under keys that no rule names make no difference to a value that nothing else leads to. -/
theorem judgeFields_of_edited (mapping : store.mapping? rules = some entries)
    (settled : (Action.setItem value key item).Settles store () later ∨
      (Action.dropItem value key).Settles store () later)
    (shaped : store.hasFields value = true) (detached : store.Detached value rules)
    (keyed : ¬ store.Reaches key value)
    (unnamed : ∀ entry ∈ entries, ∀ other, other = key ∨ store.agrees other key = true →
      store.agrees other entry.1 = false) :
    later.judgeFields value rules = store.judgeFields value rules := by
  obtain ⟨ref, changed, rfl, edited, rfl⟩ := exists_edited_of_settles settled
  have here : store.object? (.object ref) = some (store.read ref) := rfl
  obtain ⟨form, held, read, edit⟩ := mapping_of_edited here shaped edited
  rw [read] at here
  have used : store.Holds ref := holds_of_read read (by simp)
  have found : store.mapping? (.object ref) = some held := by simp only [mapping?, here]
  obtain ⟨altered, rfl, keys, alike⟩ : ∃ altered, changed = .mapping form altered ∧
      (∀ entry ∈ altered, (∃ old ∈ held, entry.1 = old.1) ∨ entry.1 = key) ∧
      ∀ entry ∈ entries, store.find? altered entry.1 = store.find? held entry.1 := by
    rcases edit with rfl | rfl
    · exact ⟨_, rfl, fun _ member => key_of_mem_put member, fun entry member =>
        find?_put_of_unnamed held item (unnamed entry member)⟩
    · exact ⟨_, rfl, fun entry member => Or.inl ⟨entry, (List.mem_filter.mp member).1, rfl⟩,
        fun entry member => find?_filter_of_unnamed held (unnamed entry member)⟩
  have found' : (store.write ref (.mapping form altered)).mapping? (.object ref) = some altered := by
    simp only [mapping?, object?, read_write_same store _ ref used]
  have counted : (store.write ref (.mapping form altered)).nodes = store.nodes :=
    nodes_write (by simp [read]) (by simp)
  have shares := shares_write shaped (congrArg List.length counted) detached.answersApart
  have apart : ∀ entry ∈ altered, ¬ store.Reaches entry.1 (.object ref) := by
    intro entry member
    rcases keys entry member with ⟨old, present, same⟩ | same
    · exact same ▸ detached.keysApart held found old present
    · exact same ▸ keyed
  refine shares.judgeFields mapping detached.rulesApart shaped (hasFields_of_mapping found')
    (fun entry member => ?_) (detached.fieldsApart entries mapping)
  have named := (shares.entries detached.rulesApart mapping entry member).1
  rw [field_of_mapping found', field_of_mapping found, shares.requireHashable named,
    shares.find? apart named, alike entry member]

/-- How the attributes of a value change: they are attached to it, or belong to its object. -/
theorem exists_changed_of_settles {target spelling : Value}
    (settled : (Action.setAttribute target spelling item).Settles store () later ∨
      (Action.dropAttribute target spelling).Settles store () later) :
    ∃ hidden, store.string? spelling = some hidden ∧
      ((∃ attributes, store.attachable target hidden = true ∧
          (∀ other, other ≠ hidden →
            attributes.named? other = (store.attributes target).named? other) ∧
          later = store.attach target attributes) ∨
        ∃ ref changed, target = .object ref ∧
          (withAttribute (store.read ref) hidden spelling item = .ok changed ∨
            withoutAttribute (store.read ref) hidden = .ok changed) ∧
          later = store.write ref changed) := by
  have named {hidden : String} (known : store.attributeName spelling = .ok hidden) :
      store.string? spelling = some hidden := by
    unfold attributeName at known
    split at known <;> cases known
    assumption
  rcases settled with given | taken
  · obtain ⟨_, _, read, further⟩ := given.split
    obtain ⟨rfl, rfl⟩ := read.unique Action.settles_store
    obtain ⟨hidden, _, ⟨known, rfl⟩, ended⟩ := further.split
    refine ⟨hidden, named known, ?_⟩
    split at ended
    · rename_i attachable
      exact Or.inl ⟨_, attachable,
        fun other different => Attributes.named?_put_of_ne _ hidden other _ _ different,
        ended.2.symm⟩
    · obtain ⟨ref, changed, same, edited, written⟩ := Action.settles_modify ended
      exact Or.inr ⟨ref, changed, same, Or.inl edited, written⟩
  · obtain ⟨_, _, read, further⟩ := taken.split
    obtain ⟨rfl, rfl⟩ := read.unique Action.settles_store
    obtain ⟨hidden, _, ⟨known, rfl⟩, ended⟩ := further.split
    refine ⟨hidden, named known, ?_⟩
    dsimp only at ended
    split at ended
    · rename_i attachable
      exact Or.inl ⟨_, attachable.1,
        fun other different => Attributes.named?_without_of_ne _ hidden other different,
        ended.2.symm⟩
    · obtain ⟨ref, changed, same, edited, written⟩ := Action.settles_modify ended
      exact Or.inr ⟨ref, changed, same, Or.inr edited, written⟩

theorem differsAt_of_changed {spelling : Value} (stored : object.storesFields = true)
    (edited : withAttribute object hidden spelling item = .ok changed ∨
      withoutAttribute object hidden = .ok changed) : DiffersAt hidden object changed := by
  rcases edited with given | taken
  · exact differsAt_of_withAttribute given fun base same => by
      simp [same, Object.storesFields] at stored
  · exact differsAt_of_withoutAttribute taken

/-- An attribute more or less leaves an object with fields one. -/
theorem hasFields_of_differsAt (differs : DiffersAt hidden object changed)
    (read : store.read ref = object) (read' : later.read ref = changed)
    (shaped : store.hasFields (.object ref) = true) : later.hasFields (.object ref) = true := by
  cases differs with
  | plain | record =>
    simpa [hasFields, mapping?, kind, number?, string?, base, member?, sequence?, elements?, bytes?,
      object?, read, read', callable, Object.elements?] using shaped
  | slotted | model | table =>
    simp [hasFields, mapping?, kind, number?, string?, base, member?, sequence?, elements?, bytes?,
      object?, read', callable, Object.elements?]

section Answers

variable {kept : Value → Prop} (shares : store.Shares later kept)

include shares

theorem Shares.modelFieldName (model : Model) (known : kept name) :
    later.modelFieldName model name = store.modelFieldName model name := by
  have other (field : ModelField) : kept ((field.alias?.map Value.text).getD .null) := by
    cases field.alias? with
    | none => exact shares.atom _ rfl
    | some spelled => exact shares.texts spelled
  have named (field : ModelField) :
      later.agrees (.text field.name) name = store.agrees (.text field.name) name :=
    shares.agrees (shares.texts _) known
  have second (field : ModelField) :
      later.agrees ((field.alias?.map Value.text).getD .null) name =
        store.agrees ((field.alias?.map Value.text).getD .null) name :=
    shares.agrees (other field) known
  simp only [Store.modelFieldName, named, second]

theorem Shares.kept_modelFieldName (model : Model) (known : kept name) :
    kept (store.modelFieldName model name) := by
  simp only [Store.modelFieldName]
  split
  · exact known
  · split
    · exact shares.texts _
    · exact known

theorem Shares.attributeNamed {asked : Value} (known : kept asked)
    (answers : ∀ content, store.string? asked = some content →
      later.attributeOf value content = store.attributeOf value content) :
    later.attributeNamed value asked = store.attributeNamed value asked := by
  have same := (shares.alike asked known).string?
  cases string : store.string? asked with
  | none => simp only [Store.attributeNamed, same, string]
  | some content => simp only [Store.attributeNamed, same, string, answers content string]

/-- A field under another name than the one that an object of fields changes under is as before. -/
theorem Shares.field_of_differsAt (known : kept name) (differs : DiffersAt hidden object changed)
    (read : store.read ref = object) (read' : later.read ref = changed)
    (attached : later.attributesOf (.object ref) = store.attributesOf (.object ref))
    (unnamed : store.string? (store.resolved (.object ref) name) ≠ some hidden) :
    later.field (.object ref) name = store.field (.object ref) name := by
  have answers (content : String) (different : content ≠ hidden) :
      later.attributeOf (.object ref) content = store.attributeOf (.object ref) content := by
    simp only [attributeOf, read, read', attached,
      objectAttribute_of_differsAt differs different store later ref ref]
  cases differs with
  | @model whole own hidden' extra others =>
    simp only [resolved, object?, read] at unnamed
    have renamed : later.modelFieldName { whole with own, hidden := hidden', extra } name =
        store.modelFieldName whole name := shares.modelFieldName whole known
    simp only [Store.field, mapping?, object?, read, read', shares.requireHashable known, renamed]
    cases store.requireHashable name with
    | error fault => rfl
    | ok hashed =>
      simp only [ok_bind, pure_bind,
        shares.attributeNamed (shares.kept_modelFieldName whole known) fun content string =>
          answers content fun same => unnamed (same ▸ string)]
  | _ =>
    simp only [resolved, object?, read] at unnamed
    simp only [Store.field, mapping?, object?, read, read', pure_bind,
      shares.attributeNamed known fun content string =>
        answers content fun same => unnamed (same ▸ string)]

end Answers

theorem noMapping_of_differsAt (differs : DiffersAt hidden object changed)
    (read : store.read ref = object) : store.mapping? (.object ref) = none := by
  cases differs <;> simp only [mapping?, object?, read]

/-- An attribute that no rule names makes no difference to an object that nothing else leads to.
What a mapping has besides its items is not asked for at all. -/
theorem judgeFields_of_changed {spelling : Value} (mapping : store.mapping? rules = some entries)
    (here : store.object? value = some object) (stored : object.storesFields = true)
    (settled : (Action.setAttribute value spelling item).Settles store () later ∨
      (Action.dropAttribute value spelling).Settles store () later)
    (shaped : store.hasFields value = true) (detached : store.Detached value rules)
    (unnamed : store.mapping? value = none → ∀ entry ∈ entries,
      store.string? (store.resolved value entry.1) ≠ store.string? spelling) :
    later.judgeFields value rules = store.judgeFields value rules := by
  obtain ⟨ref, rfl, read⟩ := eq_object_of_object? here
  obtain ⟨hidden, spelled, ⟨attributes, placed, others, rfl⟩ |
    ⟨ref', changed, same, edited, rfl⟩⟩ := exists_changed_of_settles settled
  · have shares := shares_attach attributes shaped detached.answersApart
    have shaped' : (store.attach (.object ref) attributes).hasFields (.object ref) = true := shaped
    refine shares.judgeFields mapping detached.rulesApart shaped shaped' (fun entry member => ?_)
      (detached.fieldsApart entries mapping)
    have named := (shares.entries detached.rulesApart mapping entry member).1
    cases object with
    | mapping form held =>
      have found : store.mapping? (.object ref) = some held := by simp only [mapping?, here]
      have found' : (store.attach (.object ref) attributes).mapping? (.object ref) = some held :=
        found
      rw [field_of_mapping found', field_of_mapping found, shares.requireHashable named,
        shares.find? (detached.keysApart held found) named]
    | plain | slotted | record | model => simp [attachable, read] at placed
    | _ => cases stored
  · cases same
    rw [read] at edited
    rw [spelled] at unnamed
    have differs := differsAt_of_changed stored edited
    have used : store.Holds ref := holds_of_read read fun bare => by
      subst bare
      cases differs
    have read' : (store.write ref changed).read ref = changed := read_write_same store changed ref used
    have counted : (store.write ref changed).nodes = store.nodes :=
      nodes_write (by cases differs <;> simp [read]) (by cases differs <;> simp)
    have shares := shares_write shaped (congrArg List.length counted) detached.answersApart
    refine shares.judgeFields mapping detached.rulesApart shaped
      (hasFields_of_differsAt differs read read' shaped) (fun entry member => ?_)
      (detached.fieldsApart entries mapping)
    exact shares.field_of_differsAt (shares.entries detached.rulesApart mapping entry member).1
      differs read read' rfl (unnamed (noMapping_of_differsAt differs read) entry member)

end Changes

theorem named?_isSome {field : String × Value} (member : field ∈ fields) :
    ∃ held, fields.named? field.1 = some held := by
  have found : (fields.find? fun other => other.1 = field.1).isSome :=
    List.find?_isSome.mpr ⟨field, member, by simp⟩
  obtain ⟨first, known⟩ := Option.isSome_iff_exists.mp found
  exact ⟨first.2, by simp [Fields.named?, known]⟩

/-- Judging fields sees a value through the fields that the rules name. Two values that hold the
same under each of these names are judged alike: the outcome, the calls and the records are the
same. So whatever is given, changed or taken away under a key or a name that no rule stands for
makes no difference, unless the value is met again inside what is judged. Nor does a key that holds
the undefined value instead of being absent, nor the shape in which fields are stored. -/
theorem judgeFields_sees_named (store : Store) {rules : Value} {entries : List (Value × Value)}
    (mapping : store.mapping? rules = some entries) (left right : Value) :
    (store.hasFields left = true → store.hasFields right = true →
      (∀ entry ∈ entries, store.field left entry.1 = store.field right entry.1) →
      store.judgeFields left rules = store.judgeFields right rules) ∧
    (∀ key item later,
      ((Action.setItem left key item).Settles store () later ∨
        (Action.dropItem left key).Settles store () later) →
      store.hasFields left = true → store.Detached left rules → ¬ store.Reaches key left →
      (∀ entry ∈ entries, ∀ other, other = key ∨ store.agrees other key = true →
        store.agrees other entry.1 = false) →
      later.judgeFields left rules = store.judgeFields left rules) ∧
    (∀ object spelling item later, store.object? left = some object → object.storesFields = true →
      ((Action.setAttribute left spelling item).Settles store () later ∨
        (Action.dropAttribute left spelling).Settles store () later) →
      store.hasFields left = true → store.Detached left rules →
      (store.mapping? left = none → ∀ entry ∈ entries,
        store.string? (store.resolved left entry.1) ≠ store.string? spelling) →
      later.judgeFields left rules = store.judgeFields left rules) ∧
    (∀ before after key, store.mapping? left = some (before ++ (key, .undefined) :: after) →
      store.mapping? right = some (before ++ after) →
      (∀ entry ∈ entries, store.agrees key entry.1 = true →
        store.find? (before ++ after) entry.1 = none) →
      store.judgeFields left rules = store.judgeFields right rules) ∧
    (∀ fields, store.Stores left fields → store.Stores right fields →
      (∀ entry ∈ entries, ∃ field ∈ fields, store.string? entry.1 = some field.1) →
      store.judgeFields left rules = store.judgeFields right rules) := by
  refine ⟨fun leftShaped rightShaped same =>
    judgeFields_congr leftShaped rightShaped mapping same, ?_, ?_, ?_, ?_⟩
  · intro key item later settled shaped detached keyed unnamed
    exact judgeFields_of_edited mapping settled shaped detached keyed unnamed
  · intro object spelling item later here stored settled shaped detached unnamed
    exact judgeFields_of_changed mapping here stored settled shaped detached unnamed
  · intro before after key leftFound rightFound absent
    refine judgeFields_congr (hasFields_of_mapping leftFound) (hasFields_of_mapping rightFound)
      mapping fun entry member => ?_
    rw [field_of_mapping leftFound, field_of_mapping rightFound,
      find?_of_undefined (absent entry member)]
  · intro fields leftStores rightStores named
    refine judgeFields_congr (hasFields_of_stores leftStores) (hasFields_of_stores rightStores)
      mapping fun entry member => ?_
    obtain ⟨field, present, string⟩ := named entry member
    obtain ⟨held, found⟩ := named?_isSome present
    rw [field_of_stores leftStores string found, field_of_stores rightStores string found]

/-- The store of fields and rules with a model next to them that has the first field under an
alias, and one more that no rule names. -/
def withTwins : Store :=
  withRules.alloc (.model ⟨"M", 0, [⟨"first", some "a"⟩, ⟨"b", none⟩, ⟨"d", none⟩],
    [("first", .integer 4), ("b", .boolean true), ("d", .null)], [], [], false⟩)

/-- Nothing inside the rules leads back to the mapping that is judged by them. -/
theorem detached_twins : withTwins.Detached (.object ⟨4⟩) (.object ⟨6⟩) where
  rulesApart := unreached_of_closed
    [.object ⟨6⟩, .text "a", .object ⟨7⟩, .text "b", .text "number", .text "c", .integer 5,
      .text "type", .text "check", .object ⟨5⟩]
    (by decide) (by decide) (by decide)
  fieldsApart := by
    intro entries mapping entry member held read
    cases mapping
    simp only [List.mem_cons, List.not_mem_nil, or_false] at member
    rcases member with rfl | rfl | rfl <;> cases read <;> exact unreached_atom rfl rfl
  keysApart := by
    intro own mapping entry member
    cases mapping
    simp only [List.mem_cons, List.not_mem_nil, or_false] at member
    rcases member with rfl | rfl <;> exact unreached_atom rfl rfl
  answersApart := by
    intro name argument answer apart replied
    cases replied
    exact apart

/-- The model is judged as the mapping is, and what it has besides does not show. Nor does what the
mapping gets under a key that no rule names. -/
theorem judgeFields_of_twins :
    (withTwins.judgeFields (.object ⟨4⟩) (.object ⟨6⟩) =
        withTwins.judgeFields (.object ⟨8⟩) (.object ⟨6⟩) ∧
      (withTwins.judgeFields (.object ⟨8⟩) (.object ⟨6⟩)).outcome =
        .ok (.rejected "b expected is number, actual is boolean")) ∧
    ∃ later, (Action.setItem (.object ⟨4⟩) (.text "z") (.object ⟨4⟩)).Settles withTwins () later ∧
      later.judgeFields (.object ⟨4⟩) (.object ⟨6⟩) =
        withTwins.judgeFields (.object ⟨4⟩) (.object ⟨6⟩) := by
  let entries : List (Value × Value) :=
    [(.text "a", .object ⟨7⟩), (.text "b", .text "number"), (.text "c", .integer 5)]
  have mapping : withTwins.mapping? (.object ⟨6⟩) = some entries := rfl
  have same : ∀ entry ∈ entries,
      withTwins.field (.object ⟨4⟩) entry.1 = withTwins.field (.object ⟨8⟩) entry.1 := by
    simp only [entries, List.forall_mem_cons]
    exact ⟨rfl, rfl, rfl, by simp⟩
  refine ⟨⟨(judgeFields_sees_named withTwins mapping _ _).1 rfl rfl same, rfl⟩, _, ⟨rfl, rfl⟩, ?_⟩
  refine (judgeFields_sees_named withTwins mapping _ .null).2.1 (.text "z") (.object ⟨4⟩) _
    (Or.inl ⟨rfl, rfl⟩) rfl detached_twins (unreached_atom rfl rfl) ?_
  intro entry member other taken
  have spelled : withTwins.content? other = some "z" := by
    rcases taken with rfl | taken
    · rfl
    · simpa [agrees_text] using taken
  simp only [entries, List.mem_cons, List.not_mem_nil, or_false] at member
  rcases member with rfl | rfl | rfl <;> simp [agrees_text, spelled]

/-- A mapping that holds itself, with rules under which its entries have to be objects. -/
def withLoop : Store :=
  (initial.alloc (.mapping .plain [(.text "a", .object ⟨4⟩)])).alloc
    (.mapping .plain [(.text "a", .text "array<object>")])

/-- What is added under a key that no rule names shows in a mapping that is met again inside. -/
theorem judgeFields_meets_itself :
    ∃ later, (Action.setItem (.object ⟨4⟩) (.text "z") (.integer 1)).Settles withLoop () later ∧
      withLoop.agrees (.text "z") (.text "a") = false ∧
      (withLoop.judgeFields (.object ⟨4⟩) (.object ⟨5⟩)).outcome = .ok .accepted ∧
      (later.judgeFields (.object ⟨4⟩) (.object ⟨5⟩)).outcome =
        .ok (.rejected "a [z] expected is object, actual is number") :=
  ⟨_, ⟨rfl, rfl⟩, rfl, rfl, rfl⟩

end Store

end Conform
