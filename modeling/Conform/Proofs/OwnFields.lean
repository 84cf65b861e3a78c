import Mathlib.Data.List.Forall2
import Conform.Proofs.Growth
import Conform.Proofs.Sight
import Conform.Proofs.Coverage

/-! Own fields are found: what a value with fields lists of its own, in order, it also answers
under each of the names, whether the name finds an entry, a declared field or an attribute. -/

namespace Conform

namespace Store

/-- Entries that spell the names of fields: their keys are strings of these characters. -/
def Spells (store : Store) (entries : List (Value × Value)) (fields : Fields) : Prop :=
  List.Forall₂ (fun entry field => store.string? entry.1 = some field.1 ∧ entry.2 = field.2)
    entries fields

/-- Attributes under distinct names, spelled by strings of these characters. -/
structure Orderly (store : Store) (attributes : Attributes) : Prop where
  distinct : (attributes.fields.map Prod.fst).Nodup
  spelled : ∀ name spelling, attributes.spellings.named? name = some spelling →
    store.string? spelling = some name

/-- A value that is made as all values are. A mapping has no key twice, now or later; a type
declares no field twice; attributes have distinct names, are attached where that is possible, and
none of them is set behind a computed one of the type. -/
structure Regular (store : Store) (value : Value) : Prop where
  keys : ∀ entries, store.mapping? value = some entries → ∀ later, store.Grows later →
    (∀ entry ∈ entries, later.hashable entry.1 = true) ∧
      entries.Pairwise fun one other => later.agrees one.1 other.1 = false
  declared : ∀ object names, store.object? value = some object →
    object.declared? = some names → names.Nodup
  plain : ∀ whole, store.object? value = some (.plain whole) → store.Orderly whole.own ∧
    ∀ field ∈ whole.own.fields, ∀ failure ∈ whole.failing, failure.1 ≠ field.1
  table : ∀ own, store.object? value = some (.table own) → store.Orderly own
  attached : store.Orderly (store.attributes value)
  attachable : ∀ field ∈ (store.attributesOf value).fields,
    store.attachable value field.1 = true

variable {store : Store} {value name : Value} {content : String} {fields : Fields}
  {items : List (Value × Value)} {attributes : Attributes}

theorem hashable_of_string (string : store.string? name = some content) :
    store.hashable name = true := by
  have allowed := requireHashable_of_string string
  unfold requireHashable at allowed
  split at allowed
  · assumption
  · cases allowed

theorem spells_ofFields (fields : Fields) : store.Spells (Entries.ofFields fields).items fields := by
  unfold Spells Entries.ofFields Entries.complete Entries.items
  rw [List.forall₂_map_left_iff, List.forall₂_same]
  exact fun field _ => ⟨rfl, rfl⟩

theorem spells_entries (orderly : store.Orderly attributes) :
    store.Spells attributes.entries attributes.fields := by
  unfold Spells Attributes.entries
  rw [List.forall₂_map_left_iff, List.forall₂_same]
  rintro ⟨name, held⟩ _
  refine ⟨?_, rfl⟩
  cases spelled : attributes.spellings.named? name with
  | none => simp only [spelled]; rfl
  | some spelling =>
    simp only [spelled]
    exact orderly.spelled name spelling spelled

/-- Every key that spells a name has its item for the field of that name. -/
theorem exists_field_of_spelled (spells : store.Spells items fields) {entry : Value × Value}
    (member : entry ∈ items) :
    ∃ field ∈ fields, store.string? entry.1 = some field.1 ∧ entry.2 = field.2 := by
  induction spells with
  | nil => cases member
  | cons same _ inductionHypothesis =>
    rcases List.mem_cons.mp member with rfl | deeper
    · exact ⟨_, List.mem_cons_self, same⟩
    · obtain ⟨field, present, here⟩ := inductionHypothesis deeper
      exact ⟨field, List.mem_cons_of_mem _ present, here⟩

/-- A name finds among spelled names what it finds among the names themselves. -/
theorem find?_of_spelled (spells : store.Spells items fields)
    (string : store.string? name = some content) :
    store.find? items name = fields.named? content := by
  induction spells with
  | nil => rfl
  | @cons entry field rest others same _ inductionHypothesis =>
    have agrees := agrees_of_strings same.1 string
    unfold find? Fields.named? at inductionHypothesis ⊢
    by_cases here : field.1 = content
    · simp [agrees, here, same.2]
    · simpa [agrees, here] using inductionHypothesis

/-- Names that are spelled once cannot be taken for one another. -/
theorem pairwise_of_spelled (spells : store.Spells items fields)
    (distinct : (fields.map Prod.fst).Nodup) :
    items.Pairwise fun one other => store.agrees one.1 other.1 = false := by
  induction spells with
  | nil => exact .nil
  | @cons entry field rest others same spells inductionHypothesis =>
    obtain ⟨absent, distinct⟩ := List.nodup_cons.mp distinct
    refine List.pairwise_cons.mpr ⟨?_, inductionHypothesis distinct⟩
    intro other member
    obtain ⟨behind, present, string, -⟩ := exists_field_of_spelled spells member
    have apart : field.1 ≠ behind.1 := by
      intro equal
      exact absent (equal ▸ List.mem_map_of_mem present)
    simp [agrees_of_strings same.1 string, apart]

theorem named?_of_distinct (distinct : (fields.map Prod.fst).Nodup) {field : String × Value}
    (member : field ∈ fields) : fields.named? field.1 = some field.2 := by
  induction fields with
  | nil => cases member
  | cons head rest inductionHypothesis =>
    obtain ⟨absent, distinct⟩ := List.nodup_cons.mp distinct
    rcases List.mem_cons.mp member with rfl | deeper
    · simp [Fields.named?]
    · have apart : head.1 ≠ field.1 := by
        intro equal
        exact absent (equal ▸ List.mem_map_of_mem deeper)
      simpa [Fields.named?, apart] using inductionHypothesis distinct deeper

/-- The fields that a declaration lists, all of which can be read. -/
theorem ofDeclared_of_read {read : String → Except Fault (Option Value)} {names : List String}
    (each : ∀ name ∈ names, ∃ held, read name = .ok (some held)) :
    ∃ fields : Fields, fields.map Prod.fst = names ∧
      (Entries.ofDeclared read names).items = (Entries.ofFields fields).items ∧
      ∀ field ∈ fields, read field.1 = .ok (some field.2) := by
  induction names with
  | nil => exact ⟨[], rfl, rfl, by simp⟩
  | cons name rest inductionHypothesis =>
    obtain ⟨⟨held, found⟩, others⟩ := List.forall_mem_cons.mp each
    obtain ⟨fields, names, items, answered⟩ := inductionHypothesis others
    refine ⟨(name, held) :: fields, by simp [names], ?_, ?_⟩
    · simp only [Entries.ofDeclared, found]
      change (Value.text name, held) :: (Entries.ofDeclared read rest).items = _
      rw [items]
      rfl
    · exact List.forall_mem_cons.mpr ⟨found, answered⟩

/-- The own fields of a value, as it answers them under their names. -/
structure Answers (store : Store) (value : Value) (fields : Fields) : Prop where
  distinct : (fields.map Prod.fst).Nodup
  unbroken : (store.ownFields value).fault? = none
  spells : store.Spells (store.ownFields value).items fields
  answered : ∀ field ∈ fields, store.attributeOf value field.1 = .ok (some field.2)
  resolved : ∀ field ∈ fields, ∀ name, store.string? name = some field.1 →
    store.resolved value name = name

variable {ref : Ref} {object : Object} {held : Value}

theorem named?_of_orderly (orderly : store.Orderly attributes) :
    ∀ field ∈ attributes.fields, attributes.named? field.1 = some field.2 :=
  fun _ member => named?_of_distinct orderly.distinct member

theorem resolved_of_no_model (noModel : ∀ whole, store.object? value ≠ some (.model whole))
    (name : Value) : store.resolved value name = name := by
  unfold resolved
  split
  · rename_i whole here
    exact absurd here (noModel whole)
  · rfl

theorem attributeOf_of_own
    (own : store.objectAttribute ref (store.read ref) content = .ok (some held)) :
    store.attributeOf (.object ref) content = .ok (some held) := by
  simp [attributeOf, own]

/-- What lists attributes of its own, under names as they were spelled, answers them. -/
theorem answers_of_entries (own : store.ownFields value = .complete attributes.entries)
    (orderly : store.Orderly attributes)
    (answered : ∀ field ∈ attributes.fields, store.attributeOf value field.1 = .ok (some field.2))
    (noModel : ∀ whole, store.object? value ≠ some (.model whole)) :
    store.Answers value attributes.fields where
  distinct := orderly.distinct
  unbroken := by rw [own]; rfl
  spells := by
    rw [own]
    exact spells_entries orderly
  answered := answered
  resolved := fun _ _ name _ => resolved_of_no_model noModel name

/-- What goes by attached attributes has none where none can be attached. -/
theorem answers_of_closed (regular : store.Regular value)
    (own : store.ownFields value = .complete (store.attributes value).entries)
    (noMember : store.member? value = none)
    (closed : ∀ name, store.attachable value name = false)
    (noModel : ∀ whole, store.object? value ≠ some (.model whole)) :
    store.Answers value (store.attributes value).fields := by
  refine answers_of_entries own regular.attached ?_ noModel
  intro field member
  rw [attributes_eq_attributesOf noMember] at member
  have allowed := regular.attachable field member
  rw [closed] at allowed
  cases allowed

/-- A member answers its own fields: none of them has the name of its value or of its name. -/
theorem answers_of_member {owner : Ref} {index : Nat}
    (regular : store.Regular (.member owner index)) :
    store.Answers (.member owner index) (store.attributes (.member owner index)).fields := by
  refine answers_of_entries rfl regular.attached ?_ (fun whole => nofun)
  intro field member
  have apart : field.1 ≠ "value" ∧ field.1 ≠ "name" := by
    by_cases bare : store.attributesOf (.member owner index) = .empty
    · cases known : store.member? (.member owner index) with
      | none =>
        rw [attributes_eq_attributesOf known, bare] at member
        cases member
      | some whole =>
        simp [Store.attributes, known, bare, Attributes.ofFields, MemberOf.own, Fields.put] at member
        rcases member with rfl | rfl | rfl | rfl <;> simp
    · have same : store.attributes (.member owner index) =
          store.attributesOf (.member owner index) := by
        simp only [Store.attributes, bare, if_false]
        split <;> rfl
      rw [same] at member
      simpa [attachable] using regular.attachable field member
  have found := named?_of_orderly regular.attached field member
  simp [attributeOf, memberAttribute?, apart.1, apart.2, found]

/-- A record or a model answers its declared fields, each of which is set. -/
theorem answers_of_declared {names : List String} (whole : store.complete value = true)
    (regular : store.Regular value) (here : store.object? value = some object)
    (declares : object.declared? = some names) : ∃ fields, store.Answers value fields := by
  have distinct : names.Nodup := regular.declared object names here declares
  have each := attributeOf_of_complete here declares (isComplete_of_complete whole here)
  obtain ⟨fields, same, items, answered⟩ := ofDeclared_of_read fun name member => by
    obtain ⟨held, -, found⟩ := each name member
    exact ⟨held, found⟩
  have own := ownFields_of_declared here declares
  refine ⟨fields, same ▸ distinct, unbroken_ownFields whole, ?_, answered, ?_⟩
  · rw [own, items]
    exact spells_ofFields fields
  · intro field member name string
    have declared : field.1 ∈ names := same ▸ List.mem_map_of_mem member
    cases object with
    | model model =>
      cases declares
      simp only [resolved, here]
      exact modelFieldName_of_declared string declared
    | record record => exact resolved_of_no_model (by simp [here]) name
    | _ => cases declares

theorem answers_of_frozen {typeName : String} (here : store.object? value = some object)
    (frozen : object.frozen? = some (typeName, fields)) : store.Answers value fields := by
  obtain ⟨ref, rfl, read⟩ := eq_object_of_object? here
  have distinct : (fields.map Prod.fst).Nodup := by
    cases object <;>
      simp only [Object.frozen?, Option.some.injEq, Prod.mk.injEq, reduceCtorEq] at frozen <;>
      obtain ⟨-, rfl⟩ := frozen <;> simp
  have own : store.ownFields (.object ref) = .ofFields fields := by
    cases object <;> simp only [Object.frozen?, reduceCtorEq] at frozen <;>
      simp only [Store.ownFields, read, Object.frozen?, frozen]
  refine ⟨distinct, by rw [own]; rfl, ?_, ?_, ?_⟩
  · rw [own]
    exact spells_ofFields fields
  · intro field member
    have apart : field.1 ≠ "kind" := by
      cases object <;>
        simp only [Object.frozen?, Option.some.injEq, Prod.mk.injEq, reduceCtorEq] at frozen <;>
        obtain ⟨-, rfl⟩ := frozen <;> revert member field <;> simp
    refine attributeOf_of_own ?_
    have found := named?_of_distinct distinct member
    cases object <;> simp only [Object.frozen?, reduceCtorEq] at frozen <;>
      simp only [read, objectAttribute, Object.frozen?, frozen] <;>
      simp_all [Fields.named?]
  · intro _ _ name _
    refine resolved_of_no_model (fun whole model => ?_) name
    rw [here] at model
    cases model
    cases frozen

/-- An object of a derived type that can be read field by field answers what is attached to it:
the content of a wrapped text, whose name is not free, is no field of such an object. -/
theorem answers_of_derived {base : Value} (regular : store.Regular (.object ref))
    (readable : store.hasFields (.object ref) = true) (read : store.read ref = .derived base) :
    store.Answers (.object ref) (store.attributes (.object ref)).fields := by
  have content : base.contentFields = [] := by
    cases base with
    | wrapped text =>
      simp [hasFields, mapping?, sequence?, Store.base, member?, object?, read] at readable
    | _ => rfl
  have own : store.ownFields (.object ref) = .complete (store.attributes (.object ref)).entries := by
    simp [Store.ownFields, read, Value.contentEntries, content, Entries.ofFields, Entries.complete,
      Entries.items]
  refine answers_of_entries own regular.attached ?_ (by simp [object?, read])
  intro field member
  have found := named?_of_orderly regular.attached field member
  rw [attributes_eq_attributesOf rfl] at found
  simp [attributeOf, read, objectAttribute, content, Fields.named?, found]

/-- The three readings agree: what a value lists of its own, it also answers under each name. -/
theorem exists_answers (whole : store.complete value = true) (regular : store.Regular value)
    (readable : store.hasFields value = true) (noMapping : store.mapping? value = none) :
    ∃ fields, store.Answers value fields := by
  have shapeless (none : store.hasFields value = false) : ∃ fields, store.Answers value fields := by
    rw [readable] at none
    cases none
  cases value with
  | member owner index => exact ⟨_, answers_of_member regular⟩
  | decimal decimal => exact ⟨_, answers_of_closed regular rfl rfl (fun _ => rfl) (fun _ => nofun)⟩
  | complex re im => exact ⟨_, answers_of_closed regular rfl rfl (fun _ => rfl) (fun _ => nofun)⟩
  | object ref =>
    have here : store.object? (.object ref) = some (store.read ref) := rfl
    cases read : store.read ref with
    | mapping form entries => simp [mapping?, object?, read] at noMapping
    | record _ | model _ =>
      exact answers_of_declared whole regular (here.trans (by rw [read])) rfl
    | plain whole =>
      obtain ⟨orderly, visible⟩ := regular.plain whole (by rw [here, read])
      have own : store.ownFields (.object ref) = .complete whole.own.entries := by
        simp only [Store.ownFields, read]
      refine ⟨_, answers_of_entries own orderly ?_ (by simp [object?, read])⟩
      intro field member
      have shown : whole.failing.find? (fun failure => failure.1 = field.1) = none := by
        simpa using fun failure kind failing => visible field member (failure, kind) failing
      have found := named?_of_orderly orderly field member
      exact attributeOf_of_own (by simp [read, objectAttribute, shown, found])
    | table attributes =>
      have orderly := regular.table attributes (by rw [here, read])
      have own : store.ownFields (.object ref) = .complete attributes.entries := by
        simp only [Store.ownFields, read]
      refine ⟨_, answers_of_entries own orderly ?_ (by simp [object?, read])⟩
      intro field member
      have found := named?_of_orderly orderly field member
      exact attributeOf_of_own (by simp [read, objectAttribute, found])
    | derived base => exact ⟨_, answers_of_derived regular readable read⟩
    | noCheck | enumeration name values | rule type check | outcome ok error
      | container kindName element | predicate test =>
      exact ⟨_, answers_of_frozen (here.trans (by rw [read])) rfl⟩
    | bare | slotted whole | generator items | view part items =>
      refine ⟨_, answers_of_closed regular ?_ rfl ?_ (by simp [object?, read])⟩
      · simp [Store.ownFields, read, Object.frozen?]
      · simp [attachable, read]
    | sequence form items | range start stop step | set frozen items | byteArray bytes
      | function known | enumType type =>
      exact shapeless (by simp [hasFields, mapping?, kind, number?, string?, Store.base, member?,
        sequence?, elements?, bytes?, object?, read, callable, Object.elements?])
  | _ =>
    exact shapeless (by simp [hasFields, mapping?, kind, number?, string?, Store.base, member?,
      sequence?, elements?, bytes?, object?, callable])

theorem ownFields_of_mapping (mapping : store.mapping? value = some items) :
    store.ownFields value = .complete items := by
  obtain ⟨ref, form, rfl, read⟩ := exists_of_mapping mapping
  simp only [Store.ownFields, read]

theorem items_of_mapping (mapping : store.mapping? value = some items) :
    (store.ownFields value).items = items := by
  rw [ownFields_of_mapping mapping]
  rfl

theorem entries?_eq_ownFields (readable : store.hasFields value = true) :
    store.entries? value = some (store.ownFields value) := by
  cases mapping : store.mapping? value with
  | none => exact entries?_of_hasFields mapping readable
  | some entries => simp only [entries?, mapping, ownFields_of_mapping mapping]

theorem distinct_ownFields (whole : store.complete value = true) (regular : store.Regular value)
    (readable : store.hasFields value = true) :
    (∀ entry ∈ (store.ownFields value).items, store.hashable entry.1 = true) ∧
      (store.ownFields value).items.Pairwise fun one other =>
        store.agrees one.1 other.1 = false := by
  cases mapping : store.mapping? value with
  | none =>
    obtain ⟨fields, answers⟩ := exists_answers whole regular readable mapping
    refine ⟨fun entry member => ?_, pairwise_of_spelled answers.spells answers.distinct⟩
    obtain ⟨field, _, string, _⟩ := exists_field_of_spelled answers.spells member
    exact hashable_of_string string
  | some entries =>
    rw [items_of_mapping mapping]
    exact regular.keys entries mapping store (.refl store)

/-- A string that finds one of the own fields finds the same when it asks the value itself. -/
theorem field_of_ownField (whole : store.complete value = true) (regular : store.Regular value)
    (readable : store.hasFields value = true) (noMapping : store.mapping? value = none)
    (string : store.string? name = some content)
    (found : store.find? (store.ownFields value).items name = some held) :
    store.field value name = .ok held := by
  obtain ⟨fields, answers⟩ := exists_answers whole regular readable noMapping
  rw [find?_of_spelled answers.spells string] at found
  have member : (content, held) ∈ fields := Fields.mem_of_named? found
  have itself := answers.resolved _ member name string
  rw [field_of_attribute noMapping (by rw [itself, string]) (requireHashable_of_string string),
    answers.answered _ member]
  rfl

theorem field_of_entry (whole : store.complete value = true) (regular : store.Regular value)
    (readable : store.hasFields value = true) {entry : Value × Value}
    (member : entry ∈ (store.ownFields value).items) :
    store.field value entry.1 = .ok entry.2 := by
  obtain ⟨hashable, distinct⟩ := distinct_ownFields whole regular readable
  have found := find?_of_distinct distinct member
  cases mapping : store.mapping? value with
  | none =>
    obtain ⟨fields, answers⟩ := exists_answers whole regular readable mapping
    obtain ⟨field, _, string, _⟩ := exists_field_of_spelled answers.spells member
    exact field_of_ownField whole regular readable mapping string found
  | some entries =>
    rw [items_of_mapping mapping] at member found
    have allowed : store.requireHashable entry.1 = .ok () := by
      have first := hashable entry (by rwa [items_of_mapping mapping])
      simp [requireHashable, first]
    rw [field_of_mapping mapping, allowed, found]
    rfl

end Store

end Conform
