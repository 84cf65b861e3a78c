import Conform.Proofs.Acceptance

/-! What a container that is accepted has been asked about. The ways in which a value holds
others are listed by its shape, and not by what is gone through; all that a mapping, a
sequence, a set or an object holds by what its type declares is visited before it is accepted.
-/

namespace Conform

/-- The ways in which a value holds others: under keys, at places, among the elements of a set,
as what a view of values or a generator gives, as attributes of an object, in slots, and as
fields that a type declares or that it does not declare. -/
inductive Way where
  | key
  | place
  | element
  | given
  | attribute
  | slot
  | declared
  | undeclared
deriving DecidableEq

/-- The ways that a container is gone through by. -/
def Way.visited : Way → Bool
  | .key | .place | .element | .attribute | .declared => true
  | .given | .slot | .undeclared => false

/-- An object that is gone through field by field: one that has attributes of its own, or whose
type lists its fields. -/
def Object.isFieldwise : Object → Bool
  | .plain _ | .record _ | .model _ | .table _ => true
  | object => object.frozen?.isSome

namespace Store

/-- A value holds another one in some way. The fields of the library's own records are declared
by their types. -/
inductive Holding (store : Store) (value : Value) : Way → Value → Prop where
  | key {entries : List (Value × Value)} {entry : Value × Value}
      (found : store.mapping? value = some entries) (member : entry ∈ entries) :
      Holding store value .key entry.2
  | place {series : Series} {place : Nat} {item : Value}
      (found : store.sequence? value = some series) (there : series.item? place = some item) :
      Holding store value .place item
  | element {items : List Value} {item : Value} (found : store.elements? value = some items)
      (member : item ∈ items) : Holding store value .element item
  | shown {items : List Value} {item : Value}
      (here : store.object? value = some (.view .values items)) (member : item ∈ items) :
      Holding store value .given item
  | generated {items : List Value} {item : Value}
      (here : store.object? value = some (.generator items)) (member : item ∈ items) :
      Holding store value .given item
  | plain {whole : Plain} {field : String × Value}
      (here : store.object? value = some (.plain whole)) (own : field ∈ whole.own.fields) :
      Holding store value .attribute field.2
  | table {own : Attributes} {field : String × Value}
      (here : store.object? value = some (.table own)) (member : field ∈ own.fields) :
      Holding store value .attribute field.2
  | member {owner : Ref} {index : Nat} {field : String × Value} (here : value = .member owner index)
      (readable : store.hasFields value = true) (own : field ∈ (store.attributes value).fields) :
      Holding store value .attribute field.2
  | slot {whole : Slotted} {field : String × Value}
      (here : store.object? value = some (.slotted whole)) (own : field ∈ whole.own) :
      Holding store value .slot field.2
  | frozen {object : Object} {typeName : String} {fields : Fields} {field : String × Value}
      (here : store.object? value = some object)
      (listed : object.frozen? = some (typeName, fields)) (member : field ∈ fields) :
      Holding store value .declared field.2
  | record {whole : Record} {name : String} {item : Value}
      (here : store.object? value = some (.record whole)) (declared : name ∈ whole.declared)
      (set : whole.own.named? name = some item) : Holding store value .declared item
  | model {whole : Model} {name : String} {item : Value}
      (here : store.object? value = some (.model whole))
      (declared : name ∈ whole.fields.map ModelField.name)
      (set : whole.own.named? name = some item) : Holding store value .declared item
  | undeclared {whole : Record} {field : String × Value}
      (here : store.object? value = some (.record whole)) (own : field ∈ whole.own)
      (other : field.1 ∉ whole.declared) : Holding store value .undeclared field.2
  | extra {whole : Model} {field : String × Value}
      (here : store.object? value = some (.model whole)) (member : field ∈ whole.extra) :
      Holding store value .undeclared field.2

variable {store : Store} {value item : Value} {way : Way} {entries : Entries} {names : List String}
  {object : Object}

/-- Declared fields are gone through whole when each of them can be read, and then they are what
is gone through. -/
theorem ofDeclared_iff (read : String → Except Fault (Option Value)) (names : List String)
    (meets : Value → Prop) :
    ((Entries.ofDeclared read names).fault? = none ∧
        ∀ entry ∈ (Entries.ofDeclared read names).items, meets entry.2) ↔
      ∀ name ∈ names, ∃ item, read name = .ok (some item) ∧ meets item := by
  induction names with
  | nil => simp [Entries.ofDeclared, Entries.complete, Entries.fault?, Entries.items]
  | cons name rest inductionHypothesis =>
    rw [List.forall_mem_cons, ← inductionHypothesis]
    cases found : read name with
    | error fault => simp [Entries.ofDeclared, found, Entries.fault?]
    | ok held? =>
      cases held? with
      | none => simp [Entries.ofDeclared, found, Entries.fault?]
      | some item =>
        simp only [Entries.ofDeclared, found, Entries.after, Entries.fault?, Entries.items,
          List.forall_mem_cons, Except.ok.injEq, Option.some.injEq, exists_eq_left']
        exact and_left_comm

theorem exists_entry_of_attribute {attributes : Attributes} {field : String × Value}
    (member : field ∈ attributes.fields) : ∃ entry ∈ attributes.entries, entry.2 = field.2 :=
  ⟨_, List.mem_map_of_mem member, rfl⟩

theorem exists_numbered {values : List Value} (member : item ∈ values) :
    ∃ entry ∈ numbered values, entry.2 = item := by
  obtain ⟨index, there⟩ := List.getElem?_of_mem member
  exact ⟨(.integer index, item),
    List.mem_map_of_mem (List.mk_mem_zipIdx_iff_getElem?.mpr there), rfl⟩

theorem exists_seriesEntry {series : Series} {place : Nat}
    (there : series.item? place = some item) :
    ∃ entry ∈ (seriesEntries series).items, entry.2 = item := by
  cases series with
  | listed items => exact exists_numbered (List.mem_of_getElem? there)
  | counted progression =>
    simp only [Series.item?, Option.ite_none_right_eq_some, Option.some.injEq] at there
    obtain ⟨inside, rfl⟩ := there
    exact ⟨progression.entry place, List.mem_map_of_mem (List.mem_range.mpr inside), rfl⟩

theorem mapping?_of_sequence? {series : Series} (found : store.sequence? value = some series) :
    store.mapping? value = none := by
  cases value with
  | object ref =>
    cases read : store.read ref <;>
      simp [sequence?, mapping?, base, member?, object?, read] at found ⊢
  | _ => rfl

theorem entries?_of_sequence? {series : Series} (found : store.sequence? value = some series) :
    store.entries? value = some (seriesEntries series) := by
  simp [entries?, mapping?_of_sequence? found, found]

theorem entries?_of_elements? {items : List Value} (found : store.elements? value = some items) :
    store.entries? value = some (.complete (numbered items)) := by
  obtain ⟨object, here, listed⟩ := Option.bind_eq_some_iff.mp found
  obtain ⟨ref, rfl, read⟩ := eq_object_of_object? here
  cases object <;> simp [Object.elements?] at listed <;>
    simp [entries?, mapping?, sequence?, base, member?, object?, read, found]

/-- What can be read field by field and is no mapping is gone through by its own fields. -/
theorem entries?_of_hasFields (noMapping : store.mapping? value = none)
    (readable : store.hasFields value = true) :
    store.entries? value = some (store.ownFields value) := by
  have shaped := readable
  simp only [hasFields, noMapping, Option.isSome_none, Bool.false_or, Bool.and_eq_true,
    Option.isNone_iff_eq_none] at shaped
  obtain ⟨⟨⟨-, noSequence⟩, noElements⟩, -⟩ := shaped
  simp [entries?, noMapping, noSequence, noElements, readable]

/-- An object whose type lists its fields, or that has attributes of its own, is gone through
by these. -/
theorem eq_ownFields (shape : store.entries? value = some entries)
    (here : store.object? value = some object) (fieldwise : object.isFieldwise = true) :
    entries = store.ownFields value := by
  obtain ⟨ref, rfl, read⟩ := eq_object_of_object? here
  have readable : store.hasFields (.object ref) = true ∧
      store.ownFields (.object ref) = entries := by
    cases object <;> simp [Object.isFieldwise, Object.frozen?] at fieldwise <;>
      simpa [entries?, mapping?, sequence?, elements?, base, member?, object?, read,
        Object.elements?] using shape
  exact readable.2.symm

/-- What is held in a visited way is gone through, if nothing ends the reading before. -/
theorem exists_entry_of_holding (shape : store.entries? value = some entries)
    (unbroken : entries.fault? = none) (visited : way.visited = true)
    (holding : store.Holding value way item) : ∃ entry ∈ entries.items, entry.2 = item := by
  have declared {object : Object} {names : List String} {name : String} {item : Value}
      (here : store.object? value = some object) (declares : object.declared? = some names)
      (fieldwise : object.isFieldwise = true) (member : name ∈ names)
      (read : store.attributeOf value name = .ok (some item)) :
      ∃ entry ∈ entries.items, entry.2 = item := by
    rw [eq_ownFields shape here fieldwise, ownFields_of_declared here declares] at unbroken ⊢
    obtain ⟨found, same, there⟩ := (ofDeclared_iff (store.attributeOf value) names fun item =>
      ∃ entry ∈ (Entries.ofDeclared (store.attributeOf value) names).items, entry.2 = item).mp
        ⟨unbroken, fun entry member => ⟨entry, member, rfl⟩⟩ name member
    rw [read] at same
    cases same
    exact there
  cases holding with
  | key found member =>
    simp only [entries?, found, Option.some.injEq] at shape
    subst shape
    exact ⟨_, member, rfl⟩
  | place found there =>
    rw [entries?_of_sequence? found] at shape
    cases shape
    exact exists_seriesEntry there
  | element found member =>
    rw [entries?_of_elements? found] at shape
    cases shape
    exact exists_numbered member
  | plain here own =>
    obtain rfl := eq_ownFields shape here rfl
    obtain ⟨ref, rfl, read⟩ := eq_object_of_object? here
    simp only [Store.ownFields, read]
    exact exists_entry_of_attribute own
  | table here member =>
    obtain rfl := eq_ownFields shape here rfl
    obtain ⟨ref, rfl, read⟩ := eq_object_of_object? here
    simp only [Store.ownFields, read]
    exact exists_entry_of_attribute member
  | member here readable own =>
    subst here
    rw [entries?_of_hasFields rfl readable] at shape
    cases shape
    exact exists_entry_of_attribute own
  | @frozen object typeName fields field here listed member =>
    obtain rfl := eq_ownFields shape here (by cases object <;> simp [Object.isFieldwise, listed])
    obtain ⟨ref, rfl, read⟩ := eq_object_of_object? here
    have own : store.ownFields (.object ref) = .ofFields fields := by
      cases object <;> simp only [Object.frozen?, reduceCtorEq] at listed <;>
        simp only [Store.ownFields, read, Object.frozen?, listed]
    rw [own]
    exact ⟨_, List.mem_map_of_mem member, rfl⟩
  | record here member set | model here member set =>
    refine declared here rfl rfl member ?_
    obtain ⟨ref, rfl, read⟩ := eq_object_of_object? here
    simp [attributeOf, read, objectAttribute, set]
  | _ => cases visited

theorem judgeEntries_accepts_iff {expected : Expectation} {check : Check} {kindName : String}
    {drawing : Run Check} (named : expected.content? = some kindName)
    (drawn : drawing.outcome = .ok check) :
    (store.judgeEntries value expected drawing).outcome = .ok .accepted ↔
      (∃ shown, store.form value = .ok shown) ∧ ∃ entries, store.entries? value = some entries ∧
        entries.fault? = none ∧ ∀ entry ∈ entries.items, store.Passes check kindName entry := by
  cases written : store.form value with
  | error fault => simp [judgeEntries, written]
  | ok form =>
    cases shape : store.entries? value with
    | none => simp [(judgeEntries_of_no_entries ⟨form, written⟩ shape expected drawing).1]
    | some entries =>
      rw [(judgeEntries_of_entries ⟨form, written⟩ shape drawn expected).1,
        judgeEach_accepts_iff entries.fault? named]
      simp

/-- Under a container type a value is accepted as absent, or entry by entry. -/
theorem judge_accepted_of_bracketed {descriptor : Value} {written : Descriptor} {check : Check}
    {kindChars elementChars : List Char} {drawing : Run Check}
    (known : store.descriptor descriptor = .ok written)
    (parsed : Container.split? written.withoutMark.1.content.toList =
      .ok (some (kindChars, elementChars)))
    (drawn : drawing.outcome = .ok check)
    (accepted : (store.judge value descriptor drawing).outcome = .ok .accepted) :
    value.isAbsent = true ∨ ∃ expected : Expectation,
      expected.content? = some (String.ofList elementChars) ∧
        (store.judgeEntries value expected (pure check)).outcome = .ok .accepted := by
  cases absent : value.isAbsent with
  | true => exact Or.inl rfl
  | false =>
    right
    simp only [judge, Run.outcome_bind, Run.outcome_ofExcept, Run.outcome_debug, ok_bind, known,
      absent, Bool.and_false, Bool.false_eq_true, if_false, drawn] at accepted
    obtain ⟨form, -, titled⟩ := ok_of_bind_ok accepted
    obtain ⟨shown, -, judged⟩ := ok_of_bind_ok titled
    simp only [judgeBare, Run.outcome_bind, Descriptor.outcome_container?, parsed, ok_bind] at judged
    split at judged
    · cases judged
    · exact ⟨_, rfl, judged⟩

theorem passes_byKind_iff {kindName : String} {entry : Value × Value} :
    store.Passes .byKind kindName entry ↔ (store.kind entry.2).name = kindName := by
  simp [Passes, answer]

/-- A value that is accepted entry by entry holds nothing of another kind in a visited way. -/
theorem kind_of_holding {kindName : String} {expected : Expectation} {drawing : Run Check}
    (named : expected.content? = some kindName) (drawn : drawing.outcome = .ok .byKind)
    (accepted : (store.judgeEntries value expected drawing).outcome = .ok .accepted)
    (visited : way.visited = true) (holding : store.Holding value way item) :
    (store.kind item).name = kindName := by
  obtain ⟨-, entries, shape, unbroken, each⟩ := (judgeEntries_accepts_iff named drawn).mp accepted
  obtain ⟨entry, member, rfl⟩ := exists_entry_of_holding shape unbroken visited holding
  exact passes_byKind_iff.mp (each entry member)

/-- An absent value holds nothing. -/
theorem not_holding_of_absent (absent : value.isAbsent = true)
    (holding : store.Holding value way item) : False := by
  cases value with
  | null | undefined =>
    cases holding with
    | member here => cases here
    | key found | place found | element found =>
      simp [mapping?, sequence?, elements?, base, member?, object?] at found
    | _ here => simp [object?] at here
  | _ => cases absent

/-- A container that is accepted by kind has been gone through: all that it holds in a visited
way is of the kind, whether the container is judged by itself or under a container type. Of a
record or a model these are the fields that its type declares, under the name of each of which
something has to be found, and nothing else counts. A view of values and a generator have no fields,
and so nothing that is gone through; what is neither a mapping, a sequence or a set nor has fields
is refused. -/
theorem accepted_container_is_covered (store : Store) (value : Value) :
    (∀ descriptor source content, store.string? descriptor = some content →
      (store.checkOf source).outcome = .ok .byKind →
      let run := store.judgeContainer value descriptor source
      (run.outcome = .ok .accepted → ∀ way item, way.visited = true →
        store.Holding value way item → (store.kind item).name = content) ∧
      (∀ object names, store.object? value = some object →
        object.declared? = some names → store.hasFields value = true →
        (run.outcome = .ok .accepted ↔ (∃ shown, store.form value = .ok shown) ∧
          ∀ name ∈ names, ∃ item, store.attributeOf value name = .ok (some item) ∧
            (store.kind item).name = content)) ∧
      (∀ items, store.object? value = some (.view .values items) ∨
          store.object? value = some (.generator items) →
        store.attributesOf value = .empty → (∃ shown, store.form value = .ok shown) →
        run.outcome = .ok .accepted) ∧
      (store.mapping? value = none → store.sequence? value = none →
        store.elements? value = none → store.hasFields value = false →
        (∃ shown, store.form value = .ok shown) →
        run.outcome = .ok (.rejected "is not iterables type"))) ∧
    (∀ descriptor source written kindChars elementChars,
      store.descriptor descriptor = .ok written →
      Container.split? written.withoutMark.1.content.toList =
        .ok (some (kindChars, elementChars)) →
      (store.checkOf source).outcome = .ok .byKind →
      (store.judge value descriptor (store.checkOf source)).outcome = .ok .accepted →
      ∀ way item, way.visited = true → store.Holding value way item →
        (store.kind item).name = String.ofList elementChars) := by
  constructor
  · intro descriptor source content string drawn run
    obtain ⟨shown, titled⟩ := text_of_string string
    let expected : Expectation := ⟨some content, shown⟩
    have named : expected.content? = some content := rfl
    have judged : run = store.judgeEntries value expected (store.checkOf source) := by
      simp [run, judgeContainer, expectation_of_string string titled, expected]
    rw [judged]
    refine ⟨?_, ?_, ?_, ?_⟩
    · intro accepted way item visited holding
      exact kind_of_holding named drawn accepted visited holding
    · intro object names here declares readable
      rw [judgeEntries_accepts_iff named drawn, entries?_of_declared here declares readable,
        ← ofDeclared_iff _ names fun item => (store.kind item).name = content]
      simp [passes_byKind_iff]
    · intro items here bare written
      have shape : store.entries? value = some (.complete []) := by
        rcases here with here | here <;>
          · obtain ⟨ref, rfl, read⟩ := eq_object_of_object? here
            simp [entries?, mapping?, sequence?, elements?, base, member?, object?, read,
              Object.elements?, hasFields, kind, number?, string?, callable, bytes?,
              Store.ownFields, Object.frozen?, attributes, bare, Attributes.entries,
              Attributes.empty]
      rw [judgeEntries_accepts_iff named drawn]
      exact ⟨written, _, shape, rfl, by simp [Entries.complete, Entries.items]⟩
    · intro noMapping noSequence noElements shapeless written
      have shape : store.entries? value = none := by
        simp [entries?, noMapping, noSequence, noElements, shapeless]
      exact (judgeEntries_of_no_entries written shape expected _).1
  · intro descriptor source written kindChars elementChars known parsed drawn accepted way item
      visited holding
    rcases judge_accepted_of_bracketed known parsed drawn accepted with
      absent | ⟨expected, named, each⟩
    · exact (not_holding_of_absent absent holding).elim
    · exact kind_of_holding named rfl each visited holding

/-- A store with five values that hold the number one where it is not visited: a generator, a
view of values, an object with slots, and a record and a model with a field that their types do
not declare. -/
def withUnseen : Store :=
  let one : Value := .integer 1
  let cells : List Object :=
    [.generator [one], .view .values [one], .slotted ⟨"S", ["n"], [("n", one)], []⟩,
      .record ⟨"P", 0, ["x"], [("x", .text "a"), ("n", one)], false⟩,
      .model ⟨"M", 0, [⟨"x", none⟩], [("x", .text "a")], [], [("n", one)], true⟩]
  cells.foldl alloc initial

/-- The model is accepted as one of strings, so its declared field is a string. -/
theorem declared_field_of_accepted :
    (withUnseen.judgeContainer (.object ⟨8⟩) (.text "string") .null).outcome = .ok .accepted ∧
      withUnseen.Holding (.object ⟨8⟩) .declared (.text "a") ∧
      (withUnseen.kind (.text "a")).name = "string" := by
  have accepted :
      (withUnseen.judgeContainer (.object ⟨8⟩) (.text "string") .null).outcome = .ok .accepted := rfl
  have holding : withUnseen.Holding (.object ⟨8⟩) .declared (.text "a") :=
    .model rfl (List.mem_singleton.mpr rfl) rfl
  refine ⟨accepted, holding, ?_⟩
  obtain ⟨contained, -⟩ := accepted_container_is_covered withUnseen (.object ⟨8⟩)
  exact (contained (.text "string") .null "string" rfl rfl).1 accepted .declared _ rfl holding

/-- Each of the five is accepted as one of strings, by itself and under a container type, although
it holds a number. -/
theorem accepted_container_holds_unseen :
    let unseen (value : Value) : Prop :=
      (withUnseen.judgeContainer value (.text "string") .null).outcome = .ok .accepted ∧
        (withUnseen.judge value (.text "array<string>") (withUnseen.checkOf .null)).outcome =
          .ok .accepted ∧
        (∃ way, withUnseen.Holding value way (.integer 1))
    (unseen (.object ⟨4⟩) ∧ unseen (.object ⟨5⟩) ∧ unseen (.object ⟨6⟩) ∧
      unseen (.object ⟨7⟩) ∧ unseen (.object ⟨8⟩)) ∧
      (withUnseen.kind (.integer 1)).name ≠ "string" := by
  have one : Value.integer 1 ∈ [Value.integer 1] := List.mem_singleton.mpr rfl
  refine ⟨⟨⟨rfl, rfl, .given, .generated rfl one⟩, ⟨rfl, rfl, .given, .shown rfl one⟩,
    ⟨rfl, rfl, .slot, ?_⟩, ⟨rfl, rfl, .undeclared, ?_⟩, ⟨rfl, rfl, .undeclared, ?_⟩⟩, by decide⟩
  · exact @Holding.slot _ _ _ ("n", .integer 1) rfl (List.mem_singleton.mpr rfl)
  · exact @Holding.undeclared _ _ _ ("n", .integer 1) rfl (by simp) (by decide)
  · exact @Holding.extra _ _ _ ("n", .integer 1) rfl (List.mem_singleton.mpr rfl)

end Store

end Conform
