import Conform.Proofs.Attributes
import Conform.Proofs.Forms

/-! A store that grows by a new object, or in which one value changes. Every other value that is in
use is read as before, so it keeps its shape, its attributes and its own fields. -/

namespace Conform

namespace Store

/-- A store that another one has grown out of: objects may have been added, and nothing else. -/
structure Grows (store later : Store) : Prop where
  bounded : store.size ≤ later.size
  kept : ∀ ref, store.Holds ref → later.read ref = store.read ref
  attached : later.attached = store.attached
  replies : later.replies = store.replies

/-- Two stores in which a value is the same object or the same member, with the same
attributes. -/
structure AlikeAt (store later : Store) (value : Value) : Prop where
  object : later.object? value = store.object? value
  member : later.member? value = store.member? value
  attributes : later.attributesOf value = store.attributesOf value

variable {store later last : Store} {value : Value} {object : Object}

theorem Grows.refl (store : Store) : store.Grows store :=
  ⟨Nat.le_refl _, fun _ _ => rfl, rfl, rfl⟩

theorem Grows.trans (first : store.Grows later) (second : later.Grows last) :
    store.Grows last where
  bounded := Nat.le_trans first.bounded second.bounded
  kept := by
    intro ref held
    have there : later.Holds ref := Nat.lt_of_lt_of_le held first.bounded
    rw [second.kept ref there, first.kept ref held]
  attached := second.attached.trans first.attached
  replies := second.replies.trans first.replies

theorem size_alloc (store : Store) (object : Object) :
    (store.alloc object).size = store.size + 1 :=
  Array.size_push object

theorem grows_alloc (store : Store) (object : Object) : store.Grows (store.alloc object) where
  bounded := by
    rw [size_alloc]
    exact Nat.le_succ _
  kept := fun ref held => read_alloc_of_holds store object ref held
  attached := rfl
  replies := rfl

/-- An address that is not in use holds a bare object, also when the one before it is taken. -/
theorem read_alloc_of_ne (store : Store) (object : Object) {ref : Ref}
    (other : ref ≠ store.next) : (store.alloc object).read ref = store.read ref := by
  have apart : ref.address ≠ store.cells.size := by
    intro same
    exact other (by cases ref; simp_all [next])
  simp [read, alloc, Array.getElem?_push, apart]

theorem read_next (store : Store) : store.read store.next = .bare := by
  simp [read, next]

section AlikeAt

variable (alike : store.AlikeAt later value)

include alike

theorem AlikeAt.base : later.base value = store.base value := by
  simp only [Store.base, alike.object, alike.member]

theorem AlikeAt.string? : later.string? value = store.string? value := by
  simp only [Store.string?, alike.base]

theorem AlikeAt.number? : later.number? value = store.number? value := by
  simp only [Store.number?, alike.base]

theorem AlikeAt.mapping? : later.mapping? value = store.mapping? value := by
  simp only [Store.mapping?, alike.object]

theorem AlikeAt.sequence? : later.sequence? value = store.sequence? value := by
  simp only [Store.sequence?, alike.base, alike.object]

theorem AlikeAt.elements? : later.elements? value = store.elements? value := by
  simp only [Store.elements?, alike.object]

theorem AlikeAt.read {ref : Ref} (here : value = .object ref) : later.read ref = store.read ref := by
  subst here
  exact Option.some.inj alike.object

theorem AlikeAt.callable : later.callable value = store.callable value := by
  cases value with
  | object ref => simp only [Store.callable, alike.read rfl]
  | _ => rfl

theorem AlikeAt.kind : later.kind value = store.kind value := by
  simp only [Store.kind, alike.number?, alike.string?, alike.callable]

theorem AlikeAt.bytes? : later.bytes? value = store.bytes? value := by
  simp only [Store.bytes?, alike.object]

theorem AlikeAt.hasFields : later.hasFields value = store.hasFields value := by
  simp only [Store.hasFields, alike.mapping?, alike.kind, alike.sequence?, alike.elements?,
    alike.bytes?]

theorem AlikeAt.allAttributes : later.attributes value = store.attributes value := by
  simp only [Store.attributes, alike.attributes, alike.member]

theorem AlikeAt.attributeOf {object : Object} {names : List String}
    (here : store.object? value = some object) (declares : object.declared? = some names) :
    later.attributeOf value = store.attributeOf value := by
  obtain ⟨ref, rfl, read⟩ := eq_object_of_object? here
  funext name
  cases object with
  | record whole | model whole =>
    simp only [Store.attributeOf, alike.attributes, alike.read rfl, read, objectAttribute]
  | _ => cases declares

theorem AlikeAt.ownFields : later.ownFields value = store.ownFields value := by
  cases value with
  | object ref =>
    have here : store.object? (.object ref) = some (store.read ref) := rfl
    cases read : store.read ref with
    | record whole | model whole =>
      rw [read] at here
      rw [ownFields_of_declared (alike.object.trans here) rfl, ownFields_of_declared here rfl,
        alike.attributeOf here rfl]
    | _ => simp only [Store.ownFields, alike.allAttributes, alike.read rfl, read]
  | _ => simp only [Store.ownFields, alike.allAttributes]

theorem AlikeAt.content? : later.content? value = store.content? value := by
  simp only [Store.content?, alike.base]

theorem AlikeAt.integer? : later.integer? value = store.integer? value := by
  cases value <;> simp only [Store.integer?, alike.number?]

theorem AlikeAt.real? : later.real? value = store.real? value := by
  cases value <;> simp only [Store.real?, alike.number?]

theorem AlikeAt.quantity? : later.quantity? value = store.quantity? value := by
  cases value <;> simp only [Store.quantity?, alike.real?]

theorem AlikeAt.length? : later.length? value = store.length? value := by
  simp only [Store.length?, alike.content?, alike.bytes?, alike.mapping?, alike.sequence?,
    alike.object]

theorem AlikeAt.length : later.length value = store.length value := by
  simp only [Store.length, alike.length?]

theorem AlikeAt.truth : later.truth value = store.truth value := by
  simp only [Store.truth, alike.object, alike.real?, alike.length?]

theorem AlikeAt.typeName : later.typeName value = store.typeName value := by
  cases value with
  | number number => cases number <;> rfl
  | member owner index => simp only [Store.typeName, alike.member]
  | object ref => simp only [Store.typeName, alike.read rfl]
  | _ => rfl

theorem AlikeAt.integerOf : later.integerOf value = store.integerOf value := by
  simp only [Store.integerOf, alike.integer?, alike.content?, alike.bytes?]

theorem AlikeAt.enumType? : later.enumType? value = store.enumType? value := by
  simp only [Store.enumType?, alike.object]

end AlikeAt

theorem distinct_congr {among : Value → Prop} {values : List Value}
    (same : ∀ left right, among left → among right →
      later.agrees left right = store.agrees left right)
    (each : ∀ value ∈ values, among value) : later.distinct values = store.distinct values := by
  have kept (rest kept : List Value) (those : ∀ value ∈ rest, among value)
      (these : ∀ value ∈ kept, among value) :
      rest.foldl (fun kept value =>
        if kept.any fun other => later.agrees other value then kept else kept ++ [value]) kept =
      rest.foldl (fun kept value =>
        if kept.any fun other => store.agrees other value then kept else kept ++ [value]) kept := by
    induction rest generalizing kept with
    | nil => rw [List.foldl_nil, List.foldl_nil]
    | cons next rest inductionHypothesis =>
      obtain ⟨here, there⟩ := List.forall_mem_cons.mp those
      rw [List.foldl_cons, List.foldl_cons,
        any_congr fun other member => same other next (these other member) here]
      refine inductionHypothesis _ there ?_
      split
      · exact these
      · intro value member
        rcases List.mem_append.mp member with earlier | last
        · exact these value earlier
        · rw [List.mem_singleton.mp last]
          exact here
  unfold Store.distinct
  exact kept values [] each nofun

section Mapping

variable {form : MappingForm} {entries : List (Value × Value)}

/-- No member has the new mapping for its type, nor had it the bare object before. -/
theorem member?_alloc_mapping (value : Value) :
    (store.alloc (.mapping form entries)).member? value = store.member? value := by
  cases value with
  | member owner index =>
    by_cases new : owner = store.next
    · subst new
      simp only [member?, read_alloc_next, read_next]
    · simp only [member?, read_alloc_of_ne store _ new]
      rfl
  | _ => rfl

/-- Every value is as it was but the one that now refers to the mapping. -/
theorem alikeAt_alloc (other : value ≠ .object store.next) :
    store.AlikeAt (store.alloc (.mapping form entries)) value where
  object := by
    cases value with
    | object ref =>
      have apart : ref ≠ store.next := fun same => other (by rw [same])
      simp only [object?, read_alloc_of_ne store _ apart]
    | _ => rfl
  member := member?_alloc_mapping value
  attributes := rfl

/-- A reference to the mapping was one to a bare object, which is used as itself too. -/
theorem base_alloc_mapping (value : Value) :
    (store.alloc (.mapping form entries)).base value = store.base value := by
  by_cases new : value = .object store.next
  · subst new
    simp [base, member?, object?, read_alloc_next, read_next]
  · exact (alikeAt_alloc new).base

theorem string?_alloc_mapping (value : Value) :
    (store.alloc (.mapping form entries)).string? value = store.string? value := by
  simp only [string?, base_alloc_mapping]

end Mapping

theorem lookup_filter_of_ne {other : Value} (apart : other ≠ value)
    (attached : List (Value × Attributes)) :
    (attached.filter fun entry => entry.1 ≠ value).lookup other = attached.lookup other := by
  induction attached with
  | nil => rfl
  | cons entry rest inductionHypothesis =>
    obtain ⟨holder, attributes⟩ := entry
    by_cases same : holder = value
    · subst same
      have passed : (other == holder) = false := beq_eq_false_iff_ne.mpr apart
      simpa [List.lookup_cons, passed] using inductionHypothesis
    · simp only [List.filter_cons, ne_eq, same, not_false_eq_true, decide_true, if_true,
        List.lookup_cons, inductionHypothesis]

theorem attributesOf_attach_of_ne {other : Value} (apart : other ≠ value)
    (attributes : Attributes) :
    (store.attach value attributes).attributesOf other = store.attributesOf other := by
  have missed : (other == value) = false := beq_eq_false_iff_ne.mpr apart
  simp only [attributesOf, attach, List.lookup_cons, missed, lookup_filter_of_ne apart]

end Store

/-- A change of the one value does not show at the other: they differ, and the other is not a member
of the one. -/
structure Value.Apart (target value : Value) : Prop where
  differs : target ≠ value
  foreign : ∀ owner index, value = .member owner index → target ≠ .object owner

namespace Store

variable {store : Store} {target value : Value}

theorem alikeAt_write {ref : Ref} (object : Object) (apart : (Value.object ref).Apart value) :
    store.AlikeAt (store.write ref object) value := by
  cases value with
  | object other =>
    have different : ref ≠ other := fun same => apart.differs (by rw [same])
    exact ⟨by simp only [object?, read_write_of_ne store object ref other different], rfl, rfl⟩
  | member owner index =>
    have different : ref ≠ owner := fun same => apart.foreign owner index rfl (by rw [same])
    refine ⟨rfl, ?_, rfl⟩
    simp only [member?, read_write_of_ne store object ref owner different]
    rfl
  | _ => exact ⟨rfl, rfl, rfl⟩

theorem alikeAt_attach (attributes : Attributes) (apart : target.Apart value) :
    store.AlikeAt (store.attach target attributes) value := by
  have kept : (store.attach target attributes).attributesOf value = store.attributesOf value :=
    attributesOf_attach_of_ne (Ne.symm apart.differs) attributes
  cases value with
  | member owner index => exact ⟨rfl, by simp only [member?, kept, read_attach], kept⟩
  | _ => exact ⟨rfl, rfl, kept⟩

end Store

end Conform
