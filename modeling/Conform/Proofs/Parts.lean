import Conform.Field
import Conform.Lookup

/-! What a value holds, directly or through other values, and the values that lack
nothing anywhere inside: no record or model without a declared field, no table without
its rules, no member whose value its base cannot show, no integer of too many digits, and
nothing that would be written inside itself without end. -/

namespace Conform

/-- A value without parts that is written at any length it has, and counted to its end. -/
def Value.isLegible : Value → Bool
  | .number known => known.form?.isSome
  | .wrapped content => content.toList.length ≤ Integer.limit
  | _ => true

/-- A member whose value is one that its base writes. -/
def MemberOf.suits (store : Store) (member : MemberOf) : Bool :=
  member.content.isLegible &&
    match member.type.base with
    | .plain => true
    | .integer => (store.integer? member.value).any fun number => (Integer.text? number).isSome
    | .text | .textual => (store.string? member.value).isSome

namespace Store

/-- The members that the object at an address leads to: those of an enumerated type, by each of
their names, and the kinds of which a container descriptor computes one. -/
def membersAt (store : Store) (ref : Ref) : List Value :=
  match store.read ref with
  | .enumType type => (memberEntries ref type).map Prod.snd
  | .container .. => ContainerKind.all.map ContainerKind.toValue
  | _ => []

/-- The characters of a wrapped text, each a wrapped text again. -/
def characters (store : Store) (value : Value) : List Value :=
  match store.base value with
  | .wrapped content => content.toList.map fun char => .wrapped (String.singleton char)
  | _ => []

/-- The values that a value holds directly. A member holds its type and its value, and
what can be read field by field also holds its attributes. -/
def parts (store : Store) (value : Value) : List Value :=
  let held :=
    match value with
    | .object ref => (store.read ref).parts ++ store.membersAt ref
    | .member owner _ => .object owner :: (store.member? value).toList.map MemberOf.value
    | _ => []
  held ++ store.characters value ++
    if store.hasFields value then (store.attributes value).parts else []

/-- A value is reached from another if it is that one or inside it, at any depth. -/
inductive Reaches (store : Store) : Value → Value → Prop where
  | self {value : Value} : Reaches store value value
  | part {value part inner : Value} (member : part ∈ store.parts value)
      (deeper : Reaches store part inner) : Reaches store value inner

/-- A value whose object has all the fields that its type declares. -/
def complete (store : Store) (value : Value) : Bool :=
  (store.object? value).all Object.isComplete

/-- A value that has what its form is made of. -/
def legible (store : Store) (value : Value) : Bool :=
  value.isLegible && (store.object? value).all Object.isLegible &&
    (store.member? value).all (MemberOf.suits store)

/-- The values inside the form of a value for which nothing stands inside its own form. -/
def exposed (store : Store) : Value → List Value
  | .object ref =>
    if (store.read ref).ellipsis?.isSome then [] else (store.read ref).written ref
  | .member owner index =>
    match store.member? (.member owner index) with
    | some member => if member.type.base = .plain then [member.value] else []
    | none => []
  | _ => []

/-- One value is written inside another, and so would the other be inside itself if the first
came to hold it. -/
def Exposes (store : Store) (value part : Value) : Prop := part ∈ store.exposed value

/-- Neither the value nor anything inside it lacks a declared field. -/
def WellFormed (store : Store) (value : Value) : Prop :=
  ∀ inner, store.Reaches value inner → store.complete inner = true

/-- The value and everything inside it have what their forms are made of. -/
def Legible (store : Store) (value : Value) : Prop :=
  ∀ inner, store.Reaches value inner → store.legible inner = true

/-- Neither the value nor anything inside it comes to be written inside itself without end. -/
def Grounded (store : Store) (value : Value) : Prop :=
  ∀ inner, store.Reaches value inner → ¬ Relation.TransGen store.Exposes inner inner

/-- A value that lacks nothing anywhere inside and whose form has an end. -/
structure Sound (store : Store) (value : Value) : Prop where
  wellFormed : store.WellFormed value
  legible : store.Legible value
  grounded : store.Grounded value

variable {store : Store} {value inner : Value} {object : Object}

theorem Sound.part (sound : store.Sound value) (member : inner ∈ store.parts value) :
    store.Sound inner := by
  constructor
  · intro other deeper
    exact sound.wellFormed other (.part member deeper)
  · intro other deeper
    exact sound.legible other (.part member deeper)
  · intro other deeper
    exact sound.grounded other (.part member deeper)

theorem isComplete_of_complete (whole : store.complete value = true)
    (here : store.object? value = some object) : object.isComplete = true := by
  simpa [complete, here] using whole

theorem WellFormed.isComplete (whole : store.WellFormed value)
    (here : store.object? value = some object) : object.isComplete = true :=
  isComplete_of_complete (whole value .self) here

theorem Sound.isLegible (sound : store.Sound value)
    (here : store.object? value = some object) : object.isLegible = true := by
  have own := sound.legible value .self
  simp only [Store.legible, here, Option.all_some, Bool.and_eq_true] at own
  exact own.1.2

theorem Sound.ownLegible (sound : store.Sound value) : value.isLegible = true := by
  have own := sound.legible value .self
  simp only [Store.legible, Bool.and_eq_true] at own
  exact own.1.1

theorem Sound.suits {member : MemberOf} (sound : store.Sound value)
    (here : store.member? value = some member) : member.suits store = true := by
  have own := sound.legible value .self
  simp only [Store.legible, here, Option.all_some, Bool.and_eq_true] at own
  exact own.2

/-- What is reached from one of the values that have a property closed under parts has it too. -/
theorem kept_of_reaches {kept : Value → Prop}
    (closed : ∀ held, kept held → ∀ part ∈ store.parts held, kept part) (start : kept value)
    (path : store.Reaches value inner) : kept inner := by
  induction path with
  | self => exact start
  | part inside deeper inductionHypothesis =>
    exact inductionHypothesis (closed _ start _ inside)

theorem Sound.reached (sound : store.Sound value) (path : store.Reaches value inner) :
    store.Sound inner :=
  kept_of_reaches (fun _ sound _ member => sound.part member) sound path

/-- Values with a property closed under parts, none of which lacks anything itself or exposes
anything of a rank as high as its own, are sound. -/
theorem sound_of_kept {kept : Value → Prop} (rank : Value → Nat)
    (closed : ∀ held, kept held → ∀ part ∈ store.parts held, kept part)
    (whole : ∀ held, kept held → store.complete held = true ∧ store.legible held = true)
    (falling : ∀ held part, kept held → Exposes store held part → kept part ∧ rank part < rank held)
    (start : kept value) : store.Sound value := by
  refine ⟨?_, ?_, ?_⟩
  · intro inner path
    exact (whole inner (kept_of_reaches closed start path)).1
  · intro inner path
    exact (whole inner (kept_of_reaches closed start path)).2
  · intro inner path cycle
    have held : kept inner := kept_of_reaches closed start path
    have fallen {part : Value} (path : Relation.TransGen store.Exposes inner part) :
        kept part ∧ rank part < rank inner := by
      induction path with
      | single step => exact falling _ _ held step
      | tail earlier step inductionHypothesis =>
        obtain ⟨kept, lower⟩ := falling _ _ inductionHypothesis.1 step
        exact ⟨kept, Nat.lt_trans lower inductionHypothesis.2⟩
    exact Nat.lt_irrefl _ (fallen cycle).2

/-- What is outside a list of values closed under parts is not reached from inside. -/
theorem unreached_of_closed (values : List Value)
    (closed : ∀ held ∈ values, ∀ part ∈ store.parts held, part ∈ values) (member : value ∈ values)
    (outside : inner ∉ values) : ¬ store.Reaches value inner :=
  fun path => outside (kept_of_reaches closed member path)

theorem wellFormed_of_closed (values : List Value)
    (closed : ∀ held ∈ values, ∀ part ∈ store.parts held, part ∈ values)
    (whole : ∀ held ∈ values, store.complete held = true) (member : value ∈ values) :
    store.WellFormed value := by
  intro inner path
  exact whole inner (kept_of_reaches closed member path)

/-- A list of values closed under parts, none of which lacks anything itself or is written inside
one that stands after it, is sound. -/
theorem sound_of_closed (values : List Value)
    (closed : ∀ held ∈ values, ∀ part ∈ store.parts held, part ∈ values)
    (whole : ∀ held ∈ values, store.complete held = true ∧ store.legible held = true)
    (ordered : ∀ held ∈ values, ∀ part ∈ store.exposed held,
      part ∈ values ∧ values.idxOf held < values.idxOf part)
    (member : value ∈ values) : store.Sound value := by
  refine sound_of_kept (fun held => values.length - values.idxOf held) closed whole ?_ member
  intro held part inside step
  obtain ⟨among, later⟩ := ordered held inside part step
  have bounded := List.idxOf_lt_length_of_mem among
  exact ⟨among, by omega⟩

/-- A value that is no object and no member, holds nothing and is written in full is sound. -/
theorem sound_of_atom (noObject : store.object? value = none) (noMember : store.member? value = none)
    (noParts : store.parts value = []) (legible : value.isLegible = true) : store.Sound value := by
  have hidden : store.exposed value = [] := by
    cases value with
    | object ref => simp [object?] at noObject
    | member owner index => simp [exposed, noMember]
    | _ => rfl
  refine sound_of_closed [value] ?_ ?_ ?_ (by simp)
  · simp [noParts]
  · simp [complete, Store.legible, noObject, noMember, legible]
  · simp [hidden]

theorem sound_text (content : String) : store.Sound (.text content) :=
  sound_of_atom rfl rfl (by
    simp [parts, characters, base, hasFields, member?, object?, mapping?, kind, number?, string?]) rfl

theorem sound_number {number : Number} (written : number.form?.isSome = true) :
    store.Sound (.number number) :=
  sound_of_atom rfl rfl (by
    simp [parts, characters, base, hasFields, member?, object?, mapping?, kind, number?]) written

theorem sound_null : store.Sound .null :=
  sound_of_atom rfl rfl (by
    simp [parts, characters, base, hasFields, member?, object?, mapping?]) rfl

theorem sound_undefined : store.Sound .undefined :=
  sound_of_atom rfl rfl (by
    simp [parts, characters, base, hasFields, member?, object?, mapping?, kind]) rfl

theorem eq_object_of_object? (here : store.object? value = some object) :
    ∃ ref, value = .object ref ∧ store.read ref = object := by
  cases value with
  | object ref => exact ⟨ref, rfl, by simpa [object?] using here⟩
  | _ => simp [object?] at here

theorem mem_parts_of_object (here : store.object? value = some object)
    (member : inner ∈ object.parts) : inner ∈ store.parts value := by
  obtain ⟨ref, rfl, rfl⟩ := eq_object_of_object? here
  exact List.mem_append_left _ (List.mem_append_left _ (List.mem_append_left _ member))

theorem mem_parts_of_attributes (readable : store.hasFields value = true)
    (member : inner ∈ (store.attributes value).parts) : inner ∈ store.parts value := by
  refine List.mem_append_right _ ?_
  simpa [readable] using member

theorem mem_parts_of_type {owner : Ref} {type : EnumType} {index : Nat}
    (here : store.read owner = .enumType type) (inside : index < type.members.length) :
    .member owner index ∈ store.parts (.object owner) := by
  have placed : Value.member owner index ∈ store.membersAt owner := by
    simp only [membersAt, here, memberEntries, List.map_append, List.mem_append, List.map_map,
      List.mem_map]
    exact Or.inl ⟨(type.members[index], index),
      List.mk_mem_zipIdx_iff_getElem?.mpr (List.getElem?_eq_getElem inside), rfl⟩
  exact List.mem_append_left _ (List.mem_append_left _ (List.mem_append_right _ placed))

theorem mem_parts_of_member {owner : Ref} {index : Nat} {member : MemberOf}
    (known : store.member? (.member owner index) = some member) :
    member.value ∈ store.parts (.member owner index) :=
  List.mem_append_left _ (List.mem_append_left _ (by simp [known]))

theorem mem_parts_of_characters (member : inner ∈ store.characters value) :
    inner ∈ store.parts value :=
  List.mem_append_left _ (List.mem_append_right _ member)

theorem Sound.object_part (sound : store.Sound value) (here : store.object? value = some object)
    (member : inner ∈ object.parts) : store.Sound inner :=
  sound.part (mem_parts_of_object here member)

end Store

end Conform
