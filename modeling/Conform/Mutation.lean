import Conform.Lookup
import Conform.Field

/-! Changes of the items and attributes of objects. A change replaces one object of the
store, or the attributes attached to one value. -/

namespace Conform

/-- An object of a type that counts places. -/
def Object.countsPlaces : Object → Bool
  | .bare | .generator _ => false
  | _ => true

/-- A value without parts of a type that counts places. -/
def Value.countsPlaces : Value → Bool
  | .undefined | .text _ | .wrapped _ | .bytes _ | .member .. | .number (.fraction _) => true
  | _ => false

namespace Store

def byteOf (store : Store) (value : Value) : Except Fault UInt8 :=
  match store.integer? value with
  | some number =>
    if 0 ≤ number ∧ number < 256 then .ok (UInt8.ofNat number.toNat) else .error .noByte
  | none => .error .unsuitable

/-- The integer that a key is, within the bounds that every index keeps. -/
def indexOf (store : Store) (key : Value) : Except Fault Int :=
  match store.integer? key with
  | some index =>
    if -greatestLength - 1 ≤ index ∧ index ≤ greatestLength then .ok index
    else .error .outOfRange
  | none => .error .unsuitable

/-- The fault of a key for a value that takes no items. Where the type of the value counts
places, one beyond all bounds is noticed before that. -/
def itemFault (store : Store) (countsPlaces : Bool) (key : Value) : Fault :=
  match store.indexOf key with
  | .error fault => if countsPlaces then fault else .unsuitable
  | .ok _ => .unsuitable

/-- An object with a new value under a key. A byte is made of the value before the place
is looked for. -/
def withItem (store : Store) (object : Object) (key value : Value) : Except Fault Object :=
  match object with
  | .mapping form entries =>
    if form = .plain ∨ form = .ordered then do
      store.requireHashable key
      return .mapping form (store.put entries key value)
    else .error (store.itemFault true key)
  | .sequence form items =>
    if form = .list ∨ form = .deque then do
      let index ← store.indexOf key
      let counted ← place items.length index
      return .sequence form (items.set counted value)
    else .error (store.itemFault true key)
  | .byteArray bytes => do
    let index ← store.indexOf key
    let byte ← store.byteOf value
    let counted ← place bytes.length index
    return .byteArray (bytes.set counted byte)
  | _ => .error (store.itemFault object.countsPlaces key)

/-- An object without the item under a key. -/
def withoutItem (store : Store) (object : Object) (key : Value) : Except Fault Object :=
  match object with
  | .mapping form entries =>
    if form = .plain ∨ form = .ordered then do
      store.requireHashable key
      if (store.find? entries key).isSome then
        return .mapping form (entries.filter fun entry => !store.agrees entry.1 key)
      else throw (.noEntry key)
    else .error (store.itemFault true key)
  | .sequence form items =>
    if form = .list ∨ form = .deque then do
      let counted ← place items.length (← store.indexOf key)
      return .sequence form (items.eraseIdx counted)
    else .error (store.itemFault true key)
  | .byteArray bytes => do
    let counted ← place bytes.length (← store.indexOf key)
    return .byteArray (bytes.eraseIdx counted)
  | _ => .error (store.itemFault object.countsPlaces key)

def appendable : Object → Bool
  | .sequence .list _ | .sequence .deque _ | .byteArray _ => true
  | _ => false

def withAppended (store : Store) (object : Object) (value : Value) : Except Fault Object :=
  match object with
  | .sequence form items =>
    if form = .list ∨ form = .deque then .ok (.sequence form (items ++ [value]))
    else .error .noAttribute
  | .byteArray bytes => do return .byteArray (bytes ++ [← store.byteOf value])
  | _ => .error .noAttribute

/-- A value to which attributes can be attached under a name. -/
def attachable (store : Store) (value : Value) (name : String) : Bool :=
  match value with
  | .undefined | .wrapped _ => true
  | .member .. => name ≠ "value" ∧ name ≠ "name"
  | .object ref =>
    match store.read ref with
    | .sequence (.custom _) _ | .mapping (.custom _) _ | .mapping .ordered _ | .function _ => true
    | .derived base => (base.contentFields.named? name).isNone
    | .enumType type => (namedMember? ref type name).isNone
    | _ => false
  | _ => false

/-- An object with a new value for an attribute, whose name is given with the value that
spells it. The library's own records are frozen, and all that a wrapped text has of its
own is its content. -/
def withAttribute (object : Object) (name : String) (spelling value : Value) :
    Except Fault Object :=
  match object with
  | .plain whole =>
    if whole.failing.any fun failure => failure.1 = name then .error .noAttribute
    else .ok (.plain { whole with own := whole.own.put name spelling value })
  | .slotted whole =>
    if name ∈ whole.slots then .ok (.slotted { whole with own := whole.own.put name value })
    else .error .noAttribute
  | .record whole => .ok (.record { whole with own := whole.own.put name value })
  | .model whole =>
    if name ∈ whole.fields.map ModelField.name then
      .ok (.model { whole with own := whole.own.put name value })
    else if name.startsWith "_" then
      .ok (.model { whole with hidden := whole.hidden.put name value })
    else if whole.admitsExtra then
      .ok (.model { whole with extra := whole.extra.put name value })
    else .error .undeclaredField
  | .table own =>
    if name = "fields" then .error .noAttribute else .ok (.table (own.put name spelling value))
  | .derived (.wrapped _) =>
    match value with
    | .text content => .ok (.derived (.wrapped content))
    | _ => .error .unsuitable
  | other => .error (if other.frozen?.isSome then .frozen else .noAttribute)

private def withoutOwn (own : Fields) (name : String) (rebuild : Fields → Object) :
    Except Fault Object :=
  if (own.named? name).isSome then .ok (rebuild (own.without name)) else .error .noAttribute

/-- An object without an attribute, which has to be its own. -/
def withoutAttribute (object : Object) (name : String) : Except Fault Object :=
  match object with
  | .plain whole =>
    if (whole.own.named? name).isSome ∧ !(whole.failing.any fun failure => failure.1 = name) then
      .ok (.plain { whole with own := whole.own.without name })
    else .error .noAttribute
  | .slotted whole => withoutOwn whole.own name fun own => .slotted { whole with own := own }
  | .record whole => withoutOwn whole.own name fun own => .record { whole with own := own }
  | .model whole =>
    if (whole.own.named? name).isSome then
      .ok (.model { whole with own := whole.own.without name })
    else if (whole.hidden.named? name).isSome then
      .ok (.model { whole with hidden := whole.hidden.without name })
    else withoutOwn whole.extra name fun extra => .model { whole with extra := extra }
  | .table own =>
    if (own.named? name).isSome then .ok (.table (own.without name)) else .error .noAttribute
  | other => .error (if other.frozen?.isSome then .frozen else .noAttribute)

/-- Two objects of one shape that differ in what they have of their own under one name. -/
inductive DiffersAt (name : String) : Object → Object → Prop where
  | plain {whole : Plain} {own : Attributes}
      (others : ∀ other, other ≠ name → own.named? other = whole.own.named? other) :
      DiffersAt name (.plain whole) (.plain { whole with own })
  | slotted {whole : Slotted} {own : Fields}
      (others : ∀ other, other ≠ name → own.named? other = whole.own.named? other) :
      DiffersAt name (.slotted whole) (.slotted { whole with own })
  | record {whole : Record} {own : Fields}
      (others : ∀ other, other ≠ name → own.named? other = whole.own.named? other) :
      DiffersAt name (.record whole) (.record { whole with own })
  | model {whole : Model} {own hidden extra : Fields}
      (others : ∀ other, other ≠ name → own.named? other = whole.own.named? other ∧
        hidden.named? other = whole.hidden.named? other ∧
        extra.named? other = whole.extra.named? other) :
      DiffersAt name (.model whole) (.model { whole with own, hidden, extra })
  | table {own changed : Attributes}
      (others : ∀ other, other ≠ name → changed.named? other = own.named? other) :
      DiffersAt name (.table own) (.table changed)

/-- A new value for an attribute changes nothing under other names. A wrapped text, which has
its content for an attribute, takes it under any name. -/
theorem differsAt_of_withAttribute {object changed : Object} {name : String}
    {spelling value : Value} (given : withAttribute object name spelling value = .ok changed)
    (unwrapped : ∀ base, object ≠ .derived base) : DiffersAt name object changed := by
  have put (own : Attributes) (other : String) (different : other ≠ name) :
      (own.put name spelling value).named? other = own.named? other :=
    Attributes.named?_put_of_ne own name other spelling value different
  have putField (own : Fields) (other : String) (different : other ≠ name) :
      (own.put name value).named? other = own.named? other :=
    Fields.named?_put_of_ne own name other value different
  unfold withAttribute at given
  split at given
  · split at given <;> cases given
    exact .plain (put _)
  · split at given <;> cases given
    exact .slotted (putField _)
  · cases given
    exact .record (putField _)
  · split at given
    · cases given
      exact .model fun other different => ⟨putField _ other different, rfl, rfl⟩
    · split at given
      · cases given
        exact .model fun other different => ⟨rfl, putField _ other different, rfl⟩
      · split at given <;> cases given
        exact .model fun other different => ⟨rfl, rfl, putField _ other different⟩
  · split at given <;> cases given
    exact .table (put _)
  · exact absurd rfl (unwrapped _)
  · cases given

private theorem eq_of_withoutOwn {own : Fields} {name : String} {rebuild : Fields → Object}
    {changed : Object} (taken : withoutOwn own name rebuild = .ok changed) :
    changed = rebuild (own.without name) := by
  unfold withoutOwn at taken
  split at taken <;> cases taken
  rfl

/-- An attribute that is taken away leaves what is under other names. -/
theorem differsAt_of_withoutAttribute {object changed : Object} {name : String}
    (taken : withoutAttribute object name = .ok changed) : DiffersAt name object changed := by
  have without (own : Attributes) (other : String) (different : other ≠ name) :
      (own.without name).named? other = own.named? other :=
    Attributes.named?_without_of_ne own name other different
  have withoutField (own : Fields) (other : String) (different : other ≠ name) :
      (own.without name).named? other = own.named? other :=
    Fields.named?_without_of_ne own name other different
  unfold withoutAttribute at taken
  split at taken
  · split at taken <;> cases taken
    exact .plain (without _)
  · rw [eq_of_withoutOwn taken]
    exact .slotted (withoutField _)
  · rw [eq_of_withoutOwn taken]
    exact .record (withoutField _)
  · split at taken
    · cases taken
      exact .model fun other different => ⟨withoutField _ other different, rfl, rfl⟩
    · split at taken
      · cases taken
        exact .model fun other different => ⟨rfl, withoutField _ other different, rfl⟩
      · rw [eq_of_withoutOwn taken]
        exact .model fun other different => ⟨rfl, rfl, withoutField _ other different⟩
  · split at taken <;> cases taken
    exact .table (without _)
  · cases taken

theorem objectAttribute_of_differsAt {object changed : Object} {name other : String}
    (differs : DiffersAt name object changed) (different : other ≠ name) (store store' : Store)
    (ref ref' : Ref) :
    store'.objectAttribute ref' changed other = store.objectAttribute ref object other := by
  cases differs with
  | plain others => simp only [objectAttribute, others other different]
  | slotted others => simp only [objectAttribute, others other different]
  | record others => simp only [objectAttribute, others other different]
  | model others =>
    obtain ⟨own, hidden, extra⟩ := others other different
    simp only [objectAttribute, own, hidden, extra]
  | table others => simp only [objectAttribute, others other different]

end Store

def Action.modify (target : Value) (otherwise : Fault)
    (change : Store → Object → Except Fault Object) : Action Unit := do
  match target with
  | .object ref =>
    let store ← Action.store
    Action.write ref (← Action.ofExcept (change store (store.read ref)))
  | _ => Action.fail otherwise

theorem Action.settles_modify {target : Value} {otherwise : Fault}
    {change : Store → Object → Except Fault Object} {store later : Store}
    (settled : (Action.modify target otherwise change).Settles store () later) :
    ∃ ref object, target = .object ref ∧ change store (store.read ref) = .ok object ∧
      later = store.write ref object := by
  cases target with
  | object ref =>
    obtain ⟨found, middle, read, further⟩ := settled.split
    obtain ⟨rfl, rfl⟩ := read.unique settles_store
    obtain ⟨object, last, ⟨changed, rfl⟩, -, written⟩ := further.split
    exact ⟨ref, object, rfl, changed, written.symm⟩
  | _ => cases settled.1

/-- Demands that the name of an attribute is a string. -/
def Store.attributeName (store : Store) (name : Value) : Except Fault String :=
  match store.string? name with
  | some content => .ok content
  | none => .error .unsuitable

def Action.setItem (target key value : Value) : Action Unit := do
  let store ← Action.store
  Action.modify target (store.itemFault target.countsPlaces key) fun store object =>
    store.withItem object key value

def Action.dropItem (target key : Value) : Action Unit := do
  let store ← Action.store
  Action.modify target (store.itemFault target.countsPlaces key) fun store object =>
    store.withoutItem object key

def Action.append (target value : Value) : Action Unit :=
  Action.modify target .noAttribute fun store object => store.withAppended object value

/-- The fault of a value whose attributes cannot be changed. The types that are values
themselves are no place for attributes at all. -/
def Value.attributeFault : Value → Fault
  | .builtin _ => .unsuitable
  | _ => .noAttribute

def Action.setAttribute (target spelling value : Value) : Action Unit := do
  let store ← Action.store
  let name ← Action.ofExcept (store.attributeName spelling)
  if store.attachable target name then
    Action.attach target ((store.attributes target).put name spelling value)
  else
    Action.modify target target.attributeFault fun _ object =>
      Store.withAttribute object name spelling value

def Action.dropAttribute (target spelling : Value) : Action Unit := do
  let store ← Action.store
  let name ← Action.ofExcept (store.attributeName spelling)
  let attached := store.attributes target
  if store.attachable target name ∧ (attached.named? name).isSome then
    Action.attach target (attached.without name)
  else
    Action.modify target target.attributeFault fun _ object =>
      Store.withoutAttribute object name

end Conform
