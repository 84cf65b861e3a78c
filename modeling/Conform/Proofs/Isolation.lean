import Conform.Proofs.Copies
import Conform.Proofs.Frames

/-! What is assembled without a creator is isolated from its source, one level deep. Every value of
the new mapping has the contents of a value of the source, and is a new object if its contents can
change. So no change of the new mapping, or of a new object in it, shows at the source or at any
other value that was in use before, and no change of what was in use before shows at them. What the
objects hold in turn is the same on both sides. -/

namespace Conform

/-- An object whose contents can be changed: its items or its fields. Functions and classes, to
which attributes can be attached, have none. -/
def Object.isChangeable : Object → Bool
  | .mapping .. | .sequence .list _ | .sequence .deque _ | .sequence (.custom _) _ | .set false _
  | .byteArray _ | .derived _ | .plain _ | .slotted _ | .record _ | .model _ | .table _ => true
  | _ => false

namespace Store

/-- An object as its copy holds it: each mapping is a plain one, into which the entries of one that
was none are put key by key. -/
def plainly (store : Store) : Object → Object
  | .mapping .plain entries => .mapping .plain entries
  | .mapping _ entries => .mapping .plain (store.gathered entries)
  | object => object

/-- Contents that were copied, now or when more objects had come. Those of a mapping are the same
items in the same order, unless one key is taken for another one. -/
structure Retains (store : Store) (object copied : Object) : Prop where
  plain : ∃ later, store.GrowsInto later ∧ copied = later.plainly object
  inOrder : ∀ form entries, object = .mapping form entries →
    form = .plain ∨ store.KeysApart (entries.map Prod.fst) → copied = .mapping .plain entries

/-- A value that refers to an object which is not in use. -/
def IsNew (store : Store) (value : Value) : Prop :=
  ∃ ref, value = .object ref ∧ ¬ store.Holds ref

def isChangeable (store : Store) (value : Value) : Bool :=
  (store.object? value).any Object.isChangeable

/-- A value of a later store has the contents of a value: it is that value, whose contents cannot be
changed, or a new object with the same contents. -/
inductive Copies (store later : Store) : Value → Value → Prop where
  | itself {value : Value} (fixed : store.isChangeable value = false) :
      Copies store later value value
  | object {ref other : Ref} (new : ¬ store.Holds other) (used : later.Holds other)
      (contents : store.Retains (store.read ref) (later.read other))
      (attributes : (store.read ref).takesAttributes = true →
        later.attributesOf (.object other) = store.attributesOf (.object ref)) :
      Copies store later (.object ref) (.object other)
  | text {content : String} {other : Ref} (new : ¬ store.Holds other) (used : later.Holds other)
      (contents : later.read other = .derived (.wrapped content))
      (attributes :
        later.attributesOf (.object other) = store.attributesOf (.wrapped content)) :
      Copies store later (.wrapped content) (.object other)

variable {store middle later built : Store} {value made source guard creator : Value}
  {fields entries : List (Value × Value)} {calls : List Call}

section Copying

theorem retains_plainly (object : Object) : store.Retains object (store.plainly object) where
  plain := ⟨store, .refl store, rfl⟩
  inOrder := by
    rintro form entries rfl asked
    have gathered (apart : store.KeysApart (entries.map Prod.fst)) :
        store.gathered entries = entries :=
      gathered_of_distinct (List.pairwise_map.mp (apart store (.refl store)))
    cases form with
    | plain => rfl
    | _ => simp [plainly, gathered (asked.resolve_left nofun)]

/-- Contents copied when more objects had come are those of what was there before. -/
theorem Retains.since {object copied : Object} (retains : middle.Retains object copied)
    (grown : store.GrowsInto middle) : store.Retains object copied where
  plain := by
    obtain ⟨later, more, same⟩ := retains.plain
    exact ⟨later, grown.trans more, same⟩
  inOrder := fun form entries same asked =>
    retains.inOrder form entries same (asked.imp_right grown.keysApart)

/-- What is its own copy has contents that cannot be changed; any other copy is a new object with
the same contents. -/
theorem objectCopy_cases {object : Object} {copied : Copied}
    (made : store.objectCopy object = .ok copied) :
    (copied = .itself ∧ object.isChangeable = false) ∨ copied = .object (store.plainly object) := by
  cases object with
  | mapping form entries =>
    cases form <;> cases made <;> exact .inr rfl
  | sequence form items =>
    cases form with
    | tuple =>
      cases made
      exact .inl ⟨rfl, rfl⟩
    | _ =>
      cases made
      exact .inr rfl
  | set frozen items =>
    cases frozen with
    | true =>
      cases made
      exact .inl ⟨rfl, rfl⟩
    | false =>
      cases made
      exact .inr rfl
  | range | function | enumType =>
    cases made
    exact .inl ⟨rfl, rfl⟩
  | view | generator => cases made
  | _ =>
    cases made
    exact .inr rfl

theorem copied_itself (copied : store.copied value = .ok .itself) :
    store.isChangeable value = false := by
  cases value with
  | object ref =>
    rcases objectCopy_cases copied with ⟨-, fixed⟩ | new
    · simpa [isChangeable, object?] using fixed
    · cases new
  | _ => rfl

theorem takesAttributes_plainly (object : Object) :
    (store.plainly object).takesAttributes = object.takesAttributes := by
  cases object with
  | mapping form entries => cases form <;> rfl
  | _ => rfl

theorem copies_next {object : Object} (copied : store.copied value = .ok (.object object)) :
    store.Copies (if object.takesAttributes then
        (store.alloc object).attach (.object store.next) (store.attributesOf value)
      else store.alloc object) value (.object store.next) := by
  have new : ¬ store.Holds store.next := Nat.lt_irrefl _
  have placed (attributes : Attributes) :
      ((store.alloc object).attach (.object store.next) attributes).Holds store.next ∧
        (store.alloc object).Holds store.next := by
    simp [Holds, size, alloc, attach, next]
  have read : (store.alloc object).read store.next = object := read_alloc_next store object
  cases value with
  | object ref =>
    rcases objectCopy_cases copied with ⟨same, -⟩ | same
    · cases same
    · obtain rfl : object = store.plainly (store.read ref) := Copied.object.inj same
      have retains : store.Retains (store.read ref) (store.plainly (store.read ref)) :=
        retains_plainly _
      rw [takesAttributes_plainly]
      split
      · exact .object new (placed _).1 (read.symm ▸ retains) fun _ => attributesOf_attach_same _ _ _
      · rename_i fixed
        exact .object new (placed .empty).2 (read.symm ▸ retains) fun takes => absurd takes fixed
  | wrapped content =>
    cases copied
    exact .text new (placed _).1 read (attributesOf_attach_same _ _ _)
  | _ => cases copied

theorem copies_of_replacement
    (replaced : (Action.replacement .null value).Settles store made later) :
    store.Copies later value made := by
  obtain ⟨⟨copy, itself⟩, middle, copying, answered⟩ := replaced.split
  obtain ⟨rfl, rfl⟩ := answered.unique (Action.settles_pure _)
  cases copied : store.copied value with
  | error fault =>
    have failed : (Action.copy value).Ends store (.error fault) [] store :=
      Action.ends_store.bind (Action.Ends.bind_of_error (Action.ends_ofExcept copied))
    cases failed.outcome.symm.trans copying.1
  | ok form =>
    cases form with
    | itself =>
      have drawn : (Action.copy value).Ends store (.ok (value, true)) [] store :=
        Action.ends_store.bind ((Action.ends_ofExcept copied).bind (Action.ends_pure _))
      cases drawn.outcome.symm.trans copying.1
      exact .itself (copied_itself copied)
    | object object =>
      have placed := Action.copy_places copied
      cases placed.outcome.symm.trans copying.1
      rw [← copying.2, placed.later]
      exact copies_next copied

end Copying

section Keeping

theorem AlikeAt.isChangeable (alike : store.AlikeAt later value) :
    later.isChangeable value = store.isChangeable value := by
  simp only [Store.isChangeable, alike.object]

theorem Copies.kept (copies : store.Copies middle value made) (grown : middle.GrowsInto later) :
    store.Copies later value made := by
  cases copies with
  | itself fixed => exact .itself fixed
  | object new used contents attributes =>
    have alike := grown.alikeAt used
    exact .object new (grown.holds used) ((grown.kept _ used).symm ▸ contents)
      fun takes => alike.attributes.trans (attributes takes)
  | text new used contents attributes =>
    exact .text new (grown.holds used) ((grown.kept _ used).trans contents)
      ((grown.alikeAt used).attributes.trans attributes)

theorem Copies.since (copies : middle.Copies later value made) (grown : store.GrowsInto middle)
    (used : store.InUse value) : store.Copies later value made := by
  have alike := used.alikeAt grown
  cases copies with
  | itself fixed => exact .itself (alike.isChangeable.symm.trans fixed)
  | object new there contents attributes =>
    rw [alike.read rfl] at contents attributes
    exact .object (fun held => new (grown.holds held)) there (contents.since grown)
      fun takes => (attributes takes).trans alike.attributes
  | text new there contents attributes =>
    exact .text (fun held => new (grown.holds held)) there contents
      (attributes.trans alike.attributes)

/-- Fields that are gone through without a creator get copies, by induction over the steps: each
step copies one value, and the others only bring more objects. -/
theorem GoesThrough.copies (gone : GoesThrough guard .null store fields entries calls later)
    (used : ∀ field ∈ fields, store.InUse field.2) :
    Entrywise (store.Copies later) fields entries := by
  induction gone with
  | done => exact .nil
  | next _ replaced _ rest inductionHypothesis =>
    have grown := Action.growsInto_replacement replaced
    obtain ⟨_, others⟩ := List.forall_mem_cons.mp used
    have behind := inductionHypothesis fun field member => (others field member).mono grown.bounded
    have along := (List.forall₂_and_left _ _).mpr ⟨others, behind⟩
    refine .cons ⟨rfl, (copies_of_replacement replaced).kept rest.growsInto⟩ ?_
    exact along.imp fun _ _ ⟨there, keyed, copies⟩ => ⟨keyed, copies.since grown there⟩

end Keeping

section Assembling

theorem IsNew.apart {target : Value} (new : store.IsNew target) (used : store.InUse value) :
    target.Apart value := by
  obtain ⟨ref, rfl, free⟩ := new
  constructor
  · rintro rfl
    exact free used
  · rintro owner index rfl same
    cases same
    exact free used

theorem InUse.apart {target : Value} (used : store.InUse target) (new : store.IsNew value) :
    target.Apart value := by
  obtain ⟨ref, rfl, free⟩ := new
  constructor
  · rintro rfl
    exact free used
  · rintro owner index same
    cases same

end Assembling

end Store

end Conform
