import Conform.Proofs.Assembled
import Conform.Proofs.Evolution

/-! The assembly of a mapping, field by field. Each field in turn is put to the guard, then replaced
by the creator or by a copy, and only then is the next one looked at. Either all fields are gone
through, and the mapping has what took their places, or the assembly stops at the first one for
which that cannot be done. -/

namespace Conform

/-- An object whose copy takes over the attributes that are attached to it: a sequence of a custom
type, or an object of a derived type. -/
def Object.takesAttributes : Object → Bool
  | .sequence (.custom _) _ | .derived _ => true
  | _ => false

/-- What takes the place of a value: without a creator a copy of it, else the creator's reply. -/
def Action.replacement (creator value : Value) : Action Value :=
  if creator = .null then do return (← Action.copy value).1
  else do Action.replyValue (← Action.reading fun store => store.call creator value)

namespace Store

/-- A store that another one has come to be without a change to what was in use. The attributes
of what is new may be new as well. -/
structure GrowsInto (store later : Store) : Prop where
  bounded : store.size ≤ later.size
  kept : ∀ ref, store.Holds ref → later.read ref = store.read ref
  attributes : ∀ value, (∀ ref, value = .object ref → store.Holds ref) →
    later.attributesOf value = store.attributesOf value
  replies : later.replies = store.replies

/-- Keys none of which is taken for another one, now or when more objects have come. -/
def KeysApart (store : Store) (keys : List Value) : Prop :=
  ∀ later, store.GrowsInto later → keys.Pairwise fun one other => later.agrees one other = false

/-- A key that is another one, or is taken for it, now or when more objects have come. -/
def TakenFor (store : Store) (one other : Value) : Prop :=
  one = other ∨ ∃ later, store.GrowsInto later ∧ later.agrees one other = true

/-- Fields gone through one after another, with what takes the places of their values, the calls on
the way and the store at the end. Each field is done with before the next one is begun: the guard
replies something true, a replacement is made, and the key can be one. -/
inductive GoesThrough (guard creator : Value) :
    Store → List (Value × Value) → List (Value × Value) → List Call → Store → Prop where
  | done {store : Store} : GoesThrough guard creator store [] [] [] store
  | next {store middle later : Store} {key value made : Value}
      {fields entries : List (Value × Value)} {calls : List Call}
      (passed : (store.passes guard value).outcome = .ok true)
      (replaced : (Action.replacement creator value).Settles store made middle)
      (allowed : middle.requireHashable key = .ok ())
      (rest : GoesThrough guard creator middle fields entries calls later) :
      GoesThrough guard creator store ((key, value) :: fields) ((key, made) :: entries)
        (store.callsFor (.predicate guard) value ++
          (store.callsFor (.predicate creator) value ++ calls)) later

variable {store middle later last : Store} {value guard creator key made : Value}
  {fields entries finished : List (Value × Value)} {calls more : List Call} {fault : Fault}
  {fault? : Option Fault}

section Growing

theorem GrowsInto.refl (store : Store) : store.GrowsInto store :=
  ⟨Nat.le_refl _, fun _ _ => rfl, fun _ _ => rfl, rfl⟩

theorem GrowsInto.holds (grown : store.GrowsInto later) {ref : Ref} (held : store.Holds ref) :
    later.Holds ref := Nat.lt_of_lt_of_le held grown.bounded

theorem GrowsInto.trans (here : store.GrowsInto middle) (there : middle.GrowsInto later) :
    store.GrowsInto later where
  bounded := Nat.le_trans here.bounded there.bounded
  kept := by
    intro ref held
    rw [there.kept ref (here.holds held), here.kept ref held]
  attributes := by
    intro value held
    rw [there.attributes value fun ref same => here.holds (held ref same),
      here.attributes value held]
  replies := there.replies.trans here.replies

theorem Grows.into (grows : store.Grows later) : store.GrowsInto later where
  bounded := grows.bounded
  kept := grows.kept
  attributes := fun value _ => by simp only [attributesOf, grows.attached]
  replies := grows.replies

/-- Attributes attached to what is new are attached to nothing that was in use. -/
theorem growsInto_attach_next (object : Object) (attributes : Attributes) :
    store.GrowsInto ((store.alloc object).attach (.object store.next) attributes) where
  bounded := (grows_alloc store object).bounded
  kept := (grows_alloc store object).kept
  attributes := by
    intro value held
    have apart : value ≠ .object store.next := by
      rintro rfl
      exact Nat.lt_irrefl _ (held store.next rfl)
    exact attributesOf_attach_of_ne apart attributes
  replies := rfl

/-- What was in use is the same object with the same attributes. -/
theorem GrowsInto.alikeAt (grown : store.GrowsInto later) {ref : Ref} (held : store.Holds ref) :
    store.AlikeAt later (.object ref) where
  object := by simp only [object?, grown.kept ref held]
  member := rfl
  attributes := grown.attributes _ fun _ same => Value.object.inj same ▸ held

theorem TakenFor.since {one other : Value} (taken : middle.TakenFor one other)
    (grown : store.GrowsInto middle) : store.TakenFor one other := by
  rcases taken with same | ⟨later, more, agrees⟩
  · exact Or.inl same
  · exact Or.inr ⟨later, grown.trans more, agrees⟩

theorem GrowsInto.keysApart {keys : List Value} (grown : store.GrowsInto later)
    (apart : store.KeysApart keys) : later.KeysApart keys :=
  fun last more => apart last (grown.trans more)

end Growing

theorem calls_call (callee argument : Value) :
    (store.call callee argument).calls = store.callsFor (.predicate callee) argument :=
  calls_callWithin (store.size + 1) callee argument

end Store

namespace Action

variable {store : Store} {creator value : Value}

/-- A copy that is a new object is placed at the next address, with the attributes of the value
where the copy takes them over. -/
theorem copy_places {object : Object} (copied : store.copied value = .ok (.object object)) :
    (copy value).Ends store (.ok (.object store.next, false)) []
      (if object.takesAttributes then
        (store.alloc object).attach (.object store.next) (store.attributesOf value)
      else store.alloc object) := by
  have drawn : (ofExcept (store.copied value)).Ends store (.ok (.object object)) [] store :=
    ends_ofExcept copied
  have placed : (alloc object).Ends store (.ok (.object store.next)) [] (store.alloc object) :=
    ends_alloc object
  cases object with
  | derived base =>
    exact ends_store.bind (drawn.bind (placed.bind ((ends_attach _ _).bind (ends_pure _))))
  | sequence form items =>
    cases form with
    | custom callable =>
      exact ends_store.bind (drawn.bind (placed.bind ((ends_attach _ _).bind (ends_pure _))))
    | _ => exact ends_store.bind (drawn.bind (placed.bind (ends_pure _)))
  | _ => exact ends_store.bind (drawn.bind (placed.bind (ends_pure _)))

theorem copy_ends (store : Store) (value : Value) :
    ∃ outcome later, (copy value).Ends store outcome [] later ∧ store.GrowsInto later := by
  cases copied : store.copied value with
  | error fault =>
    refine ⟨.error fault, store, ?_, .refl store⟩
    refine ends_store.bind (Ends.bind_of_error ?_)
    exact ends_ofExcept copied
  | ok form =>
    cases form with
    | itself =>
      have drawn : (ofExcept (store.copied value)).Ends store (.ok .itself) [] store :=
        ends_ofExcept copied
      exact ⟨_, _, ends_store.bind (drawn.bind (ends_pure _)), .refl store⟩
    | object object =>
      refine ⟨_, _, copy_places copied, ?_⟩
      split
      · exact store.growsInto_attach_next object (store.attributesOf value)
      · exact (store.grows_alloc object).into

theorem replyValue_ends (store : Store) (reply : Reply) :
    ∃ answer later, (replyValue reply).Ends store (.ok answer) [] later ∧
      store.GrowsInto later := by
  cases reply with
  | value value => exact ⟨_, _, ends_pure value, .refl store⟩
  | list items => exact ⟨_, _, ends_alloc _, (store.grows_alloc _).into⟩

/-- A replacement calls the creator at most, and leaves what was in use as it is. -/
theorem replacement_ends (store : Store) (creator value : Value) :
    ∃ outcome later, (replacement creator value).Ends store outcome
      (store.callsFor (.predicate creator) value) later ∧ store.GrowsInto later := by
  by_cases absent : creator = .null
  · obtain ⟨outcome, later, copied, grown⟩ := copy_ends store value
    simp only [replacement, absent, if_true]
    cases outcome with
    | ok copy => exact ⟨_, _, copied.bind (ends_pure _), grown⟩
    | error fault => exact ⟨_, _, copied.bind_of_error, grown⟩
  · have called : (reading fun store => store.call creator value).Ends store
        (store.call creator value).outcome (store.callsFor (.predicate creator) value) store :=
      ⟨rfl, Store.calls_call creator value, rfl⟩
    simp only [replacement, absent, if_false]
    cases replied : (store.call creator value).outcome with
    | error fault =>
      rw [replied] at called
      exact ⟨_, _, called.bind_of_error, .refl store⟩
    | ok reply =>
      rw [replied] at called
      obtain ⟨answer, later, placed, grown⟩ := replyValue_ends store reply
      exact ⟨_, _, (List.append_nil _) ▸ called.bind placed, grown⟩

theorem growsInto_replacement {made : Value} {later : Store}
    (replaced : (replacement creator value).Settles store made later) : store.GrowsInto later := by
  obtain ⟨outcome, last, ends, grown⟩ := replacement_ends store creator value
  exact replaced.2 ▸ ends.later ▸ grown

end Action

namespace Store

variable {store middle later : Store} {value guard creator key made : Value}
  {fields entries finished : List (Value × Value)} {calls more : List Call} {fault : Fault}
  {fault? : Option Fault}

theorem GoesThrough.growsInto (gone : GoesThrough guard creator store fields entries calls later) :
    store.GrowsInto later := by
  induction gone with
  | done => exact .refl _
  | next _ replaced _ _ inductionHypothesis =>
    exact (Action.growsInto_replacement replaced).trans inductionHypothesis

theorem GoesThrough.keys (gone : GoesThrough guard creator store fields entries calls later) :
    entries.map Prod.fst = fields.map Prod.fst := by
  induction gone with
  | done => rfl
  | next _ _ _ _ inductionHypothesis => simp only [List.map_cons, inductionHypothesis]

/-- A function that is traced stays so, under the same name: the induction is on the predicates
that the call goes through, none of which changes. -/
theorem GrowsInto.tracedWithin (grown : store.GrowsInto later) {depth depth' : Nat} {test : Value}
    {name : String} (deeper : depth ≤ depth') (traced : store.tracedWithin depth test = some name) :
    later.tracedWithin depth' test = some name := by
  induction depth generalizing depth' test with
  | zero => cases traced
  | succ depth inductionHypothesis =>
    obtain ⟨depth', rfl⟩ := Nat.exists_eq_succ_of_ne_zero (Nat.ne_of_gt (Nat.lt_of_lt_of_le
      (Nat.succ_pos depth) deeper))
    cases test with
    | object ref =>
      cases here : store.read ref with
      | function function =>
        have kept := (grown.kept ref (holds_of_read here (by simp))).trans here
        simpa [Store.tracedWithin, object?, here, kept] using traced
      | predicate test =>
        have kept := (grown.kept ref (holds_of_read here (by simp))).trans here
        simp only [Store.tracedWithin, object?, here] at traced
        simpa [Store.tracedWithin, object?, kept] using
          inductionHypothesis (Nat.le_of_succ_le_succ deeper) traced
      | _ => simp [Store.tracedWithin, object?, here] at traced
    | _ => simp [Store.tracedWithin, object?] at traced

theorem GrowsInto.callsFor (grown : store.GrowsInto later) {test : Value} {name : String}
    (traced : store.traced? test = some name) (item : Value) :
    later.callsFor (.predicate test) item = [⟨name, item⟩] := by
  have still : later.traced? test = some name :=
    grown.tracedWithin (Nat.succ_le_succ grown.bounded) traced
  simp [Store.callsFor, still]

section Assembling

variable {source : Value} {outcome : Except Fault Value}

theorem assemble_of_shapeless (guard creator : Value) (shapeless : store.hasFields source = false) :
    (Action.assemble source guard creator).Ends store
      (.error (store.nonconforming (.text "create_dictionary(): source is not object"))) []
      store := by
  refine Action.ends_store.bind ?_
  rw [if_neg (by simp [shapeless])]
  exact ⟨rfl, rfl, rfl⟩

end Assembling

end Store

end Conform
