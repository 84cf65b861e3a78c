import Conform.Proofs.Disciplines
import Conform.Proofs.Growth

/-! What a session leaves as it is. An operation adds objects, and the items of a mapping, a
sequence or an array of bytes may change; every other object in use stays as it is, as long as no
attribute is set or taken away. A mapping keeps its form, and no two keys come to stand in it that
are taken for one another whatever happens. -/

namespace Conform

namespace Store

/-- A store that another one has come to be: each object in use is revised at most, by which no
mapping comes to have two keys that are alike. -/
structure EvolvesWith (alike : Value → Value → Prop) (store later : Store) : Prop where
  bounded : store.size ≤ later.size
  revised : ∀ ref, store.Holds ref → (store.read ref).Revises alike (later.read ref)

/-- A store that another one has come to be, whatever keys its mappings have. -/
abbrev Evolves (store later : Store) : Prop := EvolvesWith (fun _ _ => False) store later

/-- What is alike is taken for one another, now and whatever the store comes to be. -/
def Lasting (store : Store) (alike : Value → Value → Prop) : Prop :=
  ∀ later, store.Evolves later → later.Identifies alike

variable {alike : Value → Value → Prop} {store middle later : Store}

theorem EvolvesWith.refl (store : Store) : store.EvolvesWith alike store :=
  ⟨Nat.le_refl _, fun _ _ => .same _⟩

theorem EvolvesWith.trans (here : store.EvolvesWith alike middle)
    (there : middle.EvolvesWith alike later) : store.EvolvesWith alike later where
  bounded := Nat.le_trans here.bounded there.bounded
  revised := by
    intro ref held
    have still : middle.Holds ref := Nat.lt_of_lt_of_le held here.bounded
    exact (here.revised ref held).trans (there.revised ref still)

theorem EvolvesWith.loosely (evolves : store.EvolvesWith alike later) : store.Evolves later :=
  ⟨evolves.bounded, fun ref held => (evolves.revised ref held).loosely⟩

theorem EvolvesWith.holds (evolves : store.EvolvesWith alike later) {ref : Ref}
    (held : store.Holds ref) : later.Holds ref := Nat.lt_of_lt_of_le held evolves.bounded

theorem EvolvesWith.kept (evolves : store.EvolvesWith alike later) {ref : Ref} {object : Object}
    (here : store.read ref = object) (known : object ≠ .bare) (fixed : object.isRevisable = false) :
    later.read ref = object := by
  subst here
  exact (evolves.revised ref (holds_of_read rfl known)).eq_of_fixed fixed

theorem Lasting.since (lasting : store.Lasting alike) (evolves : store.Evolves middle) :
    middle.Lasting alike :=
  fun later more => lasting later (evolves.trans more)

theorem Grows.evolves (grows : store.Grows later) : store.EvolvesWith alike later where
  bounded := grows.bounded
  revised := by
    intro ref held
    rw [grows.kept ref held]
    exact .same _

theorem evolves_write {ref : Ref} {object : Object}
    (revised : (store.read ref).Revises alike object) :
    store.EvolvesWith alike (store.write ref object) where
  bounded := by simp [size, write]
  revised := by
    intro other held
    by_cases same : ref = other
    · subst same
      rw [read_write_same store object ref held]
      exact revised
    · rw [read_write_of_ne store object ref other same]
      exact .same _

theorem evolves_attach (value : Value) (attributes : Attributes) :
    store.EvolvesWith alike (store.attach value attributes) :=
  ⟨Nat.le_refl _, fun _ _ => .same _⟩

end Store

/-- An action after which each object in use is revised at most, also when it ends by a fault. No
mapping comes to have two keys that are alike, if these are always taken for one another. -/
def Action.EvolvesWith (alike : Value → Value → Prop) (action : Action α) : Prop :=
  ∀ store : Store, store.Lasting alike → store.EvolvesWith alike (action store).2

namespace Action

variable {alike : Value → Value → Prop}

theorem evolves_reading (run : Store → Run α) : (reading run).EvolvesWith alike :=
  fun store _ => .refl store

theorem evolves_bind {first : Action α} {next : α → Action β} (here : first.EvolvesWith alike)
    (there : ∀ answer, (next answer).EvolvesWith alike) : (first >>= next).EvolvesWith alike := by
  intro store lasting
  rcases ran : first store with ⟨⟨outcome, calls, log⟩, middle⟩
  have start : store.EvolvesWith alike middle := by
    have evolved := here store lasting
    rwa [ran] at evolved
  cases outcome with
  | error fault => simpa [Bind.bind, andThen, ran] using start
  | ok answer =>
    have onward := there answer middle (lasting.since start.loosely)
    simpa [Bind.bind, andThen, ran] using start.trans onward

/-- A change of an object by which it is revised at most. -/
theorem evolves_modify (target : Value) (otherwise : Fault)
    {change : Store → Object → Except Fault Object}
    (revises : ∀ store object changed, store.Identifies alike → change store object = .ok changed →
      object.Revises alike changed) : (modify target otherwise change).EvolvesWith alike := by
  cases target with
  | object ref =>
    intro store lasting
    cases changed : change store (store.read ref) with
    | error fault =>
      have same : (modify (.object ref) otherwise change store).2 = store := by
        simp [modify, Bind.bind, andThen, Action.store, reading, Run.answer, changed, ofExcept,
          Run.ofExcept]
      rw [same]
      exact .refl store
    | ok object =>
      have written : (modify (.object ref) otherwise change store).2 = store.write ref object := by
        simp [modify, Bind.bind, andThen, Action.store, reading, Run.answer, changed, ofExcept,
          Run.ofExcept, write]
      rw [written]
      exact Store.evolves_write (revises store _ object (lasting store (.refl store)) changed)
  | _ => exact evolves_reading _

/-- Reading changes nothing, and all that an action may do besides revises objects in use. -/
theorem evolves_discipline : Discipline (EvolvesWith alike) where
  bind := evolves_bind
  reading _ := evolves_reading _
  alloc object store _ := (store.grows_alloc object).evolves
  attach value attributes _ _ := Store.evolves_attach value attributes
  modify target _ _ _ _ revises :=
    evolves_modify target _ fun store object changed => revises store _ object changed

end Action

namespace Session

variable {alike : Value → Value → Prop}

/-- One step: every operation but those on attributes revises each object in use at most. -/
theorem perform_evolves (bindings : Fields) (operation : Operation)
    (keeps : operation.keepsAttributes = true) :
    (perform bindings operation).EvolvesWith alike :=
  perform_keeps Action.evolves_discipline bindings operation
    fun alters => absurd keeps (by simp [alters])

/-- A session after operations, each of which may bind its answer to a name. -/
def after (session : Session) (steps : List (Operation × Option String)) : Session :=
  steps.foldl (fun current next => (current.step next.1 next.2).2) session

/-- A whole run of such operations, by induction over its steps. -/
theorem after_evolves (session : Session) {steps : List (Operation × Option String)}
    (lasting : session.store.Lasting alike)
    (keep : ∀ next ∈ steps, next.1.keepsAttributes = true) :
    session.store.EvolvesWith alike (session.after steps).store := by
  induction steps generalizing session with
  | nil => exact .refl session.store
  | cons next rest inductionHypothesis =>
    obtain ⟨first, others⟩ := List.forall_mem_cons.mp keep
    have stepped : session.store.EvolvesWith alike (session.step next.1 next.2).2.store :=
      perform_evolves session.bindings next.1 first session.store lasting
    exact stepped.trans (inductionHypothesis _ (lasting.since stepped.loosely) others)

end Session

end Conform
