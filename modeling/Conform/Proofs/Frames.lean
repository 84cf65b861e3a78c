import Conform.Proofs.Assembly

/-! Frames: what operations leave as it is. A value that is in use stays the same object with the
same attributes under every operation but one that changes that value, whatever else comes into
being. So it does through a whole session of operations none of which is aimed at it. -/

namespace Conform

namespace Store

/-- A value that refers to an object in use, if it refers to one. -/
def InUse (store : Store) : Value → Prop
  | .object ref => store.Holds ref
  | .member owner _ => store.Holds owner
  | _ => True

variable {store middle later : Store} {value : Value}

theorem AlikeAt.refl (store : Store) (value : Value) : store.AlikeAt store value := ⟨rfl, rfl, rfl⟩

theorem AlikeAt.trans (here : store.AlikeAt middle value) (there : middle.AlikeAt later value) :
    store.AlikeAt later value where
  object := there.object.trans here.object
  member := there.member.trans here.member
  attributes := there.attributes.trans here.attributes

theorem InUse.mono (used : store.InUse value) (bounded : store.size ≤ later.size) :
    later.InUse value := by
  cases value with
  | object ref => exact Nat.lt_of_lt_of_le used bounded
  | member owner index => exact Nat.lt_of_lt_of_le used bounded
  | _ => trivial

theorem InUse.alikeAt (used : store.InUse value) (grown : store.GrowsInto later) :
    store.AlikeAt later value := by
  cases value with
  | object ref => exact grown.alikeAt used
  | member owner index =>
    have attributes : later.attributesOf (.member owner index) =
        store.attributesOf (.member owner index) := grown.attributes _ fun _ same => by cases same
    exact ⟨rfl, by simp only [member?, grown.kept owner used, attributes], attributes⟩
  | _ => exact ⟨rfl, rfl, grown.attributes _ fun _ same => by cases same⟩

end Store

/-- An action that leaves a value as it is, if it is in use, also when it ends by a fault. -/
def Action.Spares (value : Value) (action : Action α) : Prop :=
  ∀ store : Store, store.InUse value →
    store.size ≤ (action store).2.size ∧ store.AlikeAt (action store).2 value

namespace Action

variable {target value : Value}

theorem spares_reading (run : Store → Run α) : (reading run).Spares value :=
  fun store _ => ⟨Nat.le_refl _, .refl store value⟩

theorem spares_bind {first : Action α} {next : α → Action β} (here : first.Spares value)
    (there : ∀ answer, (next answer).Spares value) : (first >>= next).Spares value := by
  intro store used
  rcases ran : first store with ⟨⟨outcome, calls, log⟩, middle⟩
  have start : store.size ≤ middle.size ∧ store.AlikeAt middle value := by
    have spared := here store used
    rwa [ran] at spared
  cases outcome with
  | error fault => simpa [Bind.bind, andThen, ran] using start
  | ok answer =>
    obtain ⟨bounded, alike⟩ := there answer middle (used.mono start.1)
    simpa [Bind.bind, andThen, ran] using
      And.intro (Nat.le_trans start.1 bounded) (start.2.trans alike)

/-- What is in use is none of the objects that come into being, with attributes or without. -/
theorem spares_growth (value : Value) : Growth (Spares value) where
  bind := spares_bind
  reading _ := spares_reading _
  alloc object store used :=
    ⟨(store.grows_alloc object).bounded, used.alikeAt (store.grows_alloc object).into⟩
  attachNew object attributes store used :=
    have grown := store.growsInto_attach_next object attributes
    ⟨grown.bounded, used.alikeAt grown⟩

theorem spares_attach (attributes : Attributes) (apart : target.Apart value) :
    (attach target attributes).Spares value :=
  fun _ _ => ⟨Nat.le_refl _, Store.alikeAt_attach attributes apart⟩

theorem spares_write {ref : Ref} (object : Object) (apart : (Value.object ref).Apart value) :
    (write ref object).Spares value :=
  fun store _ => ⟨by simp [write, Store.size, Store.write], Store.alikeAt_write object apart⟩

theorem spares_modify (otherwise : Fault) (change : Store → Object → Except Fault Object)
    (apart : target.Apart value) : (modify target otherwise change).Spares value := by
  cases target with
  | object ref =>
    exact spares_bind (spares_reading _) fun store =>
      spares_bind (spares_reading _) fun object => spares_write object apart
  | _ => exact spares_reading _

theorem spares_setAttribute (spelling item : Value) (apart : target.Apart value) :
    (setAttribute target spelling item).Spares value := by
  refine spares_bind (spares_reading _) fun _ => spares_bind (spares_reading _) fun _ => ?_
  split
  · exact spares_attach _ apart
  · exact spares_modify _ _ apart

theorem spares_dropAttribute (spelling : Value) (apart : target.Apart value) :
    (dropAttribute target spelling).Spares value := by
  refine spares_bind (spares_reading _) fun _ => spares_bind (spares_reading _) fun _ => ?_
  dsimp only
  split
  · exact spares_attach _ apart
  · exact spares_modify _ _ apart

end Action

/-- A term that stands for a value without evaluating anything: by itself or by its name. -/
inductive Term.Denotes (bindings : Fields) : Term → Value → Prop where
  | value (known : Value) : Denotes bindings (.value known) known
  | named {name : String} {bound : Value} (found : bindings.named? name = some bound) :
      Denotes bindings (.variable name) bound

theorem Term.Denotes.evaluate {bindings : Fields} {term : Term} {value : Value}
    (denotes : term.Denotes bindings value) : term.evaluate bindings = pure value := by
  cases denotes with
  | value => rfl
  | named found => simp only [Term.evaluate, found]

/-- An operation that changes nothing but, possibly, a value that may be changed. -/
def Operation.AimsAt (allowed : Value → Prop) (bindings : Fields) (operation : Operation) : Prop :=
  ∀ term, operation.target? = some term → ∃ target, term.Denotes bindings target ∧ allowed target

namespace Session

variable {value : Value} {allowed : Value → Prop}

/-- One step: an operation that is aimed at nothing but other values spares a value. -/
theorem perform_spares {bindings : Fields} {operation : Operation}
    (aims : operation.AimsAt (fun target => target.Apart value) bindings) :
    (perform bindings operation).Spares value := by
  have growth := Action.spares_growth value
  have given {α : Type} (term : Term) {next : Value → Action α}
      (rest : ∀ answer, (next answer).Spares value) :
      (term.evaluate bindings >>= next).Spares value :=
    growth.bind (term.evaluate_keeps growth bindings) rest
  refine perform_grows growth bindings operation fun changes => ?_
  obtain ⟨term, targeted⟩ := Option.isSome_iff_exists.mp changes
  obtain ⟨target, denotes, apart⟩ := aims term targeted
  cases operation with
  | setItem _ key item =>
    cases targeted
    simp only [perform, denotes.evaluate, pure_bind]
    exact given item fun _ => given key fun _ =>
      growth.done (growth.bind growth.store fun _ => Action.spares_modify _ _ apart)
  | dropItem _ key =>
    cases targeted
    simp only [perform, denotes.evaluate, pure_bind]
    exact given key fun _ =>
      growth.done (growth.bind growth.store fun _ => Action.spares_modify _ _ apart)
  | append _ item =>
    cases targeted
    simp only [perform, denotes.evaluate, pure_bind]
    exact growth.bind (growth.onObject _ _ _ _ (item.evaluate_keeps growth bindings) fun _ =>
      growth.done (Action.spares_modify _ _ apart)) fun _ => growth.pure _
  | setAttribute _ name item =>
    cases targeted
    simp only [perform, denotes.evaluate, pure_bind]
    exact given name fun name => given item fun item =>
      growth.done (Action.spares_setAttribute name item apart)
  | dropAttribute _ name =>
    cases targeted
    simp only [perform, denotes.evaluate, pure_bind]
    exact given name fun name => growth.done (Action.spares_dropAttribute name apart)
  | _ => cases changes

/-- A session in which every operation changes nothing but, possibly, a value that may be changed.
What a name stands for is seen when the operation is performed. -/
inductive Aims (allowed : Value → Prop) : Session → List (Operation × Option String) → Prop where
  | done {session : Session} : Aims allowed session []
  | next {session : Session} {operation : Operation} {name? : Option String}
      {rest : List (Operation × Option String)}
      (aims : operation.AimsAt allowed session.bindings)
      (others : Aims allowed (session.step operation name?).2 rest) :
      Aims allowed session ((operation, name?) :: rest)

/-- A whole run, by induction over its steps: each of them spares a value that is apart from all
that may be changed, and leaves it in use. -/
theorem Aims.alikeAt {session : Session} {steps : List (Operation × Option String)}
    (aims : Aims allowed session steps) (apart : ∀ target, allowed target → target.Apart value)
    (used : session.store.InUse value) :
    session.store.AlikeAt (session.after steps).store value := by
  induction aims with
  | done => exact .refl _ value
  | @next session operation name? rest aims _ inductionHypothesis =>
    have aimed : operation.AimsAt (fun target => target.Apart value) session.bindings := by
      intro term targeted
      obtain ⟨target, denotes, allowed⟩ := aims term targeted
      exact ⟨target, denotes, apart target allowed⟩
    have stepped : session.store.size ≤ (session.step operation name?).2.store.size ∧
        session.store.AlikeAt (session.step operation name?).2.store value :=
      perform_spares aimed session.store used
    exact stepped.2.trans (inductionHypothesis (used.mono stepped.1))

end Session

end Conform
