import Conform.Rule
import Conform.Proofs.Growth
import Conform.Proofs.Evolution
import Conform.Proofs.Membership

/-! Growth without new types. As long as no enumerated type and no derived object is added, every
value is used as before, even one that refers to an address that was not in use; so an enumeration
is drawn from a value with the same values again. -/

namespace Conform

/-- An object that gives no other value a new use: no member belongs to it, and it is used as
itself. -/
def Object.isQuiet : Object → Bool
  | .enumType _ | .derived _ => false
  | _ => true

namespace Store

/-- A store that another one has grown out of by quiet objects. -/
structure GrowsQuietly (store later : Store) : Prop extends store.Grows later where
  quiet : ∀ ref, ¬ store.Holds ref → (later.read ref).isQuiet = true

variable {store later last : Store} {value source left right : Value} {values : List Value}

theorem GrowsQuietly.refl (store : Store) : store.GrowsQuietly store :=
  ⟨.refl store, fun ref free => by rw [read_of_not_holds free]; rfl⟩

theorem GrowsQuietly.trans (first : store.GrowsQuietly later) (second : later.GrowsQuietly last) :
    store.GrowsQuietly last := by
  refine ⟨first.toGrows.trans second.toGrows, fun ref free => ?_⟩
  by_cases held : later.Holds ref
  · rw [second.kept ref held]
    exact first.quiet ref free
  · exact second.quiet ref held

theorem growsQuietly_alloc (store : Store) {object : Object} (quiet : object.isQuiet = true) :
    store.GrowsQuietly (store.alloc object) := by
  refine ⟨grows_alloc store object, fun ref free => ?_⟩
  by_cases new : ref = store.next
  · rw [new, read_alloc_next]
    exact quiet
  · rw [read_alloc_of_ne store object new, read_of_not_holds free]
    rfl

/-- What is known of an object is known of it in every store that has grown since. -/
theorem Grows.object? {object : Object} (grows : store.Grows later)
    (here : store.object? value = some object) (known : object ≠ .bare) :
    later.object? value = some object := by
  obtain ⟨ref, rfl, read⟩ := eq_object_of_object? here
  exact congrArg some ((grows.kept ref (holds_of_read read known)).trans read)

section

variable (grows : store.GrowsQuietly later)

include grows

theorem GrowsQuietly.member? (value : Value) : later.member? value = store.member? value := by
  cases value with
  | member owner index =>
    simp only [Store.member?, attributesOf, grows.attached]
    by_cases held : store.Holds owner
    · rw [grows.kept owner held]
    · have quiet := grows.quiet owner held
      rw [read_of_not_holds held]
      cases here : later.read owner with
      | enumType type => simp [here, Object.isQuiet] at quiet
      | _ => rfl
  | _ => rfl

theorem GrowsQuietly.base (value : Value) : later.base value = store.base value := by
  cases value with
  | object ref =>
    by_cases held : store.Holds ref
    · simp only [Store.base, Store.member?, Store.object?, grows.kept ref held]
    · have quiet := grows.quiet ref held
      simp only [Store.base, Store.member?, Store.object?, read_of_not_holds held]
      cases here : later.read ref with
      | derived base => simp [here, Object.isQuiet] at quiet
      | _ => rfl
  | _ => simp only [Store.base, grows.member?, Store.object?]

theorem GrowsQuietly.number? (value : Value) : later.number? value = store.number? value := by
  simp only [Store.number?, grows.base]

theorem GrowsQuietly.string? (value : Value) : later.string? value = store.string? value := by
  simp only [Store.string?, grows.base]

theorem GrowsQuietly.content? (value : Value) : later.content? value = store.content? value := by
  simp only [Store.content?, grows.base]

theorem GrowsQuietly.enumerable (value : Value) :
    later.enumerable value = store.enumerable value := enumerable_of_base (grows.base value)

theorem GrowsQuietly.find? (entries : List (Value × Value)) (content : String) :
    later.find? entries (.text content) = store.find? entries (.text content) := by
  simp only [Store.find?, agrees_text, grows.content?]

theorem GrowsQuietly.agrees (left' : store.enumerable left = true)
    (right' : store.enumerable right = true) :
    later.agrees left right = store.agrees left right :=
  agrees_of_base left' right' (grows.base left) (grows.base right)

theorem GrowsQuietly.distinct (those : ∀ value ∈ values, store.enumerable value = true) :
    later.distinct values = store.distinct values :=
  distinct_congr (fun _ _ left' right' => grows.agrees left' right') those

theorem GrowsQuietly.memberValues (owner : Ref) (type : EnumType) :
    later.memberValues owner type = store.memberValues owner type := by
  simp only [Store.memberValues, grows.member?]

theorem GrowsQuietly.declares (declares : store.Declares source values) :
    later.Declares source values := by
  cases declares with
  | mapping found =>
    obtain ⟨form, here⟩ := object?_of_mapping? found
    have there := grows.toGrows.object? here (by simp)
    exact .mapping (by simp only [mapping?, there])
  | @type owner type found =>
    obtain ⟨rfl, here⟩ := eq_of_enumType found
    have there : later.read owner = .enumType type :=
      (grows.kept owner (holds_of_read here (by simp))).trans here
    rw [← grows.memberValues]
    exact .type (by simp only [enumType?, Store.object?, there])

/-- What is drawn from a value again has the same values. Only its name may show that a key is
written otherwise. -/
theorem GrowsQuietly.enumerationOf {drawn again : Enumeration}
    (declares : store.Declares source values)
    (ran : (store.enumerationOf source).outcome = .ok drawn)
    (ran' : (later.enumerationOf source).outcome = .ok again) : again.values = drawn.values := by
  obtain ⟨_, rfl⟩ := declares.eq_of_drawn ran
  obtain ⟨_, rfl⟩ := (grows.declares declares).eq_of_drawn ran'
  rw [funext grows.enumerable, grows.distinct fun value member => (List.mem_filter.mp member).2]

theorem GrowsQuietly.ruleParts
    (stringy : (store.string? (store.ruleParts source).1).isSome = true) :
    later.ruleParts source = store.ruleParts source := by
  have kept : later.object? source = store.object? source ∨
      store.object? source = some .bare := by
    cases here : store.object? source with
    | none =>
      left
      cases source with
      | object ref => cases here
      | _ => rfl
    | some object =>
      by_cases known : object = .bare
      · exact .inr (congrArg some known)
      · exact .inl (grows.toGrows.object? here known)
  rcases kept with same | bare
  · simp only [Store.ruleParts, Store.mapping?, same, grows.find?, grows.string?]
  · obtain ⟨ref, rfl, read⟩ := eq_object_of_object? bare
    simp [Store.ruleParts, Store.mapping?, Store.object?, read, Store.string?, Store.base,
      Store.member?] at stringy

end

end Store

end Conform
