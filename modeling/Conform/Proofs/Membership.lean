import Mathlib.Algebra.Field.Rat
import Mathlib.Data.Rat.Cast.CharZero
import Mathlib.Tactic.Ring
import Conform.Proofs.Acceptance
import Conform.Proofs.Names

/-! Membership by value. An enumeration holds a value just when an equal number or string is
among the values declared: numbers are compared without rounding whatever their types, strings by
their characters, and neither names nor order nor repetitions play a part. -/

namespace Conform

theorem Exact.agrees_iff {one other : Exact} :
    one.agrees other = true ↔ one = other ∧ one ≠ .undefined := by
  cases one <;> cases other <;> simp [Exact.agrees]

namespace Store

variable {store : Store} {source value left right middle : Value} {values : List Value}

/-- The values that an enumerated type or a mapping declares: those of the type's members in
their order, and those that the mapping has under its keys. -/
inductive Declares (store : Store) (source : Value) : List Value → Prop where
  | type {owner : Ref} {type : EnumType} (found : store.enumType? source = some (owner, type)) :
      Declares store source (store.memberValues owner type)
  | mapping {entries : List (Value × Value)} (found : store.mapping? source = some entries) :
      Declares store source (entries.map Prod.snd)

/-- Values that are the same one, numbers of one exact value, or strings of the same characters.
A number without a value is the same only as itself. -/
inductive Same (store : Store) (left right : Value) : Prop where
  | itself (same : left = right)
  | number {exact : Exact} (valued : exact ≠ .undefined) (left : store.real? left = some exact)
      (right : store.real? right = some exact)
  | string {content : String} (left : store.string? left = some content)
      (right : store.string? right = some content)

/-- Values that no enumeration holds, although some of them equal a number or a text. -/
inductive Barred (store : Store) : Value → Prop where
  | null : Barred store .null
  | undefined : Barred store .undefined
  | boolean (flag : Bool) : Barred store (.boolean flag)
  | decimal (written : Decimal) : Barred store (.decimal written)
  | complex (re im : Binary64) : Barred store (.complex re im)
  | wrapped (content : String) : Barred store (.wrapped content)
  | derived {value base : Value} (derives : store.object? value = some (.derived base))
      (barred : Barred store base) : Barred store value

/-- Each number or string of a list is the same as one of another list. -/
def Within (store : Store) (values values' : List Value) : Prop :=
  ∀ declared ∈ values, store.enumerable declared = true →
    ∃ other ∈ values', store.enumerable other = true ∧ store.Same other declared

/-- A value that is used as what it was declared to be: no other value has been set for it since,
if it is a member of an enumerated type, and its content can be compared. -/
def Unaltered (store : Store) (value : Value) : Prop :=
  ∀ member, store.member? value = some member →
    member.value = member.content ∧ store.real? member.content ≠ some .undefined

theorem enumerable_iff :
    store.enumerable value = true ↔
      (∃ number, store.number? value = some number) ∨
        ∃ content, store.string? value = some content := by
  simp only [← Option.isSome_iff_exists]
  unfold enumerable kind
  split
  · simp [number?, string?, base, member?, object?]
  · simp [number?, string?, base, member?, object?]
  · by_cases counted : (store.number? value).isSome = true
    · simp [counted]
    · by_cases spelled : (store.string? value).isSome = true
      · simp [counted, spelled]
      · cases store.callable value <;> simp [counted, spelled]

theorem base_of_number {number : Number} (counts : store.number? value = some number) :
    store.base value = .number number := by
  unfold number? at counts
  split at counts
  · rename_i here
    rw [here, Option.some.inj counts]
  · cases counts

/-- A member that is used as something else is used as its content. -/
theorem content_of_base {member : MemberOf} {used : Value}
    (named : store.member? value = some member) (based : store.base value = used)
    (other : ∀ owner index, used ≠ .member owner index) : member.content = used := by
  obtain ⟨owner, index, rfl⟩ : ∃ owner index, value = .member owner index := by
    cases value with
    | member owner index => exact ⟨owner, index, rfl⟩
    | _ => cases named
  simp only [Store.base, named] at based
  split at based
  · exact absurd based.symm (other owner index)
  · exact based

theorem real_of_number {number : Number} (counts : store.number? value = some number) :
    store.real? value = some number.exact ∧ store.quantity? value = some (.real number.exact) := by
  cases value with
  | boolean flag => simp [number?, base, member?, object?] at counts
  | decimal written => simp [number?, base, member?, object?] at counts
  | complex re im => simp [number?, base, member?, object?] at counts
  | _ => simp [quantity?, real?, counts]

theorem agrees_of_numbers {one other : Number} (left' : store.number? left = some one)
    (right' : store.number? right = some other) (different : left ≠ right) :
    store.agrees left right = one.exact.agrees other.exact := by
  obtain ⟨depth, deep⟩ := store.exists_comparisonDepth
  simp [agrees, quietly, matching, different, Store.equal, deep, equalWithin,
    (real_of_number left').2, (real_of_number right').2, Quantity.agrees?]

theorem agrees_of_mixed {number : Number} {content : String}
    (counts : store.number? left = some number) (spells : store.string? right = some content) :
    store.agrees left right = false ∧ store.agrees right left = false := by
  obtain ⟨depth, deep⟩ := store.exists_comparisonDepth
  have different : left ≠ right := by
    rintro rfl
    simp [number?, base_of_string spells] at counts
  simp [agrees, quietly, matching, different, different.symm, Store.equal, deep, equalWithin,
    (real_of_number counts).2, quantity_of_string spells]

namespace Same

theorem symm (same : store.Same left right) : store.Same right left := by
  cases same with
  | itself same => exact .itself same.symm
  | number valued left right => exact .number valued right left
  | string left right => exact .string right left

theorem trans (first : store.Same left middle) (second : store.Same middle right) :
    store.Same left right := by
  cases first with
  | itself same => exact same ▸ second
  | number valued left middle =>
    cases second with
    | itself same => exact same ▸ .number valued left middle
    | number valued' middle' right =>
      obtain rfl := Option.some.inj (middle.symm.trans middle')
      exact .number valued left right
    | string middle' right => cases middle.symm.trans (real_of_string middle')
  | string left middle =>
    cases second with
    | itself same => exact same ▸ .string left middle
    | number valued middle' right => cases middle'.symm.trans (real_of_string middle)
    | string middle' right =>
      obtain rfl := Option.some.inj (middle.symm.trans middle')
      exact .string left right

theorem iff_of_numbers {one other : Number} (counts : store.number? left = some one)
    (counts' : store.number? right = some other) (different : left ≠ right) :
    store.Same left right ↔ one.exact = other.exact ∧ one.exact ≠ .undefined := by
  have exact := (real_of_number counts).1
  have exact' := (real_of_number counts').1
  constructor
  · intro same
    cases same with
    | itself same => exact absurd same different
    | number valued left right =>
      obtain rfl := Option.some.inj (exact.symm.trans left)
      exact ⟨Option.some.inj (right.symm.trans exact'), valued⟩
    | string left right => cases exact.symm.trans (real_of_string left)
  · rintro ⟨same, valued⟩
    exact .number valued exact (same ▸ exact')

theorem iff_of_strings {content content' : String} (spells : store.string? left = some content)
    (spells' : store.string? right = some content') :
    store.Same left right ↔ content = content' := by
  constructor
  · intro same
    cases same with
    | itself same => exact Option.some.inj (spells.symm.trans (same ▸ spells'))
    | number valued left right => cases left.symm.trans (real_of_string spells)
    | string left right =>
      exact Option.some.inj ((spells.symm.trans left).trans (right.symm.trans spells'))
  · rintro rfl
    exact .string spells spells'

theorem not_of_mixed {number : Number} {content : String}
    (counts : store.number? left = some number) (spells : store.string? right = some content) :
    ¬ store.Same left right := by
  intro same
  have exact := (real_of_number counts).1
  cases same with
  | itself same => cases exact.symm.trans (real_of_string (same ▸ spells))
  | number valued left right => cases right.symm.trans (real_of_string spells)
  | string left right => cases exact.symm.trans (real_of_string left)

end Same

theorem Within.same {values' : List Value} (within : store.Within values values')
    (found : ∃ declared ∈ values, store.enumerable declared = true ∧ store.Same declared value) :
    ∃ declared ∈ values', store.enumerable declared = true ∧ store.Same declared value := by
  obtain ⟨declared, among, fits, same⟩ := found
  obtain ⟨twin, among', fits', same'⟩ := within declared among fits
  exact ⟨twin, among', fits', same'.trans same⟩

/-- Numbers and strings are found by what they are. -/
theorem agrees_iff_same (left' : store.enumerable left = true)
    (right' : store.enumerable right = true) :
    store.agrees left right = true ↔ store.Same left right := by
  by_cases different : left = right
  · subst different
    exact iff_of_true (store.agrees_self left) (.itself rfl)
  rcases enumerable_iff.mp left' with ⟨one, counts⟩ | ⟨content, spells⟩
  · rcases enumerable_iff.mp right' with ⟨other, counts'⟩ | ⟨content, spells⟩
    · rw [agrees_of_numbers counts counts' different, Exact.agrees_iff,
        Same.iff_of_numbers counts counts' different]
    · exact iff_of_false (by simp [agrees_of_mixed counts spells]) (Same.not_of_mixed counts spells)
  · rcases enumerable_iff.mp right' with ⟨other, counts⟩ | ⟨content', spells'⟩
    · exact iff_of_false (by simp [agrees_of_mixed counts spells])
        fun same => Same.not_of_mixed counts spells same.symm
    · rw [agrees_of_strings spells spells', decide_eq_true_iff,
        Same.iff_of_strings spells spells']

section Alike

variable {later : Store}

theorem enumerable_of_base (here : later.base value = store.base value) :
    later.enumerable value = store.enumerable value := by
  apply Bool.eq_iff_iff.mpr
  rw [enumerable_iff, enumerable_iff]
  simp only [number?, string?, here]

/-- What two values are used as decides whether they are the same. -/
theorem same_iff_of_base (here : later.base left = store.base left)
    (there : later.base right = store.base right) : later.Same left right ↔ store.Same left right := by
  have real {value : Value} (kept : later.base value = store.base value) :
      later.real? value = store.real? value := by
    cases value <;> simp only [real?, number?, kept]
  have string {value : Value} (kept : later.base value = store.base value) :
      later.string? value = store.string? value := by
    simp only [string?, kept]
  constructor
  · intro same
    cases same with
    | itself same => exact .itself same
    | number valued left right =>
      exact .number valued ((real here).symm.trans left) ((real there).symm.trans right)
    | string left right =>
      exact .string ((string here).symm.trans left) ((string there).symm.trans right)
  · intro same
    cases same with
    | itself same => exact .itself same
    | number valued left right =>
      exact .number valued ((real here).trans left) ((real there).trans right)
    | string left right => exact .string ((string here).trans left) ((string there).trans right)

/-- Numbers and strings agree as before where they are used as before. -/
theorem agrees_of_base (left' : store.enumerable left = true)
    (right' : store.enumerable right = true) (here : later.base left = store.base left)
    (there : later.base right = store.base right) :
    later.agrees left right = store.agrees left right := by
  have later_left : later.enumerable left = true := (enumerable_of_base here).trans left'
  have later_right : later.enumerable right = true := (enumerable_of_base there).trans right'
  apply Bool.eq_iff_iff.mpr
  rw [agrees_iff_same later_left later_right, agrees_iff_same left' right',
    same_iff_of_base here there]

end Alike

/-- An enumeration is drawn from what a source declares, by the values alone but for its name. -/
theorem Declares.eq_of_drawn {drawn : Enumeration} (declares : store.Declares source values)
    (ran : (store.enumerationOf source).outcome = .ok drawn) :
    ∃ name, drawn = ⟨name, store.distinct (values.filter store.enumerable)⟩ := by
  cases declares with
  | mapping found =>
    obtain ⟨shown, -, made⟩ := eq_of_enumerationOf found ran
    exact ⟨shown, made⟩
  | @type owner type found =>
    obtain ⟨rfl, here⟩ := eq_of_enumType found
    have unbuilt : store.enumeration? (.object owner) = none := by
      simp [enumeration?, object?, here]
    simp only [enumerationOf, unbuilt, found] at ran
    exact ⟨type.name, eq_of_enumerate ran⟩

theorem Declares.drawn (declares : store.Declares source values)
    (drawable : store.Drawable source) :
    ∃ name, (store.enumerationOf source).outcome =
      .ok ⟨name, store.distinct (values.filter store.enumerable)⟩ := by
  have enumerates : store.Enumerates source := by
    cases declares with
    | mapping found => exact .inr (.inr (by simp [found]))
    | type found => exact .inr (.inl (by simp [found]))
  obtain ⟨drawn, ran⟩ := enumerationOf_ok enumerates drawable
  obtain ⟨name, rfl⟩ := declares.eq_of_drawn ran
  exact ⟨name, ran⟩

theorem Barred.base (barred : store.Barred value) : store.Barred (store.base value) := by
  cases barred with
  | derived derives barred =>
    obtain ⟨ref, rfl, read⟩ := eq_object_of_object? derives
    simpa [Store.base, member?, derives] using barred
  | null => exact .null
  | undefined => exact .undefined
  | boolean flag => exact .boolean flag
  | decimal written => exact .decimal written
  | complex re im => exact .complex re im
  | wrapped content => exact .wrapped content

theorem Unaltered.same (unaltered : store.Unaltered value)
    (enumerable : store.enumerable value = true) :
    store.enumerable (store.underlying value) = true ∧
      store.Same value (store.underlying value) := by
  cases named : store.member? value with
  | none =>
    have plain : store.underlying value = value := by simp [underlying, named]
    rw [plain]
    exact ⟨enumerable, .itself rfl⟩
  | some member =>
    obtain ⟨kept, valued⟩ := unaltered member named
    have sought : store.underlying value = member.content := by simp [underlying, named, kept]
    rw [sought]
    rcases enumerable_iff.mp enumerable with ⟨number, counts⟩ | ⟨content, spells⟩
    · have content : member.content = .number number :=
        content_of_base named (base_of_number counts) nofun
      rw [content] at valued ⊢
      have compares : number.exact ≠ .undefined := fun unknown => valued (congrArg some unknown)
      exact ⟨rfl, .number compares (real_of_number counts).1 rfl⟩
    · have content' : member.content = .text content :=
        content_of_base named (base_of_string spells) nofun
      rw [content']
      exact ⟨rfl, .string spells rfl⟩

end Store

end Conform
