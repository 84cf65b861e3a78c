import Conform.Check
import Conform.Proofs.Contents
import Conform.Proofs.Forms

namespace Conform

/-- The values that a check is made of. -/
def Check.parts : Check → List Value
  | .byKind => []
  | .predicate test => [test]
  | .enumeration drawn => drawn.values

namespace Store

/-- A value that an enumeration can be drawn from: one that is built already, an
enumerated type, or a mapping. -/
def Enumerates (store : Store) (source : Value) : Prop :=
  (store.enumeration? source).isSome = true ∨ (store.enumType? source).isSome = true ∨
    (store.mapping? source).isSome = true

/-- A value that stands for a check: null, a check that is built already, an enumerated
type, a mapping, or anything that can be called. -/
def Supports (store : Store) (source : Value) : Prop :=
  source = .null ∨ (store.check? source).isSome = true ∨
    (store.enumType? source).isSome = true ∨ (store.mapping? source).isSome = true ∨
    store.callable source = true

instance (store : Store) (source : Value) : Decidable (store.Enumerates source) :=
  inferInstanceAs (Decidable (_ ∨ _))

instance (store : Store) (source : Value) : Decidable (store.Supports source) :=
  inferInstanceAs (Decidable (_ ∨ _))

/-- The values that an enumeration drawn from a value is made of. One that is built already is not
drawn anew. -/
def drawnValues (store : Store) (source : Value) : List Value :=
  match store.enumType? source, store.mapping? source with
  | some (owner, type), _ => store.memberValues owner type
  | none, some entries => entries.map Prod.snd
  | none, none => []

/-- What is written when an enumeration is drawn from a value has a text: the keys of a mapping, and
the numbers and strings among the values. -/
structure Drawable (store : Store) (source : Value) : Prop where
  keys : ∀ entries, store.mapping? source = some entries →
    ∀ entry ∈ entries, ∃ shown, store.text entry.1 = .ok shown
  values : ∀ value ∈ store.drawnValues source, store.enumerable value = true →
    ∃ shown, store.text value = .ok shown

variable {store : Store} {source value : Value} {entries : List (Value × Value)}

theorem eq_of_enumType {owner : Ref} {type : EnumType}
    (found : store.enumType? source = some (owner, type)) :
    source = .object owner ∧ store.read owner = .enumType type := by
  cases source with
  | object ref =>
    cases here : store.read ref <;> simp [enumType?, object?, here] at found
    obtain ⟨rfl, rfl⟩ := found
    exact ⟨rfl, here⟩
  | _ => simp [enumType?] at found

theorem reaches_memberValue {owner : Ref} {type : EnumType}
    (here : store.read owner = .enumType type) (member : value ∈ store.memberValues owner type) :
    store.Reaches (.object owner) value := by
  obtain ⟨index, inside, known⟩ := List.mem_filterMap.mp member
  obtain ⟨found, looked, rfl⟩ := Option.map_eq_some_iff.mp known
  exact .part (mem_parts_of_type here (List.mem_range.mp inside))
    (.part (mem_parts_of_member looked) .self)

theorem reaches_drawnValue (member : value ∈ store.drawnValues source) :
    store.Reaches source value := by
  unfold drawnValues at member
  split at member
  · rename_i owner type _ found
    obtain ⟨rfl, here⟩ := eq_of_enumType found
    exact reaches_memberValue here member
  · rename_i entries _ found
    obtain ⟨entry, inside, rfl⟩ := List.mem_map.mp member
    exact .part (mem_parts_of_mapping found entry inside).2 .self
  · simp at member

theorem Sound.drawable (sound : store.Sound source) : store.Drawable source where
  keys _ found entry member := (sound.mapping found entry member).1.text
  values _ member _ := (sound.reached (reaches_drawnValue member)).text

theorem mem_of_mem_distinct {values : List Value} (member : value ∈ store.distinct values) :
    value ∈ values := by
  have kept (kept : List Value) (rest : List Value)
      (found : value ∈ rest.foldl (fun kept value =>
        if kept.any fun other => store.agrees other value then kept else kept ++ [value]) kept) :
      value ∈ kept ∨ value ∈ rest := by
    induction rest generalizing kept with
    | nil => exact Or.inl found
    | cons next rest inductionHypothesis =>
      simp only [List.foldl_cons] at found
      rcases inductionHypothesis _ found with before | after
      · split at before
        · exact Or.inl before
        · rcases List.mem_append.mp before with earlier | last
          · exact Or.inl earlier
          · exact Or.inr (List.mem_cons.mpr (Or.inl (List.mem_singleton.mp last)))
      · exact Or.inr (List.mem_cons_of_mem next after)
  simpa using kept [] values member

theorem kind_of_string {content : String} (string : store.string? value = some content) :
    store.kind value = .string := by
  have noNumber : store.number? value = none := by simp [number?, base_of_string string]
  unfold kind
  split
  · cases string
  · cases string
  · simp [noNumber, string]

theorem text_of_string {content : String} (string : store.string? value = some content) :
    ∃ shown, store.text value = .ok shown := by
  have used := base_of_string string
  cases value with
  | text known => exact ⟨known, rfl⟩
  | member owner index =>
    simp only [Store.text]
    split
    · rename_i known
      simp [Store.base, known] at used
    all_goals exact ⟨_, rfl⟩
  | object ref =>
    cases here : store.read ref with
    | derived base =>
      obtain rfl : base = .text content := by simpa [Store.base, member?, object?, here] using used
      exact ⟨content, by simp [Store.text, here]⟩
    | _ => simp [Store.base, member?, object?, here] at used
  | _ => simp [Store.base, member?, object?] at used

theorem content_of_string {content : String} (string : store.string? value = some content) :
    store.content? value = some content := by
  simp [content?, base_of_string string]

theorem enumerate_ok (name : String) {values : List Value}
    (each : ∀ value ∈ values, store.enumerable value = true →
      ∃ shown, store.text value = .ok shown) :
    ∃ enumeration, (store.enumerate name values).outcome = .ok enumeration := by
  obtain ⟨texts, written⟩ := mapM_ok_of_each store.text
    fun value (member : value ∈ store.distinct (values.filter store.enumerable)) => by
      obtain ⟨inside, enumerable⟩ := List.mem_filter.mp (mem_of_mem_distinct member)
      exact each value inside enumerable
  exact ⟨⟨name, store.distinct (values.filter store.enumerable)⟩, by
    simp [Store.enumerate, written]⟩

theorem calls_enumerate (name : String) (values : List Value) :
    (store.enumerate name values).calls = [] :=
  Run.calls_bind_of_silent _ fun _ => rfl

theorem mappingName_ok {entries : List (Value × Value)}
    (each : ∀ entry ∈ entries, ∃ shown, store.text entry.1 = .ok shown) :
    ∃ name, store.mappingName entries = .ok name := by
  obtain ⟨keys, written⟩ := mapM_ok_of_each (fun entry : Value × Value =>
    store.text entry.1) each
  exact ⟨"enum \x7b" ++ listed keys ++ "\x7d", by simp [mappingName, written]⟩

theorem enumerationOf_ok (enumerates : store.Enumerates source)
    (drawable : store.Drawable source) :
    ∃ enumeration, (store.enumerationOf source).outcome = .ok enumeration := by
  unfold enumerationOf
  split
  · exact ⟨_, rfl⟩
  · rename_i owner type _ _ found
    exact enumerate_ok _ fun value member => drawable.values value (by simpa [drawnValues, found])
  · rename_i entries _ untyped found
    obtain ⟨name, written⟩ := mappingName_ok (drawable.keys entries found)
    obtain ⟨enumeration, drawn⟩ : ∃ enumeration,
        (store.enumerate name (entries.map Prod.snd)).outcome = .ok enumeration :=
      enumerate_ok name fun value member =>
        drawable.values value (by simpa [drawnValues, untyped, found] using member)
    exact ⟨enumeration, by simp [written, drawn]⟩
  · rename_i built type mapping
    simp [Enumerates, built, type, mapping] at enumerates

theorem enumerationOf_of_not_enumerates (other : ¬ store.Enumerates source) :
    store.enumerationOf source =
      Run.fail (.invalidCheck (.notEnumerable (store.typeName source))) := by
  simp only [Enumerates, not_or, Bool.not_eq_true, Option.isSome_eq_false_iff,
    Option.isNone_iff_eq_none] at other
  obtain ⟨built, type, mapping⟩ := other
  simp [enumerationOf, built, type, mapping]

theorem calls_enumerationOf (source : Value) : (store.enumerationOf source).calls = [] := by
  unfold enumerationOf
  split
  · rfl
  · exact calls_enumerate _ _
  · exact Run.calls_bind_of_silent _ fun _ => calls_enumerate _ _
  · rfl

theorem checkOf_of_unsupported (other : ¬ store.Supports source) :
    store.checkOf source = Run.fail (.invalidCheck (.unsupported (store.typeName source))) := by
  simp only [Supports, not_or, Bool.not_eq_true, Option.isSome_eq_false_iff,
    Option.isNone_iff_eq_none] at other
  obtain ⟨present, built, type, mapping, inert⟩ := other
  simp [checkOf, present, built, type, mapping, inert]

theorem checkOf_ok (supported : store.Supports source) (drawable : store.Drawable source) :
    ∃ check, (store.checkOf source).outcome = .ok check := by
  unfold checkOf
  by_cases absent : source = .null
  · exact ⟨.byKind, by simp [absent]⟩
  · rw [if_neg absent]
    split
    · rename_i check _
      exact ⟨check, rfl⟩
    · rename_i built
      split
      · rename_i drawn
        have enumerates : store.Enumerates source := by
          rcases Bool.or_eq_true_iff.mp drawn with type | mapping
          · exact Or.inr (Or.inl type)
          · exact Or.inr (Or.inr mapping)
        obtain ⟨enumeration, known⟩ := enumerationOf_ok enumerates drawable
        exact ⟨.enumeration enumeration, by simp [known]⟩
      · rename_i undrawn
        rw [Bool.not_eq_true, Bool.or_eq_false_iff] at undrawn
        have callable : store.callable source = true := by
          simpa [Supports, absent, built, undrawn.1, undrawn.2] using supported
        exact ⟨.predicate source, by simp [callable]⟩

theorem calls_checkOf (source : Value) : (store.checkOf source).calls = [] := by
  unfold checkOf
  split
  · rfl
  · split
    · rfl
    · split
      · exact (Run.calls_bind_of_silent _ fun _ => rfl).trans (calls_enumerationOf source)
      · split <;> rfl

theorem check?_of_mapping (mapping : store.mapping? source = some entries) :
    store.check? source = none ∧ store.enumeration? source = none ∧
      store.enumType? source = none := by
  obtain ⟨ref, form, rfl, read⟩ := exists_of_mapping mapping
  simp [check?, enumeration?, enumType?, object?, read]

/-- An enumeration is drawn from a mapping by its entries alone. -/
theorem enumerationOf_of_mapping (mapping : store.mapping? source = some entries) :
    store.enumerationOf source = (do
      let name ← Run.ofExcept (store.mappingName entries)
      store.enumerate name (entries.map Prod.snd)) := by
  obtain ⟨-, unbuilt, untyped⟩ := check?_of_mapping mapping
  simp only [enumerationOf, unbuilt, untyped, mapping]

theorem checkOf_of_mapping (mapping : store.mapping? source = some entries) :
    store.checkOf source = (do return .enumeration (← store.enumerationOf source)) := by
  obtain ⟨unchecked, -, -⟩ := check?_of_mapping mapping
  have present : source ≠ .null := by
    rintro rfl
    cases mapping
  simp [Store.checkOf, unchecked, present, mapping]

theorem eq_of_enumerate {drawn : Enumeration} {shown : String} {values : List Value}
    (made : (store.enumerate shown values).outcome = .ok drawn) :
    drawn = ⟨shown, store.distinct (values.filter store.enumerable)⟩ := by
  simp only [enumerate, Run.outcome_bind, Run.outcome_ofExcept, Run.outcome_debug, ok_bind,
    Run.outcome_pure] at made
  obtain ⟨texts, -, made⟩ := ok_of_bind_ok made
  exact (Except.ok.inj made).symm

/-- An enumeration drawn from a mapping has the numbers and strings among the values that the
mapping has at that moment. -/
theorem eq_of_enumerationOf {drawn : Enumeration} (mapping : store.mapping? source = some entries)
    (ran : (store.enumerationOf source).outcome = .ok drawn) :
    ∃ shown, store.mappingName entries = .ok shown ∧
      drawn = ⟨shown, store.distinct ((entries.map Prod.snd).filter store.enumerable)⟩ := by
  rw [enumerationOf_of_mapping mapping, Run.outcome_bind] at ran
  obtain ⟨shown, titled, made⟩ := ok_of_bind_ok ran
  exact ⟨shown, titled, eq_of_enumerate made⟩

theorem reaches_of_enumeration? {drawn : Enumeration}
    (built : store.enumeration? source = some drawn) (member : value ∈ drawn.values) :
    store.Reaches source value := by
  unfold enumeration? at built
  split at built
  · rename_i name values here
    cases built
    have listed : values ∈ store.parts source := mem_parts_of_object here (by simp [Object.parts])
    cases found : store.elements? values with
    | none => simp [found] at member
    | some items =>
      exact .part listed (.part (mem_parts_of_elements found value (by simpa [found] using member))
        .self)
  · cases built

theorem reaches_of_enumerationOf {drawn : Enumeration}
    (ran : (store.enumerationOf source).outcome = .ok drawn) (member : value ∈ drawn.values) :
    store.Reaches source value := by
  have among {shown : String} {values : List Value}
      (made : (store.enumerate shown values).outcome = .ok drawn) : value ∈ values := by
    rw [eq_of_enumerate made] at member
    exact (List.mem_filter.mp (mem_of_mem_distinct member)).1
  unfold enumerationOf at ran
  split at ran
  · rename_i built
    cases ran
    exact reaches_of_enumeration? built member
  · rename_i owner type _ found
    obtain ⟨rfl, here⟩ := eq_of_enumType found
    exact reaches_memberValue here (among ran)
  · rename_i entries _ _ found
    rw [Run.outcome_bind] at ran
    obtain ⟨shown, -, made⟩ := ok_of_bind_ok ran
    obtain ⟨entry, inside, rfl⟩ := List.mem_map.mp (among made)
    exact .part (mem_parts_of_mapping found entry inside).2 .self
  · cases ran

/-- What a check is made of is inside the value that it is drawn from. -/
theorem reaches_of_checkOf {check : Check} (ran : (store.checkOf source).outcome = .ok check)
    (member : value ∈ check.parts) : store.Reaches source value := by
  unfold checkOf at ran
  split at ran
  · cases ran
    simp [Check.parts] at member
  · split at ran
    · rename_i built
      cases ran
      unfold check? at built
      split at built
      · cases built
        simp [Check.parts] at member
      · rename_i test here
        cases built
        rw [List.mem_singleton.mp member]
        exact .part (mem_parts_of_object here (by simp [Object.parts])) .self
      · obtain ⟨drawn, known, rfl⟩ := Option.map_eq_some_iff.mp built
        exact reaches_of_enumeration? known member
    · split at ran
      · rw [Run.outcome_bind] at ran
        obtain ⟨drawn, made, known⟩ := ok_of_bind_ok ran
        cases known
        exact reaches_of_enumerationOf made member
      · split at ran
        · cases ran
          rw [List.mem_singleton.mp member]
          exact .self
        · cases ran

end Store

end Conform
