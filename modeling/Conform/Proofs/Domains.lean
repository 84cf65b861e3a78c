import Conform.Proofs.Coverage
import Conform.Proofs.Membership
import Conform.Proofs.Assembly

/-! The domains of what is read field by field and of what is gone through by entries. All that has
fields has entries. What has entries but no fields is a sequence or a set, and what has neither is
indivisible: it is listed by kind. -/

namespace Conform

namespace Store

variable {store : Store} {value : Value}

/-- A sequence of any form. Strings and what is made of bytes are sequences too. -/
def IsSequence (store : Store) (value : Value) : Prop :=
  (store.sequence? value).isSome ∨ (store.string? value).isSome ∨ (store.bytes? value).isSome

/-- A value that is neither a mapping nor a set nor a sequence, unless of characters or bytes. -/
structure Unshaped (store : Store) (value : Value) : Prop where
  mapping : store.mapping? value = none
  sequence : store.sequence? value = none
  elements : store.elements? value = none

/-- A value that neither has fields nor is gone through by entries. -/
inductive Indivisible (store : Store) : Value → Prop where
  | null : Indivisible store .null
  | undefined : Indivisible store .undefined
  | boolean (flag : Bool) : Indivisible store (.boolean flag)
  | number {value : Value} {number : Number} (counts : store.number? value = some number) :
      Indivisible store value
  | string {value : Value} {content : String} (spells : store.string? value = some content) :
      Indivisible store value
  | bytes {value : Value} {bytes : List UInt8} (made : store.bytes? value = some bytes) :
      Indivisible store value
  | callable {value : Value} (callable : store.callable value = true)
      (unshaped : store.Unshaped value) : Indivisible store value

section Shapes

theorem object?_of_base {atom : Value} (used : store.base value = atom)
    (apart : ∀ ref, atom ≠ .object ref) :
    store.object? value = none ∨ store.object? value = some (.derived atom) := by
  cases value with
  | object ref =>
    right
    cases read : store.read ref with
    | derived content => simpa [object?, read, Store.base, member?] using used
    | _ => exact absurd (by simp [← used, Store.base, member?, object?, read]) (apart ref)
  | _ => exact .inl rfl

theorem unshaped_of_object? {atom : Value} (used : store.base value = atom)
    (unwrapped : ∀ content, atom ≠ .wrapped content)
    (here : store.object? value = none ∨ store.object? value = some (.derived atom)) :
    store.Unshaped value := by
  have sequence : store.sequence? value = none := by
    unfold sequence?
    rw [used]
    cases atom with
    | wrapped content => exact absurd rfl (unwrapped content)
    | _ => rcases here with here | here <;> simp [here]
  rcases here with here | here
  · exact ⟨by simp [mapping?, here], sequence, by simp [elements?, here]⟩
  · exact ⟨by simp [mapping?, here], sequence, by simp [elements?, here, Object.elements?]⟩

theorem unshaped_of_number {number : Number} (counts : store.number? value = some number) :
    store.Unshaped value :=
  have used := base_of_number counts
  unshaped_of_object? used nofun (object?_of_base used nofun)

theorem unshaped_of_string {content : String} (spells : store.string? value = some content) :
    store.Unshaped value :=
  have used := base_of_string spells
  unshaped_of_object? used nofun (object?_of_base used nofun)

theorem unshaped_of_bytes {bytes : List UInt8} (made : store.bytes? value = some bytes) :
    store.Unshaped value := by
  cases value with
  | bytes listed => exact ⟨rfl, rfl, rfl⟩
  | object ref =>
    cases read : store.read ref with
    | byteArray listed =>
      constructor <;>
        simp [mapping?, sequence?, elements?, base, member?, object?, read, Object.elements?]
    | _ => simp [bytes?, object?, read] at made
  | _ => simp [bytes?, object?] at made

theorem Unshaped.entries? (unshaped : store.Unshaped value)
    (fieldless : store.hasFields value = false) : store.entries? value = none := by
  simp [Store.entries?, unshaped.mapping, unshaped.sequence, unshaped.elements, fieldless]

theorem hasFields_of_kind (noMapping : store.mapping? value = none)
    (kind : store.kind value ≠ .object) : store.hasFields value = false := by
  simp [hasFields, noMapping, kind]

theorem kind_of_number {number : Number} (counts : store.number? value = some number) :
    store.kind value = .number := by
  unfold kind
  split
  · cases counts
  · cases counts
  · simp [counts]

theorem kind_of_callable (callable : store.callable value = true) :
    store.kind value ≠ .object := by
  cases value with
  | builtin type => simp [kind, callable]; split <;> [skip; split] <;> simp
  | object ref => simp [kind, callable]; split <;> [skip; split] <;> simp
  | _ => cases callable

end Shapes

section Domains

theorem exists_entries (readable : store.hasFields value = true) :
    ∃ entries, store.entries? value = some entries := by
  cases found : store.mapping? value with
  | some entries => exact ⟨.complete entries, by simp [Store.entries?, found]⟩
  | none => exact ⟨store.ownFields value, entries?_of_hasFields found readable⟩

/-- What is rejected for an entry is rejected under the place of the entry. -/
theorem rejectEntry_at {key : Value} {reason whole : String}
    (rejected : (store.rejectEntry key reason).outcome = .ok (.rejected whole)) :
    ∃ place, whole = "[" ++ place ++ "] " ++ reason := by
  cases keyed : store.text key with
  | error fault => simp [rejectEntry, keyed] at rejected
  | ok place =>
    rw [(rejectEntry_of_text keyed reason).1] at rejected
    exact ⟨place, by simpa using rejected.symm⟩

/-- One entry after the other: every rejection is one under a place. -/
theorem judgeEach_rejects_at {expected : Expectation} {check : Check} {fault? : Option Fault}
    {entries : List (Value × Value)} {whole : String}
    (rejected : (store.judgeEach expected check fault? entries).outcome = .ok (.rejected whole)) :
    ∃ place reason, whole = "[" ++ place ++ "] " ++ reason := by
  induction entries with
  | nil => cases fault? <;> simp [judgeEach] at rejected
  | cons entry rest inductionHypothesis =>
    obtain ⟨key, item⟩ := entry
    rw [judgeEach, Run.outcome_bind] at rejected
    obtain ⟨verdict, -, rejected⟩ := ok_of_bind_ok rejected
    cases verdict with
    | accepted => exact inductionHypothesis rejected
    | rejected reason =>
      obtain ⟨place, written⟩ := rejectEntry_at rejected
      exact ⟨place, reason, written⟩

theorem entries?_of_refused {descriptor check : Value}
    (refused : (store.judgeContainer value descriptor check).outcome =
      .ok (.rejected "is not iterables type")) : store.entries? value = none := by
  rw [judgeContainer, Run.outcome_bind] at refused
  obtain ⟨expected, -, refused⟩ := ok_of_bind_ok refused
  rw [judgeEntries, Run.outcome_bind] at refused
  obtain ⟨form, -, refused⟩ := ok_of_bind_ok refused
  rw [Run.outcome_bind] at refused
  obtain ⟨-, -, refused⟩ := ok_of_bind_ok refused
  cases shape : store.entries? value with
  | none => rfl
  | some entries =>
    simp only [shape, Run.outcome_bind] at refused
    obtain ⟨resolved, -, refused⟩ := ok_of_bind_ok refused
    rw [judgeAll_eq] at refused
    obtain ⟨place, reason, whole⟩ := judgeEach_rejects_at refused
    have opened := congrArg (fun content => content.toList.head?) whole
    simp at opened

theorem hasFields_of_taken {rules guard creator : Value}
    (taken : (store.judgeFields value rules).outcome ≠ .ok (.rejected "is not object") ∨
      (Action.assemble value guard creator store).1.outcome ≠
        .error (store.nonconforming (.text "create_dictionary(): source is not object"))) :
    store.hasFields value = true := by
  by_contra shapeless
  have shapeless : store.hasFields value = false := by simpa using shapeless
  rcases taken with taken | taken
  · exact taken (by rw [judgeFields_of_shapeless rules shapeless])
  · exact taken (assemble_of_shapeless guard creator shapeless).outcome

/-- What has entries and no fields is a sequence or a set, and neither a mapping nor made of
characters or bytes. -/
theorem fieldless_container_iff :
    ((store.entries? value).isSome ∧ store.hasFields value = false) ↔
      store.mapping? value = none ∧
        (store.IsSequence value ∨ (store.elements? value).isSome) ∧
        store.string? value = none ∧ store.bytes? value = none := by
  constructor
  · intro ⟨divided, fieldless⟩
    have noMapping : store.mapping? value = none := by
      cases found : store.mapping? value with
      | none => rfl
      | some entries => simp [hasFields_of_mapping found] at fieldless
    have shaped : ¬ store.Unshaped value := by
      intro unshaped
      simp [unshaped.entries? fieldless] at divided
    refine ⟨noMapping, ?_, ?_, ?_⟩
    · by_contra neither
      obtain ⟨noSequence, noSet⟩ := not_or.mp neither
      exact shaped ⟨noMapping, by simpa using fun found => noSequence (.inl found),
        by simpa using noSet⟩
    · cases spells : store.string? value with
      | none => rfl
      | some content => exact absurd (unshaped_of_string spells) shaped
    · cases made : store.bytes? value with
      | none => rfl
      | some bytes => exact absurd (unshaped_of_bytes made) shaped
  · intro ⟨noMapping, form, noString, noBytes⟩
    have form : (store.sequence? value).isSome ∨ (store.elements? value).isSome := by
      simpa [IsSequence, noString, noBytes] using form
    rcases form with sequence | set
    · obtain ⟨series, found⟩ := Option.isSome_iff_exists.mp sequence
      exact ⟨by simp [entries?_of_sequence? found], by simp [hasFields, noMapping, found]⟩
    · obtain ⟨items, found⟩ := Option.isSome_iff_exists.mp set
      exact ⟨by simp [entries?_of_elements? found], by simp [hasFields, noMapping, found]⟩

theorem Indivisible.unshaped (indivisible : store.Indivisible value) : store.Unshaped value := by
  cases indivisible with
  | null => exact ⟨rfl, rfl, rfl⟩
  | undefined => exact ⟨rfl, rfl, rfl⟩
  | boolean flag => exact ⟨rfl, rfl, rfl⟩
  | number counts => exact unshaped_of_number counts
  | string spells => exact unshaped_of_string spells
  | bytes made => exact unshaped_of_bytes made
  | callable callable unshaped => exact unshaped

theorem Indivisible.hasFields (indivisible : store.Indivisible value) :
    store.hasFields value = false := by
  have noMapping := indivisible.unshaped.mapping
  cases indivisible with
  | null => rfl
  | undefined => rfl
  | boolean flag => rfl
  | number counts => exact hasFields_of_kind noMapping (by simp [kind_of_number counts])
  | string spells => exact hasFields_of_kind noMapping (by simp [kind_of_string spells])
  | bytes made => simp [Store.hasFields, noMapping, made]
  | callable callable unshaped => exact hasFields_of_kind noMapping (kind_of_callable callable)

/-- What is of another kind than object, or the null value, is indivisible unless it is shaped. -/
theorem indivisible_of_kind (unshaped : store.Unshaped value)
    (other : value = .null ∨ store.kind value ≠ .object) : store.Indivisible value := by
  rcases other with rfl | kind
  · exact .null
  · unfold Store.kind at kind
    split at kind
    · exact .undefined
    · exact .boolean _
    · split at kind
      · rename_i counts
        obtain ⟨number, counts⟩ := Option.isSome_iff_exists.mp counts
        exact .number counts
      · split at kind
        · rename_i spells
          obtain ⟨content, spells⟩ := Option.isSome_iff_exists.mp spells
          exact .string spells
        · split at kind
          · rename_i callable
            exact .callable callable unshaped
          · exact absurd rfl kind

theorem indivisible_iff :
    (store.hasFields value = false ∧ store.entries? value = none) ↔ store.Indivisible value := by
  constructor
  · intro ⟨fieldless, undivided⟩
    have unshaped : store.Unshaped value := by
      constructor
      · cases found : store.mapping? value with
        | none => rfl
        | some entries => simp [hasFields_of_mapping found] at fieldless
      · cases found : store.sequence? value with
        | none => rfl
        | some series => simp [entries?_of_sequence? found] at undivided
      · cases found : store.elements? value with
        | none => rfl
        | some items => simp [entries?_of_elements? found] at undivided
    cases made : store.bytes? value with
    | some bytes => exact .bytes made
    | none =>
      have other : value = .null ∨ store.kind value ≠ .object := by
        by_contra whole
        obtain ⟨present, kind⟩ := not_or.mp whole
        have kind : store.kind value = .object := by simpa using kind
        simp [Store.hasFields, unshaped.mapping, unshaped.sequence, unshaped.elements, made, kind,
          present] at fieldless
      exact indivisible_of_kind unshaped other
  · intro indivisible
    exact ⟨indivisible.hasFields, indivisible.unshaped.entries? indivisible.hasFields⟩

theorem hasFields_of_unordered
    (unordered : (∃ written, value = .decimal written) ∨ ∃ re im, value = .complex re im) :
    store.hasFields value = true := by
  rcases unordered with ⟨written, rfl⟩ | ⟨re, im, rfl⟩ <;> rfl

/-- The domains of the container functions nest. Whatever has fields has entries, so what is taken
for an object, by the rules for its fields or by an assembly, is never refused as no container. What
has entries but no fields is a sequence or a set that is no mapping and not made of characters or
bytes. What has neither is null, undefined, a truth value, of kind number or string, made of bytes,
or can be called and is neither a mapping nor a sequence nor a set. Decimal and complex numbers are
of kind object and have fields. -/
theorem domains_nest (store : Store) (value : Value) :
    (store.hasFields value = true → ∃ entries, store.entries? value = some entries) ∧
    (∀ rules guard creator,
      ((store.judgeFields value rules).outcome ≠ .ok (.rejected "is not object") ∨
        (Action.assemble value guard creator store).1.outcome ≠
          .error (store.nonconforming (.text "create_dictionary(): source is not object"))) →
      ∀ descriptor check, (store.judgeContainer value descriptor check).outcome ≠
        .ok (.rejected "is not iterables type")) ∧
    ((store.entries? value).isSome ∧ store.hasFields value = false ↔
      store.mapping? value = none ∧
        (store.IsSequence value ∨ (store.elements? value).isSome) ∧
        store.string? value = none ∧ store.bytes? value = none) ∧
    (store.hasFields value = false ∧ store.entries? value = none ↔ store.Indivisible value) ∧
    ((∃ written, value = .decimal written) ∨ (∃ re im, value = .complex re im) →
      store.hasFields value = true) := by
  refine ⟨exists_entries, ?_, fieldless_container_iff, indivisible_iff, hasFields_of_unordered⟩
  intro rules guard creator taken descriptor check refused
  obtain ⟨entries, shape⟩ := exists_entries (hasFields_of_taken taken)
  simp [entries?_of_refused refused] at shape

/-- A mapping that can be called has fields and entries, and is never refused as no container. A
sequence that can be called has entries only, and an object that can be called has neither. -/
theorem callables_by_domain :
    let store : Store := { Store.initial with cells := #[.mapping (.custom true) [],
      .sequence (.custom true) [.null], .plain ⟨"F", .empty, [], [], true⟩] }
    (∃ entries, store.entries? (.object ⟨0⟩) = some entries) ∧
      (store.judgeContainer (.object ⟨0⟩) (.text "number") .null).outcome ≠
        .ok (.rejected "is not iterables type") ∧
      ((store.entries? (.object ⟨1⟩)).isSome ∧ store.hasFields (.object ⟨1⟩) = false) ∧
      store.hasFields (.object ⟨2⟩) = false ∧ store.entries? (.object ⟨2⟩) = none := by
  intro store
  have unshaped : store.Unshaped (.object ⟨2⟩) := ⟨rfl, rfl, rfl⟩
  refine ⟨?_, ?_, ?_, ?_⟩
  · exact (domains_nest store (.object ⟨0⟩)).1 rfl
  · exact (domains_nest store (.object ⟨0⟩)).2.1 (.object ⟨0⟩) .null .null (.inl nofun)
      (.text "number") .null
  · exact (domains_nest store (.object ⟨1⟩)).2.2.1.mpr ⟨rfl, .inl (.inl rfl), rfl, rfl⟩
  · exact (domains_nest store (.object ⟨2⟩)).2.2.2.1.mpr (.callable rfl unshaped)

/-- The decimal number 1.5 and the complex number 1 have fields and entries, of which there are
none. -/
theorem unordered_numbers_have_entries :
    let decimal := Value.decimal (.finite ⟨false, 15, -1⟩)
    let complex := Value.complex (.finite false 1 0) (.finite false 0 0)
    (Store.initial.hasFields decimal = true ∧
        Store.initial.entries? decimal = some (.complete [])) ∧
      Store.initial.hasFields complex = true ∧
        Store.initial.entries? complex = some (.complete []) :=
  ⟨⟨rfl, rfl⟩, rfl, rfl⟩

end Domains

end Store

end Conform
