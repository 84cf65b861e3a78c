import Conform.Assembly
import Conform.Proofs.OwnFields

/-! The mapping that is assembled from a value field by field, with a guard that lets everything
pass and a creator that changes nothing. It has the fields of the value in their order, and is
judged as the value is: entry by entry, by the rules for its fields, and when a mapping is
assembled from it again. -/

namespace Conform

namespace Store

/-- A guard that lets every value pass, now and when more objects have come. -/
def Lenient (store : Store) (guard : Value) : Prop :=
  ∀ later, store.Grows later → ∀ value, (later.passes guard value).outcome = .ok true

/-- A creator, which has to count as true, that answers every value by that value. -/
def Faithful (store : Store) (creator : Value) : Prop :=
  ∀ later, store.Grows later → later.truth creator = .ok true ∧
    ∀ value, (later.call creator value).outcome = .ok (.value value)

variable {store later : Store} {value guard creator name key : Value} {content : String}
  {items finished : List (Value × Value)}

theorem Lenient.grown (lenient : store.Lenient guard) (grows : store.Grows later) :
    later.Lenient guard := fun last more => lenient last (grows.trans more)

theorem Faithful.grown (faithful : store.Faithful creator) (grows : store.Grows later) :
    later.Faithful creator := fun last more => faithful last (grows.trans more)

theorem remade_settles (faithful : store.Faithful creator) (value : Value) :
    (Action.remade creator value).Settles store value store := by
  obtain ⟨counted, answered⟩ := faithful store (.refl store)
  unfold Action.remade
  apply Action.Settles.bind Action.settles_store
  apply Action.Settles.bind (Action.settles_ofExcept counted)
  apply Action.Settles.bind (Action.settles_reading (answered value))
  exact Action.settles_pure value

theorem demandGuard_of_passed (key : Value)
    (passed : (store.passes guard value).outcome = .ok true) :
    (store.demandGuard guard key value).outcome = .ok () := by
  simp [demandGuard, passed]

theorem demandGuard_of_lenient (lenient : store.Lenient guard) (key value : Value) :
    (store.demandGuard guard key value).outcome = .ok () :=
  demandGuard_of_passed key (lenient store (.refl store) value)

/-- The whole assembly, by induction over the entries that are left: each step adds one at the
end of those that are done, since no key is taken for an earlier one. -/
theorem assembleEach_settles (lenient : store.Lenient guard) (faithful : store.Faithful creator)
    (hashable : ∀ entry ∈ items, store.hashable entry.1 = true)
    (distinct : (finished ++ items).Pairwise fun one other =>
      store.agrees one.1 other.1 = false) :
    (Action.assembleEach guard creator none finished items).Settles store (finished ++ items)
      store := by
  induction items generalizing finished with
  | nil =>
    rw [List.append_nil]
    exact Action.settles_pure finished
  | cons entry rest inductionHypothesis =>
    obtain ⟨key, value⟩ := entry
    obtain ⟨first, others⟩ := List.forall_mem_cons.mp hashable
    have absent : ∀ earlier ∈ finished, store.agrees earlier.1 key = false :=
      fun earlier member => (List.pairwise_append.mp distinct).2.2 earlier member _ List.mem_cons_self
    have allowed : store.requireHashable key = .ok () := by simp [requireHashable, first]
    have appended : finished ++ (key, value) :: rest = store.put finished key value ++ rest := by
      rw [put_of_absent absent, List.append_assoc]
      rfl
    rw [appended] at distinct ⊢
    unfold Action.assembleEach
    apply Action.Settles.bind (Action.settles_reading (demandGuard_of_lenient lenient key value))
    apply Action.Settles.bind (remade_settles faithful value)
    apply Action.Settles.bind Action.settles_store
    apply Action.Settles.bind (Action.settles_ofExcept allowed)
    exact inductionHypothesis others distinct

/-- A value whose fields can be read and have distinct keys is assembled into a mapping of these
fields. -/
theorem assemble_settles (readable : store.hasFields value = true)
    (unbroken : (store.ownFields value).fault? = none)
    (hashable : ∀ entry ∈ (store.ownFields value).items, store.hashable entry.1 = true)
    (distinct : (store.ownFields value).items.Pairwise fun one other =>
      store.agrees one.1 other.1 = false)
    (lenient : store.Lenient guard) (faithful : store.Faithful creator) :
    (Action.assemble value guard creator).Settles store (.object store.next)
      (store.alloc (.mapping .plain (store.ownFields value).items)) := by
  have assembled : (Action.assembleEach guard creator none [] (store.ownFields value).items).Settles
      store (store.ownFields value).items store :=
    assembleEach_settles lenient faithful hashable distinct
  unfold Action.assemble
  apply Action.Settles.bind Action.settles_store
  simp only [readable, if_true, unbroken]
  apply Action.Settles.bind assembled
  exact Action.settles_alloc _

theorem mapping?_alloc_next (store : Store) (form : MappingForm) :
    (store.alloc (.mapping form items)).mapping? (.object store.next) = some items := by
  simp only [mapping?, object?, read_alloc_next]

/-- A value stays regular when it is not the new mapping itself. -/
theorem Regular.alloc_mapping {form : MappingForm} (regular : store.Regular value)
    (present : value ≠ .object store.next) :
    (store.alloc (.mapping form items)).Regular value := by
  have alike : store.AlikeAt (store.alloc (.mapping form items)) value := alikeAt_alloc present
  have orderly {attributes : Attributes} (orderly : store.Orderly attributes) :
      (store.alloc (.mapping form items)).Orderly attributes := by
    refine ⟨orderly.distinct, fun name spelling found => ?_⟩
    rw [string?_alloc_mapping]
    exact orderly.spelled name spelling found
  constructor
  · intro entries mapping last grows
    rw [alike.mapping?] at mapping
    exact regular.keys entries mapping last ((grows_alloc store _).trans grows)
  · intro object names here declares
    rw [alike.object] at here
    exact regular.declared object names here declares
  · intro whole here
    rw [alike.object] at here
    exact ⟨orderly (regular.plain whole here).1, (regular.plain whole here).2⟩
  · intro own here
    rw [alike.object] at here
    exact orderly (regular.table own here)
  · rw [alike.allAttributes]
    exact orderly regular.attached
  · intro field member
    rw [alike.attributes] at member
    rw [← regular.attachable field member]
    cases value with
    | object ref => simp only [Store.attachable, alike.read rfl]
    | _ => rfl

theorem judgeContainer_congr {left right : Value} {leftEntries rightEntries : Entries}
    (leftWritten : ∃ shown, store.form left = .ok shown)
    (rightWritten : ∃ shown, store.form right = .ok shown)
    (leftShape : store.entries? left = some leftEntries)
    (rightShape : store.entries? right = some rightEntries)
    (items : leftEntries.items = rightEntries.items)
    (faults : leftEntries.fault? = rightEntries.fault?)
    (descriptor source : Value) :
    (store.judgeContainer left descriptor source).outcome =
        (store.judgeContainer right descriptor source).outcome ∧
      (store.judgeContainer left descriptor source).calls =
        (store.judgeContainer right descriptor source).calls := by
  obtain ⟨leftForm, leftWritten⟩ := leftWritten
  obtain ⟨rightForm, rightWritten⟩ := rightWritten
  unfold judgeContainer
  cases named : store.expectation descriptor with
  | error fault => exact ⟨rfl, rfl⟩
  | ok expected =>
    simp only [Run.ofExcept_ok, pure_bind, judgeEntries, leftWritten, rightWritten, leftShape,
      rightShape, judgeAll_eq, items, faults, Run.outcome_bind, Run.outcome_debug, ok_bind,
      Run.calls_debug_bind, and_self]

/-- The mapping assembled from a value by a guard that lets everything pass and a creator that
changes nothing is read like the value, in each of the three ways. It has the own fields of the
value, in order, and each of them is what the value answers under its name. As a container it is
judged with the same outcome, the place of a failure included, and the same calls, whatever the
descriptor and the check, where both can be written. By rules for its own names it is judged alike
field by field; only a mapping can be asked for names that are no strings. And from it the same
mapping is assembled again. -/
theorem assembled_reads_alike (whole : store.complete value = true) (regular : store.Regular value)
    (present : value ≠ .object store.next) (readable : store.hasFields value = true)
    (lenient : store.Lenient guard) (faithful : store.Faithful creator) :
    ∃ made later, (Action.assemble value guard creator).Settles store made later ∧
      later.mapping? made = some (store.ownFields value).items ∧
      later.entries? value = some (store.ownFields value) ∧
      (∀ entry ∈ (store.ownFields value).items, later.field value entry.1 = .ok entry.2) ∧
      ((∃ shown, later.form value = .ok shown) → (∃ shown, later.form made = .ok shown) →
        ∀ descriptor source,
        (later.judgeContainer value descriptor source).outcome =
            (later.judgeContainer made descriptor source).outcome ∧
          (later.judgeContainer value descriptor source).calls =
            (later.judgeContainer made descriptor source).calls) ∧
      (∀ rules entries, later.mapping? rules = some entries →
        (∀ rule ∈ entries, (later.find? (store.ownFields value).items rule.1).isSome = true ∧
          ((store.mapping? value).isSome = true ∨ (later.string? rule.1).isSome = true)) →
        later.judgeFields value rules = later.judgeFields made rules) ∧
      ∃ again last, (Action.assemble made guard creator).Settles later again last ∧
        last.mapping? again = some (store.ownFields value).items := by
  let items := (store.ownFields value).items
  let later := store.alloc (.mapping .plain items)
  let made : Value := .object store.next
  have unbroken : (store.ownFields value).fault? = none := unbroken_ownFields whole
  have grows : store.Grows later := grows_alloc store _
  have alike : store.AlikeAt later value := alikeAt_alloc present
  have laterWhole : later.complete value = true := by
    rw [complete, alike.object]
    exact whole
  have laterRegular : later.Regular value := regular.alloc_mapping present
  have laterReadable : later.hasFields value = true := alike.hasFields.trans readable
  have own : later.ownFields value = store.ownFields value := alike.ownFields
  have mapping : later.mapping? made = some items := mapping?_alloc_next store .plain
  have madeReadable : later.hasFields made = true := hasFields_of_mapping mapping
  have madeOwn : later.ownFields made = .complete items := ownFields_of_mapping mapping
  obtain ⟨hashable, distinct⟩ := distinct_ownFields whole regular readable
  obtain ⟨laterHashable, laterDistinct⟩ := distinct_ownFields laterWhole laterRegular laterReadable
  rw [own] at laterHashable laterDistinct
  have shape : later.entries? value = some (store.ownFields value) := by
    rw [entries?_eq_ownFields laterReadable, own]
  have madeShape : later.entries? made = some (.complete items) := by
    rw [entries?_eq_ownFields madeReadable, madeOwn]
  refine ⟨made, later, ?settled, mapping, shape, ?read, ?entries, ?rules, ?again⟩
  case settled => exact assemble_settles readable unbroken hashable distinct lenient faithful
  case read =>
    intro entry member
    rw [← own] at member
    exact field_of_entry laterWhole laterRegular laterReadable member
  case entries =>
    intro written madeWritten descriptor source
    exact judgeContainer_congr written madeWritten shape madeShape rfl unbroken descriptor source
  case rules =>
    intro rules entries ruled named
    refine judgeFields_congr laterReadable madeReadable ruled fun rule member => ?_
    obtain ⟨finds, asked⟩ := named rule member
    cases kept : later.mapping? value with
    | some other =>
      obtain rfl : items = other := by rw [← items_of_mapping kept, own]
      rw [field_of_mapping kept, field_of_mapping mapping]
    | none =>
      obtain ⟨held, found⟩ := Option.isSome_iff_exists.mp finds
      rw [← alike.mapping?, kept] at asked
      obtain ⟨content, string⟩ := Option.isSome_iff_exists.mp (asked.resolve_left (by simp))
      have first : later.field value rule.1 = .ok held :=
        field_of_ownField laterWhole laterRegular laterReadable kept string (by rw [own, found])
      rw [first, field_of_mapping mapping, requireHashable_of_string string, found]
      rfl
  case again =>
    have settled := assemble_settles madeReadable (by rw [madeOwn]; rfl)
      (by rw [madeOwn]; exact laterHashable) (by rw [madeOwn]; exact laterDistinct)
      (lenient.grown grows) (faithful.grown grows)
    refine ⟨_, _, settled, ?_⟩
    rw [mapping?_alloc_next, madeOwn]
    rfl

theorem lenient_always {ref : Ref} (held : store.Holds ref)
    (here : store.read ref = .function .always) : store.Lenient (.object ref) := by
  intro later grows value
  have known : later.read ref = .function .always := (grows.kept ref held).trans here
  have called : (later.call (.object ref) value).outcome = .ok (.value (.boolean true)) := by
    simp [call, callWithin, known, reply, Run.call]
    rfl
  simp [passes, called, replyTruth, truth]

theorem faithful_identity {ref : Ref} (held : store.Holds ref)
    (here : store.read ref = .function .identity) : store.Faithful (.object ref) := by
  intro later grows
  have known : later.read ref = .function .identity := (grows.kept ref held).trans here
  constructor
  · simp [truth, object?, known, real?, number?, base, member?, length?, content?, bytes?, mapping?,
      sequence?]
  · intro value
    simp [call, callWithin, known, reply, Run.call]

/-- A store with a model, one field of which has the name of another one for its alias, and with
a guard and a creator. -/
def withModel : Store :=
  let cells : List Object :=
    [.model ⟨"M", 0, [⟨"x", some "y"⟩, ⟨"y", none⟩], [("y", .text "a"), ("x", .integer 1)], [],
      [("z", .null)], true⟩, .function .always, .function .identity]
  cells.foldl alloc initial

theorem withModel_regular : withModel.Regular (.object ⟨4⟩) where
  keys := nofun
  declared := by
    intro object names here declares
    cases here
    cases declares
    decide
  plain := nofun
  table := nofun
  attached := ⟨List.nodup_nil, nofun⟩
  attachable := nofun

/-- The mapping has the two declared fields in the order of their declaration, and as numbers both
are refused at the second one. -/
theorem assembled_of_model :
    ∃ made later, (Action.assemble (.object ⟨4⟩) (.object ⟨5⟩) (.object ⟨6⟩)).Settles withModel made
        later ∧
      later.mapping? made = some [(.text "x", .integer 1), (.text "y", .text "a")] ∧
      (later.judgeContainer made (.text "number") .null).outcome =
        .ok (.rejected "[y] expected is number, actual is string") := by
  have lenient : withModel.Lenient (.object ⟨5⟩) :=
    lenient_always (by decide : 5 < withModel.size) rfl
  have faithful : withModel.Faithful (.object ⟨6⟩) :=
    faithful_identity (by decide : 6 < withModel.size) rfl
  obtain ⟨made, later, settled, mapping, -, -, entries, -⟩ :=
    assembled_reads_alike rfl withModel_regular (by decide) rfl lenient faithful
  have grown : withModel.alloc (.mapping .plain (withModel.ownFields (.object ⟨4⟩)).items) = later :=
    settled.2
  obtain rfl : .object withModel.next = made := Except.ok.inj settled.1
  subst grown
  refine ⟨_, _, settled, mapping, ?_⟩
  rw [← (entries ⟨_, rfl⟩ ⟨_, rfl⟩ (.text "number") .null).1]
  rfl

/-- A table that has lost its rules, with a guard and a creator. -/
def withBareTable : Store :=
  let cells : List Object := [.table .empty, .function .always, .function .identity]
  cells.foldl alloc initial

/-- The table lacks no declared field, but cannot be shown, which every judgement begins with. The
mapping that is assembled from it is empty and accepted. -/
theorem assembled_needs_legible :
    let table : Value := .object ⟨4⟩
    let made : Value := .object ⟨7⟩
    let later := withBareTable.alloc (.mapping .plain [])
    withBareTable.WellFormed table ∧ withBareTable.hasFields table = true ∧
      (Action.assemble table (.object ⟨5⟩) (.object ⟨6⟩)).Settles withBareTable made later ∧
      (later.judgeContainer table (.text "object") .null).outcome = .error .noAttribute ∧
      (later.judgeContainer made (.text "object") .null).outcome = .ok .accepted := by
  have whole : withBareTable.WellFormed (.object ⟨4⟩) :=
    wellFormed_of_closed [.object ⟨4⟩] (by decide) (by decide) (by decide)
  exact ⟨whole, rfl, ⟨rfl, rfl⟩, rfl, rfl⟩

end Store

end Conform
