import Mathlib.Data.List.Find
import Conform.Proofs.Growth

/-! Locality of comparing and writing. Two stores may differ wherever they like: values that are the
same in both, with all that they lead to, are compared, looked up and written alike. -/

namespace Conform

/-- A value that holds nothing and has no attributes. -/
def Value.isAtom : Value → Bool
  | .null | .undefined | .boolean _ | .number _ | .text _ => true
  | _ => false

namespace Store

/-- Two stores of one size in which the values with a property are the same. The property passes on
to what a value holds, and from the argument of a custom function to its answer. -/
structure Shares (store later : Store) (kept : Value → Prop) : Prop where
  part : ∀ held, kept held → ∀ part ∈ store.parts held, kept part
  atom : ∀ held, held.isAtom = true → kept held
  alike : ∀ held, kept held → store.AlikeAt later held
  size : later.size = store.size
  nodes : later.nodes.length = store.nodes.length
  replies : later.replies = store.replies
  answer : ∀ name argument answer, kept argument →
    store.replies name argument = .ok (.value answer) → kept answer

variable {store later : Store} {kept : Value → Prop} {value left right : Value}

section

variable {agree other : Value → Value → Except Fault Bool}
  (same : ∀ left right, kept left → kept right → other left right = agree left right)

include same

theorem quietly_congr (left' : kept left) (right' : kept right) :
    quietly other left right = quietly agree left right := by
  rw [quietly, same left right left' right', quietly]

theorem pairwise_congr {lefts rights : List Value} (left' : ∀ held ∈ lefts, kept held)
    (right' : ∀ held ∈ rights, kept held) :
    pairwise other lefts rights = pairwise agree lefts rights := by
  induction lefts generalizing rights with
  | nil => cases rights <;> rfl
  | cons left lefts inductionHypothesis =>
    cases rights with
    | nil => rfl
    | cons right rights =>
      obtain ⟨leftHere, leftLater⟩ := List.forall_mem_cons.mp left'
      obtain ⟨rightHere, rightLater⟩ := List.forall_mem_cons.mp right'
      simp only [pairwise, same left right leftHere rightHere,
        inductionHypothesis leftLater rightLater]

theorem pairwiseListed_congr {lefts rights : List Value} (left' : ∀ held ∈ lefts, kept held)
    (right' : ∀ held ∈ rights, kept held) :
    pairwiseListed other lefts rights = pairwiseListed agree lefts rights := by
  rw [pairwiseListed, pairwise_congr same left' right', pairwiseListed]

theorem sameEntries_congr {lefts rights : List (Value × Value)}
    (left' : ∀ entry ∈ lefts, kept entry.1 ∧ kept entry.2)
    (right' : ∀ entry ∈ rights, kept entry.1 ∧ kept entry.2) :
    sameEntries other lefts rights = sameEntries agree lefts rights := by
  unfold sameEntries
  split
  · refine allM_congr fun entry member => ?_
    obtain ⟨key, item⟩ := left' entry member
    simp only [List.find?_congr fun found inside => quietly_congr same key (right' found inside).1]
    cases here : rights.find? fun found => quietly agree entry.1 found.1 with
    | none => rfl
    | some found => exact same _ _ (right' found (List.mem_of_find?_eq_some here)).2 item
  · rfl

theorem sameFields_congr {lefts rights : Fields} (left' : ∀ field ∈ lefts, kept field.2)
    (right' : ∀ field ∈ rights, kept field.2) :
    sameFields other lefts rights = sameFields agree lefts rights := by
  unfold sameFields
  split
  · refine allM_congr fun field member => ?_
    simp only
    cases here : Fields.named? rights field.1 with
    | none => rfl
    | some found =>
      exact same _ _ (right' _ (Fields.mem_of_named? here)) (left' field member)
  · rfl

theorem sameRecords_congr {one another : Record} (left' : ∀ field ∈ one.own, kept field.2)
    (right' : ∀ field ∈ another.own, kept field.2) :
    sameRecords other one another = sameRecords agree one another := by
  have values {whole : Record} {fields : Fields} (each : ∀ field ∈ whole.own, kept field.2)
      (read : whole.declaredFields = .ok fields) : ∀ held ∈ fields.map Prod.snd, kept held := by
    intro held member
    obtain ⟨field, inside, rfl⟩ := List.mem_map.mp member
    exact each field (Record.mem_of_declaredFields read inside)
  unfold sameRecords
  split
  · cases lefts : one.declaredFields with
    | error fault => rfl
    | ok lefts' =>
      cases rights : another.declaredFields with
      | error fault => rfl
      | ok rights' => exact pairwise_congr same (values left' lefts) (values right' rights)
  · rfl

theorem sameModels_congr {one another : Model}
    (left' : ∀ held ∈ (Object.model one).parts, kept held)
    (right' : ∀ held ∈ (Object.model another).parts, kept held) :
    sameModels other one another = sameModels agree one another := by
  have inside {fields : Fields} {whole : Model}
      (each : ∀ held ∈ (Object.model whole).parts, kept held)
      (among : ∀ held ∈ fields.map Prod.snd, held ∈ (Object.model whole).parts) :
      ∀ field ∈ fields, kept field.2 :=
    fun field member => each _ (among _ (List.mem_map_of_mem member))
  have own (whole : Model) : ∀ held ∈ whole.own.map Prod.snd, held ∈ (Object.model whole).parts :=
    fun _ member => List.mem_append_left _ (List.mem_append_left _ member)
  have extra (whole : Model) :
      ∀ held ∈ whole.extra.map Prod.snd, held ∈ (Object.model whole).parts :=
    fun _ member => List.mem_append_right _ member
  simp only [sameModels,
    sameFields_congr same (inside left' (extra one)) (inside right' (extra another)),
    sameFields_congr same (inside left' (own one)) (inside right' (own another))]

theorem sameMappings_congr {form form' : MappingForm} {lefts rights : List (Value × Value)}
    (left' : ∀ entry ∈ lefts, kept entry.1 ∧ kept entry.2)
    (right' : ∀ entry ∈ rights, kept entry.1 ∧ kept entry.2) :
    sameMappings other form form' lefts rights = sameMappings agree form form' lefts rights := by
  have keys {entries : List (Value × Value)} (each : ∀ entry ∈ entries, kept entry.1 ∧ kept entry.2) :
      ∀ key ∈ entries.map Prod.fst, kept key := by
    intro key member
    obtain ⟨entry, inside, rfl⟩ := List.mem_map.mp member
    exact (each entry inside).1
  simp only [sameMappings, sameEntries_congr same left' right', sameEntries_congr same right' left',
    pairwise_congr same (keys left') (keys right')]

end

section Shared

variable (shares : store.Shares later kept)

include shares

theorem Shares.inside {object : Object} (known : kept value)
    (here : store.object? value = some object) : ∀ part ∈ object.parts, kept part :=
  fun part member => shares.part value known part (mem_parts_of_object here member)

theorem Shares.texts (content : String) : kept (.text content) := shares.atom _ rfl

theorem Shares.entries {entries : List (Value × Value)} (known : kept value)
    (found : store.mapping? value = some entries) :
    ∀ entry ∈ entries, kept entry.1 ∧ kept entry.2 := by
  intro entry member
  obtain ⟨key, item⟩ := mem_parts_of_mapping found entry member
  exact ⟨shares.part value known _ key, shares.part value known _ item⟩

theorem Shares.hashableWithin (depth : Nat) (known : kept value) :
    later.hashableWithin depth value = store.hashableWithin depth value := by
  induction depth generalizing value with
  | zero => rfl
  | succ depth inductionHypothesis =>
    simp only [Store.hashableWithin, (shares.alike value known).object]
    cases here : store.object? value with
    | none => rfl
    | some object =>
      have inside := shares.inside known here
      cases object with
      | sequence form items =>
        cases form with
        | tuple | named typeName labels =>
          exact all_congr fun part member => inductionHypothesis (inside part member)
        | _ => rfl
      | noCheck | predicate test | enumeration name values | rule type check | outcome ok error
        | container kindName element =>
        exact all_congr fun field member =>
          inductionHypothesis (each_frozen shares.texts inside rfl field member)
      | _ => rfl

theorem Shares.hashable (known : kept value) : later.hashable value = store.hashable value := by
  simp only [Store.hashable, shares.size, shares.hashableWithin _ known]

theorem Shares.requireHashable (known : kept value) :
    later.requireHashable value = store.requireHashable value := by
  simp only [Store.requireHashable, shares.hashable known]

theorem Shares.pair? (known : kept value) : later.pair? value = store.pair? value := by
  simp only [Store.pair?, (shares.alike value known).object]

theorem Shares.kept_pair {pair : Value × Value} (known : kept value)
    (found : store.pair? value = some pair) : kept pair.1 ∧ kept pair.2 := by
  unfold Store.pair? at found
  split at found
  · rename_i first second here
    cases found
    have inside := shares.inside known here
    exact ⟨inside first (by simp [Object.parts]), inside second (by simp [Object.parts])⟩
  · rename_i typeName labels first second here
    cases found
    have inside := shares.inside known here
    exact ⟨inside first (by simp [Object.parts]), inside second (by simp [Object.parts])⟩
  · cases found

section Agreeing

variable {agree other : Value → Value → Except Fault Bool}
  (same : ∀ left right, kept left → kept right → other left right = agree left right)

include same

theorem Shares.holdsPair {pairs : List Value} (items : ∀ held ∈ pairs, kept held)
    (known : kept value) : later.holdsPair other pairs value = store.holdsPair agree pairs value := by
  have listed : pairs.filterMap later.pair? = pairs.filterMap store.pair? :=
    List.filterMap_congr fun held member => shares.pair? (items held member)
  simp only [Store.holdsPair, shares.pair? known, listed]
  cases sought : store.pair? value with
  | none => rfl
  | some pair =>
    obtain ⟨key, item⟩ := shares.kept_pair known sought
    have each : ∀ entry ∈ pairs.filterMap store.pair?, kept entry.1 ∧ kept entry.2 := by
      intro entry member
      obtain ⟨held, inside, found⟩ := List.mem_filterMap.mp member
      exact shares.kept_pair (items held inside) found
    simp only [shares.requireHashable key]
    rw [List.find?_congr fun entry member => quietly_congr same (each entry member).1 key]
    cases here : (pairs.filterMap store.pair?).find? fun entry => quietly agree entry.1 pair.1 with
    | none => rfl
    | some entry =>
      simp only [same _ _ (each entry (List.mem_of_find?_eq_some here)).2 item]

theorem Shares.holdsElement {object : Object} (items : ∀ held ∈ object.parts, kept held)
    (known : kept value) :
    later.holdsElement other object value = store.holdsElement agree object value := by
  have found (values : List Value) (inside : ∀ held ∈ values, kept held) :
      (values.any fun held => quietly other held value) =
        values.any fun held => quietly agree held value :=
    any_congr fun held member => quietly_congr same (inside held member) known
  cases object with
  | set frozen values =>
    simp only [Store.holdsElement, (shares.alike value known).object,
      shares.requireHashable known, found values items]
  | view part values =>
    cases part with
    | keys => simp only [Store.holdsElement, shares.requireHashable known, found values items]
    | items => exact shares.holdsPair same items known
    | values => rfl
  | _ => rfl

theorem Shares.sameObject {one another : Object} (left' : ∀ held ∈ one.parts, kept held)
    (right' : ∀ held ∈ another.parts, kept held) :
    later.sameObject other one another = store.sameObject agree one another := by
  have own {whole : Record} (inside : ∀ held ∈ (Object.record whole).parts, kept held) :
      ∀ field ∈ whole.own, kept field.2 :=
    fun field member => inside _ (List.mem_map_of_mem member)
  have elements {object : Object} {items : List Value}
      (inside : ∀ held ∈ object.parts, kept held) (listed : object.elements? = some items) :
      ∀ held ∈ items, kept held := by
    unfold Object.elements? at listed
    split at listed <;> cases listed <;> exact inside
  have frozen {object : Object} {typeName : String} {fields : Fields}
      (inside : ∀ held ∈ object.parts, kept held)
      (listed : object.frozen? = some (typeName, fields)) :
      ∀ held ∈ fields.map Prod.snd, kept held := by
    intro held member
    obtain ⟨field, among, rfl⟩ := List.mem_map.mp member
    exact each_frozen shares.texts inside listed field among
  unfold Store.sameObject
  split
  · exact sameMappings_congr same (Object.each_entry left') (Object.each_entry right')
  · exact pairwiseListed_congr same left' right'
  · exact pairwiseListed_congr same left' right'
  · exact pairwise_congr same left' right'
  · exact pairwise_congr same left' right'
  · exact pairwise_congr same left' right'
  · exact pairwise_congr same left' right'
  · rfl
  · exact sameRecords_congr same (own left') (own right')
  · exact sameModels_congr same left' right'
  · split
    · rename_i lefts rights leftListed rightListed
      have within : ∀ held ∈ rights, later.holdsElement other one held =
          store.holdsElement agree one held :=
        fun held member => shares.holdsElement same left' (elements right' rightListed held member)
      have without : ∀ held ∈ lefts, later.holdsElement other another held =
          store.holdsElement agree another held :=
        fun held member => shares.holdsElement same right' (elements left' leftListed held member)
      rw [allM_congr without, allM_congr within]
    · split
      · rename_i leftListed rightListed
        rw [pairwise_congr same (frozen left' leftListed) (frozen right' rightListed)]
      · rfl

theorem Shares.sameReferences (left' : kept left) (right' : kept right) :
    later.sameReferences other left right = store.sameReferences agree left right := by
  simp only [Store.sameReferences, (shares.alike left left').object,
    (shares.alike right right').object]
  split
  · rename_i one another here there
    exact sameRecords_congr same
      (fun field member => shares.inside left' here _ (List.mem_map_of_mem member))
      (fun field member => shares.inside right' there _ (List.mem_map_of_mem member))
  · rename_i one another _ here there
    rw [shares.sameObject same (shares.inside left' here) (shares.inside right' there)]
  · rfl

end Agreeing

/-- Values that are the same in both stores compare alike: the induction is on the depth to which
their parts are compared. -/
theorem Shares.equalWithin (depth : Nat) (left' : kept left) (right' : kept right) :
    later.equalWithin depth left right = store.equalWithin depth left right := by
  induction depth generalizing left right with
  | zero => rfl
  | succ depth inductionHypothesis =>
    have same (one other : Value) (one' : kept one) (other' : kept other) :
        (if one = other then .ok true else later.equalWithin depth one other) =
          (if one = other then .ok true else store.equalWithin depth one other) := by
      rw [inductionHypothesis one' other']
    simp only [Store.equalWithin, (shares.alike left left').quantity?,
      (shares.alike right right').quantity?, (shares.alike left left').content?,
      (shares.alike right right').content?, (shares.alike left left').bytes?,
      (shares.alike right right').bytes?, shares.sameReferences same left' right']

theorem Shares.equal (left' : kept left) (right' : kept right) :
    later.equal left right = store.equal left right := by
  simp only [Store.equal, comparisonDepth, shares.size, shares.equalWithin _ left' right']

theorem Shares.agrees (left' : kept left) (right' : kept right) :
    later.agrees left right = store.agrees left right := by
  simp only [Store.agrees, quietly, matching, shares.equal left' right']

theorem Shares.find? {entries : List (Value × Value)} {key : Value}
    (each : ∀ entry ∈ entries, kept entry.1) (known : kept key) :
    later.find? entries key = store.find? entries key := by
  rw [Store.find?, List.find?_congr fun entry member => shares.agrees (each entry member) known,
    Store.find?]

theorem Shares.distinct {values : List Value} (each : ∀ held ∈ values, kept held) :
    later.distinct values = store.distinct values :=
  distinct_congr (fun _ _ left' right' => shares.agrees left' right') each

theorem Shares.baseForm (base : EnumBase) (known : kept value) :
    later.baseForm base value = store.baseForm base value := by
  simp only [Store.baseForm, (shares.alike value known).integer?,
    (shares.alike value known).string?]

theorem Shares.kept_written {ref : Ref} (known : kept (.object ref)) :
    ∀ part ∈ (store.read ref).written ref, kept part := by
  intro part shown
  rcases Object.mem_parts_of_written shown with held | ⟨content, rfl⟩
  · exact shares.inside known rfl part held
  · exact shares.texts content

/-- Values that are the same in both stores are written alike: the induction is on the depth to
which they are nested. -/
theorem Shares.formWithin (depth : Nat) (opened : List Ref) (known : kept value) :
    later.formWithin depth opened value = store.formWithin depth opened value := by
  induction depth generalizing value opened with
  | zero => rfl
  | succ depth inductionHypothesis =>
    cases value with
    | member owner index =>
      simp only [Store.formWithin, (shares.alike _ known).member]
      cases here : store.member? (.member owner index) with
      | none => rfl
      | some member =>
        have held : kept member.value := shares.part _ known _ (mem_parts_of_member here)
        simp only [inductionHypothesis opened held, shares.baseForm _ held]
    | object ref =>
      simp only [Store.formWithin, (shares.alike _ known).read rfl]
      split
      · split
        · rfl
        · exact Object.formWith_congr fun part shown =>
            inductionHypothesis _ (shares.kept_written known part shown)
      · exact Object.formWith_congr fun part shown =>
          inductionHypothesis _ (shares.kept_written known part shown)
    | _ => rfl

theorem Shares.formDepth : later.formDepth = store.formDepth := by
  simp only [Store.formDepth, shares.size, shares.nodes]

theorem Shares.form (known : kept value) : later.form value = store.form value := by
  simp only [Store.form, shares.formDepth, shares.formWithin _ _ known]

theorem Shares.text (known : kept value) : later.text value = store.text value := by
  cases value with
  | member owner index => simp only [Store.text, (shares.alike _ known).member]
  | object ref =>
    simp only [Store.text, (shares.alike _ known).read rfl]
    have written := shares.kept_written known
    split
    · rfl
    · rfl
    · rfl
    · rename_i entries here
      rw [shares.formDepth]
      refine Object.formWith_congr fun part shown => shares.formWithin _ _ (written part ?_)
      simpa [here, Object.written] using shown
    · rename_i whole here
      congr 1
      refine mapM_congr fun field member => ?_
      have inside : field.2 ∈ (store.read ref).written ref := by
        simpa [here, Object.written] using List.mem_map_of_mem (f := Prod.snd) member
      simp only [shares.form (written field.2 inside)]
    · exact shares.form known
  | null | undefined | boolean flag | complex re im | bytes bytes | builtin type =>
    exact shares.form known
  | _ => rfl

theorem Shares.display (known : kept value) : later.display value = store.display value := by
  cases value with
  | null | undefined | boolean flag => rfl
  | _ => exact shares.text known

end Shared

section Changes

/-- Custom functions that are called with nothing that leads to a value answer nothing that does. -/
def Withholds (store : Store) (value : Value) : Prop :=
  ∀ name argument answer, ¬ store.Reaches argument value →
    store.replies name argument = .ok (.value answer) → ¬ store.Reaches answer value

theorem unreached_atom {held : Value} (readable : store.hasFields value = true)
    (atom : held.isAtom = true) : ¬ store.Reaches held value := by
  have fieldless : store.hasFields held = false ∧ store.characters held = [] := by
    cases held with
    | null | undefined | boolean flag | number number | text content => exact ⟨rfl, rfl⟩
    | _ => cases atom
  have alone : store.parts held = [] := by
    cases held with
    | object ref => cases atom
    | member owner index => cases atom
    | _ => simp [parts, fieldless.1, fieldless.2]
  intro path
  cases path with
  | self => simp [fieldless.1] at readable
  | part member deeper => simp [alone] at member

theorem apart_of_unreached {held : Value} (unreached : ¬ store.Reaches held value) :
    value.Apart held where
  differs := by
    rintro rfl
    exact unreached .self
  foreign := by
    rintro owner index rfl rfl
    exact unreached (.part (List.mem_append_left _ (List.mem_append_left _ (by simp))) .self)

/-- An object is changed, but not what does not lead to it. -/
theorem shares_write {ref : Ref} {object : Object} (readable : store.hasFields (.object ref) = true)
    (nodes : (store.write ref object).nodes.length = store.nodes.length)
    (withheld : store.Withholds (.object ref)) :
    store.Shares (store.write ref object) fun held => ¬ store.Reaches held (.object ref) where
  part _ unreached _ member path := unreached (.part member path)
  atom _ atom := unreached_atom readable atom
  alike _ unreached := alikeAt_write object (apart_of_unreached unreached)
  size := Array.size_setIfInBounds
  nodes := nodes
  replies := rfl
  answer := withheld

theorem shares_attach (attributes : Attributes) (readable : store.hasFields value = true)
    (withheld : store.Withholds value) :
    store.Shares (store.attach value attributes) fun held => ¬ store.Reaches held value where
  part _ unreached _ member path := unreached (.part member path)
  atom _ atom := unreached_atom readable atom
  alike _ unreached := alikeAt_attach attributes (apart_of_unreached unreached)
  size := rfl
  nodes := rfl
  replies := rfl
  answer := withheld

/-- Neither an object that is no enumerated type nor one in its place has members. -/
theorem nodes_write {ref : Ref} {object : Object}
    (here : ∀ type, store.read ref ≠ .enumType type) (there : ∀ type, object ≠ .enumType type) :
    (store.write ref object).nodes = store.nodes := by
  have size : (store.write ref object).size = store.size := Array.size_setIfInBounds
  simp only [Store.nodes, size]
  refine List.flatMap_congr fun address member => ?_
  by_cases same : ref = ⟨address⟩
  · subst same
    rw [read_write_same store object _ (List.mem_range.mp member)]
    split
    · exact absurd rfl (there _)
    · rfl
  · rw [read_write_of_ne store object ref _ same]

end Changes

end Store

end Conform
