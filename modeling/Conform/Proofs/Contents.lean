import Conform.Proofs.Parts

namespace Conform

def Object.declared? : Object → Option (List String)
  | .record whole => some whole.declared
  | .model whole => some (whole.fields.map ModelField.name)
  | _ => none

namespace Store

variable {store : Store} {value : Value} {object : Object} {names : List String}

theorem ownFields_of_declared (here : store.object? value = some object)
    (declares : object.declared? = some names) :
    store.ownFields value = .ofDeclared (store.attributeOf value) names := by
  obtain ⟨ref, rfl, read⟩ := eq_object_of_object? here
  cases object with
  | record whole | model whole =>
    cases declares
    simp only [Store.ownFields, read]
  | _ => cases declares

/-- A declared field that is set is read from the object itself. -/
theorem attributeOf_of_complete (here : store.object? value = some object)
    (declares : object.declared? = some names) (whole : object.isComplete = true) :
    ∀ name ∈ names, ∃ held ∈ object.parts, store.attributeOf value name = .ok (some held) := by
  obtain ⟨ref, rfl, read⟩ := eq_object_of_object? here
  intro name member
  cases object with
  | record record =>
    cases declares
    obtain ⟨held, owned⟩ := Option.isSome_iff_exists.mp (List.all_eq_true.mp whole name member)
    refine ⟨held, List.mem_map_of_mem (Fields.mem_of_named? owned), ?_⟩
    simp [attributeOf, read, objectAttribute, owned]
  | model model =>
    cases declares
    obtain ⟨field, declared, rfl⟩ := List.mem_map.mp member
    obtain ⟨held, owned⟩ := Option.isSome_iff_exists.mp (List.all_eq_true.mp whole field declared)
    refine ⟨held, ?_, by simp [attributeOf, read, objectAttribute, owned]⟩
    exact List.mem_append_left _ (List.mem_append_left _
      (List.mem_map_of_mem (Fields.mem_of_named? owned)))
  | _ => cases declares

/-- What a record or a model answers under any name is inside it. -/
theorem mem_parts_of_attributeOf {name : String} {held : Value}
    (here : store.object? value = some object) (declares : object.declared? = some names)
    (readable : store.hasFields value = true)
    (found : store.attributeOf value name = .ok (some held)) : held ∈ store.parts value := by
  obtain ⟨ref, rfl, read⟩ := eq_object_of_object? here
  have attached (given : (store.attributesOf (.object ref)).named? name = some held) :
      held ∈ store.parts (.object ref) :=
    mem_parts_of_attributes readable (Attributes.mem_parts_of_named? given)
  have own {fields : Fields} (inside : ∀ part ∈ fields.map Prod.snd, part ∈ object.parts)
      (given : fields.named? name = some held) : held ∈ store.parts (.object ref) :=
    mem_parts_of_object here (inside held (List.mem_map_of_mem (Fields.mem_of_named? given)))
  cases object with
  | record record =>
    simp only [attributeOf, read, objectAttribute, ok_bind, pure_eq_ok, Except.ok.injEq,
      Option.or_eq_some_iff] at found
    rcases found with here | ⟨-, there⟩
    · exact own (fun _ member => member) here
    · exact attached there
  | model model =>
    simp only [attributeOf, read, objectAttribute, ok_bind, pure_eq_ok, Except.ok.injEq,
      Option.or_eq_some_iff] at found
    rcases found with ((declared | ⟨-, hidden⟩) | ⟨-, extra⟩) | ⟨-, there⟩
    · exact own (fun _ member => by simp [Object.parts, member]) declared
    · exact own (fun _ member => by simp [Object.parts, member]) hidden
    · exact own (fun _ member => by simp [Object.parts, member]) extra
    · exact attached there
  | _ => cases declares

end Store

/-- Entries whose keys and items all have a property. -/
def Entries.Each (kept : Value → Prop) (entries : Entries) : Prop :=
  ∀ entry ∈ entries.items, kept entry.1 ∧ kept entry.2

namespace Store

variable {store : Store} {value : Value} {object : Object} {names : List String}

section Each

variable {kept : Value → Prop}

theorem each_numbered {values : List Value}
    (places : ∀ place < values.length, kept (.integer place)) (each : ∀ held ∈ values, kept held) :
    (Entries.complete (numbered values)).Each kept := by
  intro entry member
  obtain ⟨⟨held, index⟩, placed, rfl⟩ := List.mem_map.mp member
  have inside : index < values.length := by simpa using List.snd_lt_of_mem_zipIdx placed
  exact ⟨places index inside, each held (List.fst_mem_of_mem_zipIdx placed)⟩

theorem each_append {first second : List (Value × Value)}
    (left : (Entries.complete first).Each kept) (right : (Entries.complete second).Each kept) :
    (Entries.complete (first ++ second)).Each kept := by
  intro entry member
  rcases List.mem_append.mp member with early | late
  · exact left entry early
  · exact right entry late

variable (texts : ∀ content, kept (.text content))

include texts

theorem each_ofFields {fields : Fields} (each : ∀ field ∈ fields, kept field.2) :
    (Entries.ofFields fields).Each kept := by
  intro entry member
  obtain ⟨field, present, rfl⟩ := List.mem_map.mp member
  exact ⟨texts _, each field present⟩

theorem each_attributes {attributes : Attributes} (each : ∀ held ∈ attributes.parts, kept held) :
    (Entries.complete attributes.entries).Each kept := by
  intro entry member
  obtain ⟨⟨name, plain⟩ | spelled, item⟩ := Attributes.parts_of_mem_entries member
  · exact ⟨plain ▸ texts name, each _ item⟩
  · exact ⟨each _ spelled, each _ item⟩

theorem each_ofDeclared {read : String → Except Fault (Option Value)}
    (declared : ∀ name ∈ names, ∀ held, read name = .ok (some held) → kept held) :
    (Entries.ofDeclared read names).Each kept := by
  induction names with
  | nil => simp [Entries.Each, Entries.ofDeclared, Entries.complete, Entries.items]
  | cons name rest inductionHypothesis =>
    obtain ⟨here, others⟩ := List.forall_mem_cons.mp declared
    cases found : read name with
    | error fault => simp [Entries.Each, Entries.ofDeclared, found, Entries.items]
    | ok held? =>
      cases held? with
      | none => simp [Entries.Each, Entries.ofDeclared, found, Entries.items]
      | some held =>
        simp only [Entries.ofDeclared, found]
        exact List.forall_mem_cons.mpr
          ⟨⟨texts name, here held found⟩, inductionHypothesis others⟩

theorem each_content (base : Value) : (Entries.complete base.contentEntries).Each kept := by
  refine each_ofFields texts fun field member => ?_
  cases base with
  | wrapped content =>
    rw [List.mem_singleton.mp member]
    exact texts content
  | _ => simp [Value.contentFields] at member

/-- The fields of the library's own records are parts of them or texts. -/
theorem each_frozen {typeName : String} {fields : Fields} (inside : ∀ part ∈ object.parts, kept part)
    (listed : object.frozen? = some (typeName, fields)) : ∀ field ∈ fields, kept field.2 := by
  intro field member
  have each : field.2 ∈ object.parts ∨ ∃ content, field.2 = .text content := by
    cases object <;> cases listed <;> simp only [List.mem_cons, List.not_mem_nil, or_false] at member
    case enumeration name values =>
      rcases member with rfl | rfl
      · exact Or.inr ⟨name, rfl⟩
      · exact Or.inl (by simp [Object.parts])
    all_goals rcases member with rfl | rfl <;> exact Or.inl (by simp [Object.parts])
  rcases each with held | ⟨content, text⟩
  · exact inside _ held
  · exact text ▸ texts content

/-- The own fields of a value are parts of it or texts. -/
theorem each_ownFields (inside : ∀ part ∈ store.parts value, kept part)
    (readable : store.hasFields value = true) : (store.ownFields value).Each kept := by
  have attached : (Entries.complete (store.attributes value).entries).Each kept :=
    each_attributes texts fun _ member => inside _ (mem_parts_of_attributes readable member)
  cases value with
  | wrapped content => exact each_append (each_content texts _) attached
  | object ref =>
    have found : store.object? (.object ref) = some (store.read ref) := rfl
    have within : ∀ part ∈ (store.read ref).parts, kept part :=
      fun part member => inside part (mem_parts_of_object found member)
    cases here : store.read ref with
    | mapping form entries =>
      rw [here] at within
      simp only [Store.ownFields, here]
      exact Object.each_entry within
    | model whole | record whole =>
      rw [here] at found
      rw [ownFields_of_declared found rfl]
      exact each_ofDeclared texts fun name _ held answered =>
        inside held (mem_parts_of_attributeOf found rfl readable answered)
    | plain whole =>
      rw [here] at within
      simp only [Store.ownFields, here]
      exact each_attributes texts fun held member => within held (List.mem_append_left _ member)
    | table own =>
      rw [here] at within
      simp only [Store.ownFields, here]
      exact each_attributes texts within
    | derived base =>
      simp only [Store.ownFields, here]
      exact each_append (each_content texts base) attached
    | _ =>
      rw [here] at within
      simp only [Store.ownFields, here]
      split
      · rename_i typeName fields listed
        exact each_ofFields texts (each_frozen texts within listed)
      · exact attached
  | _ => exact attached

end Each

/-- Entries that can all be read, with keys and items that lack nothing. -/
def SoundEntries (store : Store) (entries : Entries) : Prop :=
  entries.fault? = none ∧ entries.Each store.Sound

theorem sound_place {place bound : Nat} (inside : place < bound) (few : bound ≤ Integer.limit) :
    store.Sound (.integer place) := by
  have small : place < Integer.limit := Nat.lt_of_lt_of_le inside few
  exact sound_number (by simp [Number.form?, Number.text?, Integer.text?, small])

theorem soundEntries_numbered {values : List Value} (each : ∀ held ∈ values, store.Sound held)
    (few : values.length ≤ Integer.limit) : store.SoundEntries (.complete (numbered values)) :=
  ⟨rfl, each_numbered (fun _ inside => sound_place inside few) each⟩

theorem unbroken_ofDeclared {read : String → Except Fault (Option Value)}
    (each : ∀ name ∈ names, ∃ held, read name = .ok (some held)) :
    (Entries.ofDeclared read names).fault? = none := by
  induction names with
  | nil => rfl
  | cons name rest inductionHypothesis =>
    obtain ⟨⟨held, found⟩, others⟩ := List.forall_mem_cons.mp each
    simpa [Entries.ofDeclared, found, Entries.after, Entries.fault?] using inductionHypothesis others

theorem unbroken_ownFields (whole : store.complete value = true) :
    (store.ownFields value).fault? = none := by
  cases value with
  | object ref =>
    have found : store.object? (.object ref) = some (store.read ref) := rfl
    cases here : store.read ref with
    | model model | record record =>
      rw [here] at found
      rw [ownFields_of_declared found rfl]
      refine unbroken_ofDeclared fun name member => ?_
      obtain ⟨held, -, answered⟩ :=
        attributeOf_of_complete found rfl (isComplete_of_complete whole found) name member
      exact ⟨held, answered⟩
    | _ =>
      simp only [Store.ownFields, here]
      rfl
  | _ => rfl

theorem object?_of_mapping? {entries : List (Value × Value)}
    (found : store.mapping? value = some entries) :
    ∃ form, store.object? value = some (.mapping form entries) := by
  unfold mapping? at found
  split at found
  · rename_i form listed here
    cases found
    exact ⟨form, here⟩
  · simp at found

theorem exists_of_mapping {entries : List (Value × Value)}
    (found : store.mapping? value = some entries) :
    ∃ ref form, value = .object ref ∧ store.read ref = .mapping form entries := by
  obtain ⟨form, here⟩ := object?_of_mapping? found
  obtain ⟨ref, same, read⟩ := eq_object_of_object? here
  exact ⟨ref, form, same, read⟩

theorem hasFields_of_mapping {entries : List (Value × Value)}
    (found : store.mapping? value = some entries) : store.hasFields value = true := by
  simp [hasFields, found]

theorem mem_parts_of_mapping {entries : List (Value × Value)}
    (found : store.mapping? value = some entries) :
    ∀ entry ∈ entries, entry.1 ∈ store.parts value ∧ entry.2 ∈ store.parts value := by
  obtain ⟨form, here⟩ := object?_of_mapping? found
  exact Object.each_entry fun part inside => mem_parts_of_object here inside

theorem mem_parts_of_elements {items : List Value} (found : store.elements? value = some items) :
    ∀ held ∈ items, held ∈ store.parts value := by
  obtain ⟨object, here, listed⟩ := Option.bind_eq_some_iff.mp found
  intro held member
  refine mem_parts_of_object here ?_
  unfold Object.elements? at listed
  split at listed <;> cases listed <;> exact member

theorem Sound.mapping {entries : List (Value × Value)} (sound : store.Sound value)
    (found : store.mapping? value = some entries) :
    ∀ entry ∈ entries, store.Sound entry.1 ∧ store.Sound entry.2 := by
  intro entry member
  obtain ⟨key, item⟩ := mem_parts_of_mapping found entry member
  exact ⟨sound.part key, sound.part item⟩

theorem Sound.ownFields (sound : store.Sound value) (readable : store.hasFields value = true) :
    store.SoundEntries (store.ownFields value) :=
  ⟨unbroken_ownFields (sound.wellFormed value .self),
    each_ownFields sound_text (fun _ member => sound.part member) readable⟩

theorem mem_of_find? {entries : List (Value × Value)} {key result : Value}
    (found : store.find? entries key = some result) : ∃ entry ∈ entries, entry.2 = result := by
  obtain ⟨entry, first, rfl⟩ := Option.map_eq_some_iff.mp found
  exact ⟨entry, List.mem_of_find?_eq_some first, rfl⟩

/-- A wrapped text that a value is used as is no longer than can be counted. -/
theorem Sound.few_characters {content : String} (sound : store.Sound value)
    (wrapped : store.base value = .wrapped content) : content.toList.length ≤ Integer.limit := by
  have counted {held : Value} (legible : held.isLegible = true) (same : held = .wrapped content) :
      content.toList.length ≤ Integer.limit := by
    subst same
    simpa [Value.isLegible] using legible
  unfold base at wrapped
  split at wrapped
  · rename_i member known
    have suits := sound.suits known
    simp only [MemberOf.suits, Bool.and_eq_true] at suits
    split at wrapped
    · exact counted sound.ownLegible wrapped
    · exact counted suits.1 wrapped
  · rename_i base _ here
    exact counted (sound.object_part here (by simp [Object.parts])).ownLegible wrapped
  · exact counted sound.ownLegible wrapped

/-- A number of a range is no further from zero than one of its bounds. -/
theorem natAbs_item_le (start stop step : Int) {place : Nat}
    (inside : place < (Progression.ofBounds start stop step).count) :
    ((Progression.ofBounds start stop step).item place).natAbs ≤ start.natAbs ∨
      ((Progression.ofBounds start stop step).item place).natAbs ≤ stop.natAbs := by
  simp only [Progression.ofBounds, Progression.item] at inside ⊢
  split at inside
  · rename_i forwards
    have reached : ((place : Int) + 1) * step ≤ stop - start + step - 1 :=
      (Int.le_ediv_iff_mul_le forwards).mp (by omega)
    have onwards : 0 ≤ (place : Int) * step := Int.mul_nonneg (by omega) (by omega)
    rw [Int.add_mul, Int.one_mul] at reached
    omega
  · split at inside
    · rename_i backwards
      have reached : ((place : Int) + 1) * -step ≤ start - stop - step - 1 :=
        (Int.le_ediv_iff_mul_le (by omega)).mp (by omega)
      have onwards : 0 ≤ (place : Int) * -step := Int.mul_nonneg (by omega) (by omega)
      rw [Int.add_mul, Int.one_mul] at reached
      rw [Int.mul_neg] at reached onwards
      omega
    · omega

theorem Sound.sequence {series : Series} (sound : store.Sound value)
    (found : store.sequence? value = some series) :
    store.SoundEntries (seriesEntries series) := by
  unfold sequence? at found
  split at found
  · rename_i content wrapped
    cases found
    refine soundEntries_numbered
      (fun held member => sound.part (mem_parts_of_characters ?_)) ?_
    · simpa [characters, wrapped] using member
    · simpa using sound.few_characters wrapped
  · split at found
    · rename_i form items here
      cases found
      exact soundEntries_numbered (fun held member => sound.object_part here member)
        (by simpa [Object.isLegible] using sound.isLegible here)
    · rename_i start stop step here
      cases found
      have legible := sound.isLegible here
      simp only [Object.isLegible, Bool.and_eq_true, List.all_eq_true, decide_eq_true_eq] at legible
      obtain ⟨bounds, few⟩ := legible
      refine ⟨rfl, fun entry member => ?_⟩
      obtain ⟨place, listed, rfl⟩ := List.mem_map.mp member
      have inside := List.mem_range.mp listed
      refine ⟨sound_place inside few, sound_number ?_⟩
      rcases natAbs_item_le start stop step inside with low | high
      · exact Integer.text?_isSome_of_le low (bounds start (by simp))
      · exact Integer.text?_isSome_of_le high (bounds stop (by simp))
    · simp at found

theorem Sound.few_elements {items : List Value} (sound : store.Sound value)
    (found : store.elements? value = some items) : items.length ≤ Integer.limit := by
  obtain ⟨object, here, listed⟩ := Option.bind_eq_some_iff.mp found
  have legible := sound.isLegible here
  unfold Object.elements? at listed
  split at listed <;> cases listed <;> simpa [Object.isLegible] using legible

/-- What a value without gaps is gone through by has no gaps either. -/
theorem Sound.entries {entries : Entries} (sound : store.Sound value)
    (shape : store.entries? value = some entries) : store.SoundEntries entries := by
  unfold entries? at shape
  split at shape
  · rename_i listed _ _ found
    cases shape
    exact ⟨rfl, sound.mapping found⟩
  · rename_i series _ _ found
    cases shape
    exact sound.sequence found
  · rename_i items _ _ found
    cases shape
    exact soundEntries_numbered
      (fun held member => sound.part (mem_parts_of_elements found held member))
      (sound.few_elements found)
  · split at shape
    · rename_i readable
      cases shape
      exact sound.ownFields readable
    · simp at shape

end Store

end Conform
