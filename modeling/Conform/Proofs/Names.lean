import Conform.Mutation
import Conform.Proofs.Attributes
import Conform.Proofs.Checks

/-! Names that are strings: they agree when their characters do, they find an entry under a
plain name or an attribute alike, and they pass by what is stored under other names. -/

namespace Conform

namespace Store

variable {store : Store} {value name : Value} {content : String} {fields : Fields}

theorem real_of_string (string : store.string? name = some content) : store.real? name = none := by
  have based := base_of_string string
  have noNumber : store.number? name = none := by simp [number?, based]
  cases name with
  | boolean flag => simp [base, member?, object?] at based
  | _ => simp [real?, noNumber]

theorem quantity_of_string (string : store.string? name = some content) :
    store.quantity? name = none := by
  have based := base_of_string string
  have noReal := real_of_string string
  cases name with
  | complex re im => simp [base, member?, object?] at based
  | decimal written => simp [base, member?, object?] at based
  | _ => simp [quantity?, noReal]

theorem exists_comparisonDepth (store : Store) : ∃ depth, store.comparisonDepth = depth + 1 :=
  ⟨store.comparisonDepth - 1, by
    have positive : 0 < store.comparisonDepth := Nat.mul_pos (by omega) (by omega)
    omega⟩

/-- Strings are found by their characters, whatever they are besides. -/
theorem agrees_of_strings {other : Value} {spelled : String}
    (left : store.string? other = some spelled) (right : store.string? name = some content) :
    store.agrees other name = decide (spelled = content) := by
  obtain ⟨depth, deep⟩ := store.exists_comparisonDepth
  have equal : store.equal other name = .ok (decide (spelled = content)) := by
    simp [Store.equal, deep, equalWithin, quantity_of_string left, quantity_of_string right,
      content_of_string left, content_of_string right]
  by_cases same : other = name
  · subst same
    obtain rfl : spelled = content := Option.some.inj (left.symm.trans right)
    simp [agrees, quietly, matching]
  · simp [agrees, quietly, matching, same, equal]

theorem agrees_self (store : Store) (key : Value) : store.agrees key key = true := by
  simp [agrees, quietly, matching]

theorem content_of_quantity {quantity : Quantity} (counts : store.quantity? value = some quantity) :
    store.content? value = none := by
  have of_real (real : store.real? value ≠ none) : store.content? value = none := by
    cases value with
    | boolean flag => simp [content?, base, member?, object?]
    | _ =>
      simp only [real?, number?] at real
      split at real
      · rename_i based
        simp [content?, based]
      · simp at real
  cases value with
  | complex re im => simp [content?, base, member?, object?]
  | decimal written => simp [content?, base, member?, object?]
  | _ =>
    refine of_real fun absent => ?_
    simp [quantity?, absent] at counts

/-- A plain name finds every text with its characters, also a wrapped one. -/
theorem agrees_text (store : Store) (key : Value) (content : String) :
    store.agrees key (.text content) = decide (store.content? key = some content) := by
  obtain ⟨depth, deep⟩ := store.exists_comparisonDepth
  have spelled : store.content? (.text content) = some content := rfl
  have uncounted : store.quantity? (.text content) = none := quantity_of_string rfl
  by_cases same : key = .text content
  · subst same
    simp [agrees_self, spelled]
  · have equal : store.equal key (.text content) =
        .ok (decide (store.content? key = some content)) := by
      simp only [Store.equal, deep, equalWithin, uncounted, spelled]
      cases counts : store.quantity? key with
      | some quantity => simp [content_of_quantity counts]
      | none => cases store.content? key <;> simp
    simp [agrees, quietly, matching, same, equal]

/-- A name finds what it finds among fields that are spelled plainly. -/
theorem find?_of_named (string : store.string? name = some content) (fields : Fields) :
    store.find? (fields.map fun field => (.text field.1, field.2)) name =
      fields.named? content := by
  have each (field : String × Value) :
      store.agrees (.text field.1) name = decide (field.1 = content) :=
    agrees_of_strings rfl string
  simp only [find?, Fields.named?, List.find?_map, Function.comp_def, each, Option.map_map]

theorem find?_of_distinct {entries : List (Value × Value)} {entry : Value × Value}
    (distinct : entries.Pairwise fun one other => store.agrees one.1 other.1 = false)
    (member : entry ∈ entries) : store.find? entries entry.1 = some entry.2 := by
  induction entries with
  | nil => cases member
  | cons head rest inductionHypothesis =>
    obtain ⟨apart, distinct⟩ := List.pairwise_cons.mp distinct
    rcases List.mem_cons.mp member with rfl | deeper
    · simp [find?, agrees_self]
    · simpa [find?, apart entry deeper] using inductionHypothesis distinct deeper

theorem put_of_absent {entries : List (Value × Value)} {key : Value}
    (absent : ∀ entry ∈ entries, store.agrees entry.1 key = false) :
    store.put entries key value = entries ++ [(key, value)] := by
  induction entries with
  | nil => rfl
  | cons entry rest inductionHypothesis =>
    obtain ⟨first, others⟩ := List.forall_mem_cons.mp absent
    simp [put, first, inductionHypothesis others]

/-- An entry was there before or has the new value, under the new key or under one that was there
before and is taken for it. -/
theorem mem_put {entries : List (Value × Value)} {key value : Value} {entry : Value × Value}
    (member : entry ∈ store.put entries key value) :
    entry ∈ entries ∨ entry.2 = value ∧ (entry.1 = key ∨
      store.agrees entry.1 key = true ∧ ∃ before ∈ entries, entry.1 = before.1) := by
  induction entries with
  | nil =>
    right
    rw [List.mem_singleton.mp member]
    exact ⟨rfl, Or.inl rfl⟩
  | cons head rest inductionHypothesis =>
    unfold put at member
    split at member
    · rename_i taken
      rcases List.mem_cons.mp member with rfl | deeper
      · exact Or.inr ⟨rfl, Or.inr ⟨taken, head, List.mem_cons_self, rfl⟩⟩
      · exact Or.inl (List.mem_cons_of_mem _ deeper)
    · rcases List.mem_cons.mp member with rfl | deeper
      · exact Or.inl List.mem_cons_self
      · rcases inductionHypothesis deeper with there | ⟨new, same | ⟨taken, before, present, kept⟩⟩
        · exact Or.inl (List.mem_cons_of_mem _ there)
        · exact Or.inr ⟨new, Or.inl same⟩
        · exact Or.inr ⟨new, Or.inr ⟨taken, before, List.mem_cons_of_mem _ present, kept⟩⟩

theorem key_of_mem_put {entries : List (Value × Value)} {key value : Value}
    {entry : Value × Value} (member : entry ∈ store.put entries key value) :
    (∃ before ∈ entries, entry.1 = before.1) ∨ entry.1 = key := by
  rcases mem_put member with there | ⟨-, same | ⟨-, kept⟩⟩
  · exact Or.inl ⟨entry, there, rfl⟩
  · exact Or.inr same
  · exact Or.inl kept

end Store

end Conform
