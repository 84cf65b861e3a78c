import Conform.Mutation
import Conform.Term
import Conform.Proofs.Names

/-! Revision of objects. Giving items to a mapping, a sequence or an array of bytes, or taking them
from it, changes nothing but its items: a mapping keeps its form, and no two keys come to stand in
it that are taken for one another. -/

namespace Conform

/-- Entries no two keys of which are alike, in a given way. -/
def Unrepeated (alike : Value → Value → Prop) (entries : List (Value × Value)) : Prop :=
  entries.Pairwise fun one other => ¬ alike one.1 other.1

/-- What may become of an object when items are given to it or taken from it. -/
inductive Object.Revises (alike : Value → Value → Prop) : Object → Object → Prop where
  | same (object : Object) : Revises alike object object
  | mapping (form : MappingForm) {before after : List (Value × Value)}
      (kept : Unrepeated alike before → Unrepeated alike after) :
      Revises alike (.mapping form before) (.mapping form after)
  | sequence (form : SequenceForm) (before after : List Value) :
      Revises alike (.sequence form before) (.sequence form after)
  | bytes (before after : List UInt8) : Revises alike (.byteArray before) (.byteArray after)

variable {alike : Value → Value → Prop}

theorem Object.Revises.trans {first second third : Object} (here : first.Revises alike second)
    (there : second.Revises alike third) : first.Revises alike third := by
  cases here with
  | same => exact there
  | mapping form kept =>
    cases there with
    | same => exact .mapping form kept
    | mapping _ later => exact .mapping form fun before => later (kept before)
  | sequence form before after =>
    cases there with
    | same => exact .sequence form before after
    | sequence _ _ last => exact .sequence form before last
  | bytes before after =>
    cases there with
    | same => exact .bytes before after
    | bytes _ last => exact .bytes before last

/-- Nothing is alike in a way in which nothing is, so all but the keys is revised as before. -/
theorem Object.Revises.loosely {object later : Object} (revised : object.Revises alike later) :
    object.Revises (fun _ _ => False) later := by
  cases revised with
  | same => exact .same object
  | mapping form _ =>
    exact .mapping form fun _ => List.pairwise_of_forall fun _ _ => id
  | sequence form before after => exact .sequence form before after
  | bytes before after => exact .bytes before after

/-- An object whose items may change. -/
def Object.isRevisable : Object → Bool
  | .mapping .. | .sequence .. | .byteArray _ => true
  | _ => false

theorem Object.Revises.eq_of_fixed {object later : Object} (revised : object.Revises alike later)
    (fixed : object.isRevisable = false) : later = object := by
  cases revised with
  | same => rfl
  | mapping | sequence | bytes => cases fixed

namespace Store

variable {store : Store}

/-- What is alike is taken for one another. -/
def Identifies (store : Store) (alike : Value → Value → Prop) : Prop :=
  ∀ one other, alike one other → store.agrees one other = true

/-- A new key is put behind entries that it is not taken for; one that is a key already is. -/
theorem unrepeated_put {entries : List (Value × Value)} (unrepeated : Unrepeated alike entries)
    (identifies : store.Identifies alike) (key value : Value) :
    Unrepeated alike (store.put entries key value) := by
  induction entries with
  | nil => exact List.pairwise_singleton _ _
  | cons entry rest inductionHypothesis =>
    obtain ⟨apart, unrepeated⟩ := List.pairwise_cons.mp unrepeated
    unfold put
    split
    · exact List.pairwise_cons.mpr ⟨apart, unrepeated⟩
    · rename_i different
      refine List.pairwise_cons.mpr ⟨?_, inductionHypothesis unrepeated⟩
      intro other member again
      rcases key_of_mem_put member with ⟨before, present, same⟩ | new
      · exact apart before present (same ▸ again)
      · exact different (identifies _ _ (new ▸ again))

theorem unrepeated_filter {entries : List (Value × Value)} (unrepeated : Unrepeated alike entries)
    (keep : Value × Value → Bool) : Unrepeated alike (entries.filter keep) :=
  unrepeated.sublist List.filter_sublist

theorem revises_withItem {object changed : Object} {key value : Value}
    (identifies : store.Identifies alike)
    (given : store.withItem object key value = .ok changed) : object.Revises alike changed := by
  unfold withItem at given
  split at given
  · split at given
    · obtain ⟨_, -, made⟩ := ok_of_bind_ok given
      cases made
      exact .mapping _ fun before => unrepeated_put before identifies key value
    · cases given
  · split at given
    · obtain ⟨index, -, placed⟩ := ok_of_bind_ok given
      obtain ⟨counted, -, made⟩ := ok_of_bind_ok placed
      cases made
      exact .sequence _ _ _
    · cases given
  · obtain ⟨index, -, written⟩ := ok_of_bind_ok given
    obtain ⟨byte, -, placed⟩ := ok_of_bind_ok written
    obtain ⟨counted, -, made⟩ := ok_of_bind_ok placed
    cases made
    exact .bytes _ _
  · cases given

theorem revises_withoutItem {object changed : Object} {key : Value}
    (taken : store.withoutItem object key = .ok changed) : object.Revises alike changed := by
  unfold withoutItem at taken
  split at taken
  · split at taken
    · obtain ⟨_, -, found⟩ := ok_of_bind_ok taken
      split at found
      · cases found
        exact .mapping _ fun before => unrepeated_filter before _
      · cases found
    · cases taken
  · split at taken
    · obtain ⟨index, -, placed⟩ := ok_of_bind_ok taken
      obtain ⟨counted, -, made⟩ := ok_of_bind_ok placed
      cases made
      exact .sequence _ _ _
    · cases taken
  · obtain ⟨index, -, placed⟩ := ok_of_bind_ok taken
    obtain ⟨counted, -, made⟩ := ok_of_bind_ok placed
    cases made
    exact .bytes _ _
  · cases taken

theorem revises_withAppended {object changed : Object} {value : Value}
    (added : store.withAppended object value = .ok changed) : object.Revises alike changed := by
  unfold withAppended at added
  split at added
  · split at added
    · cases added
      exact .sequence _ _ _
    · cases added
  · obtain ⟨byte, -, made⟩ := ok_of_bind_ok added
    cases made
    exact .bytes _ _
  · cases added

end Store

end Conform
