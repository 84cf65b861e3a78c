import Conform.Value

/-! Attributes: values by name, in the order of their names' first assignment. A name may
have been given by a value other than the plain text, which is kept. -/

namespace Conform

/-- Named values, with the values that some of the names were given by. -/
structure Attributes where
  fields : Fields
  spellings : Fields
deriving DecidableEq

namespace Attributes

def empty : Attributes := ⟨[], []⟩

/-- Attributes under plain names; a name that occurs again gives its first value up. -/
def ofFields (fields : Fields) : Attributes :=
  ⟨fields.foldl (fun own (name, value) => own.put name value) [], []⟩

def named? (attributes : Attributes) (name : String) : Option Value :=
  attributes.fields.named? name

/-- The text under a name, or another where there is none. -/
def textOr (attributes : Attributes) (name otherwise : String) : String :=
  match attributes.named? name with
  | some (.text content) => content
  | _ => otherwise

/-- Gives a name a value. The spelling counts when the name is new. -/
def put (attributes : Attributes) (name : String) (spelling value : Value) : Attributes where
  fields := attributes.fields.put name value
  spellings :=
    if (attributes.named? name).isSome || spelling = .text name then attributes.spellings
    else attributes.spellings.put name spelling

def without (attributes : Attributes) (name : String) : Attributes :=
  ⟨attributes.fields.without name, attributes.spellings.without name⟩

/-- The values under their names as these were given. -/
def entries (attributes : Attributes) : List (Value × Value) :=
  attributes.fields.map fun (name, value) =>
    ((attributes.spellings.named? name).getD (.text name), value)

/-- The values that attributes hold, with those that spell their names. -/
def parts (attributes : Attributes) : List Value :=
  attributes.fields.map Prod.snd ++ attributes.spellings.map Prod.snd

theorem named?_put_same (attributes : Attributes) (name : String) (spelling value : Value) :
    (attributes.put name spelling value).named? name = some value :=
  Fields.named?_put_same attributes.fields name value

theorem named?_put_of_ne (attributes : Attributes) (name other : String)
    (spelling value : Value) (different : other ≠ name) :
    (attributes.put name spelling value).named? other = attributes.named? other :=
  Fields.named?_put_of_ne attributes.fields name other value different

theorem named?_without_same (attributes : Attributes) (name : String) :
    (attributes.without name).named? name = none :=
  Fields.named?_without_same attributes.fields name

theorem named?_without_of_ne (attributes : Attributes) (name other : String)
    (different : other ≠ name) :
    (attributes.without name).named? other = attributes.named? other :=
  Fields.named?_without_of_ne attributes.fields name other different

theorem mem_parts_of_named? {attributes : Attributes} {name : String} {value : Value}
    (found : attributes.named? name = some value) : value ∈ attributes.parts :=
  List.mem_append_left _ (List.mem_map_of_mem (Fields.mem_of_named? found))

/-- The values of entries are parts, and so are their keys but for plain names. -/
theorem parts_of_mem_entries {attributes : Attributes} {entry : Value × Value}
    (member : entry ∈ attributes.entries) :
    ((∃ name, entry.1 = .text name) ∨ entry.1 ∈ attributes.parts) ∧
      entry.2 ∈ attributes.parts := by
  obtain ⟨⟨name, value⟩, present, rfl⟩ := List.mem_map.mp member
  refine ⟨?_, List.mem_append_left _ (List.mem_map_of_mem present)⟩
  cases spelled : attributes.spellings.named? name with
  | none => exact Or.inl ⟨name, by simp [spelled]⟩
  | some spelling =>
    refine Or.inr (List.mem_append_right _ ?_)
    simpa [spelled] using List.mem_map_of_mem (f := Prod.snd) (Fields.mem_of_named? spelled)

end Attributes

end Conform
