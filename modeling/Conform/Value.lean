import Conform.Number

/-! Values that checks are applied to. A value without parts stands for itself; one
with parts is a reference to an object in a store. -/

namespace Conform

structure Ref where
  address : Nat
deriving DecidableEq

/-- Types that are values themselves. -/
inductive BuiltinType where
  | integer
  | text
  | boolean
  | object
deriving DecidableEq

/-- A value. Two references are the same value when their addresses are; any other
value is the same as each one written alike. A wrapped text is a sequence of wrapped
texts of one character each and not a string. -/
inductive Value where
  | null
  | undefined
  | boolean (flag : Bool)
  | number (number : Number)
  | text (content : String)
  | wrapped (content : String)
  | decimal (decimal : Decimal)
  | complex (re im : Binary64)
  | bytes (bytes : List UInt8)
  | builtin (type : BuiltinType)
  | member (owner : Ref) (index : Nat)
  | object (ref : Ref)
deriving DecidableEq

namespace Value

def integer (value : Int) : Value := .number (.integer value)

def isAbsent : Value → Bool
  | .null | .undefined => true
  | _ => false

end Value

/-- Named parts in their order. -/
abbrev Fields := List (String × Value)

def Fields.named? (fields : Fields) (name : String) : Option Value :=
  (fields.find? fun field => field.1 = name).map Prod.snd

/-- Gives a named part a value: in its place if it is there, at the end otherwise. -/
def Fields.put : Fields → String → Value → Fields
  | [], name, value => [(name, value)]
  | field :: rest, name, value =>
    if field.1 = name then (name, value) :: rest else field :: Fields.put rest name value

def Fields.without (fields : Fields) (name : String) : Fields :=
  fields.filter fun field => field.1 ≠ name

theorem Fields.mem_of_named? {fields : Fields} {name : String} {value : Value}
    (found : fields.named? name = some value) : (name, value) ∈ fields := by
  obtain ⟨field, first, rfl⟩ := Option.map_eq_some_iff.mp found
  have same : field.1 = name := by simpa using List.find?_some first
  rw [← same]
  exact List.mem_of_find?_eq_some first

theorem Fields.named?_put_same (fields : Fields) (name : String) (value : Value) :
    (fields.put name value).named? name = some value := by
  induction fields with
  | nil => simp [Fields.put, Fields.named?]
  | cons head rest inductionHypothesis =>
      by_cases same : head.1 = name
      · simp [Fields.put, Fields.named?, same]
      · simpa [Fields.put, Fields.named?, same] using inductionHypothesis

theorem Fields.named?_put_of_ne (fields : Fields) (name other : String) (value : Value)
    (different : other ≠ name) : (fields.put name value).named? other = fields.named? other := by
  have apart : name ≠ other := different.symm
  induction fields with
  | nil => simp [Fields.put, Fields.named?, apart]
  | cons head rest inductionHypothesis =>
      by_cases same : head.1 = name
      · simp [Fields.put, Fields.named?, same, apart]
      · by_cases here : head.1 = other
        · subst here
          simp [Fields.put, Fields.named?, same]
        · simpa [Fields.put, Fields.named?, same, here] using inductionHypothesis

theorem Fields.named?_without_same (fields : Fields) (name : String) :
    (fields.without name).named? name = none := by
  simp [Fields.without, Fields.named?]

theorem Fields.named?_without_of_ne (fields : Fields) (name other : String)
    (different : other ≠ name) : (fields.without name).named? other = fields.named? other := by
  have kept (field : String × Value) :
      (decide (field.1 ≠ name) && decide (field.1 = other)) = decide (field.1 = other) := by
    by_cases here : field.1 = other
    · simp [here, different]
    · simp [here]
  simp only [Fields.without, Fields.named?, List.find?_filter]
  congr 2
  funext field
  simpa using kept field

end Conform
