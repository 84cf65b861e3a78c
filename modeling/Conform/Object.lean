import Conform.Function
import Conform.Attributes
import Conform.Progression

/-! Objects: what a reference leads to. Their parts are values, so an object may lead
back to itself. What a type defines for all of its objects, such as methods, is left out, but
for what plain and slotted objects inherit. So are the hashes of keys: a mapping is searched by
what its keys are equal to at the time. And a member of an enumerated type is one of those
declared, never one composed of several. -/

namespace Conform

/-- The forms of a mapping. Only the first two can be changed. -/
inductive MappingForm where
  | plain
  | ordered
  | readOnly
  | custom (callable : Bool)
deriving DecidableEq

/-- The forms of a sequence. A named one is a tuple with a label for each position. -/
inductive SequenceForm where
  | list
  | tuple
  | deque
  | named (typeName : String) (labels : List String)
  | custom (callable : Bool)
deriving DecidableEq

/-- What a view shows of its mapping. -/
inductive ViewPart where
  | keys
  | items
  | values
deriving DecidableEq

/-- How a computed attribute fails: as if it were absent, or with an error of its own. -/
inductive AttributeFailure where
  | absent
  | error
deriving DecidableEq

/-- An object with attributes of its own and attributes shared by its type. -/
structure Plain where
  typeName : String
  own : Attributes
  inherited : Fields
  failing : List (String × AttributeFailure)
  callable : Bool
deriving DecidableEq

/-- An object whose attributes are a fixed list of slots, some of them empty. -/
structure Slotted where
  typeName : String
  slots : List String
  own : Fields
  inherited : Fields
deriving DecidableEq

/-- An object whose type declares its fields. Types of one name with different origins
differ. `own` holds the fields that are set, in the order of their assignment, and may
hold undeclared ones. -/
structure Record where
  typeName : String
  origin : Nat
  declared : List String
  own : Fields
  callable : Bool
deriving DecidableEq

/-- A declared field of a model, which may also be known by an alias. -/
structure ModelField where
  name : String
  alias? : Option String
deriving DecidableEq

/-- An object whose type declares fields with aliases. `own` holds the declared fields
that are set, `hidden` those whose names start with an underscore, and `extra` other
undeclared ones, if the type admits any. -/
structure Model where
  typeName : String
  origin : Nat
  fields : List ModelField
  own : Fields
  hidden : Fields
  extra : Fields
  admitsExtra : Bool
deriving DecidableEq

/-- The fields that a model gives when it is gone through. -/
def Model.shownFields (model : Model) : Fields := model.own ++ model.extra

/-- The fields that the form of the model at an address shows. A declared one that holds the
model itself is shown by a text in its place. -/
def Model.writtenFields (model : Model) (self : Ref) : Fields :=
  let notice := "<Recursion on " ++ model.typeName ++ " with id=" ++ toString self.address ++ ">"
  model.own.map (fun field => (field.1, if field.2 = .object self then .text notice else field.2)) ++
    model.extra

/-- The types that members of an enumerated type belong to besides it. A `textual`
member is shown as its text, a `text` member as its name. -/
inductive EnumBase where
  | plain
  | integer
  | text
  | textual
deriving DecidableEq

/-- An enumerated type. An alias is a further name of a member. -/
structure EnumType where
  name : String
  base : EnumBase
  members : Fields
  aliases : List (String × Nat)
deriving DecidableEq

/-- An object in a store. A derived one has a type that extends the type of its base: it
is used like the base but has an identity of its own. -/
inductive Object where
  | mapping (form : MappingForm) (entries : List (Value × Value))
  | sequence (form : SequenceForm) (items : List Value)
  | range (start stop step : Int)
  | set (frozen : Bool) (items : List Value)
  | view (part : ViewPart) (items : List Value)
  | generator (items : List Value)
  | byteArray (bytes : List UInt8)
  | derived (base : Value)
  | bare
  | plain (object : Plain)
  | slotted (object : Slotted)
  | record (record : Record)
  | model (model : Model)
  | function (function : Function)
  | enumType (type : EnumType)
  | noCheck
  | predicate (test : Value)
  | enumeration (name : String) (values : Value)
  | rule (type check : Value)
  | outcome (ok error : Value)
  | container (kindName element : Value)
  | table (own : Attributes)
deriving DecidableEq

namespace Object

/-- The type name and the fields of an object that belongs to the library's own frozen
records: checks, rules, outcomes and descriptors. -/
def frozen? : Object → Option (String × Fields)
  | .noCheck => some ("NoCheck", [])
  | .predicate test => some ("Predicate", [("func", test)])
  | .enumeration name values => some ("EnumDefinition", [("name", .text name), ("values", values)])
  | .rule type check => some ("TypeRule", [("type", type), ("check", check)])
  | .outcome ok error => some ("CheckResult", [("ok", ok), ("error", error)])
  | .container kindName element =>
    some ("ContainerDescriptor", [("kind_name", kindName), ("element", element)])
  | _ => none

/-- The elements of a set. Views of keys and of entries are sets, views of values are
not. -/
def elements? : Object → Option (List Value)
  | .set _ items | .view .keys items | .view .items items => some items
  | _ => none

/-- The values that an object holds directly. -/
def parts : Object → List Value
  | .mapping _ entries => entries.flatMap fun entry => [entry.1, entry.2]
  | .sequence _ items | .set _ items | .view _ items | .generator items => items
  | .range .. | .byteArray _ | .bare | .noCheck => []
  | .plain whole => whole.own.parts ++ whole.inherited.map Prod.snd
  | .slotted whole => whole.own.map Prod.snd ++ whole.inherited.map Prod.snd
  | .record whole => whole.own.map Prod.snd
  | .model whole =>
    whole.own.map Prod.snd ++ whole.hidden.map Prod.snd ++ whole.extra.map Prod.snd
  | .function (.constant value) | .function (.equalTo value) | .function (.below value) => [value]
  | .function _ => []
  | .enumType type => type.members.map Prod.snd
  | .derived value | .predicate value => [value]
  | .enumeration _ values => [values]
  | .rule type check => [type, check]
  | .outcome ok error => [ok, error]
  | .container kindName element => [kindName, element]
  | .table own => own.parts

/-- What holds of all keys and items of a mapping holds of those of each entry. -/
theorem each_entry {holds : Value → Prop} {entries : List (Value × Value)}
    (each : ∀ part ∈ entries.flatMap fun entry => [entry.1, entry.2], holds part) :
    ∀ entry ∈ entries, holds entry.1 ∧ holds entry.2 := by
  intro entry member
  have among (part : Value) (either : part ∈ [entry.1, entry.2]) : holds part :=
    each part (List.mem_flatMap.mpr ⟨entry, member, either⟩)
  exact ⟨among entry.1 (by simp), among entry.2 (by simp)⟩

/-- The values that the form of the object at an address is made of. -/
def written (self : Ref) : Object → List Value
  | .mapping (.custom _) _ | .sequence (.custom _) _ => []
  | .mapping _ entries => entries.flatMap fun entry => [entry.1, entry.2]
  | .sequence _ items | .set _ items | .view _ items => items
  | .derived base => [base]
  | .record whole => whole.own.map Prod.snd
  | .model whole => (whole.writtenFields self).map Prod.snd
  | .table own => (own.named? "rules").toList
  | .enumeration name values => [.text name, values]
  | .predicate test => [test]
  | .rule type check => [type, check]
  | .outcome ok error => [ok, error]
  | .container kindName element => [kindName, element]
  | _ => []

/-- An object that has all the fields that its type declares. -/
def isComplete : Object → Bool
  | .record whole => whole.declared.all fun name => (whole.own.named? name).isSome
  | .model whole => whole.fields.all fun field => (whole.own.named? field.name).isSome
  | _ => true

/-- An object that has the part that its form is made of, and no more items than there are numbers
to write: a table may lack its rules, and a range may have bounds of too many digits. -/
def isLegible : Object → Bool
  | .table own => (own.named? "rules").isSome
  | .sequence _ items | .set _ items | .view _ items => items.length ≤ Integer.limit
  | .range start stop step =>
    [start, stop, step].all (fun bound => (Integer.text? bound).isSome) &&
      (Progression.ofBounds start stop step).count ≤ Integer.limit
  | _ => true

end Object

end Conform
