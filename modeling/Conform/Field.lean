import Conform.Descriptor
import Conform.Enumerated

namespace Conform

/-- Entries read in order, up to a fault that may end the reading, or the integers of a
progression under their places. -/
inductive Entries where
  | listed (items : List (Value × Value)) (fault? : Option Fault)
  | counted (progression : Progression)
deriving DecidableEq

/-- The integer of a progression at a place, under that place. -/
def Progression.entry (progression : Progression) (place : Nat) : Value × Value :=
  (.integer place, .integer (progression.item place))

namespace Entries

def items : Entries → List (Value × Value)
  | .listed items _ => items
  | .counted progression => (List.range progression.count).map progression.entry

def fault? : Entries → Option Fault
  | .listed _ fault? => fault?
  | .counted _ => none

def complete (items : List (Value × Value)) : Entries := .listed items none

def ofFields (fields : Fields) : Entries :=
  complete (fields.map fun (name, value) => (.text name, value))

def after (entry : Value × Value) (rest : Entries) : Entries :=
  .listed (entry :: rest.items) rest.fault?

/-- The values that are read under names in the order of a declaration, up to the first name
under which nothing is found. -/
def ofDeclared (read : String → Except Fault (Option Value)) : List String → Entries
  | [] => complete []
  | name :: rest =>
    match read name with
    | .ok (some value) => after (.text name, value) (ofDeclared read rest)
    | .ok none => .listed [] (some .noAttribute)
    | .error fault => .listed [] (some fault)

/-- All entries, unless a fault ends the reading. -/
def all (entries : Entries) : Except Fault (List (Value × Value)) :=
  match entries.fault? with
  | none => .ok entries.items
  | some fault => .error fault

end Entries

def MemberOf.own (member : MemberOf) (owner : Ref) (index : Nat) : Fields :=
  [("_value_", member.value), ("_name_", .text member.name), ("__objclass__", .object owner),
    ("_sort_order_", .integer index)]

def Value.contentFields : Value → Fields
  | .wrapped content => [("data", .text content)]
  | _ => []

/-- The own fields of a wrapped text as entries. -/
def Value.contentEntries (value : Value) : List (Value × Value) :=
  (Entries.ofFields value.contentFields).items

namespace Store

/-- The attributes that a value has besides its parts. Those of a member are its own
fields until one of them changes. -/
def attributes (store : Store) (value : Value) : Attributes :=
  let attached := store.attributesOf value
  match value, store.member? value with
  | .member owner index, some member =>
    if attached = .empty then .ofFields (member.own owner index) else attached
  | _, _ => attached

/-- The attribute of a member, whose value and name go by names of their own. -/
def memberAttribute? (store : Store) (owner : Ref) (index : Nat) (name : String) :
    Option Value :=
  let own := store.attributes (.member owner index)
  if name = "value" then own.named? "_value_"
  else if name = "name" then own.named? "_name_"
  else
    (own.named? name).or
      ((store.member? (.member owner index)).bind fun member =>
        namedMember? owner member.type name)

/-- The container kind that a descriptor of containers computes from its text. A text that is none
is as if there were no kind. -/
def kindAttribute (store : Store) (kindName : Value) : Except Fault (Option Value) :=
  match store.containerKind? kindName with
  | .ok known => .ok (some ((known.map ContainerKind.toValue).getD .null))
  | .error .noAttribute => .ok none
  | .error fault => .error fault

/-- The attribute of an object; an absent one is `none`. What the types of objects define for all
of them is left out, such as their methods and the list of its names that a table makes when it
is asked for one. -/
def objectAttribute (store : Store) (ref : Ref) (object : Object) (name : String) :
    Except Fault (Option Value) :=
  match object with
  | .plain whole =>
    match whole.failing.find? fun failure => failure.1 = name with
    | some (_, .absent) => .ok none
    | some (_, .error) => .error .failedAttribute
    | none => .ok ((whole.own.named? name).or (whole.inherited.named? name))
  | .slotted whole => .ok ((whole.own.named? name).or (whole.inherited.named? name))
  | .record whole => .ok (whole.own.named? name)
  | .model whole =>
    .ok (((whole.own.named? name).or (whole.hidden.named? name)).or (whole.extra.named? name))
  | .sequence (.named _ labels) items => .ok (Fields.named? (labels.zip items) name)
  | .derived base => .ok (base.contentFields.named? name)
  | .enumType type => .ok (namedMember? ref type name)
  | .table own => .ok (own.named? name)
  | .container kindName element =>
    if name = "kind" then store.kindAttribute kindName
    else .ok (Fields.named? [("kind_name", kindName), ("element", element)] name)
  | other =>
    match other.frozen? with
    | some (_, fields) => .ok (Fields.named? fields name)
    | none => .ok none

/-- The attribute of a value; an absent one is `none`. -/
def attributeOf (store : Store) (value : Value) (name : String) : Except Fault (Option Value) := do
  let attached := (store.attributesOf value).named? name
  match value with
  | .complex re im =>
    return Fields.named? [("real", .number (.float re)), ("imag", .number (.float im))] name
  | .wrapped _ => return (value.contentFields.named? name).or attached
  | .member owner index =>
    return store.memberAttribute? owner index name
  | .object ref => return (← store.objectAttribute ref (store.read ref) name).or attached
  | _ => return attached

def attributeNamed (store : Store) (value name : Value) : Except Fault (Option Value) :=
  match store.string? name with
  | some content => store.attributeOf value content
  | none => .error .unsuitable

def requiredAttribute (store : Store) (value name : Value) : Except Fault Value := do
  match ← store.attributeNamed value name with
  | some attributeValue => return attributeValue
  | none => throw .noAttribute

/-- The field of a model that a name stands for: the field of that name, else the first
with that alias. A field without an alias has null for one. -/
def modelFieldName (store : Store) (model : Model) (name : Value) : Value :=
  let second (field : ModelField) : Value := (field.alias?.map Value.text).getD .null
  match model.fields.find? fun field => store.agrees (.text field.name) name with
  | some _ => name
  | none =>
    match model.fields.find? fun field => store.agrees (second field) name with
    | some field => .text field.name
    | none => name

/-- The field that a value holds under a name. An absent field is undefined. -/
def field (store : Store) (value name : Value) : Except Fault Value :=
  match store.mapping? value with
  | some entries => do
    store.requireHashable name
    return (store.find? entries name).getD .undefined
  | none => do
    let resolved ←
      match store.object? value with
      | some (.model model) => do
        store.requireHashable name
        pure (store.modelFieldName model name)
      | _ => pure name
    return (← store.attributeNamed value resolved).getD .undefined

/-- The fields that a value holds itself, in order. Declared ones are read as any attribute is. -/
def ownFields (store : Store) (value : Value) : Entries :=
  let attached := (store.attributes value).entries
  match value with
  | .wrapped _ => .complete (value.contentEntries ++ attached)
  | .object ref =>
    match store.read ref with
    | .mapping _ entries => .complete entries
    | .model model => .ofDeclared (store.attributeOf value) (model.fields.map ModelField.name)
    | .record record => .ofDeclared (store.attributeOf value) record.declared
    | .plain whole => .complete whole.own.entries
    | .table own => .complete own.entries
    | .derived base => .complete (base.contentEntries ++ attached)
    | object =>
      match object.frozen? with
      | some (_, fields) => .ofFields fields
      | none => .complete attached
  | _ => .complete attached

/-- Values keyed by their place. -/
def numbered (values : List Value) : List (Value × Value) :=
  values.zipIdx.map fun (value, index) => (.integer index, value)

def seriesEntries : Series → Entries
  | .listed items => .complete (numbered items)
  | .counted progression => .counted progression

/-- The entries of a container: those of a mapping under their keys, the items of a
sequence or set under their places, the fields of any other object under their names.
Strings, bytes and values without parts are no containers. -/
def entries? (store : Store) (value : Value) : Option Entries :=
  match store.mapping? value, store.sequence? value, store.elements? value with
  | some entries, _, _ => some (.complete entries)
  | none, some series, _ => some (seriesEntries series)
  | none, none, some elements => some (.complete (numbered elements))
  | none, none, none => if store.hasFields value then some (store.ownFields value) else none

end Store

end Conform
