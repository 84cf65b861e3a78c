import Conform.Store

namespace Conform

inductive Kind where
  | undefined
  | boolean
  | number
  | string
  | function
  | object
deriving DecidableEq

def Kind.name : Kind → String
  | .undefined => "undefined"
  | .boolean => "boolean"
  | .number => "number"
  | .string => "string"
  | .function => "function"
  | .object => "object"

/-- The type of an enumerated type's member, with the member's name and value and with
the content that it has by its base, which stays when another value is set. -/
structure MemberOf where
  type : EnumType
  name : String
  value : Value
  content : Value

namespace Store

def member? (store : Store) : Value → Option MemberOf
  | .member owner index =>
    match store.read owner with
    | .enumType type =>
      let attached := store.attributesOf (.member owner index)
      type.members[index]?.map fun (name, value) =>
        { type
          name := attached.textOr "_name_" name
          value := (attached.named? "_value_").getD value
          content := value }
    | _ => none
  | _ => none

/-- What a value is used as: a member of an enumerated type with a base as its value, an
object of a derived type as its base, and any other value as itself. -/
def base (store : Store) (value : Value) : Value :=
  match store.member? value, store.object? value with
  | some member, _ => if member.type.base = .plain then value else member.content
  | none, some (.derived base) => base
  | none, _ => value

/-- The characters of a string. A wrapped text is not a string. -/
def string? (store : Store) (value : Value) : Option String :=
  match store.base value with
  | .text content => some content
  | _ => none

theorem base_of_string {store : Store} {value : Value} {content : String}
    (string : store.string? value = some content) : store.base value = .text content := by
  unfold string? at string
  split at string
  · rename_i here
    rw [here, Option.some.inj string]
  · simp at string

/-- The characters of a text of any form. -/
def content? (store : Store) (value : Value) : Option String :=
  match store.base value with
  | .text content | .wrapped content => some content
  | _ => none

/-- The number that a value is by its type. -/
def number? (store : Store) (value : Value) : Option Number :=
  match store.base value with
  | .number number => some number
  | _ => none

/-- The integer that a value is; truth values count as one and zero. -/
def integer? (store : Store) : Value → Option Int
  | .boolean flag => some (if flag then 1 else 0)
  | value => (store.number? value).bind Number.integer?

/-- The exact value of a real number, truth values included. -/
def real? (store : Store) : Value → Option Exact
  | .boolean flag => some (.finite (if flag then 1 else 0))
  | value => (store.number? value).map Number.exact

def callable (store : Store) : Value → Bool
  | .builtin _ => true
  | .object ref =>
    match store.read ref with
    | .function _ | .enumType _ | .predicate _ => true
    | .mapping (.custom callable) _ | .sequence (.custom callable) _ => callable
    | .plain whole => whole.callable
    | .record whole => whole.callable
    | _ => false
  | _ => false

/-- The kind of a value. Null is an object, and numbers without an order are objects. -/
def kind (store : Store) (value : Value) : Kind :=
  match value with
  | .undefined => .undefined
  | .boolean _ => .boolean
  | _ =>
    if (store.number? value).isSome then .number
    else if (store.string? value).isSome then .string
    else if store.callable value then .function
    else .object

def typeName (store : Store) : Value → String
  | .null => "NoneType"
  | .undefined => "_Undefined"
  | .boolean _ => "bool"
  | .number (.integer _) => "int"
  | .number (.float _) => "float"
  | .number (.fraction _) => "Fraction"
  | .text _ => "str"
  | .wrapped _ => "UserString"
  | .decimal _ => "Decimal"
  | .complex .. => "complex"
  | .bytes _ => "bytes"
  | .builtin _ => "type"
  | .member owner index =>
    ((store.member? (.member owner index)).map fun member => member.type.name).getD "object"
  | .object ref =>
    match store.read ref with
    | .mapping .plain _ => "dict"
    | .mapping .ordered _ => "OrderedDict"
    | .mapping .readOnly _ => "mappingproxy"
    | .mapping (.custom callable) _ => if callable then "CallMapping" else "Mapping"
    | .sequence .list _ => "list"
    | .sequence .tuple _ => "tuple"
    | .sequence .deque _ => "deque"
    | .sequence (.named typeName _) _ => typeName
    | .sequence (.custom callable) _ => if callable then "CallSeq" else "Seq"
    | .range .. => "range"
    | .set frozen _ => if frozen then "frozenset" else "set"
    | .view .keys _ => "dict_keys"
    | .view .items _ => "dict_items"
    | .view .values _ => "dict_values"
    | .generator _ => "generator"
    | .byteArray _ => "bytearray"
    | .derived (.text _) => "StrSub"
    | .derived (.wrapped _) => "UserString"
    | .derived _ => "IntSub"
    | .bare => "object"
    | .plain whole => whole.typeName
    | .slotted whole => whole.typeName
    | .record whole => whole.typeName
    | .model whole => whole.typeName
    | .function _ => "Fn"
    | .enumType _ => "EnumType"
    | .table _ => "RuleTable"
    | object => (object.frozen?.map Prod.fst).getD "object"

end Store

end Conform
