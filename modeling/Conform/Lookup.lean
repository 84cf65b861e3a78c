import Conform.Enumeration
import Conform.Action

namespace Conform

/-- Whether a list occurs in another without gaps. -/
def occurs [DecidableEq α] (part : List α) : List α → Bool
  | [] => part.isEmpty
  | head :: rest => part.isPrefixOf (head :: rest) || occurs part rest

/-- The integer that a quantity equals, if it is no larger than numbers are written out. -/
def Quantity.integer? : Quantity → Option Int
  | .real (.finite value) | .complex (.finite value) (.finite 0) =>
    if value.den = 1 then some value.num else none
  | .decimal (.finite numeral) =>
    if numeral.coefficient ≠ 0 ∧ (Decimal.reduced numeral).2 < 0 then none
    else Decimal.truncated? numeral
  | _ => none

namespace Store

/-- The place that an index counts, from the end if it is negative. -/
def place (length : Nat) (index : Int) : Except Fault Nat :=
  let counted := if index < 0 then index + length else index
  if 0 ≤ counted ∧ counted < length then .ok counted.toNat else .error .outOfRange

/-- The items that are found by their place: those of a sequence, the characters of a
string, or bytes as integers. -/
def indexed? (store : Store) (value : Value) : Option Series :=
  match store.string? value, store.bytes? value with
  | some content, _ =>
    some (.listed (content.toList.map fun char => .text (String.singleton char)))
  | none, some bytes => some (.listed (bytes.map fun byte => .integer byte.toNat))
  | none, none => store.sequence? value

/-- The entries of an enumerated type: its members and aliases under their names. -/
def memberEntries (owner : Ref) (type : EnumType) : List (Value × Value) :=
  type.members.zipIdx.map (fun (field, index) => (.text field.1, .member owner index)) ++
    type.aliases.map fun (name, index) => (.text name, .member owner index)

/-- The entries that are found by a key: those of a mapping or of an enumerated type. -/
def keyed? (store : Store) (value : Value) : Option (List (Value × Value)) :=
  match store.enumType? value with
  | some (ref, type) => some (memberEntries ref type)
  | none => store.mapping? value

def item (store : Store) (target key : Value) : Except Fault Value :=
  match store.keyed? target, store.indexed? target with
  | some entries, _ => do
    store.requireHashable key
    match store.find? entries key with
    | some value => return value
    | none => throw (.noEntry key)
  | none, some series => do
    let some index := store.integer? key | throw .unsuitable
    let counted ← place series.length index
    return (series.item? counted).getD .undefined
  | none, none => .error .unsuitable

/-- Whether a text, of which a part may be any text that `read` accepts, holds a value. -/
private def holdsText (content : String) (part : Option String) : Except Fault Bool :=
  match part with
  | some part => .ok (occurs part.toList content.toList)
  | none => .error .unsuitable

/-- Whether bytes hold other bytes or the byte with a number. -/
private def holdsBytes (store : Store) (bytes : List UInt8) (value : Value) :
    Except Fault Bool :=
  match store.bytes? value, store.integer? value with
  | some part, _ => .ok (occurs part bytes)
  | none, some number =>
    if 0 ≤ number ∧ number < 256 then .ok (bytes.any fun byte => (byte.toNat : Int) = number)
    else .error .noByte
  | none, none => .error .unsuitable

/-- Whether a progression holds a number of any type. -/
private def holdsNumber (store : Store) (progression : Progression) (value : Value) :
    Except Fault Bool :=
  match store.quantity? value with
  | none => .ok false
  | some quantity =>
    if progression.count = 0 then .ok false
    else
      match quantity.agrees? (.real (.finite progression.start)) with
      | none => .error .signalling
      | some _ => .ok (quantity.integer?.any progression.holds)

private def holdsAmong (store : Store) (values : List Value) (value : Value) :
    Except Fault Bool :=
  values.anyM fun other => store.matching other value

/-- Whether a pair is a name with its value. -/
private def holdsField (store : Store) (fields : Fields) (value : Value) : Except Fault Bool :=
  match store.pair? value with
  | none => .ok false
  | some (name, sought) =>
    fields.anyM fun field =>
      pairwise store.matching [.text field.1, field.2] [name, sought]

theorem holdsText_foreign (content : String) (part : Option String) :
    Foreign (holdsText content part) := by
  unfold holdsText
  split
  · exact .ok _
  · exact .error rfl

theorem holdsBytes_foreign (store : Store) (bytes : List UInt8) (value : Value) :
    Foreign (store.holdsBytes bytes value) := by
  unfold holdsBytes
  split
  · exact .ok _
  · split
    · exact .ok _
    · exact .error rfl
  · exact .error rfl

theorem holdsNumber_foreign (store : Store) (progression : Progression) (value : Value) :
    Foreign (store.holdsNumber progression value) := by
  unfold holdsNumber
  split
  · exact .ok _
  · split
    · exact .ok _
    · split
      · exact .error rfl
      · exact .ok _

/-- Looking for a field raises what comparing pairs raises. -/
theorem holdsField_faults (store : Store) {allowed : Fault → Prop}
    (compared : ∀ left right, OnlyFaults allowed (pairwise store.matching left right))
    (fields : Fields) (value : Value) : OnlyFaults allowed (store.holdsField fields value) := by
  unfold holdsField
  split
  · exact .ok _
  · exact .anyM (fun _ => compared _ _) fields

/-- Whether a value is in another, which may be a table of tables nested at most `depth`
deep. -/
def holdsWithin (store : Store) : Nat → Value → Value → Except Fault Bool
  | 0, _, _ => .error .tooDeep
  | depth + 1, target, value =>
    match store.string? target, store.bytes? target, store.mapping? target with
    | some content, _, _ => holdsText content (store.string? value)
    | none, some bytes, _ => store.holdsBytes bytes value
    | none, none, some entries => do
      store.requireHashable value
      return (store.find? entries value).isSome
    | none, none, none =>
      match store.base target with
      | .wrapped content => holdsText content (store.content? value)
      | .object ref =>
        match store.read ref with
        | .sequence _ items | .view .values items | .generator items =>
          store.holdsAmong items value
        | .range start stop step => store.holdsNumber (.ofBounds start stop step) value
        | .set frozen items => store.holdsElement store.matching (.set frozen items) value
        | .view part items => store.holdsElement store.matching (.view part items) value
        | .enumType _ =>
          match value with
          | .member owner _ => .ok (owner = ref)
          | _ => .error .unsuitable
        | .enumeration name values =>
          .ok (store.belongs ⟨name, (store.elements? values).getD []⟩ value)
        | .outcome ok error => store.holdsAmong [ok, error] value
        | .model model => store.holdsField model.shownFields value
        | .table own =>
          match own.named? "rules" with
          | some rules => store.holdsWithin depth rules value
          | none => .error .noAttribute
        | _ => .error .unsuitable
      | _ => .error .unsuitable

def holds (store : Store) (target value : Value) : Except Fault Bool :=
  store.holdsWithin (store.size + 1) target value

/-- The values that another one gives in order. A mapping gives its keys. -/
def contents (store : Store) (value : Value) : Except Fault (List Value) :=
  match store.mapping? value, store.indexed? value, store.object? value with
  | some entries, _, _ => .ok (entries.map Prod.fst)
  | none, some series, _ => .ok series.toList
  | none, none, some (.set _ items) | none, none, some (.view _ items)
  | none, none, some (.generator items) => .ok items
  | none, none, some (.outcome ok error) => .ok [ok, error]
  | none, none, _ =>
    match store.enumType? value with
    | some (ref, type) => .ok ((List.range type.members.length).map (.member ref))
    | none => .error .unsuitable

end Store

/-- The values that another one gives in order. A model gives a new pair for each of its
fields. -/
def Action.contents (value : Value) : Action (List Value) := do
  let store ← Action.store
  match store.object? value with
  | some (.model model) =>
    model.shownFields.mapM fun (name, item) => Action.alloc (.sequence .tuple [.text name, item])
  | _ => Action.ofExcept (store.contents value)

end Conform
