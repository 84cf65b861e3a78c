import Conform.Kind
import Conform.Fault

namespace Conform

/-- The items of a sequence: each of them listed, or the integers of a progression, of
which there may be too many to list. -/
inductive Series where
  | listed (items : List Value)
  | counted (progression : Progression)
deriving DecidableEq

namespace Series

def length : Series → Nat
  | .listed items => items.length
  | .counted progression => progression.count

def item? : Series → Nat → Option Value
  | .listed items, place => items[place]?
  | .counted progression, place =>
    if place < progression.count then some (.integer (progression.item place)) else none

def toList : Series → List Value
  | .listed items => items
  | .counted progression => progression.toList.map .integer

theorem length_toList (series : Series) : series.toList.length = series.length := by
  cases series <;> simp [toList, length, Progression.length_toList]

theorem getElem?_toList (series : Series) (place : Nat) :
    series.toList[place]? = series.item? place := by
  cases series with
  | listed items => rfl
  | counted progression =>
    by_cases inside : place < progression.count
    · simp [toList, item?, inside, Progression.getElem?_toList]
    · simp [toList, item?, inside, Progression.length_toList]

end Series

/-- The fields that a record's type declares, all of which have to be set. -/
def Record.declaredFields (record : Record) : Except Fault Fields :=
  record.declared.mapM fun name =>
    match record.own.named? name with
    | some value => .ok (name, value)
    | none => .error .noAttribute

theorem Record.mem_of_declaredFields {record : Record} {fields : Fields}
    (read : record.declaredFields = .ok fields) {field : String × Value} (member : field ∈ fields) :
    field ∈ record.own := by
  obtain ⟨name, _, here⟩ := exists_of_mem_mapM_ok read member
  cases found : record.own.named? name with
  | none => simp [found] at here
  | some value =>
    have same : field = (name, value) := by simpa [found, eq_comm] using here
    exact same ▸ Fields.mem_of_named? found

theorem Record.declaredFields_of_isComplete {record : Record}
    (complete : (Object.record record).isComplete = true) :
    ∃ fields, record.declaredFields = .ok fields ∧ ∀ field ∈ fields, field ∈ record.own := by
  have each : ∀ name ∈ record.declared, (record.own.named? name).isSome = true :=
    List.all_eq_true.mp complete
  obtain ⟨fields, read⟩ : ∃ fields, record.declaredFields = .ok fields := by
    refine mapM_ok_of_each _ fun name member => ?_
    obtain ⟨value, found⟩ := Option.isSome_iff_exists.mp (each name member)
    exact ⟨(name, value), by simp [found]⟩
  exact ⟨fields, read, fun field member => mem_of_declaredFields read member⟩

namespace Store

def mapping? (store : Store) (value : Value) : Option (List (Value × Value)) :=
  match store.object? value with
  | some (.mapping _ entries) => some entries
  | _ => none

/-- The items of a sequence that is neither a string nor made of bytes. -/
def sequence? (store : Store) (value : Value) : Option Series :=
  match store.base value with
  | .wrapped content =>
    some (.listed (content.toList.map fun char => .wrapped (String.singleton char)))
  | _ =>
    match store.object? value with
    | some (.sequence _ items) => some (.listed items)
    | some (.range start stop step) => some (.counted (.ofBounds start stop step))
    | _ => none

def elements? (store : Store) (value : Value) : Option (List Value) :=
  (store.object? value).bind Object.elements?

def bytes? (store : Store) (value : Value) : Option (List UInt8) :=
  match value with
  | .bytes bytes => some bytes
  | _ =>
    match store.object? value with
    | some (.byteArray bytes) => some bytes
    | _ => none

/-- A value that can be read field by field: a mapping, or anything of kind object
except null, sequences, sets and bytes. -/
def hasFields (store : Store) (value : Value) : Bool :=
  (store.mapping? value).isSome ||
    (value != .null && store.kind value = .object && (store.sequence? value).isNone &&
      (store.elements? value).isNone && (store.bytes? value).isNone)

def length? (store : Store) (value : Value) : Option Nat :=
  match store.content? value with
  | some content => some content.length
  | none =>
    match store.bytes? value, store.mapping? value, store.sequence? value with
    | some bytes, _, _ => some bytes.length
    | _, some entries, _ => some entries.length
    | _, _, some items => some items.length
    | none, none, none =>
      match store.object? value with
      | some (.set _ items) | some (.view _ items) => some items.length
      | some (.enumType type) => some type.members.length
      | _ => none

/-- The largest length that can be asked for. -/
def greatestLength : Nat := Nat.pow 2 63 - 1

def length (store : Store) (value : Value) : Except Fault Nat :=
  match store.length? value with
  | some length => if length ≤ greatestLength then .ok length else .error .tooLarge
  | none => .error .unsuitable

/-- A value taken for true or false. An outcome is as true as its first part, which has
to be a truth value. -/
def truth (store : Store) (value : Value) : Except Fault Bool :=
  match value with
  | .null | .undefined => .ok false
  | .boolean flag => .ok flag
  | .decimal decimal => .ok !decimal.isZero
  | .complex re im => .ok !(re.isZero && im.isZero)
  | _ =>
    match store.object? value with
    | some (.outcome (.boolean flag) _) => .ok flag
    | some (.outcome _ _) => .error .unsuitable
    | some (.enumType _) => .ok true
    | _ =>
      match store.real? value, store.length? value with
      | some exact, _ => .ok !exact.isZero
      | none, some length => .ok (length ≠ 0)
      | none, none => .ok true

end Store

end Conform
