import Conform.Shape

/-! Equality and search. Numbers compare by exact value across their types, texts by
their characters, containers part by part and most other objects by identity. A
comparison ends by a fault at a record that lacks a field, at a signalling decimal, and
where values contain themselves without end. -/

namespace Conform

/-- The forms of mappings in the order in which they take a comparison over. -/
def MappingForm.rank : MappingForm → Nat
  | .plain => 0
  | .readOnly => 1
  | .ordered => 2
  | .custom _ => 3

namespace Store

/-- What a number of any type compares by. -/
def quantity? (store : Store) : Value → Option Quantity
  | .complex re im => some (.complex re.exact im.exact)
  | .decimal written => some (.decimal written)
  | value => (store.real? value).map .real

private def isSignalling : Value → Bool
  | .decimal written => written.isSignalling
  | _ => false

/-- A value that can be a key, as far as its parts nested at most `depth` deep show. -/
def hashableWithin (store : Store) : Nat → Value → Bool
  | 0, _ => true
  | depth + 1, value =>
    match store.object? value with
    | some (.mapping ..) | some (.sequence .list _) | some (.sequence .deque _) => false
    | some (.set frozen _) => frozen
    | some (.view part _) => part = .values
    | some (.byteArray _) | some (.record _) | some (.model _) => false
    | some (.sequence .tuple items) | some (.sequence (.named ..) items) =>
      items.all (hashableWithin store depth)
    | some object =>
      match object.frozen? with
      | some (_, fields) => fields.all fun field => hashableWithin store depth field.2
      | none => true
    | none => !isSignalling value

/-- A value that can be a key: it holds nothing that may change, and comparing it never
ends by a fault. -/
def hashable (store : Store) (value : Value) : Bool :=
  hashableWithin store (store.size + 1) value

def requireHashable (store : Store) (value : Value) : Except Fault Unit :=
  if store.hashable value then .ok () else .error .unsuitable

/-- Whatever is used as a number or a string can be a key. -/
theorem hashable_of_based {store : Store} {value : Value}
    (based : (∃ number, store.base value = .number number) ∨
      ∃ content, store.base value = .text content) : store.hashable value = true := by
  cases value with
  | object ref =>
    cases here : store.read ref <;> simp [Store.base, member?, object?, here] at based
    simp [hashable, hashableWithin, object?, here, Object.frozen?]
  | decimal written => simp [Store.base, member?, object?] at based
  | _ => rfl

theorem requireHashable_of_string {store : Store} {value : Value} {content : String}
    (string : store.string? value = some content) : store.requireHashable value = .ok () := by
  simp [requireHashable, hashable_of_based (.inr ⟨content, base_of_string string⟩)]

/-- A comparison of keys, none of which ends by a fault. -/
def quietly (agree : Value → Value → Except Fault Bool) (left right : Value) : Bool :=
  match agree left right with
  | .ok answer => answer
  | .error _ => false

/-- Values equal place by place, up to the first that differ. -/
def pairwise (agree : Value → Value → Except Fault Bool) :
    List Value → List Value → Except Fault Bool
  | [], [] => .ok true
  | left :: lefts, right :: rights => do
    if ← agree left right then pairwise agree lefts rights else return false
  | _, _ => .ok false

/-- Lists of equal length with values equal place by place. -/
def pairwiseListed (agree : Value → Value → Except Fault Bool) (left right : List Value) :
    Except Fault Bool :=
  if left.length = right.length then pairwise agree left right else .ok false

/-- Mappings of equal size with equal values under equal keys. -/
def sameEntries (agree : Value → Value → Except Fault Bool) (left right : List (Value × Value)) :
    Except Fault Bool :=
  if left.length = right.length then
    left.allM fun (key, value) =>
      match right.find? fun entry => quietly agree key entry.1 with
      | some entry => agree entry.2 value
      | none => .ok false
  else .ok false

/-- Lists of named values of equal length with equal values under the same names. -/
def sameFields (agree : Value → Value → Except Fault Bool) (left right : Fields) :
    Except Fault Bool :=
  if left.length = right.length then
    left.allM fun (name, value) =>
      match Fields.named? right name with
      | some other => agree other value
      | none => .ok false
  else .ok false

/-- Records of one type compare by their declared fields, which are all read first. -/
def sameRecords (agree : Value → Value → Except Fault Bool) (left right : Record) :
    Except Fault Bool :=
  if left.typeName = right.typeName ∧ left.origin = right.origin then do
    let lefts ← left.declaredFields
    let rights ← right.declaredFields
    pairwise agree (lefts.map Prod.snd) (rights.map Prod.snd)
  else .ok false

/-- Models of one type compare by their undeclared fields and then by the declared ones. -/
def sameModels (agree : Value → Value → Except Fault Bool) (left right : Model) :
    Except Fault Bool := do
  if left.typeName = right.typeName ∧ left.origin = right.origin then
    if ← sameFields agree left.extra right.extra then sameFields agree left.own right.own
    else return false
  else return false

def pair? (store : Store) (value : Value) : Option (Value × Value) :=
  match store.object? value with
  | some (.sequence .tuple [first, second]) | some (.sequence (.named ..) [first, second]) =>
    some (first, second)
  | _ => none

/-- Whether a view of entries holds a pair with a key and a value: the key is looked up
and the values under it are compared. -/
def holdsPair (store : Store) (agree : Value → Value → Except Fault Bool) (pairs : List Value)
    (value : Value) : Except Fault Bool :=
  match store.pair? value with
  | none => .ok false
  | some (key, sought) => do
    store.requireHashable key
    match (pairs.filterMap store.pair?).find? fun entry => quietly agree entry.1 key with
    | some entry => agree entry.2 sought
    | none => return false

/-- Whether a set or view holds a value. All but views of entries look the value up as a
key; a set that can change is looked up in a set as if it could not. -/
def holdsElement (store : Store) (agree : Value → Value → Except Fault Bool) (object : Object)
    (value : Value) : Except Fault Bool :=
  match object with
  | .set _ items => do
    match store.object? value with
    | some (.set ..) => pure ()
    | _ => store.requireHashable value
    return items.any fun item => quietly agree item value
  | .view .keys items => do
    store.requireHashable value
    return items.any fun item => quietly agree item value
  | .view .items items => store.holdsPair agree items value
  | _ => .ok false

/-- Mappings compare by their entries, and ordered ones also by the order of their keys.
The entries are taken in the order of the mapping that takes the comparison over, which
of two read-only ones is the second. -/
def sameMappings (agree : Value → Value → Except Fault Bool) (form form' : MappingForm)
    (left right : List (Value × Value)) : Except Fault Bool := do
  let reversed : Bool :=
    form.rank < form'.rank || (form = .readOnly && form' = .readOnly)
  let same ← if reversed then sameEntries agree right left else sameEntries agree left right
  if same ∧ form = .ordered ∧ form' = .ordered then
    pairwise agree (left.map Prod.fst) (right.map Prod.fst)
  else return same

/-- Equality of two objects whose parts are compared by `agree`. Objects without a rule
of their own are equal only to themselves, which is left to the caller. -/
def sameObject (store : Store) (agree : Value → Value → Except Fault Bool) :
    Object → Object → Except Fault Bool
  | .mapping form left, .mapping form' right => sameMappings agree form form' left right
  | .sequence .list left, .sequence .list right => pairwiseListed agree left right
  | .sequence .deque left, .sequence .deque right => pairwiseListed agree left right
  | .sequence .tuple left, .sequence .tuple right => pairwise agree left right
  | .sequence .tuple left, .sequence (.named ..) right => pairwise agree left right
  | .sequence (.named ..) left, .sequence .tuple right => pairwise agree left right
  | .sequence (.named ..) left, .sequence (.named ..) right => pairwise agree left right
  | .range start stop step, .range start' stop' step' =>
    .ok ((Progression.ofBounds start stop step).agrees (.ofBounds start' stop' step'))
  | .record left, .record right => sameRecords agree left right
  | .model left, .model right => sameModels agree left right
  | left, right =>
    match left.elements?, right.elements? with
    | some lefts, some rights =>
      if lefts.length ≠ rights.length then .ok false
      else
        match left with
        | .set .. =>
          match right with
          | .set .. => lefts.allM (store.holdsElement agree right)
          | _ => rights.allM (store.holdsElement agree left)
        | _ => lefts.allM (store.holdsElement agree right)
    | _, _ =>
      match left.frozen?, right.frozen? with
      | some (leftType, leftFields), some (rightType, rightFields) =>
        if leftType = rightType then
          pairwise agree (leftFields.map Prod.snd) (rightFields.map Prod.snd)
        else .ok false
      | _, _ => .ok false

/-- Equality of objects: all but records are equal to themselves without being read. -/
def sameReferences (store : Store) (agree : Value → Value → Except Fault Bool)
    (left right : Value) : Except Fault Bool :=
  match store.object? left, store.object? right with
  | some (.record one), some (.record other) => sameRecords agree one other
  | some one, some other =>
    if left = right then .ok true else store.sameObject agree one other
  | _, _ => .ok (left = right)

/-- Equality of parts nested at most `depth` deep. -/
def equalWithin (store : Store) : Nat → Value → Value → Except Fault Bool
  | 0, _, _ => .error .tooDeep
  | depth + 1, left, right =>
    let agree (one other : Value) : Except Fault Bool :=
      if one = other then .ok true else store.equalWithin depth one other
    match store.quantity? left, store.quantity? right with
    | some one, some other =>
      match one.agrees? other with
      | some answer => .ok answer
      | none => .error .signalling
    | some _, none | none, some _ => .ok false
    | none, none =>
      match store.content? left, store.content? right with
      | some one, some other => .ok (one = other)
      | some _, none | none, some _ => .ok false
      | none, none =>
        match store.bytes? left, store.bytes? right with
        | some one, some other => .ok (one = other)
        | some _, none | none, some _ => .ok false
        | none, none => store.sameReferences agree left right

/-- A depth that no comparison exceeds unless a pair of objects comes to contain itself:
there are no more pairs on the way down. -/
def comparisonDepth (store : Store) : Nat := (store.size + 2) * (store.size + 2)

def equal (store : Store) (left right : Value) : Except Fault Bool :=
  store.equalWithin store.comparisonDepth left right

/-- The relation by which searches one by one find a value: it is the same one or an
equal one. -/
def matching (store : Store) (left right : Value) : Except Fault Bool :=
  if left = right then .ok true else store.equal left right

/-- The relation by which keys are found. -/
def agrees (store : Store) (left right : Value) : Bool :=
  quietly store.matching left right

def find? (store : Store) (entries : List (Value × Value)) (key : Value) : Option Value :=
  (entries.find? fun entry => store.agrees entry.1 key).map Prod.snd

/-- Gives a key a value: an entry that the key finds keeps its own key and its place, a
new entry goes to the end. -/
def put (store : Store) : List (Value × Value) → Value → Value → List (Value × Value)
  | [], key, value => [(key, value)]
  | entry :: rest, key, value =>
    if store.agrees entry.1 key then (entry.1, value) :: rest
    else entry :: store.put rest key value

/-- Keeps the first of the values that agree. -/
def distinct (store : Store) (values : List Value) : List Value :=
  values.foldl (fun kept value =>
    if kept.any fun other => store.agrees other value then kept else kept ++ [value]) []

end Store

end Conform
