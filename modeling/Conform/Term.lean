import Conform.Table
import Conform.Call
import Conform.Text.Label

/-! Terms: values as a session writes them. Evaluating a term places the objects that it
describes in the store, from the inside out. -/

namespace Conform

inductive Term where
  | value (value : Value)
  | float (mark : Nat) (written : String)
  | complex (mark mark' : Nat) (re im : String)
  | bytes (mutable : Bool) (written : String)
  | decimal (mark : Nat) (written : String)
  | fraction (dividend divisor : Int)
  | range (start stop step : Int)
  | variable (name : String)
  | sequence (form : SequenceForm) (items : List Term)
  | mapping (form : MappingForm) (entries : List (Term × Term))
  | set (frozen : Bool) (items : List Term)
  | view (part : ViewPart) (entries : List (Term × Term))
  | generator (items : List Term)
  | object (object : Object)
  | plain (typeName : String) (own inherited : List (String × Term))
      (failing : List (String × AttributeFailure)) (callable : Bool)
  | slotted (typeName : String) (slots : List String) (own inherited : List (String × Term))
  | record (typeName : String) (declared extra : List (String × Term)) (deleted : List String)
      (callable : Bool)
  | model (typeName : String) (fields : List ModelField) (own extra : List (String × Term))
      (admitsExtra : Bool)
  | function (function : Function) (argument : Term)
  | enumType (name : String) (base : EnumBase) (members : List (String × Term))
  | member (owner : Term) (name : String)
  | predicate (test : Term)
  | enumeration (source : Term)
  | rule (type check : Term)
  | outcome (ok error : Term)
  | container (kindName element : Term)
  | table (rules : Term)

/-- The function with its argument put in, if it has one. -/
def Function.withArgument (function : Function) (argument : Value) : Function :=
  match function with
  | .constant _ => .constant argument
  | .equalTo _ => .equalTo argument
  | .below _ => .below argument
  | other => other

namespace Store

/-- The entries of a mapping written entry by entry: a key that occurs again gives its
first entry a new value. -/
def entriesOf (store : Store) (written : List (Value × Value)) :
    Except Fault (List (Value × Value)) := do
  written.forM fun entry => store.requireHashable entry.1
  return written.foldl (fun entries (key, value) => store.put entries key value) []

/-- The elements of a set written one by one. -/
def elementsOf (store : Store) (written : List Value) : Except Fault (List Value) := do
  written.forM store.requireHashable
  return store.distinct written

def fractionOf (dividend divisor : Int) : Except Fault Value :=
  if divisor = 0 then .error .zeroDivisor
  else .ok (.number (.fraction (mkRat (dividend * divisor.sign) divisor.natAbs)))

def rangeOf (start stop step : Int) : Except Fault Object :=
  if step = 0 then .error .zeroStep else .ok (.range start stop step)

def floatOf (mark : Nat) (written : String) : Except Fault Binary64 :=
  match Binary64.parse? mark written with
  | some known => .ok known
  | none => .error .noNumeral

def bytesOf (written : String) : Except Fault (List UInt8) :=
  match Text.bytes? written.toList with
  | some known => .ok known
  | none => .error .noNumeral

def decimalOf (mark : Nat) (written : String) : Except Fault Value :=
  match Decimal.parse? mark written with
  | some known => .ok (.decimal known)
  | none => .error .noDecimal

/-- A new object with slots. Attributes of its type have other names than the slots, and
its own attributes are slots. -/
def slottedOf (typeName : String) (slots : List String) (own inherited : Fields) :
    Except Fault Object :=
  if inherited.any fun field => field.1 ∈ slots then .error .conflictingSlot
  else if own.any fun field => field.1 ∉ slots then .error .noAttribute
  else
    .ok (.slotted ⟨typeName, slots, (Attributes.ofFields own).fields,
      (Attributes.ofFields inherited).fields⟩)

/-- Fields without some of them, each of which has to be there. -/
def withoutAll : Fields → List String → Except Fault Fields
  | fields, [] => .ok fields
  | fields, name :: rest =>
    if (fields.named? name).isSome then withoutAll (fields.without name) rest
    else .error .noAttribute

/-- A new record whose undeclared fields are assigned after the declared ones. -/
def recordOf (store : Store) (typeName : String) (declared extra : Fields)
    (deleted : List String) (callable : Bool) : Except Fault Object := do
  let own ← withoutAll (Attributes.ofFields (declared ++ extra)).fields deleted
  return .record ⟨typeName, store.size, declared.map Prod.fst, own, callable⟩

end Store

namespace Action

/-- Places an object that depends on the store as it is. -/
def allocWith (object : Store → Except Fault Object) : Action Value := do
  let store ← Action.store
  alloc (← ofExcept (object store))

/-- A new enumeration object with its set of values. -/
def allocEnumeration (enumeration : Enumeration) : Action Value := do
  let values ← alloc (.set true enumeration.values)
  alloc (.enumeration enumeration.name values)

/-- The enumeration object drawn from a value; one that is built already is itself. -/
def enumeration (source : Value) : Action Value := do
  let store ← Action.store
  let drawn ← reading fun store => store.enumerationOf source
  if (store.enumeration? source).isSome then return source else allocEnumeration drawn

/-- The check object of a check and the value that it was drawn from. -/
def checkObject (source : Value) (check : Check) : Action Value := do
  let store ← Action.store
  if source = .null then return .noCheck
  else if (store.check? source).isSome then return source
  else
    match check with
    | .byKind => return .noCheck
    | .predicate test => alloc (.predicate test)
    | .enumeration drawn => allocEnumeration drawn

def check (source : Value) : Action Value := do
  let resolved ← reading fun store => store.checkOf source
  checkObject source resolved

def rule (read : Store → Run Rule) : Action Value := do
  let resolved ← reading read
  let check ← checkObject resolved.source resolved.check
  alloc (.rule resolved.descriptor check)

/-- Places a sequence, unless it is the tuple without items. -/
def sequence (form : SequenceForm) (items : List Value) : Action Value :=
  match form, items with
  | .tuple, [] => return .emptyTuple
  | .named typeName labels, items =>
    if Text.isIdentifier typeName && labels.all Text.isLabel && labels.Nodup then
      alloc (.sequence form items)
    else fail .reservedName
  | form, items => alloc (.sequence form items)

/-- Places a view of a mapping. A view of its entries holds a tuple for each. -/
def view (part : ViewPart) (entries : List (Value × Value)) : Action Value := do
  match part with
  | .keys => alloc (.view .keys (entries.map Prod.fst))
  | .values => alloc (.view .values (entries.map Prod.snd))
  | .items =>
    let items ← entries.mapM fun (key, value) => alloc (.sequence .tuple [key, value])
    alloc (.view .items items)

end Action

mutual

/-- Evaluates a term under the values of its variables. -/
def Term.evaluate (bindings : Fields) : Term → Action Value
  | .value known => return known
  | .float mark written =>
    return .number (.float (← Action.ofExcept (Store.floatOf mark written)))
  | .complex mark mark' re im => do
    let re ← Action.ofExcept (Store.floatOf mark re)
    let im ← Action.ofExcept (Store.floatOf mark' im)
    return .complex re im
  | .bytes mutable written => do
    let bytes ← Action.ofExcept (Store.bytesOf written)
    if mutable then Action.alloc (.byteArray bytes) else return .bytes bytes
  | .decimal mark written => Action.ofExcept (Store.decimalOf mark written)
  | .fraction dividend divisor => Action.ofExcept (Store.fractionOf dividend divisor)
  | .range start stop step => Action.allocWith fun _ => Store.rangeOf start stop step
  | .variable name =>
    match bindings.named? name with
    | some bound => return bound
    | none => Action.fail (.unbound name)
  | .sequence form items => do
    Action.sequence form (← Term.evaluateAll bindings items)
  | .mapping form entries => do
    let written ← Term.evaluateEntries bindings entries
    let entries ← Action.reading fun store => Run.ofExcept (store.entriesOf written)
    Action.alloc (.mapping form entries)
  | .set frozen items => do
    let written ← Term.evaluateAll bindings items
    let elements ← Action.reading fun store => Run.ofExcept (store.elementsOf written)
    Action.alloc (.set frozen elements)
  | .view part entries => do
    let written ← Term.evaluateEntries bindings entries
    let entries ← Action.reading fun store => Run.ofExcept (store.entriesOf written)
    Action.view part entries
  | .generator items => do
    Action.alloc (.generator (← Term.evaluateAll bindings items))
  | .object known => Action.alloc known
  | .plain typeName own inherited failing callable => do
    let inherited ← Term.evaluateFields bindings inherited
    let own ← Term.evaluateFields bindings own
    Action.alloc (.plain ⟨typeName, .ofFields own, (Attributes.ofFields inherited).fields,
      failing, callable⟩)
  | .slotted typeName slots own inherited => do
    let inherited ← Term.evaluateFields bindings inherited
    let own ← Term.evaluateFields bindings own
    Action.allocWith fun _ => Store.slottedOf typeName slots own inherited
  | .record typeName declared extra deleted callable => do
    let declared ← Term.evaluateFields bindings declared
    let extra ← Term.evaluateFields bindings extra
    Action.allocWith fun store => store.recordOf typeName declared extra deleted callable
  | .model typeName fields own extra admitsExtra => do
    let own ← Term.evaluateFields bindings own
    let extra ← Term.evaluateFields bindings extra
    Action.allocWith fun store =>
      .ok (.model ⟨typeName, store.size, fields, own, [], extra, admitsExtra⟩)
  | .function known argument => do
    let argument ← argument.evaluate bindings
    Action.alloc (.function (known.withArgument argument))
  | .enumType name base members => do
    let written ← Term.evaluateFields bindings members
    Action.allocWith fun store => (store.enumTypeOf name base written).map .enumType
  | .member owner name => do
    let owner ← owner.evaluate bindings
    Action.reading fun store => Run.ofExcept (store.memberNamed owner name)
  | .predicate test => do Action.alloc (.predicate (← test.evaluate bindings))
  | .enumeration source => do Action.enumeration (← source.evaluate bindings)
  | .rule type check => do
    let type ← type.evaluate bindings
    let check ← check.evaluate bindings
    Action.alloc (.rule type check)
  | .outcome ok error => do
    let ok ← ok.evaluate bindings
    let error ← error.evaluate bindings
    Action.alloc (.outcome ok error)
  | .container kindName element => do
    let kindName ← kindName.evaluate bindings
    let element ← element.evaluate bindings
    Action.alloc (.container kindName element)
  | .table rules => do Action.table (← rules.evaluate bindings)

def Term.evaluateAll (bindings : Fields) : List Term → Action (List Value)
  | [] => return []
  | term :: rest => do
    let item ← term.evaluate bindings
    return item :: (← Term.evaluateAll bindings rest)

/-- Evaluates entries in order, the key of each before its value. -/
def Term.evaluateEntries (bindings : Fields) :
    List (Term × Term) → Action (List (Value × Value))
  | [] => return []
  | (keyTerm, valueTerm) :: rest => do
    let key ← keyTerm.evaluate bindings
    let item ← valueTerm.evaluate bindings
    return (key, item) :: (← Term.evaluateEntries bindings rest)

def Term.evaluateFields (bindings : Fields) : List (String × Term) → Action Fields
  | [] => return []
  | (name, term) :: rest => do
    let item ← term.evaluate bindings
    return (name, item) :: (← Term.evaluateFields bindings rest)

end

end Conform
