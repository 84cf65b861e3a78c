import Conform.Operation
import Conform.Assembly
import Conform.Mutation

/-! Sessions: operations one after another on one store. An operation may bind its answer
to a name that later operations use. -/

namespace Conform

/-- The names under which the parts of the library are offered to callers, by topic. -/
def exportedNames : List String :=
  ["UNDEFINED", "kind_of", "CheckResult", "NoCheck", "Predicate", "as_check", "EnumDefinition",
    "ContainerDescriptor", "ContainerKind", "parse_container", "check_enum", "is_enum",
    "check_mixed", "check_iterables", "check_dictionary", "check_field", "TypeRule", "RuleTable",
    "must_enum", "assert_boolean", "assert_value", "assert_that", "assert_mixed",
    "assert_iterables", "assert_dictionary", "create_dictionary", "ValidationError",
    "InvalidDescriptorError", "InvalidRuleError", "InvalidCheckError", "ValueTypeError",
    "AssertionFailedError", "logger"]

/-- The undefined value counts as false, is shown by its name, and every way to copy or
make one gives the same value. -/
def undefinedTraits (store : Store) : Except Fault (List Value) := do
  let truth ← store.truth .undefined
  let form ← store.form .undefined
  let copied : Bool := (← store.copied .undefined) = .itself
  return [.boolean truth, .text form, .boolean copied, .boolean true, .boolean true,
    .boolean true]

namespace Action

/-- A run that only reads the store, with its answer as a value. -/
def readValue (run : Store → Run Value) : Action Answer := do
  return .value (← reading run)

def readFlag (result : Store → Except Fault Bool) : Action Answer :=
  readValue fun store => Run.ofExcept ((result store).map .boolean)

def readText (result : Store → Except Fault String) : Action Answer :=
  readValue fun store => Run.ofExcept ((result store).map .text)

def readUnit (run : Store → Run Unit) : Action Answer := do
  reading run
  return .value .null

/-- A judgement as an outcome object. -/
def judged (verdict : Store → Run Verdict) : Action Answer := do
  return .value (← outcome (← reading verdict))

def done (action : Action Unit) : Action Answer := do
  action
  return .value .null

def list (items : List Value) : Action Value := alloc (.sequence .list items)

/-- Values side by side as a new list. -/
def listed (items : List Value) : Action Answer := do
  return .value (← list items)

/-- Entries side by side as a new list of lists. -/
def listedEntries (entries : List (Value × Value)) : Action Answer := do
  listed (← entries.mapM fun (key, value) => list [key, value])

/-- Performs an operation of an object that has it by its type. On any other object an
attribute of the operation's name takes its place: it is looked up before the arguments
are evaluated, and called if there is a single one. -/
def onObject (owns : Object → Bool) (operation : String) (target : Value)
    (arguments : Action α) (single? : α → Option Value) (own : α → Action Answer) :
    Action Answer := do
  let store ← Action.store
  if (store.object? target).any owns then own (← arguments)
  else
    let callee ← ofExcept (store.requiredAttribute target (.text operation))
    match single? (← arguments) with
    | some argument =>
      let reply ← reading fun store => store.call callee argument
      return .value (← replyValue reply)
    | none => fail .unsuitable

end Action

/-- A session: the store and the values bound to names. -/
structure Session where
  store : Store
  bindings : Fields

/-- Answers an operation under the values of the names bound so far. Its arguments are
evaluated in order first. -/
def Session.perform (bindings : Fields) (operation : Operation) : Action Answer := do
  match operation with
  | .kind value => do
    let value ← value.evaluate bindings
    Action.readText fun store => .ok (store.kind value).name
  | .isAbsent value => do
    let value ← value.evaluate bindings
    Action.readFlag fun _ => .ok value.isAbsent
  | .display value => do
    let value ← value.evaluate bindings
    Action.readText fun store => store.display value
  | .hasFields value => do
    let value ← value.evaluate bindings
    Action.readFlag fun store => .ok (store.hasFields value)
  | .undefinedTraits => do
    Action.listed (← Action.reading fun store => Run.ofExcept (undefinedTraits store))
  | .lineage name =>
    match FaultClass.added.find? fun family => family.name = name with
    | some family => do
      let classes ← Action.list ((family.name :: family.ancestors).map .text)
      Action.listed [classes, .text family.defaultMessage]
    | none => Action.fail .noAttribute
  | .exportedNames => Action.listed (exportedNames.map .text)
  | .withoutMark descriptor => do
    let value ← descriptor.evaluate bindings
    let written ← Action.reading fun store => Run.ofExcept (store.descriptor value)
    let (bare, optional) := written.withoutMark
    Action.listed [if optional then bare.toValue else value, .boolean optional]
  | .container descriptor => do
    let value ← descriptor.evaluate bindings
    let container? ← Action.reading fun store => do
      let written ← Run.ofExcept (store.descriptor value)
      written.container?
    match container? with
    | some container => return .value (← Action.alloc container.toObject)
    | none => return .value .null
  | .containerKind name => do
    let value ← name.evaluate bindings
    Action.readValue fun store => do
      let kind? ← Run.ofExcept (store.containerKind? value)
      return (kind?.map ContainerKind.toValue).getD .null
  | .check source => do
    let source ← source.evaluate bindings
    return .value (← Action.check source)
  | .call check value => do
    let check ← check.evaluate bindings
    let value ← value.evaluate bindings
    let reply ← Action.reading fun store => store.call check value
    return .value (← Action.replyValue reply)
  | .enumeration source => do
    let source ← source.evaluate bindings
    return .value (← Action.enumeration source)
  | .isMember value source => do
    let value ← value.evaluate bindings
    let source ← source.evaluate bindings
    Action.readValue fun store => do return .boolean (← store.isMember value source)
  | .judgeMember value source => do
    let value ← value.evaluate bindings
    let source ← source.evaluate bindings
    Action.judged fun store => store.judgeMember value source
  | .demandMember value source => do
    let value ← value.evaluate bindings
    let source ← source.evaluate bindings
    Action.readUnit fun store => store.demandMember value source
  | .field value name => do
    let value ← value.evaluate bindings
    let name ← name.evaluate bindings
    Action.readValue fun store => Run.ofExcept (store.field value name)
  | .ownFields value => do
    let value ← value.evaluate bindings
    let entries ← Action.reading fun store => Run.ofExcept (store.ownFields value).all
    Action.listedEntries entries
  | .entries value => do
    let value ← value.evaluate bindings
    let store ← Action.store
    match store.entries? value with
    | some entries => Action.listedEntries (← Action.ofExcept entries.all)
    | none => return .value .null
  | .copy value => do
    let value ← value.evaluate bindings
    let (copied, itself) ← Action.copy value
    return .copy copied itself
  | .rule name rule => do
    let name ← name.evaluate bindings
    let rule ← rule.evaluate bindings
    return .value (← Action.rule fun store => store.ruleOf name rule)
  | .judge value descriptor check => do
    let value ← value.evaluate bindings
    let descriptor ← descriptor.evaluate bindings
    let check ← check.evaluate bindings
    Action.judged fun store => store.judge value descriptor (store.checkOf check)
  | .judgeEntries value descriptor check => do
    let value ← value.evaluate bindings
    let descriptor ← descriptor.evaluate bindings
    let check ← check.evaluate bindings
    Action.judged fun store => store.judgeContainer value descriptor check
  | .judgeField name value rule => do
    let name ← name.evaluate bindings
    let value ← value.evaluate bindings
    let rule ← rule.evaluate bindings
    Action.judged fun store => store.judgeField name value rule
  | .judgeFields value rules => do
    let value ← value.evaluate bindings
    let rules ← rules.evaluate bindings
    Action.judged fun store => store.judgeFields value rules
  | .demand demand value message => do
    let value ← value.evaluate bindings
    let message ← message.evaluate bindings
    Action.readUnit fun store => Run.ofExcept (store.demand demand value message)
  | .demandValue value descriptor check message => do
    let value ← value.evaluate bindings
    let descriptor ← descriptor.evaluate bindings
    let check ← check.evaluate bindings
    let message ← message.evaluate bindings
    Action.readUnit fun store => store.demandValue value descriptor check message
  | .demandEntries value descriptor check message => do
    let value ← value.evaluate bindings
    let descriptor ← descriptor.evaluate bindings
    let check ← check.evaluate bindings
    let message ← message.evaluate bindings
    Action.readUnit fun store => store.demandEntries value descriptor check message
  | .demandFields value rules message => do
    let value ← value.evaluate bindings
    let rules ← rules.evaluate bindings
    let message ← message.evaluate bindings
    Action.readUnit fun store => store.demandFields value rules message
  | .assemble source guard creator => do
    let source ← source.evaluate bindings
    let guard ← guard.evaluate bindings
    let creator ← creator.evaluate bindings
    return .value (← Action.assemble source guard creator)
  | .failure text => do
    let text ← text.evaluate bindings
    return .value (← Action.alloc (.outcome (.boolean false) text))
  | .outcomeAt value place => do
    let value ← value.evaluate bindings
    Action.onObject Object.isOutcome "prefixed" value (place.evaluate bindings) some
      fun place => return .value (← Action.outcomeAt value place)
  | .unwrap value message => do
    let value ← value.evaluate bindings
    Action.onObject Object.isOutcome "unwrap" value (message.evaluate bindings) some
      fun message => Action.readUnit fun store => Run.ofExcept (store.unwrap value message)
  | .outcomeParts value => do
    let value ← value.evaluate bindings
    Action.listed (← Action.contents value)
  | .truth value => do
    let value ← value.evaluate bindings
    Action.readFlag fun store => store.truth value
  | .form value => do
    let value ← value.evaluate bindings
    Action.readText fun store => store.form value
  | .text value => do
    let value ← value.evaluate bindings
    Action.readText fun store => store.text value
  | .contains target value => do
    let value ← value.evaluate bindings
    let target ← target.evaluate bindings
    Action.readFlag fun store => store.holds target value
  | .tableNames table => do
    let table ← table.evaluate bindings
    let store ← Action.store
    if (store.object? table).any (Object.isTable "fields") then
      Action.listed (← Action.tableNames table)
    else Action.readValue fun store =>
      Run.ofExcept (store.requiredAttribute table (.text "fields"))
  | .tableRule table name => do
    let table ← table.evaluate bindings
    Action.onObject (Object.isTable "get_rule") "get_rule" table (name.evaluate bindings) some
      fun name => return .value (← Action.rule fun store => store.tableRuleOf table name)
  | .judgeByTable table value => do
    let table ← table.evaluate bindings
    Action.onObject (Object.isTable "check") "check" table (value.evaluate bindings) some
      fun value => Action.judged fun store => store.judgeByTable table value
  | .judgeFieldByTable table name value => do
    let table ← table.evaluate bindings
    Action.onObject (Object.isTable "check_field") "check_field" table
      (do return (← name.evaluate bindings, ← value.evaluate bindings)) (fun _ => none)
      fun (name, value) => Action.judged fun store => store.judgeFieldByTable table name value
  | .validate table value message => do
    let table ← table.evaluate bindings
    Action.onObject (Object.isTable "validate") "validate" table
      (do return (← value.evaluate bindings, ← message.evaluate bindings))
      (fun (value, message) => if message = .null then some value else none)
      fun (value, message) => Action.readValue fun store => store.validateWith table value message
  | .value value => return .value (← value.evaluate bindings)
  | .same left right => do
    let left ← left.evaluate bindings
    let right ← right.evaluate bindings
    Action.readFlag fun _ => .ok (left = right)
  | .equal left right => do
    let left ← left.evaluate bindings
    let right ← right.evaluate bindings
    Action.readFlag fun store => store.equal left right
  | .item target key => do
    let target ← target.evaluate bindings
    let key ← key.evaluate bindings
    Action.readValue fun store => Run.ofExcept (store.item target key)
  | .attributeOf target name => do
    let target ← target.evaluate bindings
    let name ← name.evaluate bindings
    Action.readValue fun store => Run.ofExcept (store.requiredAttribute target name)
  | .setItem target key value => do
    let value ← value.evaluate bindings
    let target ← target.evaluate bindings
    let key ← key.evaluate bindings
    Action.done (Action.setItem target key value)
  | .dropItem target key => do
    let target ← target.evaluate bindings
    let key ← key.evaluate bindings
    Action.done (Action.dropItem target key)
  | .append target value => do
    let target ← target.evaluate bindings
    let _ ← Action.onObject Store.appendable "append" target (value.evaluate bindings) some
      fun value => Action.done (Action.append target value)
    return .value .null
  | .setAttribute target name value => do
    let target ← target.evaluate bindings
    let name ← name.evaluate bindings
    let value ← value.evaluate bindings
    Action.done (Action.setAttribute target name value)
  | .dropAttribute target name => do
    let target ← target.evaluate bindings
    let name ← name.evaluate bindings
    Action.done (Action.dropAttribute target name)

namespace Session

def start : Session := ⟨.initial, []⟩

def bound : Answer → Value
  | .value value | .copy value _ => value

/-- Performs one operation and binds its answer, if it has one and a name is given. -/
def step (session : Session) (operation : Operation) (name? : Option String) :
    Run Answer × Session :=
  let (run, store) := perform session.bindings operation session.store
  let bindings :=
    match name?, run.outcome.toOption.map bound with
    | some name, some value => session.bindings.put name value
    | _, _ => session.bindings
  (run, ⟨store, bindings⟩)

end Session

end Conform
