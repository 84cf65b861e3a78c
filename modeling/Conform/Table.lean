import Conform.Demand
import Conform.Lookup

/-! Rule tables: a mapping of rules bound once and read anew by every operation. -/

namespace Conform

/-- An object that has the operations of a table, unless it has an attribute of its own
in the place of one. -/
def Object.isTable (operation : String) : Object → Bool
  | .table own => (own.named? operation).isNone
  | _ => false

namespace Store

/-- The name of a value's type with the path of its module. -/
def qualifiedTypeName (store : Store) (value : Value) : String :=
  let name := store.typeName value
  let path : String :=
    match value with
    | .undefined => "shape_assert.base.kinds."
    | .decimal _ => "decimal."
    | .number (.fraction _) => "fractions."
    | .wrapped _ => "collections."
    | _ =>
      match store.object? value with
      | some (.sequence .deque _) | some (.derived (.wrapped _)) => "collections."
      | some .noCheck | some (.predicate _) => "shape_assert.base.checks."
      | some (.enumeration ..) => "shape_assert.base.enums."
      | some (.rule ..) => "shape_assert.base.validator."
      | some (.outcome ..) => "shape_assert.base.result."
      | some (.container ..) => "shape_assert.base.descriptor."
      | some (.table _) => "shape_assert.base.rules."
      | some (.enumType _) => "enum."
      | _ => ""
  path ++ name

def tableRules (store : Store) (table : Value) : Except Fault Value :=
  match store.object? table with
  | some (.table own) =>
    match own.named? "rules" with
    | some rules => .ok rules
    | none => .error .noAttribute
  | _ => .error .noAttribute

/-- The rule that a table has for a name now, which has to be there. What stands in the
place of the rules is searched as whatever it is. -/
def tableRule (store : Store) (table name : Value) : Except Fault Value := do
  let rules ← store.tableRules table
  if ← store.holds rules name then store.item rules name
  else throw (.noRule (← store.text name))

/-- The rule of a table for a name, read as a rule. -/
def tableRuleOf (store : Store) (table name : Value) : Run Rule := do
  let rule ← Run.ofExcept (store.tableRule table name)
  store.ruleOf name rule

def judgeByTable (store : Store) (table value : Value) : Run Verdict := do
  let rules ← Run.ofExcept (store.tableRules table)
  store.judgeFields value rules

def judgeFieldByTable (store : Store) (table name value : Value) : Run Verdict := do
  let rule ← Run.ofExcept (store.tableRule table name)
  store.judgeField name value rule

/-- Demands that a value conforms to a table, and answers it. -/
def validate (store : Store) (table value message : Value) : Run Value := do
  match ← store.judgeByTable table value with
  | .accepted => return value
  | .rejected reason =>
    Run.debug .table ("RuleTable validation failed: " ++ reason)
    Run.fail (store.nonconforming (message.messageOr ("validate(): assert failed, " ++ reason)))

/-- Demands that a judgement which a table has in the place of its own one approves of a value,
and answers it. Anything with a truth value under `ok` does for an outcome. -/
def validateBy (store : Store) (judgement value message : Value) : Run Value := do
  match ← store.call judgement value with
  | .list _ => Run.fail .noAttribute
  | .value verdict => do
    let ok ← Run.ofExcept (store.requiredAttribute verdict (.text "ok"))
    if ← Run.ofExcept (store.truth ok) then return value
    let error ← Run.ofExcept (store.requiredAttribute verdict (.text "error"))
    let reason ← Run.ofExcept (store.text error)
    Run.debug .table ("RuleTable validation failed: " ++ reason)
    let given := message.messageOr ("validate(): assert failed, " ++ reason)
    if (store.object? verdict).any Object.isOutcome then Run.ofExcept (store.unwrap verdict given)
    else
      let unwrap ← Run.ofExcept (store.requiredAttribute verdict (.text "unwrap"))
      let _ ← store.call unwrap given
    return value

/-- Demands that a table approves of a value by the judgement that stands in the place of its
own one, if there is any. -/
def validateWith (store : Store) (table value message : Value) : Run Value :=
  match store.object? table with
  | some (.table own) =>
    match own.named? "check" with
    | some judgement => store.validateBy judgement value message
    | none => store.validate table value message
  | _ => store.validate table value message

/-- Records that a table is bound to rules, which have to be a mapping. -/
def bindRules (store : Store) (rules : Value) : Run Unit :=
  match store.mapping? rules with
  | some entries => do
    let names ← Run.ofExcept (entries.mapM fun entry => store.form entry.1)
    Run.debug .table ("Initialized RuleTable with fields: [" ++ listed names ++ "]")
  | none => do
    Run.write .error .table
      ("Init failed: rules is " ++ store.typeName rules ++ ", not a mapping")
    Run.fail (.rulesNotMapping (store.qualifiedTypeName rules))

end Store

/-- The names for which a table has a rule now, in order. -/
def Action.tableNames (table : Value) : Action (List Value) := do
  Action.contents (← Action.reading fun store => Run.ofExcept (store.tableRules table))

def Action.table (rules : Value) : Action Value := do
  Action.reading fun store => store.bindRules rules
  Action.alloc (.table (.ofFields [("rules", rules)]))

end Conform
