import Conform.Judgement

namespace Conform

/-- A rule: the descriptor, the value that the check was drawn from and the check. -/
structure Rule where
  descriptor : Value
  source : Value
  check : Check
deriving DecidableEq

namespace Store

/-- The descriptor and the check that a rule is written with. A string is a descriptor
alone; a value of any other shape has neither. -/
def ruleParts (store : Store) (rule : Value) : Value × Value :=
  match store.object? rule, store.mapping? rule with
  | some (.rule type check), _ => (type, check)
  | _, some entries =>
    ((store.find? entries (.text "type")).getD .null,
      (store.find? entries (.text "check")).getD .null)
  | _, none => if (store.string? rule).isSome then (rule, .null) else (.null, .null)

/-- The rule that a value states for a field. A rule without a string for its descriptor
and a rule with an unsupported check are invalid. -/
def ruleOf (store : Store) (name rule : Value) : Run Rule := do
  let (descriptor, source) := store.ruleParts rule
  if (store.string? descriptor).isNone then
    let shown ← Run.ofExcept (store.text name)
    let form ← Run.ofExcept (store.form rule)
    Run.write .warning .validation
      ("Invalid rule for field '" ++ shown ++ "': " ++ form)
    Run.fail (.invalidRule shown none)
  else
    let check ← (store.checkOf source).recover fun
      | .invalidCheck flaw => do
        let shown ← Run.ofExcept (store.text name)
        let form ← Run.ofExcept (store.form source)
        Run.write .warning .validation
          ("Invalid check in rule for field '" ++ shown ++ "': " ++ form)
        Run.fail (.invalidRule shown (some flaw))
      | fault => Run.fail fault
    return ⟨descriptor, source, check⟩

def judgeField (store : Store) (name value rule : Value) : Run Verdict := do
  let resolved ← store.ruleOf name rule
  match ← store.judge value resolved.descriptor (pure resolved.check) with
  | .accepted => return .accepted
  | .rejected reason =>
    let place ← Run.ofExcept (store.text name)
    return (Verdict.rejected reason).at place

/-- Judges the fields that rules name, in the order of the rules, up to the first that is
rejected. A field is read just before its rule is. -/
def judgeRules (store : Store) (value : Value) : List (Value × Value) → Run Verdict
  | [] => return .accepted
  | (name, rule) :: rest => do
    let field ← Run.ofExcept (store.field value name)
    match ← store.judgeField name field rule with
    | .accepted => store.judgeRules value rest
    | .rejected reason =>
      let shown ← Run.ofExcept (store.text name)
      Run.debug .validation ("  Field '" ++ shown ++ "' failed: " ++ reason)
      return .rejected reason

def rules (store : Store) (source : Value) : Except Fault (List (Value × Value)) :=
  match store.mapping? source with
  | some entries => .ok entries
  | none => do
    match ← store.attributeOf source "items" with
    | some _ => .error .unsuitable
    | none => .error .noAttribute

/-- Judges an object field by field. The rules are not looked at when the value has no
fields. -/
def judgeFields (store : Store) (value rules : Value) : Run Verdict := do
  if store.hasFields value then
    let entries ← Run.ofExcept (store.rules rules)
    store.judgeRules value entries
  else return .rejected "is not object"

end Store

end Conform
