import Conform.Check

namespace Conform

namespace Store

/-- A reply taken for true or false. -/
def replyTruth (store : Store) : Reply → Except Fault Bool
  | .value value => store.truth value
  | .list items => .ok !items.isEmpty

private def flag (value : Bool) : Reply := .value (.boolean value)

def reply (store : Store) (function : Function) (argument : Value) : Except Fault Reply :=
  match function with
  | .always => .ok (flag true)
  | .never => .ok (flag false)
  | .identity => .ok (.value argument)
  | .constant answer => .ok (.value answer)
  | .failing => .error .failedFunction
  | .isEven =>
    match store.integer? argument with
    | some value => .ok (flag (value % 2 = 0))
    | none => .ok (flag false)
  | .isText => .ok (flag (store.string? argument).isSome)
  | .isInteger => .ok (flag (store.integer? argument).isSome)
  | .isMapping =>
    match store.object? argument with
    | some (.mapping .plain _) | some (.mapping .ordered _) => .ok (flag true)
    | _ => .ok (flag false)
  | .isList =>
    match store.object? argument with
    | some (.sequence .list _) => .ok (flag true)
    | _ => .ok (flag false)
  | .notNull => .ok (flag (argument ≠ .null))
  | .isUndefined => .ok (flag (argument = .undefined))
  | .equalTo other => do return flag (← store.equal argument other)
  | .below bound =>
    match store.real? argument, store.real? bound with
    | some left, some right => .ok (flag (left.below right))
    | _, _ => .error .unsuitable
  | .length => do return .value (.integer (← store.length argument))
  | .form => do return .value (.text (← store.form argument))
  | .kind => .ok (.value (.text (store.kind argument).name))
  | .wrap => .ok (.list [argument])
  | .custom name => (store.replies name argument).mapError .raised

/-- Calls a type with one argument: truth values and texts can be made of any value. -/
def convert (store : Store) (type : BuiltinType) (argument : Value) : Except Fault Reply :=
  match type with
  | .boolean => do return flag (← store.truth argument)
  | .integer => do return .value (.integer (← store.integerOf argument))
  | .text => do return .value (.text (← store.text argument))
  | .object => .error .unsuitable

/-- A call through at most `depth` predicates. Calls of functions are traced; a predicate
answers whether the reply of its test is true. -/
def callWithin (store : Store) : Nat → Value → Value → Run Reply
  | 0, _, _ => Run.fail .unsuitable
  | depth + 1, callee, argument =>
    match callee with
    | .builtin type => Run.ofExcept (store.convert type argument)
    | .object ref =>
      match store.read ref with
      | .function function => do
        Run.call function.name argument
        Run.ofExcept (store.reply function argument)
      | .enumType type => Run.ofExcept ((store.memberOf ref type argument).map .value)
      | .predicate test => do
        let reply ← store.callWithin depth test argument
        return flag (← Run.ofExcept (store.replyTruth reply))
      | _ =>
        if store.callable callee then return flag true
        else Run.fail .unsuitable
    | _ => Run.fail .unsuitable

def call (store : Store) (callee argument : Value) : Run Reply :=
  store.callWithin (store.size + 1) callee argument

def passes (store : Store) (test value : Value) : Run Bool := do
  let reply ← store.call test value
  Run.ofExcept (store.replyTruth reply)

end Store

end Conform
