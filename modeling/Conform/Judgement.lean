import Conform.Call
import Conform.Field

/-! Judgement of values against descriptors. A value that does not conform is rejected
with a reason; only a descriptor or check that is itself wrong is a fault. -/

namespace Conform

inductive Verdict where
  | accepted
  | rejected (reason : String)
deriving DecidableEq

/-- The verdict with a place in front of its reason. -/
def Verdict.at (verdict : Verdict) (place : String) : Verdict :=
  match verdict with
  | .accepted => .accepted
  | .rejected reason => .rejected (place ++ " " ++ reason)

/-- What an item is compared with: the characters of a kind name, if it has any, and how
messages show it. -/
structure Expectation where
  content? : Option String
  shown : String
deriving DecidableEq

def Descriptor.expectation (descriptor : Descriptor) : Expectation :=
  ⟨some descriptor.content, descriptor.shown⟩

namespace Store

/-- The expectation that any value states; one without characters is never met. -/
def expectation (store : Store) (value : Value) : Except Fault Expectation := do
  return ⟨store.content? value, ← store.text value⟩

/-- Judges one item: by the test, by the enumeration, or else by its kind. -/
def judgeItem (store : Store) (expected : Expectation) (check : Check) (item : Value) :
    Run Verdict :=
  match check with
  | .predicate test => do
    if ← store.passes test item then return .accepted
    else return .rejected ("expected is " ++ expected.shown)
  | .enumeration enumeration => do
    if store.belongs enumeration item then return .accepted
    let actual ← Run.ofExcept (store.display item)
    return .rejected ("expected is " ++ expected.shown ++ ", actual is " ++ actual)
  | .byKind =>
    let actual := (store.kind item).name
    if expected.content? = some actual then return .accepted
    else return .rejected ("expected is " ++ expected.shown ++ ", actual is " ++ actual)

def rejectEntry (store : Store) (key : Value) (reason : String) : Run Verdict := do
  let place ← Run.ofExcept (store.text key)
  Run.debug .validation ("  Entry [" ++ place ++ "] failed: " ++ reason)
  return (Verdict.rejected reason).at ("[" ++ place ++ "]")

/-- Judges entries in order, up to the first that is rejected or the fault that ends the
reading. -/
def judgeEach (store : Store) (expected : Expectation) (check : Check) (fault? : Option Fault) :
    List (Value × Value) → Run Verdict
  | [] =>
    match fault? with
    | some fault => Run.fail fault
    | none => return .accepted
  | (key, item) :: rest => do
    match ← store.judgeItem expected check item with
    | .accepted => store.judgeEach expected check fault? rest
    | .rejected reason => store.rejectEntry key reason

/-- Judges as many integers of a progression as `remaining`, from a place on. -/
def judgeCounted (store : Store) (expected : Expectation) (check : Check)
    (progression : Progression) (place : Nat) : Nat → Run Verdict
  | 0 => return .accepted
  | remaining + 1 => do
    match ← store.judgeItem expected check (.integer (progression.item place)) with
    | .accepted => store.judgeCounted expected check progression (place + 1) remaining
    | .rejected reason => store.rejectEntry (.integer place) reason

/-- Judges entries in order. By kind alone, one integer is judged like all others. -/
def judgeAll (store : Store) (expected : Expectation) (check : Check) : Entries → Run Verdict
  | .listed items fault? => store.judgeEach expected check fault? items
  | .counted progression =>
    let count := if check = .byKind then min progression.count 1 else progression.count
    store.judgeCounted expected check progression 0 count

theorem judgeCounted_eq (store : Store) (expected : Expectation) (check : Check)
    (progression : Progression) (place remaining : Nat) :
    store.judgeCounted expected check progression place remaining =
      store.judgeEach expected check none
        ((List.range' place remaining).map progression.entry) := by
  induction remaining generalizing place with
  | zero => rfl
  | succ remaining inductionHypothesis =>
    simp only [judgeCounted, List.range'_succ, List.map_cons, Progression.entry, judgeEach]
    congr 1
    funext verdict
    cases verdict with
    | accepted => exact inductionHypothesis (place + 1)
    | rejected reason => rfl

theorem judgeItem_byKind_integer (store : Store) (expected : Expectation) (value : Int) :
    store.judgeItem expected .byKind (.integer value) =
      store.judgeItem expected .byKind (.integer 0) := rfl

theorem judgeCounted_byKind (store : Store) (expected : Expectation) (progression : Progression)
    (place remaining : Nat)
    (accepts : store.judgeItem expected .byKind (.integer 0) = return .accepted) :
    store.judgeCounted expected .byKind progression place remaining = return .accepted := by
  induction remaining generalizing place with
  | zero => rfl
  | succ remaining inductionHypothesis =>
    simp [judgeCounted, judgeItem_byKind_integer, accepts, inductionHypothesis]

theorem judgeAll_eq (store : Store) (expected : Expectation) (check : Check)
    (entries : Entries) :
    store.judgeAll expected check entries =
      store.judgeEach expected check entries.fault? entries.items := by
  cases entries with
  | listed items fault? => rfl
  | counted progression =>
    have all := store.judgeCounted_eq expected check progression 0 progression.count
    rw [← List.range_eq_range'] at all
    rw [Entries.fault?, Entries.items, ← all]
    by_cases kind : check = .byKind
    · subst kind
      simp only [judgeAll, if_true]
      cases count : progression.count with
      | zero => rfl
      | succ remaining =>
        have one : min (remaining + 1) 1 = 0 + 1 := by omega
        simp only [one, judgeCounted, judgeItem_byKind_integer]
        by_cases same : expected.content? = some (store.kind (.integer 0)).name
        · have accepts : store.judgeItem expected .byKind (.integer 0) = return .accepted := by
            simp [judgeItem, same]
          simp [accepts, judgeCounted_byKind]
        · simp [judgeItem, same]
    · simp [judgeAll, kind]

def judgeEntries (store : Store) (value : Value) (expected : Expectation) (check : Run Check) :
    Run Verdict := do
  let form ← Run.ofExcept (store.form value)
  Run.debug .validation ("Check iterables: " ++ form ++ " vs '" ++ expected.shown ++ "'")
  match store.entries? value with
  | none => return .rejected "is not iterables type"
  | some entries =>
    let resolved ← check
    store.judgeAll expected resolved entries

/-- Judges all entries of a container against any value taken for the name of a kind. -/
def judgeContainer (store : Store) (value descriptor check : Value) : Run Verdict := do
  let expected ← Run.ofExcept (store.expectation descriptor)
  store.judgeEntries value expected (store.checkOf check)

/-- Judges a value against a descriptor without its mark. The name `string` without a
check is met by every value. -/
def judgeBare (store : Store) (value : Value) (descriptor : Descriptor) (check : Check) :
    Run Verdict := do
  match ← descriptor.container? with
  | some container =>
    match container.kind? with
    | none => return .rejected ("unsupported container type " ++ container.kindName)
    | some kind =>
      Run.debug .validation
        (" Container " ++ kind.name ++ " of '" ++ container.element ++ "'")
      store.judgeEntries value container.elementDescriptor.expectation (pure check)
  | none =>
    if check = .byKind ∧ descriptor.content = Kind.string.name then return .accepted
    else store.judgeItem descriptor.expectation check value

/-- Judges a value against a descriptor. An absent value meets an optional type before
the check or the rest of the descriptor is looked at. -/
def judge (store : Store) (value descriptor : Value) (check : Run Check) : Run Verdict := do
  let form ← Run.ofExcept (store.form value)
  let shown ← Run.ofExcept (store.text descriptor)
  Run.debug .validation ("Check mixed: " ++ form ++ " vs '" ++ shown ++ "'")
  let written ← Run.ofExcept (store.descriptor descriptor)
  let (bare, optional) := written.withoutMark
  if optional && value.isAbsent then
    Run.debug .validation " Optional valid: nullish"
    return .accepted
  let resolved ← check
  store.judgeBare value bare resolved

def judgeMember (store : Store) (value source : Value) : Run Verdict := do
  let enumeration ← store.enumerationOf source
  if store.belongs enumeration value then return .accepted
  let actual ← Run.ofExcept (store.display value)
  return .rejected ("expected is " ++ enumeration.name ++ ", actual is " ++ actual)

end Store

end Conform
