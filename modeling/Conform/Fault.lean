import Conform.Value

/-! Faults: the reasons for which an operation has no result. A value that does not
conform is no fault of a check; it becomes one only when the caller demands conformance. -/

namespace Conform

/-- What is wrong with a container descriptor. -/
inductive DescriptorFlaw where
  | unclosed
  | missingKind
  | missingElement
  | nested
deriving DecidableEq

/-- Why a value is no check, with the name of its type. -/
inductive CheckFlaw where
  | unsupported (typeName : String)
  | notEnumerable (typeName : String)
deriving DecidableEq

/-- The cause for which an operation ends without a result. An unmet demand carries its message as
the value that it is, with the text that the value has then, if it has one. -/
inductive Fault where
  | malformedDescriptor (flaw : DescriptorFlaw) (shown : String)
  | invalidRule (name : String) (cause : Option CheckFlaw)
  | invalidCheck (flaw : CheckFlaw)
  | nonconforming (message : Value) (shown? : Option String)
  | failedAssertion (message : Value) (shown? : Option String)
  | noRule (name : String)
  | noEntry (key : Value)
  | unbound (name : String)
  | rulesNotMapping (type : String)
  | unsuitable
  | noAttribute
  | frozen
  | outOfRange
  | failedFunction
  | failedAttribute
  | noMember
  | reservedName
  | conflictingSlot
  | undeclaredField
  | noByte
  | zeroStep
  | zeroDivisor
  | noNumeral
  | noDecimal
  | signalling
  | tooLarge
  | tooLong
  | tooDeep
  | unknownEncoding
  | undecodable
  | raised (error : String)
deriving DecidableEq

/-- The classes that faults belong to. -/
inductive FaultClass where
  | validation
  | invalidDescriptor
  | invalidRule
  | invalidCheck
  | valueType
  | assertionFailed
  | typeError
  | valueError
  | keyError
  | indexError
  | attributeError
  | frozenField
  | zeroDivision
  | decimalOperation
  | overflow
  | recursion
  | lookup
  | decoding
  | custom
deriving DecidableEq

namespace FaultClass

/-- The classes that the library adds. -/
def added : List FaultClass :=
  [.validation, .invalidDescriptor, .invalidRule, .invalidCheck, .valueType, .assertionFailed]

def name : FaultClass → String
  | .validation => "ValidationError"
  | .invalidDescriptor => "InvalidDescriptorError"
  | .invalidRule => "InvalidRuleError"
  | .invalidCheck => "InvalidCheckError"
  | .valueType => "ValueTypeError"
  | .assertionFailed => "AssertionFailedError"
  | .typeError => "TypeError"
  | .valueError => "ValueError"
  | .keyError => "KeyError"
  | .indexError => "IndexError"
  | .attributeError => "AttributeError"
  | .frozenField => "FrozenInstanceError"
  | .zeroDivision => "ZeroDivisionError"
  | .decimalOperation => "InvalidOperation"
  | .overflow => "OverflowError"
  | .recursion => "RecursionError"
  | .lookup => "LookupError"
  | .decoding => "UnicodeDecodeError"
  | .custom => "Exception"

/-- The classes above one that the library adds, nearest first, below the general ones. -/
def ancestors : FaultClass → List String
  | .validation => ["TypeError", "Exception"]
  | .invalidDescriptor => ["ValidationError", "TypeError", "ValueError", "Exception"]
  | .assertionFailed => ["ValidationError", "TypeError", "AssertionError", "Exception"]
  | .invalidRule | .invalidCheck | .valueType => ["ValidationError", "TypeError", "Exception"]
  | _ => []

def defaultMessage : FaultClass → String
  | .assertionFailed => "Assertion failed"
  | _ => ""

end FaultClass

def CheckFlaw.message : CheckFlaw → String
  | .unsupported typeName => "check must be a predicate or an enum definition, got " ++ typeName
  | .notEnumerable typeName => "Cannot build an enum definition from " ++ typeName

def DescriptorFlaw.message (shown : String) : DescriptorFlaw → String
  | .unclosed => "container type '" ++ shown ++ "' is missing a closing '>'"
  | .missingKind => "not set container type for type '" ++ shown ++ "'"
  | .missingElement => "not set element type for type '" ++ shown ++ "'"
  | .nested => "nested container type '" ++ shown ++ "' is not supported"

namespace Fault

def family : Fault → FaultClass
  | .malformedDescriptor .. => .invalidDescriptor
  | .invalidRule .. => .invalidRule
  | .invalidCheck _ => .invalidCheck
  | .nonconforming .. => .valueType
  | .failedAssertion .. => .assertionFailed
  | .noRule _ | .noEntry _ | .unbound _ => .keyError
  | .rulesNotMapping _ | .unsuitable => .typeError
  | .noAttribute => .attributeError
  | .frozen => .frozenField
  | .outOfRange => .indexError
  | .failedFunction | .failedAttribute | .noMember | .reservedName | .conflictingSlot
  | .undeclaredField | .noByte | .zeroStep | .noNumeral | .tooLong => .valueError
  | .zeroDivisor => .zeroDivision
  | .noDecimal | .signalling => .decimalOperation
  | .tooLarge => .overflow
  | .tooDeep => .recursion
  | .unknownEncoding => .lookup
  | .undecodable => .decoding
  | .raised _ => .custom

/-- What a fault reports besides its class: a text, or the key that has no entry. -/
def message? : Fault → Option Value
  | .malformedDescriptor flaw shown => some (.text (flaw.message shown))
  | .invalidRule name _ => some (.text ("rule '" ++ name ++ "' is invalid"))
  | .invalidCheck flaw => some (.text flaw.message)
  | .nonconforming _ shown? | .failedAssertion _ shown? => shown?.map .text
  | .noRule name => some (.text ("Field '" ++ name ++ "' has no rule"))
  | .noEntry key => some key
  | .unbound name => some (.text name)
  | .rulesNotMapping type =>
    some (.text ("rules must be a mapping, received <class '" ++ type ++ "'>."))
  | .failedFunction => some (.text "boom")
  | .failedAttribute => some (.text "prop")
  | .raised error => some (.text error)
  | _ => none

/-- The faults that are the library's own: what is wrong with a descriptor, a rule or a check, an
unmet demand, and a table without a rule or without rules. -/
def isOwn : Fault → Bool
  | .malformedDescriptor .. | .invalidRule .. | .invalidCheck _ | .nonconforming ..
  | .failedAssertion .. | .noRule _ | .rulesNotMapping _ => true
  | _ => false

/-- The fault behind a fault: an invalid rule may stem from its check. -/
def cause? : Fault → Option Fault
  | .invalidRule _ (some flaw) => some (.invalidCheck flaw)
  | _ => none

end Fault

@[simp] theorem ok_bind (value : α) (next : α → Except Fault β) :
    (Except.ok value >>= next) = next value := rfl

@[simp] theorem error_bind (fault : Fault) (next : α → Except Fault β) :
    (Except.error fault >>= next) = .error fault := rfl

@[simp] theorem map_ok (value : α) (make : α → β) :
    (Except.ok value : Except Fault α).map make = .ok (make value) := rfl

@[simp] theorem map_error (fault : Fault) (make : α → β) :
    (Except.error fault).map make = .error fault := rfl

@[simp] theorem pure_eq_ok (value : α) : (pure value : Except Fault α) = .ok value := rfl

theorem ok_of_bind_ok {first : Except Fault α} {next : α → Except Fault β} {result : β}
    (succeeded : first >>= next = .ok result) :
    ∃ value, first = .ok value ∧ next value = .ok result := by
  cases first with
  | error fault => simp at succeeded
  | ok value => exact ⟨value, rfl, succeeded⟩

theorem map_ok_of_ok {first : Except Fault α} (make : α → β)
    (succeeded : ∃ value, first = .ok value) :
    ∃ result, (do return make (← first) : Except Fault β) = .ok result := by
  obtain ⟨value, here⟩ := succeeded
  exact ⟨make value, by rw [here, ok_bind, pure_eq_ok]⟩

theorem mapM_cons_ok {step : α → Except Fault β} {item : α} {rest : List α} {made : List β} :
    (item :: rest).mapM step = .ok made ↔
      ∃ first later, step item = .ok first ∧ rest.mapM step = .ok later ∧
        made = first :: later := by
  rw [List.mapM_cons]
  cases here : step item with
  | error fault => simp
  | ok first =>
    cases rest.mapM step with
    | error fault => simp
    | ok later => simp [eq_comm]

theorem mapM_ok_of_each (step : α → Except Fault β) {items : List α}
    (each : ∀ item ∈ items, ∃ made, step item = .ok made) :
    ∃ made, items.mapM step = .ok made := by
  induction items with
  | nil => exact ⟨[], rfl⟩
  | cons item rest inductionHypothesis =>
    obtain ⟨first, here⟩ := each item (by simp)
    obtain ⟨later, there⟩ := inductionHypothesis fun other member => each other (by simp [member])
    exact ⟨first :: later, mapM_cons_ok.mpr ⟨first, later, here, there, rfl⟩⟩

theorem all_congr {test other : α → Bool} {items : List α}
    (each : ∀ item ∈ items, test item = other item) : items.all test = items.all other := by
  rw [Bool.eq_iff_iff, List.all_eq_true, List.all_eq_true]
  exact forall₂_congr fun item member => by rw [each item member]

theorem any_congr {test other : α → Bool} {items : List α}
    (each : ∀ item ∈ items, test item = other item) : items.any test = items.any other := by
  rw [Bool.eq_iff_iff, List.any_eq_true, List.any_eq_true]
  exact exists_congr fun item => and_congr_right fun member => by rw [each item member]

/-- Steps that agree on each item of a list go through it alike. -/
theorem mapM_congr {step other : α → Except Fault β} {items : List α}
    (each : ∀ item ∈ items, step item = other item) : items.mapM step = items.mapM other := by
  induction items with
  | nil => rfl
  | cons item rest inductionHypothesis =>
    obtain ⟨here, later⟩ := List.forall_mem_cons.mp each
    rw [List.mapM_cons, List.mapM_cons, here, inductionHypothesis later]

theorem allM_congr {test other : α → Except Fault Bool} {items : List α}
    (each : ∀ item ∈ items, test item = other item) : items.allM test = items.allM other := by
  induction items with
  | nil => rfl
  | cons item rest inductionHypothesis =>
    obtain ⟨here, later⟩ := List.forall_mem_cons.mp each
    simp only [List.allM, here, inductionHypothesis later]

theorem exists_of_mem_mapM_ok {step : α → Except Fault β} {items : List α} {made : List β}
    (succeeded : items.mapM step = .ok made) {result : β} (member : result ∈ made) :
    ∃ item ∈ items, step item = .ok result := by
  induction items generalizing made with
  | nil =>
    cases succeeded
    simp at member
  | cons item rest inductionHypothesis =>
    obtain ⟨first, later, here, there, rfl⟩ := mapM_cons_ok.mp succeeded
    rcases List.mem_cons.mp member with same | deeper
    · exact ⟨item, by simp, same ▸ here⟩
    · obtain ⟨other, present, reached⟩ := inductionHypothesis there deeper
      exact ⟨other, by simp [present], reached⟩

/-- An outcome that is a fault only if the fault is allowed. -/
def OnlyFaults (allowed : Fault → Prop) (outcome : Except Fault α) : Prop :=
  ∀ fault, outcome = .error fault → allowed fault

/-- An outcome that is none of the library's own faults. -/
abbrev Foreign (outcome : Except Fault α) : Prop :=
  OnlyFaults (fun fault => fault.isOwn = false) outcome

namespace OnlyFaults

variable {allowed : Fault → Prop} {first : Except Fault α} {next : α → Except Fault β}

theorem ok (value : α) : OnlyFaults allowed (.ok value) := nofun

theorem error {fault : Fault} (admitted : allowed fault) :
    OnlyFaults allowed (.error fault : Except Fault α) := by
  intro other same
  cases same
  exact admitted

theorem bind (here : OnlyFaults allowed first)
    (there : ∀ value, OnlyFaults allowed (next value)) : OnlyFaults allowed (first >>= next) := by
  intro fault failed
  cases ended : first with
  | error other =>
    rw [ended, error_bind] at failed
    cases failed
    exact here fault ended
  | ok value =>
    rw [ended, ok_bind] at failed
    exact there value fault failed

theorem map (here : OnlyFaults allowed first) (make : α → β) :
    OnlyFaults allowed (first.map make) := by
  intro fault failed
  cases ended : first with
  | error other =>
    rw [ended, map_error] at failed
    cases failed
    exact here fault ended
  | ok value => simp [ended] at failed

theorem mono {wider : Fault → Prop} (here : OnlyFaults allowed first)
    (weaker : ∀ fault, allowed fault → wider fault) : OnlyFaults wider first :=
  fun fault failed => weaker fault (here fault failed)

theorem mapM {step : α → Except Fault β} (each : ∀ item, OnlyFaults allowed (step item))
    (items : List α) : OnlyFaults allowed (items.mapM step) := by
  induction items with
  | nil => exact ok []
  | cons item rest inductionHypothesis =>
    rw [List.mapM_cons]
    exact bind (each item) fun made => bind inductionHypothesis fun later => ok (made :: later)

theorem forM {step : α → Except Fault Unit} (each : ∀ item, OnlyFaults allowed (step item))
    (items : List α) : OnlyFaults allowed (items.forM step) := by
  induction items with
  | nil => exact ok ()
  | cons item rest inductionHypothesis => exact bind (each item) fun _ => inductionHypothesis

theorem anyM {step : α → Except Fault Bool} (each : ∀ item, OnlyFaults allowed (step item))
    (items : List α) : OnlyFaults allowed (items.anyM step) := by
  induction items with
  | nil => exact ok false
  | cons item rest inductionHypothesis =>
    refine bind (each item) fun found => ?_
    cases found with
    | true => exact ok true
    | false => exact inductionHypothesis

theorem allM {step : α → Except Fault Bool} (each : ∀ item, OnlyFaults allowed (step item))
    (items : List α) : OnlyFaults allowed (items.allM step) := by
  induction items with
  | nil => exact ok true
  | cons item rest inductionHypothesis =>
    refine bind (each item) fun met => ?_
    cases met with
    | true => exact inductionHypothesis
    | false => exact ok false

end OnlyFaults

end Conform
