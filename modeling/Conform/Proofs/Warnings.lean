import Conform.Proofs.Disciplines

/-! Warnings for what a caller got wrong. An operation that ends by a fault for a descriptor, a rule
or a check has warned of it in its last record, except when the kind or the element of a descriptor
is empty and when a value is no check by itself; these faults come without a warning. Nothing else
raises an alarm: a record that is not for debugging is the only one of its operation, the last one,
and tells of such a fault or of rules that are no mapping. -/

namespace Conform

/-- The faults of what a caller got wrong that come without a warning. -/
inductive Fault.IsSilent : Fault → Prop where
  | missingKind (shown : String) : IsSilent (.malformedDescriptor .missingKind shown)
  | missingElement (shown : String) : IsSilent (.malformedDescriptor .missingElement shown)
  | check (flaw : CheckFlaw) : IsSilent (.invalidCheck flaw)

/-- A fault of what a caller got wrong: a descriptor, a rule or a check. -/
def Fault.IsMisuse (fault : Fault) : Prop :=
  fault.family = .invalidDescriptor ∨ fault.family = .invalidRule ∨ fault.family = .invalidCheck

/-- A log that warns of a fault in its last record and in no other one. -/
def WarnsOf (fault : Fault) (log : List LogRecord) : Prop :=
  ∃ before record, log = before ++ [record] ∧ OnlyDebug before ∧ record.level = .warning ∧
    Announces fault record

theorem Fault.IsSilent.unannounced {fault : Fault} (silent : fault.IsSilent) :
    fault.isAnnounced = false := by
  cases silent <;> rfl

theorem Fault.IsMisuse.isAnnounced {fault : Fault} (misuse : fault.IsMisuse)
    (loud : ¬ fault.IsSilent) : fault.isAnnounced = true := by
  cases fault with
  | malformedDescriptor flaw shown =>
    cases flaw with
    | unclosed => rfl
    | nested => rfl
    | missingKind => exact absurd (.missingKind shown) loud
    | missingElement => exact absurd (.missingElement shown) loud
  | invalidRule name cause => rfl
  | invalidCheck flaw => exact absurd (.check flaw) loud
  | _ => simp [IsMisuse, family] at misuse

/-- Only rules that are no mapping are announced by more than a warning. -/
theorem Announces.level {fault : Fault} {record : LogRecord} (announces : Announces fault record)
    (misuse : fault.IsMisuse) : record.level = .warning := by
  cases announces with
  | rules typeName type => simp [Fault.IsMisuse, Fault.family] at misuse
  | unclosed | nested | rule | check => rfl

/-- A fault that gives no cause for an alarm: that a value does not conform, that an assertion
fails, that nothing is found under a key, and any fault that is none of the library's own. -/
def Fault.IsOrdinary (fault : Fault) : Prop :=
  fault.family = .valueType ∨ fault.family = .assertionFailed ∨ fault.family = .keyError ∨
    fault.isOwn = false

/-- The level at which the log tells of a fault: a warning for a descriptor or a rule, an error for
rules that are no mapping. -/
inductive Fault.RaisesAlarm : Fault → Level → Prop where
  | descriptor (flaw : DescriptorFlaw) (shown : String) :
      RaisesAlarm (.malformedDescriptor flaw shown) .warning
  | rule (name : String) (cause : Option CheckFlaw) : RaisesAlarm (.invalidRule name cause) .warning
  | rules (type : String) : RaisesAlarm (.rulesNotMapping type) .error

theorem Fault.IsOrdinary.unannounced {fault : Fault} (ordinary : fault.IsOrdinary) :
    fault.isAnnounced = false := by
  rcases ordinary with family | family | family | foreign
  · cases fault <;> first | rfl | cases family
  · cases fault <;> first | rfl | cases family
  · cases fault <;> first | rfl | cases family
  · exact isAnnounced_of_foreign foreign

theorem Announces.raisesAlarm {fault : Fault} {record : LogRecord}
    (announces : Announces fault record) : fault.RaisesAlarm record.level := by
  cases announces with
  | unclosed shown => exact .descriptor .unclosed shown
  | nested shown => exact .descriptor .nested shown
  | rule name form => exact .rule name none
  | check name form flaw => exact .rule name (some flaw)
  | rules typeName type => exact .rules type

/-- A record that is not for debugging can only be the one after a front that is. -/
theorem OnlyDebug.eq_of_loud {front before after : List LogRecord} {last record : LogRecord}
    (debugging : OnlyDebug front) (whole : front ++ [last] = before ++ record :: after)
    (loud : record.level ≠ .debug) : before = front ∧ record = last ∧ after = [] := by
  induction front generalizing before with
  | nil =>
    cases before with
    | nil =>
      obtain ⟨same, rest⟩ := List.cons.inj whole
      exact ⟨rfl, same.symm, rest.symm⟩
    | cons first others => simp at whole
  | cons first rest inductionHypothesis =>
    cases before with
    | nil =>
      obtain ⟨same, _⟩ := List.cons.inj whole
      exact absurd (debugging record (by simp [same])) loud
    | cons other others =>
      obtain ⟨same, whole⟩ := List.cons.inj whole
      obtain ⟨fronts, here, there⟩ :=
        inductionHypothesis (fun other member => debugging other (by simp [member])) whole
      exact ⟨by rw [same, fronts], here, there⟩

theorem Value.attributeFault_isOwn (value : Value) : value.attributeFault.isOwn = false := by
  cases value <;> rfl

/-- An action that announces its fault, if that has to be, in the last of its records and in no
other one. -/
def Action.Announced (action : Action α) : Prop := ∀ store, (action store).1.Announced

namespace Action

theorem run_bind (first : Action α) (next : α → Action β) (store : Store) :
    ((first >>= next) store).1 =
      (first store).1 >>= fun answer => (next answer (first store).2).1 := by
  rcases ran : first store with ⟨⟨outcome, calls, log⟩, middle⟩
  cases outcome <;> simp [Bind.bind, andThen, Run.andThen, ran]

theorem announced_bind {first : Action α} {next : α → Action β} (here : first.Announced)
    (there : ∀ answer, (next answer).Announced) : (first >>= next).Announced := by
  intro store
  rw [run_bind]
  exact (here store).bind fun answer => there answer _

theorem announced_of_foreign {outcome : Except Fault α} (foreign : Foreign outcome) :
    (ofExcept outcome).Announced := fun _ => .of_foreign foreign

/-- A change of an object, of which no fault has to be announced. -/
theorem announced_modify (target : Value) {otherwise : Fault}
    {change : Store → Object → Except Fault Object} (outside : otherwise.isOwn = false)
    (foreign : ∀ store object, Foreign (change store object)) :
    (modify target otherwise change).Announced := by
  cases target with
  | object ref =>
    exact announced_bind (fun store => .pure store) fun store =>
      announced_bind (announced_of_foreign (foreign store _)) fun _ _ => .pure ()
  | _ => exact announced_of_foreign (.error outside)

theorem announced_discipline : Discipline Announced where
  bind := announced_bind
  reading announced := announced
  alloc _ store := .pure (Value.object store.next)
  attach _ _ _ := .pure ()
  modify target _ _ outside foreign _ := announced_modify target outside foreign

theorem announced_setAttribute (target spelling value : Value) :
    (setAttribute target spelling value).Announced := by
  refine announced_bind (fun store => .pure store) fun store => ?_
  refine announced_bind (announced_of_foreign (Store.attributeName_foreign spelling)) fun name => ?_
  exact Growth.ite (fun _ => .pure ()) (announced_modify target target.attributeFault_isOwn
    fun _ object => Store.withAttribute_foreign object name spelling value)

theorem announced_dropAttribute (target spelling : Value) :
    (dropAttribute target spelling).Announced := by
  refine announced_bind (fun store => .pure store) fun store => ?_
  refine announced_bind (announced_of_foreign (Store.attributeName_foreign spelling)) fun name => ?_
  exact Growth.ite (fun _ => .pure ()) (announced_modify target target.attributeFault_isOwn
    fun _ object => Store.withoutAttribute_foreign object name)

end Action

namespace Session

/-- One step: every operation announces its fault, if that has to be. -/
theorem perform_announced (bindings : Fields) (operation : Operation) :
    (perform bindings operation).Announced := by
  have given {α : Type} (term : Term) {next : Value → Action α}
      (rest : ∀ value, (next value).Announced) : (term.evaluate bindings >>= next).Announced :=
    Action.announced_bind (term.evaluate_keeps Action.announced_discipline.growth bindings) rest
  refine perform_keeps Action.announced_discipline bindings operation fun alters => ?_
  cases operation with
  | setAttribute target name value =>
    exact given target fun target => given name fun name => given value fun value =>
      Action.announced_discipline.growth.done (Action.announced_setAttribute target name value)
  | dropAttribute target name =>
    exact given target fun target => given name fun name =>
      Action.announced_discipline.growth.done (Action.announced_dropAttribute target name)
  | _ => cases alters

/-- Every operation that ends by a fault for a descriptor, a rule or a check has warned of it in its
last record and written nothing but debug records before, unless the fault is one of those that come
without a warning; then all of its records are for debugging. -/
theorem misuse_is_warned_of (bindings : Fields) (operation : Operation) (store : Store)
    {fault : Fault} (ended : (perform bindings operation store).1.outcome = .error fault)
    (misuse : fault.IsMisuse) :
    (¬ fault.IsSilent → WarnsOf fault (perform bindings operation store).1.log) ∧
    (fault.IsSilent → OnlyDebug (perform bindings operation store).1.log) := by
  obtain ⟨announced, quiet⟩ := (perform_announced bindings operation store).of_error ended
  constructor
  · intro loud
    obtain ⟨before, record, whole, debugging, announces⟩ := announced (misuse.isAnnounced loud)
    exact ⟨before, record, whole, debugging, announces.level misuse, announces⟩
  · intro silent
    exact quiet silent.unannounced

/-- A descriptor without a closing bracket is warned of; one with an empty kind is not, nor is a
number in the place of a check. -/
theorem empty_kind_is_silent :
    let unclosed := (perform [] (.container (.value (.text "array<number"))) .initial).1
    let empty := (perform [] (.container (.value (.text "<number>"))) .initial).1
    let unsupported := (perform [] (.check (.value (.integer 5))) .initial).1
    WarnsOf (.malformedDescriptor .unclosed "array<number") unclosed.log ∧
      empty.outcome = .error (.malformedDescriptor .missingKind "<number>") ∧
      OnlyDebug empty.log ∧ empty.log.getLast? = none ∧
      unsupported.outcome = .error (.invalidCheck (.unsupported "int")) ∧
      OnlyDebug unsupported.log ∧ unsupported.log.getLast? = none := by
  refine ⟨(misuse_is_warned_of [] _ .initial rfl (.inl rfl)).1 nofun, rfl, ?_, rfl, rfl, ?_, rfl⟩
  · exact (misuse_is_warned_of [] (.container (.value (.text "<number>"))) .initial rfl
      (.inl rfl)).2 (.missingKind _)
  · exact (misuse_is_warned_of [] (.check (.value (.integer 5))) .initial rfl
      (.inr (.inr rfl))).2 (.check _)

/-- No false alarms. An operation that answers, or that ends by an ordinary fault, writes records
for debugging only; all faults by which a caller's function may end are ordinary. The log of any
operation has at most one record that is not for debugging: nothing but debug records come before
it, nothing comes after it, and the operation ends by the fault that it tells of. -/
theorem alarms_tell_of_misuse (bindings : Fields) (operation : Operation) (store : Store) :
    (∀ answer, (perform bindings operation store).1.outcome = .ok answer →
      OnlyDebug (perform bindings operation store).1.log) ∧
    (∀ fault, (perform bindings operation store).1.outcome = .error fault → fault.IsOrdinary →
      OnlyDebug (perform bindings operation store).1.log) ∧
    (∀ (later : Store) callee argument fault,
      (later.call callee argument).outcome = .error fault → fault.IsOrdinary) ∧
    ∀ before record after, (perform bindings operation store).1.log = before ++ record :: after →
      record.level ≠ .debug → OnlyDebug before ∧ after = [] ∧
        ∃ fault, (perform bindings operation store).1.outcome = .error fault ∧
          fault.RaisesAlarm record.level := by
  have announced := perform_announced bindings operation store
  generalize (perform bindings operation store).1 = run at announced ⊢
  have foreign (later : Store) (callee argument : Value) (fault : Fault)
      (ended : (later.call callee argument).outcome = .error fault) : fault.IsOrdinary :=
    .inr (.inr (.inr ((Store.call_harmless callee argument).faults fault ended)))
  cases announced with
  | subdued subdued =>
    refine ⟨fun _ _ => subdued.log, fun _ _ _ => subdued.log, foreign, ?_⟩
    intro before record after whole loud
    exact absurd (subdued.log record (by simp [whole])) loud
  | @warned fault calls front last debugging announces =>
    refine ⟨nofun, ?_, foreign, ?_⟩
    · intro other ended ordinary
      cases ended
      have unannounced := ordinary.unannounced
      simp [announces.isAnnounced] at unannounced
    · intro before record after whole loud
      obtain ⟨rfl, rfl, rfl⟩ := debugging.eq_of_loud whole loud
      exact ⟨debugging, rfl, fault, rfl, announces.raisesAlarm⟩

/-- A text that is no number is refused without an alarm. A nested descriptor ends the judgement by
the warning of it, the first and only one. -/
theorem refusal_raises_no_alarm :
    let refused := (perform [] (.demandValue (.value (.text "a")) (.value (.text "number"))
      (.value .null) (.value .null)) .initial).1
    let nested := (perform [] (.judge (.value (.text "a")) (.value (.text "array<map<number>>"))
      (.value .null)) .initial).1
    let reason := "assert_mixed(): assert failed, expected is number, actual is string"
    refused.outcome = .error (.nonconforming (.text reason) (some reason)) ∧
      OnlyDebug refused.log ∧ refused.log.length = 1 ∧
      nested.log.map LogRecord.level = [.debug, .warning] ∧
      ∃ before record, nested.log = before ++ [record] ∧ OnlyDebug before ∧
        Fault.RaisesAlarm (.malformedDescriptor .nested "array<map<number>>") record.level := by
  intro refused nested reason
  refine ⟨rfl, ?_, rfl, rfl, ?_⟩
  · exact (alarms_tell_of_misuse [] (.demandValue (.value (.text "a")) (.value (.text "number"))
      (.value .null) (.value .null)) .initial).2.1 _ rfl (.inl rfl)
  · obtain ⟨debugging, _, fault, ended, alarm⟩ := (alarms_tell_of_misuse [] (.judge
      (.value (.text "a")) (.value (.text "array<map<number>>")) (.value .null)) .initial).2.2.2
      [_] _ [] rfl nofun
    cases ended
    exact ⟨[_], _, rfl, debugging, alarm⟩

end Session

end Conform
