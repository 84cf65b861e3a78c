import Conform.Rule
import Conform.Proofs.Descriptors

/-! Where the library's own faults come from. Writing a value, comparing values, reading an
attribute and calling a function raise none of them; a judgement raises those for a malformed
descriptor and an unsupported check, and a judgement of a field those for a rule besides. -/

namespace Conform

namespace Fault

/-- The faults of a descriptor, and those that are not the library's own. -/
def OfDescriptor (fault : Fault) : Prop := fault.isOwn = false ∨ fault.family = .invalidDescriptor

/-- The faults of drawing a check, and those that are not the library's own. -/
def OfCheck (fault : Fault) : Prop := fault.isOwn = false ∨ fault.family = .invalidCheck

/-- The faults of a judgement: those of its descriptor and of its check. -/
def OfJudgement (fault : Fault) : Prop := fault.OfDescriptor ∨ fault.family = .invalidCheck

/-- The faults of judging a field: those of its descriptor and of its rule. An unsupported check
is the fault of the rule that it belongs to. -/
def OfRule (fault : Fault) : Prop := fault.OfDescriptor ∨ fault.family = .invalidRule

theorem OfCheck.ofJudgement {fault : Fault} (known : fault.OfCheck) : fault.OfJudgement :=
  known.imp_left Or.inl

theorem OfRule.ne_noRule {fault : Fault} (known : fault.OfRule) (name : String) :
    fault ≠ .noRule name := by
  rintro rfl
  rcases known with (own | descriptor) | rule
  · cases own
  · cases descriptor
  · cases rule

theorem OfJudgement.ne_nonconforming {fault : Fault} (known : fault.OfJudgement)
    (message : Value) (shown? : Option String) : fault ≠ .nonconforming message shown? := by
  rintro rfl
  rcases known with (own | descriptor) | check
  · cases own
  · cases descriptor
  · cases check

theorem OfRule.ne_nonconforming {fault : Fault} (known : fault.OfRule) (message : Value)
    (shown? : Option String) : fault ≠ .nonconforming message shown? := by
  rintro rfl
  rcases known with (own | descriptor) | rule
  · cases own
  · cases descriptor
  · cases rule

end Fault

namespace Store

variable {store : Store}

theorem requireHashable_foreign (value : Value) : Foreign (store.requireHashable value) := by
  unfold requireHashable
  split
  · exact .ok ()
  · exact .error rfl

section Writing

theorem baseForm_foreign (base : EnumBase) (value : Value) : Foreign (store.baseForm base value) := by
  unfold baseForm
  split
  · exact writtenOr_foreign _
  · exact .ok _
  · exact .ok _
  · exact .error rfl

/-- By induction on the depth, which is spent on each step inside. -/
theorem formWithin_foreign (depth : Nat) (opened : List Ref) (value : Value) :
    Foreign (store.formWithin depth opened value) := by
  induction depth generalizing opened value with
  | zero => exact .error rfl
  | succ depth inductionHypothesis =>
    cases value with
    | number number => exact writtenOr_foreign _
    | member owner index =>
      simp only [formWithin]
      split
      · split
        · exact .bind (inductionHypothesis opened _) fun _ => .ok _
        · exact .bind (baseForm_foreign _ _) fun _ => .ok _
      · exact .ok _
    | object ref =>
      simp only [formWithin]
      split
      · split
        · exact .ok _
        · exact Object.formWith_foreign (inductionHypothesis _) _ _
      · exact Object.formWith_foreign (inductionHypothesis _) _ _
    | _ => exact .ok _

theorem form_foreign (value : Value) : Foreign (store.form value) :=
  formWithin_foreign store.formDepth [] value

theorem text_foreign (value : Value) : Foreign (store.text value) := by
  cases value with
  | member owner index =>
    simp only [text]
    split
    · exact writtenOr_foreign _
    all_goals exact .ok _
  | object ref =>
    simp only [text]
    split
    · exact .ok _
    · exact .ok _
    · exact .ok _
    · exact Object.formWith_foreign (formWithin_foreign _ _) _ _
    · refine .bind (.mapM ?_ _) fun _ => .ok _
      rintro ⟨name, value⟩
      exact .bind (form_foreign value) fun _ => .ok _
    · exact form_foreign _
  | number number => exact writtenOr_foreign _
  | text | wrapped | decimal => exact .ok _
  | _ => exact form_foreign _

theorem display_foreign (value : Value) : Foreign (store.display value) := by
  unfold display
  split
  · exact .ok _
  · exact .ok _
  · exact .ok _
  · exact text_foreign value

end Writing

section Comparing

variable {agree : Value → Value → Except Fault Bool}
  (each : ∀ left right, Foreign (agree left right))

include each

theorem pairwise_foreign (lefts rights : List Value) : Foreign (pairwise agree lefts rights) := by
  induction lefts generalizing rights with
  | nil => cases rights <;> exact .ok _
  | cons left lefts inductionHypothesis =>
    cases rights with
    | nil => exact .ok _
    | cons right rights =>
      refine .bind (each left right) fun same => ?_
      split
      · exact inductionHypothesis rights
      · exact .ok _

theorem pairwiseListed_foreign (lefts rights : List Value) :
    Foreign (pairwiseListed agree lefts rights) := by
  unfold pairwiseListed
  split
  · exact pairwise_foreign each lefts rights
  · exact .ok _

theorem sameEntries_foreign (left right : List (Value × Value)) :
    Foreign (sameEntries agree left right) := by
  unfold sameEntries
  split
  · refine .allM ?_ left
    rintro ⟨key, value⟩
    dsimp only
    split
    · exact each _ _
    · exact .ok _
  · exact .ok _

theorem sameFields_foreign (left right : Fields) : Foreign (sameFields agree left right) := by
  unfold sameFields
  split
  · refine .allM ?_ left
    rintro ⟨name, value⟩
    dsimp only
    split
    · exact each _ _
    · exact .ok _
  · exact .ok _

omit each in
theorem declaredFields_foreign (record : Record) : Foreign record.declaredFields := by
  refine .mapM (fun name => ?_) record.declared
  split
  · exact .ok _
  · exact .error rfl

theorem sameRecords_foreign (left right : Record) : Foreign (sameRecords agree left right) := by
  unfold sameRecords
  split
  · exact .bind (declaredFields_foreign left) fun _ =>
      .bind (declaredFields_foreign right) fun _ => pairwise_foreign each _ _
  · exact .ok _

theorem sameModels_foreign (left right : Model) : Foreign (sameModels agree left right) := by
  unfold sameModels
  split
  · refine .bind (sameFields_foreign each _ _) fun same => ?_
    split
    · exact sameFields_foreign each _ _
    · exact .ok _
  · exact .ok _

theorem holdsElement_foreign (object : Object) (value : Value) :
    Foreign (store.holdsElement agree object value) := by
  have keyed (items : List Value) : Foreign (do
      store.requireHashable value
      return items.any fun item => quietly agree item value) :=
    .bind (requireHashable_foreign value) fun _ => .ok _
  cases object with
  | set frozen items =>
    simp only [holdsElement]
    split
    · exact .ok _
    · exact keyed items
  | view part items =>
    cases part with
    | keys => exact keyed items
    | items =>
      simp only [holdsElement, holdsPair]
      split
      · exact .ok _
      · refine .bind (requireHashable_foreign _) fun _ => ?_
        split
        · exact each _ _
        · exact .ok _
    | values => exact .ok _
  | _ => exact .ok _

theorem sameMappings_foreign (form form' : MappingForm) (left right : List (Value × Value)) :
    Foreign (sameMappings agree form form' left right) := by
  have ordered (same : Bool) : Foreign
      (if same ∧ form = .ordered ∧ form' = .ordered then
        pairwise agree (left.map Prod.fst) (right.map Prod.fst)
      else .ok same) := by
    split
    · exact pairwise_foreign each _ _
    · exact .ok _
  unfold sameMappings
  dsimp only
  split
  · exact .bind (sameEntries_foreign each right left) ordered
  · exact .bind (sameEntries_foreign each left right) ordered

theorem sameObject_foreign (left right : Object) : Foreign (store.sameObject agree left right) := by
  unfold sameObject
  split
  · exact sameMappings_foreign each _ _ _ _
  · exact pairwiseListed_foreign each _ _
  · exact pairwiseListed_foreign each _ _
  · exact pairwise_foreign each _ _
  · exact pairwise_foreign each _ _
  · exact pairwise_foreign each _ _
  · exact pairwise_foreign each _ _
  · exact .ok _
  · exact sameRecords_foreign each _ _
  · exact sameModels_foreign each _ _
  · split
    · split
      · exact .ok _
      · split
        · split
          · exact .allM (holdsElement_foreign each _) _
          · exact .allM (holdsElement_foreign each _) _
        · exact .allM (holdsElement_foreign each _) _
    · split
      · split
        · exact pairwise_foreign each _ _
        · exact .ok _
      · exact .ok _

theorem sameReferences_foreign (left right : Value) :
    Foreign (store.sameReferences agree left right) := by
  unfold sameReferences
  split
  · exact sameRecords_foreign each _ _
  · split
    · exact .ok _
    · exact sameObject_foreign each _ _
  · exact .ok _

end Comparing

/-- By induction on the depth, which is spent on each step into a pair of containers. -/
theorem equalWithin_foreign (depth : Nat) (left right : Value) :
    Foreign (store.equalWithin depth left right) := by
  induction depth generalizing left right with
  | zero => exact .error rfl
  | succ depth inductionHypothesis =>
    have each (one other : Value) :
        Foreign (if one = other then .ok true else store.equalWithin depth one other) := by
      split
      · exact .ok _
      · exact inductionHypothesis one other
    simp only [equalWithin]
    split
    · split
      · exact .ok _
      · exact .error rfl
    · exact .ok _
    · exact .ok _
    · split
      · exact .ok _
      · exact .ok _
      · exact .ok _
      · split
        · exact .ok _
        · exact .ok _
        · exact .ok _
        · exact sameReferences_foreign each left right

theorem equal_foreign (left right : Value) : Foreign (store.equal left right) :=
  equalWithin_foreign store.comparisonDepth left right

section Reading

theorem notDescriptor_isOwn (value : Value) : (store.notDescriptor value).isOwn = false := by
  unfold notDescriptor
  split
  · rfl
  · rfl
  · split
    · rfl
    · split <;> rfl
    · rfl

theorem containerKind?_foreign (value : Value) : Foreign (store.containerKind? value) := by
  unfold containerKind?
  split
  · exact .ok _
  · exact .ok _
  · exact .error (notDescriptor_isOwn value)

theorem kindAttribute_foreign (kindName : Value) : Foreign (store.kindAttribute kindName) := by
  have computed := store.containerKind?_foreign kindName
  unfold kindAttribute
  split
  · exact .ok _
  · exact .ok _
  · rename_i fault _ failed
    exact .error (computed fault failed)

theorem objectAttribute_foreign (ref : Ref) (object : Object) (name : String) :
    Foreign (store.objectAttribute ref object name) := by
  cases object with
  | plain whole =>
    simp only [objectAttribute]
    split
    · exact .ok _
    · exact .error rfl
    · exact .ok _
  | sequence form items =>
    cases form <;> simp only [objectAttribute, Object.frozen?] <;> exact .ok _
  | container kindName element =>
    simp only [objectAttribute]
    split
    · exact kindAttribute_foreign kindName
    · exact .ok _
  | _ => simp only [objectAttribute, Object.frozen?]; exact .ok _

theorem attributeOf_foreign (value : Value) (name : String) :
    Foreign (store.attributeOf value name) := by
  unfold attributeOf
  cases value with
  | object ref => exact .bind (objectAttribute_foreign ref _ name) fun _ => .ok _
  | _ => exact .ok _

theorem field_foreign (value name : Value) : Foreign (store.field value name) := by
  have named (resolved : Value) : Foreign (do
      return (← store.attributeNamed value resolved).getD .undefined) := by
    unfold attributeNamed
    split
    · exact .bind (attributeOf_foreign value _) fun _ => .ok _
    · exact .error rfl
  unfold field
  split
  · exact .bind (requireHashable_foreign name) fun _ => .ok _
  · dsimp only
    split
    · exact .bind (requireHashable_foreign name) fun _ => .bind (.ok _) named
    · exact .bind (.ok name) named

theorem rules_foreign (source : Value) : Foreign (store.rules source) := by
  unfold rules
  split
  · exact .ok _
  · refine .bind (attributeOf_foreign source "items") fun found => ?_
    cases found with
    | some _ => exact .error rfl
    | none => exact .error rfl

end Reading

section Calling

theorem truth_foreign (value : Value) : Foreign (store.truth value) := by
  unfold truth
  split <;> try exact .ok _
  split
  · exact .ok _
  · exact .error rfl
  · exact .ok _
  · split <;> exact .ok _

theorem length_foreign (value : Value) : Foreign (store.length value) := by
  unfold length
  split
  · split
    · exact .ok _
    · exact .error rfl
  · exact .error rfl

theorem truncated_foreign (number : Number) : Foreign number.truncated := by
  unfold Number.truncated
  split
  · exact .ok _
  · exact .ok _
  · exact .ok _
  · exact .error rfl
  · exact .error rfl

theorem integerOf_foreign (value : Value) : Foreign (store.integerOf value) := by
  unfold integerOf
  split
  · exact .ok _
  · exact truncated_foreign _
  · split
    · exact .ok _
    · exact .error rfl
  · exact .error rfl
  · exact .error rfl
  · split
    · rename_i content _
      cases Integer.ofText? 10 content with
      | none => exact .error rfl
      | some known => exact .ok known
    · rename_i bytes _ _
      cases Integer.ofBytes? 10 bytes with
      | none => exact .error rfl
      | some known => exact .ok known
    · exact .error rfl

theorem memberWith_foreign (value : Value) (members : Fields) :
    Foreign (store.memberWith? value members) := by
  induction members with
  | nil => exact .ok none
  | cons member rest inductionHypothesis =>
    have later (found : Bool) : Foreign (if found then .ok (some 0) else do
        return (← store.memberWith? value rest).map (· + 1)) := by
      split
      · exact .ok _
      · exact .bind inductionHypothesis fun _ => .ok _
    simp only [memberWith?]
    split
    · exact later _
    · exact .bind (equal_foreign member.2 value) later

theorem memberOf_foreign (owner : Ref) (type : EnumType) (value : Value) :
    Foreign (store.memberOf owner type value) := by
  unfold memberOf
  dsimp only
  split
  · split
    · exact .ok _
    · refine .bind (memberWith_foreign _ type.members) fun found => ?_
      cases found with
      | none => exact .bind (form_foreign _) fun _ => .error rfl
      | some index => exact .ok _
  · refine .bind (memberWith_foreign value type.members) fun found => ?_
    cases found with
    | none => exact .bind (form_foreign value) fun _ => .error rfl
    | some index => exact .ok _

theorem convert_foreign (type : BuiltinType) (argument : Value) :
    Foreign (store.convert type argument) := by
  cases type with
  | boolean => exact .bind (truth_foreign argument) fun _ => .ok _
  | integer => exact .bind (integerOf_foreign argument) fun _ => .ok _
  | text => exact .bind (text_foreign argument) fun _ => .ok _
  | object => exact .error rfl

theorem replyTruth_foreign (reply : Reply) : Foreign (store.replyTruth reply) := by
  cases reply with
  | value value => exact truth_foreign value
  | list items => exact .ok _

/-- A function of the caller's own ends by what it raises, which is no fault of the library's. -/
theorem reply_foreign (function : Function) (argument : Value) :
    Foreign (store.reply function argument) := by
  cases function with
  | failing => exact .error rfl
  | isEven =>
    simp only [reply]
    split <;> exact .ok _
  | isMapping =>
    simp only [reply]
    split <;> exact .ok _
  | isList =>
    simp only [reply]
    split <;> exact .ok _
  | equalTo other => exact .bind (equal_foreign argument other) fun _ => .ok _
  | below bound =>
    simp only [reply]
    split
    · exact .ok _
    · exact .error rfl
  | length => exact .bind (length_foreign argument) fun _ => .ok _
  | form => exact .bind (form_foreign argument) fun _ => .ok _
  | custom name =>
    simp only [reply]
    cases store.replies name argument with
    | error raised => exact .error rfl
    | ok answer => exact .ok answer
  | _ => exact .ok _

/-- By induction on the depth, which is spent on each predicate inside a predicate. -/
theorem callWithin_harmless (depth : Nat) (callee argument : Value) :
    (store.callWithin depth callee argument).Harmless := by
  induction depth generalizing callee with
  | zero => exact .fail rfl
  | succ depth inductionHypothesis =>
    cases callee with
    | builtin type => exact .ofExcept (convert_foreign type argument)
    | object ref =>
      simp only [callWithin]
      split
      · exact .bind (.call _ argument) fun _ => .ofExcept (reply_foreign _ argument)
      · exact .ofExcept (.map (memberOf_foreign ref _ argument) _)
      · exact .bind (inductionHypothesis _) fun reply =>
          .bind (.ofExcept (replyTruth_foreign reply)) fun _ => .pure _
      · split
        · exact .pure _
        · exact .fail rfl
    | _ => exact .fail rfl

theorem call_harmless (callee argument : Value) : (store.call callee argument).Harmless :=
  callWithin_harmless _ callee argument

theorem passes_harmless (test value : Value) : (store.passes test value).Harmless :=
  .bind (call_harmless test value) fun reply => .ofExcept (replyTruth_foreign reply)

end Calling

section Checking

theorem enumerate_harmless (name : String) (values : List Value) :
    (store.enumerate name values).Harmless :=
  .bind (.ofExcept (.mapM text_foreign _)) fun _ => .bind (.debug _ _) fun _ => .pure _

theorem enumerate_foreign (name : String) (values : List Value) :
    Foreign (store.enumerate name values).outcome := (enumerate_harmless name values).faults

/-- A check that cannot be drawn is a fault of the library's own, of which the log does not tell. -/
theorem enumerationOf_subdued (source : Value) :
    (store.enumerationOf source).Subdued Fault.OfCheck := by
  unfold enumerationOf
  split
  · exact .pure _
  · exact (enumerate_harmless _ _).mono fun _ => Or.inl
  · rename_i entries _ _ _
    have name : Foreign (store.mappingName entries) :=
      .bind (.mapM (fun entry => text_foreign entry.1) entries) fun _ => .ok _
    exact .bind (.ofExcept (name.mono fun _ => Or.inl)) fun _ =>
      (enumerate_harmless _ _).mono fun _ => Or.inl
  · exact .fail (.inr rfl)

theorem checkOf_subdued (source : Value) : (store.checkOf source).Subdued Fault.OfCheck := by
  unfold checkOf
  split
  · exact .pure _
  · split
    · exact .pure _
    · split
      · exact .bind (enumerationOf_subdued source) fun _ => .pure _
      · split
        · exact .pure _
        · exact .fail (.inr rfl)

theorem checkOf_faults (source : Value) :
    OnlyFaults Fault.OfJudgement (store.checkOf source).outcome :=
  (checkOf_subdued source).faults.mono fun _ => Fault.OfCheck.ofJudgement

theorem isMember_subdued (value source : Value) :
    (store.isMember value source).Subdued Fault.OfCheck :=
  .bind (enumerationOf_subdued source) fun _ => .pure _

end Checking

section Judging

variable {allowed : Fault → Prop} {drawing : Run Check}

theorem judgeItem_harmless (expected : Expectation) (check : Check) (item : Value) :
    (store.judgeItem expected check item).Harmless := by
  cases check with
  | predicate test =>
    refine .bind (passes_harmless test item) fun met => ?_
    split <;> exact .pure _
  | enumeration enumeration =>
    simp only [judgeItem]
    split
    · exact .pure _
    · exact .bind (.ofExcept (display_foreign item)) fun _ => .pure _
  | byKind =>
    simp only [judgeItem]
    split <;> exact .pure _

theorem rejectEntry_harmless (key : Value) (reason : String) :
    (store.rejectEntry key reason).Harmless :=
  .bind (.ofExcept (text_foreign key)) fun _ => .bind (.debug _ _) fun _ => .pure _

/-- One item after the other: an item that is judged by a fault ends the reading. -/
theorem judgeEach_harmless (expected : Expectation) (check : Check) {fault? : Option Fault}
    (broken : ∀ fault, fault? = some fault → fault.isOwn = false) (entries : List (Value × Value)) :
    (store.judgeEach expected check fault? entries).Harmless := by
  induction entries with
  | nil =>
    cases fault? with
    | none => exact .pure _
    | some fault => exact .fail (broken fault rfl)
  | cons entry rest inductionHypothesis =>
    refine .bind (judgeItem_harmless expected check entry.2) fun verdict => ?_
    cases verdict with
    | accepted => exact inductionHypothesis
    | rejected reason => exact rejectEntry_harmless entry.1 reason

/-- Only the reading of a declared field ends that of the others. -/
theorem fault_of_ofDeclared {read : String → Except Fault (Option Value)} {names : List String}
    {fault : Fault} (foreign : ∀ name, Foreign (read name))
    (broken : (Entries.ofDeclared read names).fault? = some fault) : fault.isOwn = false := by
  induction names with
  | nil => cases broken
  | cons name rest inductionHypothesis =>
    unfold Entries.ofDeclared at broken
    split at broken
    · exact inductionHypothesis broken
    · cases broken
      rfl
    · rename_i failed
      cases broken
      exact foreign name fault failed

theorem fault_of_ownFields {value : Value} {fault : Fault}
    (broken : (store.ownFields value).fault? = some fault) : fault.isOwn = false := by
  cases value with
  | object ref =>
    simp only [Store.ownFields] at broken
    split at broken
    · cases broken
    · exact fault_of_ofDeclared (attributeOf_foreign _) broken
    · exact fault_of_ofDeclared (attributeOf_foreign _) broken
    · cases broken
    · cases broken
    · cases broken
    · split at broken <;> cases broken
  | _ => cases broken

theorem fault_of_entries {value : Value} {entries : Entries} {fault : Fault}
    (shape : store.entries? value = some entries) (broken : entries.fault? = some fault) :
    fault.isOwn = false := by
  unfold entries? at shape
  split at shape
  · obtain rfl := Option.some.inj shape
    cases broken
  · rename_i series _ _
    obtain rfl := Option.some.inj shape
    cases series <;> cases broken
  · obtain rfl := Option.some.inj shape
    cases broken
  · split at shape
    · obtain rfl := Option.some.inj shape
      exact fault_of_ownFields broken
    · cases shape

theorem judgeEntries_subdued (value : Value) (expected : Expectation)
    (foreign : ∀ fault, fault.isOwn = false → allowed fault) (drawn : drawing.Subdued allowed) :
    (store.judgeEntries value expected drawing).Subdued allowed := by
  refine .bind (.ofExcept ((form_foreign value).mono foreign)) fun _ => ?_
  refine .bind (.debug _ _) fun _ => ?_
  split
  · exact .pure _
  · rename_i entries shape
    refine .bind drawn fun check => ?_
    rw [judgeAll_eq]
    exact (judgeEach_harmless expected check (fun _ => fault_of_entries shape) _).mono foreign

theorem descriptor_foreign (value : Value) : Foreign (store.descriptor value) := by
  unfold descriptor
  split
  · exact .bind (text_foreign value) fun _ => .ok _
  · exact .ok _
  · exact .error (notDescriptor_isOwn value)

theorem judgeBare_faults (value : Value) (descriptor : Descriptor) (check : Check) :
    OnlyFaults Fault.OfDescriptor (store.judgeBare value descriptor check).outcome := by
  rw [judgeBare, Run.outcome_bind, Descriptor.outcome_container?]
  refine .bind ?_ fun container? => ?_
  · split
    · exact .ok _
    · exact .ok _
    · exact .error (Or.inr rfl)
  · split
    · split
      · exact .ok _
      · rw [Run.outcome_bind]
        exact .bind (.ok _) fun _ =>
          (judgeEntries_subdued value _ (fun _ => Or.inl) (.pure check)).faults
    · split
      · exact .ok _
      · exact (judgeItem_harmless _ check value).faults.mono fun _ => Or.inl

/-- A judgement raises faults of the library's own only for its descriptor, and those that drawing
its check raises. -/
theorem judge_faults (value descriptor : Value)
    (ofDescriptor : ∀ fault, fault.OfDescriptor → allowed fault)
    (drawn : OnlyFaults allowed drawing.outcome) :
    OnlyFaults allowed (store.judge value descriptor drawing).outcome := by
  have foreign {α : Type} {outcome : Except Fault α} (inner : Foreign outcome) :
      OnlyFaults allowed outcome := inner.mono fun fault own => ofDescriptor fault (Or.inl own)
  have resolved (bare : Descriptor) : OnlyFaults allowed (do
      let check ← drawing
      store.judgeBare value bare check).outcome := by
    rw [Run.outcome_bind]
    exact .bind drawn fun check => (judgeBare_faults value bare check).mono ofDescriptor
  simp only [judge, Run.outcome_bind, Run.outcome_ofExcept, Run.outcome_debug, ok_bind]
  refine .bind (foreign (form_foreign value)) fun _ => ?_
  refine .bind (foreign (text_foreign descriptor)) fun _ => ?_
  refine .bind (foreign (descriptor_foreign descriptor)) fun written => ?_
  split
  · exact .ok _
  · exact resolved _

/-- A rule turns an unsupported check into a fault of its own. -/
theorem ruleOf_faults (name rule : Value) :
    OnlyFaults Fault.OfRule (store.ruleOf name rule).outcome := by
  have foreign {α : Type} {outcome : Except Fault α} (inner : Foreign outcome) :
      OnlyFaults Fault.OfRule outcome := inner.mono fun _ own => Or.inl (Or.inl own)
  have refused {α : Type} (level : Level) (message : String → String → String) (shape : Value)
      (cause : Option CheckFlaw) : OnlyFaults Fault.OfRule (do
        let shown ← Run.ofExcept (store.text name)
        let form ← Run.ofExcept (store.form shape)
        Run.write level .validation (message shown form)
        Run.fail (.invalidRule shown cause) : Run α).outcome := by
    simp only [Run.outcome_bind, Run.outcome_ofExcept, Run.outcome_write, ok_bind]
    refine .bind (foreign (text_foreign name)) fun _ => ?_
    exact .bind (foreign (form_foreign shape)) fun _ => .error (Or.inr rfl)
  rw [ruleOf]
  split
  rename_i descriptor source _
  split
  · exact refused .warning _ rule none
  · rw [Run.outcome_bind, Run.outcome_recover]
    refine .bind ?_ fun check => .ok _
    cases drawn : (store.checkOf source).outcome with
    | ok check => exact .ok check
    | error fault =>
      have known : fault.OfJudgement := checkOf_faults source fault drawn
      cases fault with
      | invalidCheck flaw => exact refused .warning _ source (some flaw)
      | _ =>
        refine .error (Or.inl (known.resolve_right ?_))
        intro check
        cases check

theorem judgeField_faults (name value rule : Value) :
    OnlyFaults Fault.OfRule (store.judgeField name value rule).outcome := by
  rw [judgeField, Run.outcome_bind]
  refine .bind (ruleOf_faults name rule) fun resolved => ?_
  rw [Run.outcome_bind]
  refine .bind (judge_faults value resolved.descriptor (fun _ => Or.inl) (.ok resolved.check))
    fun verdict => ?_
  cases verdict with
  | accepted => exact .ok _
  | rejected reason =>
    rw [Run.outcome_bind]
    exact .bind ((text_foreign name).mono fun _ own => Or.inl (Or.inl own)) fun _ => .ok _

theorem judgeContainer_subdued (value descriptor check : Value) :
    (store.judgeContainer value descriptor check).Subdued Fault.OfCheck := by
  have expected : Foreign (store.expectation descriptor) :=
    .bind (text_foreign descriptor) fun _ => .ok _
  exact .bind (.ofExcept (expected.mono fun _ => Or.inl)) fun _ =>
    judgeEntries_subdued value _ (fun _ => Or.inl) (checkOf_subdued check)

theorem judgeContainer_faults (value descriptor check : Value) :
    OnlyFaults Fault.OfJudgement (store.judgeContainer value descriptor check).outcome :=
  (judgeContainer_subdued value descriptor check).faults.mono fun _ => Fault.OfCheck.ofJudgement

theorem judgeMember_subdued (value source : Value) :
    (store.judgeMember value source).Subdued Fault.OfCheck := by
  refine .bind (enumerationOf_subdued source) fun enumeration => ?_
  split
  · exact .pure _
  · exact .bind (.ofExcept ((display_foreign value).mono fun _ => Or.inl)) fun _ => .pure _

theorem judgeMember_faults (value source : Value) :
    OnlyFaults Fault.OfJudgement (store.judgeMember value source).outcome :=
  (judgeMember_subdued value source).faults.mono fun _ => Fault.OfCheck.ofJudgement

/-- One rule after the other: the first field that is judged by a fault ends the judgement. -/
theorem judgeRules_faults (value : Value) (entries : List (Value × Value)) :
    OnlyFaults Fault.OfRule (store.judgeRules value entries).outcome := by
  have foreign {α : Type} {outcome : Except Fault α} (inner : Foreign outcome) :
      OnlyFaults Fault.OfRule outcome := inner.mono fun _ => Or.inl ∘ Or.inl
  induction entries with
  | nil => exact .ok _
  | cons entry rest inductionHypothesis =>
    rw [judgeRules, Run.outcome_bind]
    refine .bind (foreign (field_foreign value entry.1)) fun field => ?_
    rw [Run.outcome_bind]
    refine .bind (judgeField_faults entry.1 field entry.2) fun verdict => ?_
    cases verdict with
    | accepted => exact inductionHypothesis
    | rejected reason =>
      rw [Run.outcome_bind]
      exact .bind (foreign (text_foreign entry.1)) fun _ => .ok _

theorem judgeFields_faults (value rules : Value) :
    OnlyFaults Fault.OfRule (store.judgeFields value rules).outcome := by
  unfold judgeFields
  split
  · rw [Run.outcome_bind]
    exact .bind ((rules_foreign rules).mono fun _ => Or.inl ∘ Or.inl) (judgeRules_faults value)
  · exact .ok _

end Judging

end Store

end Conform
