import Conform.Proofs.Announcements
import Conform.Proofs.Revision

/-! Disciplines: what holds of the parts of an action and therefore of the whole. Evaluating a term
does no more than read, and add objects with their attributes. So does performing an operation that
changes no value; the others change the items or the attributes of one. -/

namespace Conform

/-- What holds of every action that is composed of readings and of new objects, some of which come
with attributes. -/
structure Action.Growth (Holds : {α : Type} → Action α → Prop) : Prop where
  bind {α β : Type} {first : Action α} {next : α → Action β} (here : Holds first)
    (there : ∀ answer, Holds (next answer)) : Holds (first >>= next)
  reading {α : Type} {run : Store → Run α} (announced : ∀ store, (run store).Announced) :
    Holds (Action.reading run)
  alloc (object : Object) : Holds (Action.alloc object)
  attachNew (object : Object) (attributes : Attributes) : Holds (do
    let other ← Action.alloc object
    Action.attach other attributes
    return other)

/-- What holds of every action that may also attach attributes to any value, and change an object by
revising it. -/
structure Action.Discipline (Holds : {α : Type} → Action α → Prop) : Prop where
  bind {α β : Type} {first : Action α} {next : α → Action β} (here : Holds first)
    (there : ∀ answer, Holds (next answer)) : Holds (first >>= next)
  reading {α : Type} {run : Store → Run α} (announced : ∀ store, (run store).Announced) :
    Holds (Action.reading run)
  alloc (object : Object) : Holds (Action.alloc object)
  attach (value : Value) (attributes : Attributes) : Holds (Action.attach value attributes)
  modify (target : Value) {otherwise : Fault} {change : Store → Object → Except Fault Object}
    (outside : otherwise.isOwn = false) (foreign : ∀ store object, Foreign (change store object))
    (revises : ∀ store alike object changed, store.Identifies alike →
      change store object = .ok changed → object.Revises alike changed) :
    Holds (Action.modify target otherwise change)

namespace Action.Growth

variable {Holds : {α : Type} → Action α → Prop} (growth : Growth Holds)

include growth

section Parts

theorem pure (answer : α) : Holds (pure answer : Action α) :=
  growth.reading fun _ => .pure answer

theorem store : Holds Action.store := growth.reading fun store => .pure store

theorem ofExcept {outcome : Except Fault α} (unannounced : Unannounced outcome) :
    Holds (Action.ofExcept outcome) := growth.reading fun _ => .subdued (.ofExcept unannounced)

theorem of_foreign {outcome : Except Fault α} (foreign : Foreign outcome) :
    Holds (Action.ofExcept outcome) := growth.ofExcept (unannounced_of_foreign foreign)

theorem fail {fault : Fault} (unannounced : fault.isAnnounced = false) :
    Holds (Action.fail fault : Action α) := growth.ofExcept (.error unannounced)

theorem call (callee argument : Value) :
    Holds (Action.reading fun store => store.call callee argument) :=
  growth.reading fun _ => .subdued (Store.call_harmless callee argument).unremarked

omit growth in
theorem ite {condition : Prop} [Decidable condition] {one other : Action α} (here : Holds one)
    (there : Holds other) : Holds (if condition then one else other) := by
  split
  · exact here
  · exact there

theorem mapM {step : α → Action β} (each : ∀ item, Holds (step item)) (items : List α) :
    Holds (items.mapM step) := by
  induction items with
  | nil => exact growth.pure []
  | cons item rest inductionHypothesis =>
    rw [List.mapM_cons]
    exact growth.bind (each item) fun _ => growth.bind inductionHypothesis fun _ =>
      growth.pure _

end Parts

section Making

theorem allocWith {object : Store → Except Fault Object}
    (foreign : ∀ store, Foreign (object store)) : Holds (Action.allocWith object) :=
  growth.bind growth.store fun store =>
    growth.bind (growth.of_foreign (foreign store)) growth.alloc

theorem allocEnumeration (enumeration : Enumeration) :
    Holds (Action.allocEnumeration enumeration) :=
  growth.bind (growth.alloc _) fun _ => growth.alloc _

theorem enumeration (source : Value) : Holds (Action.enumeration source) :=
  growth.bind growth.store fun _ =>
    growth.bind
      (growth.reading fun _ => .subdued (Store.enumerationOf_subdued source).unremarked)
      fun drawn => ite (growth.pure _) (growth.allocEnumeration drawn)

theorem checkObject (source : Value) (check : Check) : Holds (Action.checkObject source check) := by
  refine growth.bind growth.store fun _ =>
    ite (growth.pure _) (ite (growth.pure _) ?_)
  cases check with
  | byKind => exact growth.pure _
  | predicate test => exact growth.alloc _
  | enumeration drawn => exact growth.allocEnumeration drawn

theorem check (source : Value) : Holds (Action.check source) :=
  growth.bind (growth.reading fun _ => .subdued (Store.checkOf_subdued source).unremarked)
    fun resolved => growth.checkObject source resolved

theorem rule {read : Store → Run Rule} (announced : ∀ store, (read store).Announced) :
    Holds (Action.rule read) :=
  growth.bind (growth.reading announced) fun _ =>
    growth.bind (growth.checkObject _ _) fun _ => growth.alloc _

theorem sequence (form : SequenceForm) (items : List Value) :
    Holds (Action.sequence form items) := by
  unfold Action.sequence
  split
  · exact growth.pure _
  · exact ite (growth.alloc _) (growth.fail rfl)
  · exact growth.alloc _

theorem view (part : ViewPart) (entries : List (Value × Value)) :
    Holds (Action.view part entries) := by
  cases part with
  | keys => exact growth.alloc _
  | values => exact growth.alloc _
  | items =>
    exact growth.bind (growth.mapM (fun _ => growth.alloc _) entries) fun _ =>
      growth.alloc _

theorem table (rules : Value) : Holds (Action.table rules) :=
  growth.bind (growth.reading fun _ => Store.bindRules_announced rules) fun _ =>
    growth.alloc _

theorem outcome (verdict : Verdict) : Holds (Action.outcome verdict) := by
  cases verdict with
  | accepted => exact growth.pure _
  | rejected reason => exact growth.alloc _

theorem outcomeAt (value place : Value) : Holds (Action.outcomeAt value place) := by
  refine growth.bind growth.store fun _ => ?_
  refine growth.bind (growth.of_foreign (Store.outcomeParts_foreign value)) fun parts => ?_
  refine growth.bind (growth.of_foreign (Store.truth_foreign parts.1)) fun _ => ?_
  refine ite (growth.pure _) (ite (growth.alloc _) ?_)
  exact growth.bind (growth.of_foreign (Store.text_foreign place)) fun _ =>
    growth.bind (growth.of_foreign (Store.text_foreign parts.2)) fun _ => growth.alloc _

theorem replyValue (reply : Reply) : Holds (Action.replyValue reply) := by
  cases reply with
  | value value => exact growth.pure _
  | list items => exact growth.alloc _

theorem copy (value : Value) : Holds (Action.copy value) := by
  refine growth.bind growth.store fun store => ?_
  refine growth.bind (growth.of_foreign (Store.copied_foreign value)) fun copied => ?_
  cases copied with
  | itself => exact growth.pure _
  | object object =>
    have plain : Holds (do return (← Action.alloc object, false)) :=
      growth.bind (growth.alloc object) fun _ => growth.pure _
    have attached : Holds (do
        let other ← Action.alloc object
        Action.attach other (store.attributesOf value)
        return (other, false)) := by
      simpa only [bind_assoc, pure_bind] using
        growth.bind (growth.attachNew object (store.attributesOf value)) fun other =>
          growth.pure (other, false)
    -- only the copy of a derived text or of a custom sequence gets attributes
    cases object with
    | derived base => exact attached
    | sequence form items =>
      cases form with
      | custom callable => exact attached
      | _ => exact plain
    | _ => exact plain

theorem contents (value : Value) : Holds (Action.contents value) := by
  refine growth.bind growth.store fun store => ?_
  split
  · exact growth.mapM (fun _ => growth.alloc _) _
  · exact growth.of_foreign (Store.contents_foreign value)

theorem tableNames (table : Value) : Holds (Action.tableNames table) :=
  growth.bind (growth.reading fun _ => .of_foreign (Store.tableRules_foreign table))
    fun rules => growth.contents rules

theorem remade (creator value : Value) : Holds (Action.remade creator value) :=
  growth.bind growth.store fun _ =>
    growth.bind (growth.of_foreign (Store.truth_foreign creator)) fun _ =>
      ite (growth.bind (growth.call creator value) growth.replyValue)
        (growth.bind (growth.copy value) fun _ => growth.pure _)

/-- One field after the other, by induction on the entries. -/
theorem assembleEach (guard creator : Value) {fault? : Option Fault}
    (broken : ∀ fault, fault? = some fault → fault.isAnnounced = false)
    (finished entries : List (Value × Value)) :
    Holds (Action.assembleEach guard creator fault? finished entries) := by
  induction entries generalizing finished with
  | nil =>
    cases fault? with
    | none => exact growth.pure _
    | some fault => exact growth.fail (broken fault rfl)
  | cons entry rest inductionHypothesis =>
    refine growth.bind
      (growth.reading fun _ => .subdued (Store.demandGuard_unremarked guard entry.1 entry.2))
      fun _ => growth.bind (growth.remade creator entry.2) fun _ => ?_
    exact growth.bind growth.store fun _ =>
      growth.bind (growth.of_foreign (Store.requireHashable_foreign entry.1)) fun _ =>
        inductionHypothesis _

theorem assemble (source guard creator : Value) : Holds (Action.assemble source guard creator) := by
  refine growth.bind growth.store fun store => ite ?_ (growth.fail rfl)
  refine growth.bind (growth.assembleEach guard creator (fun fault broken => ?_) _ _)
    fun _ => growth.alloc _
  exact Fault.isAnnounced_of_foreign (Store.fault_of_ownFields broken)

end Making

section Answering

theorem readValue {run : Store → Run Value} (announced : ∀ store, (run store).Announced) :
    Holds (Action.readValue run) :=
  growth.bind (growth.reading announced) fun _ => growth.pure _

theorem readResult {result : Store → Except Fault α} (foreign : ∀ store, Foreign (result store))
    (make : α → Value) :
    Holds (Action.readValue fun store => Run.ofExcept ((result store).map make)) :=
  growth.readValue fun store => .of_foreign (.map (foreign store) make)

theorem readUnit {run : Store → Run Unit} (announced : ∀ store, (run store).Announced) :
    Holds (Action.readUnit run) :=
  growth.bind (growth.reading announced) fun _ => growth.pure _

theorem judged {verdict : Store → Run Verdict} (announced : ∀ store, (verdict store).Announced) :
    Holds (Action.judged verdict) :=
  growth.bind (growth.reading announced) fun _ =>
    growth.bind (growth.outcome _) fun _ => growth.pure _

theorem done {action : Action Unit} (holds : Holds action) : Holds (Action.done action) :=
  growth.bind holds fun _ => growth.pure _

theorem listed (items : List Value) : Holds (Action.listed items) :=
  growth.bind (growth.alloc _) fun _ => growth.pure _

theorem listedEntries (entries : List (Value × Value)) : Holds (Action.listedEntries entries) :=
  growth.bind (growth.mapM (fun _ => growth.alloc _) entries) growth.listed

theorem onObject (owns : Object → Bool) (operation : String) (target : Value)
    {arguments : Action α} (single? : α → Option Value) {own : α → Action Answer}
    (given : Holds arguments) (answered : ∀ argument, Holds (own argument)) :
    Holds (Action.onObject owns operation target arguments single? own) := by
  refine growth.bind growth.store fun store => ite (growth.bind given answered) ?_
  refine growth.bind (growth.of_foreign (Store.requiredAttribute_foreign target _))
    fun callee => growth.bind given fun argument => ?_
  split
  · exact growth.bind (growth.call callee _) fun reply =>
      growth.bind (growth.replyValue reply) fun _ => growth.pure _
  · exact growth.fail rfl

end Answering

end Action.Growth

section

variable {Holds : {α : Type} → Action α → Prop} (growth : Action.Growth Holds)
  (bindings : Fields)

include growth

mutual

/-- Evaluating a term only reads and adds objects, one case for each way to write a value. -/
theorem Term.evaluate_keeps (term : Term) : Holds (term.evaluate bindings) := by
  cases term with
  | value known => exact growth.pure _
  | float mark written =>
    exact growth.bind (growth.of_foreign (Store.floatOf_foreign mark written)) fun _ =>
      growth.pure _
  | complex mark mark' re im =>
    exact growth.bind (growth.of_foreign (Store.floatOf_foreign mark re)) fun _ =>
      growth.bind (growth.of_foreign (Store.floatOf_foreign mark' im)) fun _ =>
        growth.pure _
  | bytes mutable written =>
    exact growth.bind (growth.of_foreign (Store.bytesOf_foreign written)) fun _ =>
      Action.Growth.ite (growth.alloc _) (growth.pure _)
  | decimal mark written => exact growth.of_foreign (Store.decimalOf_foreign mark written)
  | fraction dividend divisor =>
    exact growth.of_foreign (Store.fractionOf_foreign dividend divisor)
  | range start stop step =>
    exact growth.allocWith fun _ => Store.rangeOf_foreign start stop step
  | «variable» name =>
    unfold Term.evaluate
    split
    · exact growth.pure _
    · exact growth.fail rfl
  | sequence form items =>
    exact growth.bind (Term.evaluateAll_keeps items) fun _ => growth.sequence form _
  | mapping form entries =>
    exact growth.bind (Term.evaluateEntries_keeps entries) fun written =>
      growth.bind (growth.reading fun _ => .of_foreign (Store.entriesOf_foreign written))
        fun _ => growth.alloc _
  | set frozen items =>
    exact growth.bind (Term.evaluateAll_keeps items) fun written =>
      growth.bind (growth.reading fun _ => .of_foreign (Store.elementsOf_foreign written))
        fun _ => growth.alloc _
  | view part entries =>
    exact growth.bind (Term.evaluateEntries_keeps entries) fun written =>
      growth.bind (growth.reading fun _ => .of_foreign (Store.entriesOf_foreign written))
        fun _ => growth.view part _
  | generator items =>
    exact growth.bind (Term.evaluateAll_keeps items) fun _ => growth.alloc _
  | object known => exact growth.alloc known
  | plain typeName own inherited failing callable =>
    exact growth.bind (Term.evaluateFields_keeps inherited) fun _ =>
      growth.bind (Term.evaluateFields_keeps own) fun _ => growth.alloc _
  | slotted typeName slots own inherited =>
    exact growth.bind (Term.evaluateFields_keeps inherited) fun _ =>
      growth.bind (Term.evaluateFields_keeps own) fun _ =>
        growth.allocWith fun _ => Store.slottedOf_foreign typeName slots _ _
  | record typeName declared extra deleted callable =>
    exact growth.bind (Term.evaluateFields_keeps declared) fun _ =>
      growth.bind (Term.evaluateFields_keeps extra) fun _ =>
        growth.allocWith fun _ => Store.recordOf_foreign typeName _ _ deleted callable
  | model typeName fields own extra admitsExtra =>
    exact growth.bind (Term.evaluateFields_keeps own) fun _ =>
      growth.bind (Term.evaluateFields_keeps extra) fun _ =>
        growth.allocWith fun _ => .ok _
  | function known argument =>
    exact growth.bind (Term.evaluate_keeps argument) fun _ => growth.alloc _
  | enumType name base members =>
    exact growth.bind (Term.evaluateFields_keeps members) fun _ =>
      growth.allocWith fun _ => .map (Store.enumTypeOf_foreign name base _) _
  | member owner name =>
    exact growth.bind (Term.evaluate_keeps owner) fun owner =>
      growth.reading fun _ => .of_foreign (Store.memberNamed_foreign owner name)
  | predicate test =>
    exact growth.bind (Term.evaluate_keeps test) fun _ => growth.alloc _
  | enumeration source =>
    exact growth.bind (Term.evaluate_keeps source) growth.enumeration
  | rule type check =>
    exact growth.bind (Term.evaluate_keeps type) fun _ =>
      growth.bind (Term.evaluate_keeps check) fun _ => growth.alloc _
  | outcome ok error =>
    exact growth.bind (Term.evaluate_keeps ok) fun _ =>
      growth.bind (Term.evaluate_keeps error) fun _ => growth.alloc _
  | container kindName element =>
    exact growth.bind (Term.evaluate_keeps kindName) fun _ =>
      growth.bind (Term.evaluate_keeps element) fun _ => growth.alloc _
  | table rules => exact growth.bind (Term.evaluate_keeps rules) growth.table

theorem Term.evaluateAll_keeps (terms : List Term) : Holds (Term.evaluateAll bindings terms) := by
  cases terms with
  | nil => exact growth.pure _
  | cons term rest =>
    exact growth.bind (Term.evaluate_keeps term) fun _ =>
      growth.bind (Term.evaluateAll_keeps rest) fun _ => growth.pure _

theorem Term.evaluateEntries_keeps (entries : List (Term × Term)) :
    Holds (Term.evaluateEntries bindings entries) := by
  match entries with
  | [] => exact growth.pure _
  | (key, item) :: rest =>
    exact growth.bind (Term.evaluate_keeps key) fun _ =>
      growth.bind (Term.evaluate_keeps item) fun _ =>
        growth.bind (Term.evaluateEntries_keeps rest) fun _ => growth.pure _

theorem Term.evaluateFields_keeps (fields : List (String × Term)) :
    Holds (Term.evaluateFields bindings fields) := by
  match fields with
  | [] => exact growth.pure _
  | (name, term) :: rest =>
    exact growth.bind (Term.evaluate_keeps term) fun _ =>
      growth.bind (Term.evaluateFields_keeps rest) fun _ => growth.pure _

end

/-- The value that an operation changes, as it is written. -/
def Operation.target? : Operation → Option Term
  | .setItem target _ _ | .dropItem target _ | .append target _ | .setAttribute target _ _
  | .dropAttribute target _ => some target
  | _ => none

/-- So does performing an operation that changes no value, one case for each operation. What holds
of the others has to be known. -/
theorem Session.perform_grows (operation : Operation)
    (changing : operation.target?.isSome = true → Holds (Session.perform bindings operation)) :
    Holds (Session.perform bindings operation) := by
  have given {α : Type} (term : Term) {next : Value → Action α}
      (rest : ∀ value, Holds (next value)) : Holds (term.evaluate bindings >>= next) :=
    growth.bind (term.evaluate_keeps growth bindings) rest
  have answered {action : Action Value} (holds : Holds action) :
      Holds (do return .value (← action) : Action Answer) :=
    growth.bind holds fun _ => growth.pure _
  cases operation with
  | kind value => exact given value fun _ => growth.readResult (fun _ => .ok _) _
  | isAbsent value => exact given value fun _ => growth.readResult (fun _ => .ok _) _
  | display value =>
    exact given value fun value => growth.readResult (fun _ => Store.display_foreign value) _
  | hasFields value => exact given value fun _ => growth.readResult (fun _ => .ok _) _
  | undefinedTraits =>
    exact growth.bind (growth.reading fun _ => .of_foreign Store.undefinedTraits_foreign)
      growth.listed
  | lineage name =>
    simp only [perform]
    split
    · exact growth.bind (growth.alloc _) fun _ => growth.listed _
    · exact growth.fail rfl
  | exportedNames => exact growth.listed _
  | withoutMark descriptor =>
    exact given descriptor fun value => growth.bind
      (growth.reading fun _ => .of_foreign (Store.descriptor_foreign value)) fun _ =>
        growth.listed _
  | container descriptor =>
    refine given descriptor fun value => growth.bind (growth.reading fun _ =>
      .bind (.of_foreign (Store.descriptor_foreign value)) Store.container?_announced) ?_
    intro container?
    cases container? with
    | none => exact growth.pure _
    | some container => exact answered (growth.alloc _)
  | containerKind name =>
    exact given name fun value => growth.readValue fun _ =>
      .bind (.of_foreign (Store.containerKind?_foreign value)) fun _ => .pure _
  | check source => exact given source fun source => answered (growth.check source)
  | call check value =>
    exact given check fun check => given value fun value =>
      growth.bind (growth.call check value) fun reply =>
        answered (growth.replyValue reply)
  | enumeration source => exact given source fun source => answered (growth.enumeration source)
  | isMember value source =>
    exact given value fun value => given source fun source => growth.readValue fun _ =>
      .bind (.subdued (Store.isMember_subdued value source).unremarked) fun _ => .pure _
  | judgeMember value source =>
    exact given value fun value => given source fun source => growth.judged fun _ =>
      .subdued (Store.judgeMember_subdued value source).unremarked
  | demandMember value source =>
    exact given value fun value => given source fun source => growth.readUnit fun _ =>
      Store.demandAccepted_announced _
        (.subdued (Store.judgeMember_subdued value source).unremarked)
  | field value name =>
    exact given value fun value => given name fun name => growth.readValue fun _ =>
      .of_foreign (Store.field_foreign value name)
  | ownFields value =>
    refine given value fun value => growth.bind (growth.reading fun _ =>
      .of_foreign (Store.all_foreign fun fault broken => ?_)) growth.listedEntries
    exact Store.fault_of_ownFields broken
  | entries value =>
    refine given value fun value => growth.bind growth.store fun store => ?_
    split
    · rename_i entries shape
      exact growth.bind (growth.of_foreign
        (Store.all_foreign fun _ => Store.fault_of_entries shape)) growth.listedEntries
    · exact growth.pure _
  | copy value =>
    exact given value fun value => growth.bind (growth.copy value) fun _ =>
      growth.pure _
  | rule name rule =>
    exact given name fun name => given rule fun rule =>
      answered (growth.rule fun _ => Store.ruleOf_announced name rule)
  | judge value descriptor check =>
    exact given value fun value => given descriptor fun descriptor => given check fun check =>
      growth.judged fun _ =>
        Store.judge_announced value descriptor (Store.checkOf_subdued check).unremarked
  | judgeEntries value descriptor check =>
    exact given value fun value => given descriptor fun descriptor => given check fun check =>
      growth.judged fun _ =>
        .subdued (Store.judgeContainer_subdued value descriptor check).unremarked
  | judgeField name value rule =>
    exact given name fun name => given value fun value => given rule fun rule =>
      growth.judged fun _ => Store.judgeField_announced name value rule
  | judgeFields value rules =>
    exact given value fun value => given rules fun rules => growth.judged fun _ =>
      Store.judgeFields_announced value rules
  | demand demand value message =>
    exact given value fun value => given message fun message => growth.readUnit fun _ =>
      .subdued (.ofExcept (Store.demand_unannounced demand value))
  | demandValue value descriptor check message =>
    exact given value fun value => given descriptor fun descriptor => given check fun check =>
      given message fun message => growth.readUnit fun _ => Store.demandAccepted_announced _
        (Store.judge_announced value descriptor (Store.checkOf_subdued check).unremarked)
  | demandEntries value descriptor check message =>
    exact given value fun value => given descriptor fun descriptor => given check fun check =>
      given message fun message => growth.readUnit fun _ => Store.demandAccepted_announced _
        (.subdued (Store.judgeContainer_subdued value descriptor check).unremarked)
  | demandFields value rules message =>
    exact given value fun value => given rules fun rules => given message fun message =>
      growth.readUnit fun _ => Store.demandAccepted_announced _
        (Store.judgeFields_announced value rules)
  | assemble source guard creator =>
    exact given source fun source => given guard fun guard => given creator fun creator =>
      answered (growth.assemble source guard creator)
  | failure text => exact given text fun _ => answered (growth.alloc _)
  | outcomeAt value place =>
    exact given value fun value => growth.onObject _ _ _ _
      (place.evaluate_keeps growth bindings) fun place =>
        answered (growth.outcomeAt value place)
  | unwrap value message =>
    exact given value fun value => growth.onObject _ _ _ _
      (message.evaluate_keeps growth bindings) fun message => growth.readUnit fun _ =>
        .subdued (.ofExcept (Store.unwrap_unannounced value))
  | outcomeParts value =>
    exact given value fun value => growth.bind (growth.contents value) growth.listed
  | truth value =>
    exact given value fun value => growth.readResult (fun _ => Store.truth_foreign value) _
  | form value =>
    exact given value fun value => growth.readResult (fun _ => Store.form_foreign value) _
  | text value =>
    exact given value fun value => growth.readResult (fun _ => Store.text_foreign value) _
  | contains target value =>
    exact given value fun value => given target fun target =>
      growth.readResult (fun _ => Store.holds_foreign target value) _
  | tableNames table =>
    refine given table fun table => growth.bind growth.store fun _ =>
      Action.Growth.ite ?_ ?_
    · exact growth.bind (growth.tableNames table) growth.listed
    · exact growth.readValue fun _ => .of_foreign (Store.requiredAttribute_foreign table _)
  | tableRule table name =>
    exact given table fun table => growth.onObject _ _ _ _
      (name.evaluate_keeps growth bindings) fun name =>
        answered (growth.rule fun _ => Store.tableRuleOf_announced table name)
  | judgeByTable table value =>
    exact given table fun table => growth.onObject _ _ _ _
      (value.evaluate_keeps growth bindings) fun value => growth.judged fun _ =>
        Store.judgeByTable_announced table value
  | judgeFieldByTable table name value =>
    exact given table fun table => growth.onObject _ _ _ _
      (given name fun _ => given value fun _ => growth.pure _) fun arguments =>
        growth.judged fun _ =>
          Store.judgeFieldByTable_announced table arguments.1 arguments.2
  | validate table value message =>
    exact given table fun table => growth.onObject _ _ _ _
      (given value fun _ => given message fun _ => growth.pure _) fun arguments =>
        growth.readValue fun _ => Store.validateWith_announced table arguments.1 arguments.2
  | value value => exact given value fun _ => growth.pure _
  | same left right =>
    exact given left fun _ => given right fun _ => growth.readResult (fun _ => .ok _) _
  | equal left right =>
    exact given left fun left => given right fun right =>
      growth.readResult (fun _ => Store.equal_foreign left right) _
  | item target key =>
    exact given target fun target => given key fun key => growth.readValue fun _ =>
      .of_foreign (Store.item_foreign target key)
  | attributeOf target name =>
    exact given target fun target => given name fun name => growth.readValue fun _ =>
      .of_foreign (Store.requiredAttribute_foreign target name)
  | setItem | dropItem | append | setAttribute | dropAttribute => exact changing rfl

end

namespace Action.Discipline

variable {Holds : {α : Type} → Action α → Prop} (discipline : Discipline Holds)

include discipline

/-- A discipline is kept by new objects with attributes too. -/
theorem growth : Growth Holds where
  bind := discipline.bind
  reading := discipline.reading
  alloc := discipline.alloc
  attachNew object attributes :=
    discipline.bind (discipline.alloc object) fun other =>
      discipline.bind (discipline.attach other attributes) fun _ =>
        discipline.reading fun _ => .pure other

theorem setItem (target key value : Value) : Holds (Action.setItem target key value) :=
  discipline.bind discipline.growth.store fun _ =>
    discipline.modify target (Store.itemFault_isOwn _ key)
      (fun _ object => Store.withItem_foreign object key value)
      fun _ _ _ _ identifies given => Store.revises_withItem identifies given

theorem dropItem (target key : Value) : Holds (Action.dropItem target key) :=
  discipline.bind discipline.growth.store fun _ =>
    discipline.modify target (Store.itemFault_isOwn _ key)
      (fun _ object => Store.withoutItem_foreign object key)
      fun _ _ _ _ _ taken => Store.revises_withoutItem taken

theorem append (target value : Value) : Holds (Action.append target value) :=
  discipline.modify target rfl (fun _ object => Store.withAppended_foreign object value)
    fun _ _ _ _ _ added => Store.revises_withAppended added

end Action.Discipline

/-- An operation that sets no attribute and takes none away. -/
def Operation.keepsAttributes : Operation → Bool
  | .setAttribute .. | .dropAttribute .. => false
  | _ => true

/-- Performing an operation keeps a discipline that is kept by setting attributes and taking them
away. -/
theorem Session.perform_keeps {Holds : {α : Type} → Action α → Prop}
    (discipline : Action.Discipline Holds) (bindings : Fields) (operation : Operation)
    (altering : operation.keepsAttributes = false → Holds (Session.perform bindings operation)) :
    Holds (Session.perform bindings operation) := by
  have growth := discipline.growth
  have given {α : Type} (term : Term) {next : Value → Action α}
      (rest : ∀ value, Holds (next value)) : Holds (term.evaluate bindings >>= next) :=
    growth.bind (term.evaluate_keeps growth bindings) rest
  refine perform_grows growth bindings operation fun changes => ?_
  cases operation with
  | setItem target key value =>
    exact given value fun value => given target fun target => given key fun key =>
      growth.done (discipline.setItem target key value)
  | dropItem target key =>
    exact given target fun target => given key fun key =>
      growth.done (discipline.dropItem target key)
  | append target value =>
    exact given target fun target => growth.bind (growth.onObject _ _ _ _
      (value.evaluate_keeps growth bindings) fun value =>
        growth.done (discipline.append target value)) fun _ => growth.pure _
  | setAttribute | dropAttribute => exact altering rfl
  | _ => cases changes

end Conform
