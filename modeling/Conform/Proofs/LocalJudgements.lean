import Conform.Proofs.Locality
import Conform.Proofs.Rules
import Conform.Proofs.Fields

/-! Locality of judging. Values that are the same in two stores, with all that they lead to, are
called, drawn checks from and judged alike. -/

namespace Conform

/-- A reply whose value, if it is one at hand, has a property. -/
def Reply.Kept (kept : Value → Prop) : Reply → Prop
  | .value held => kept held
  | .list _ => True

namespace Store

variable {store later : Store} {kept : Value → Prop} {value source argument : Value}
  (shares : store.Shares later kept)

include shares

section Calls

theorem Shares.replyTruth {reply : Reply} (known : reply.Kept kept) :
    later.replyTruth reply = store.replyTruth reply := by
  cases reply with
  | value value => exact (shares.alike value known).truth
  | list items => rfl

/-- The functions that compare their argument with another value hold that value. -/
theorem Shares.reply {function : Function}
    (bound : ∀ part ∈ (Object.function function).parts, kept part)
    (known : kept argument) : later.reply function argument = store.reply function argument := by
  have alike := shares.alike argument known
  cases function with
  | equalTo other =>
    simp only [Store.reply, shares.equal known (bound other (by simp [Object.parts]))]
  | below other =>
    have there := shares.alike other (bound other (by simp [Object.parts]))
    simp only [Store.reply, alike.real?, there.real?]
  | isEven | isInteger => simp only [Store.reply, alike.integer?]
  | isText => simp only [Store.reply, alike.string?]
  | isMapping | isList => simp only [Store.reply, alike.object]
  | length => simp only [Store.reply, alike.length]
  | form => simp only [Store.reply, shares.form known]
  | kind => simp only [Store.reply, alike.kind]
  | custom name => simp only [Store.reply, shares.replies]
  | _ => rfl

/-- What a function replies is its argument, what it holds, or a value that holds nothing. -/
theorem Shares.kept_reply {function : Function} {reply : Reply}
    (bound : ∀ part ∈ (Object.function function).parts, kept part) (known : kept argument)
    (replied : store.reply function argument = .ok reply) : reply.Kept kept := by
  cases function with
  | always | never | notNull | isUndefined | isText | isInteger =>
    cases replied
    exact shares.atom _ rfl
  | kind =>
    cases replied
    exact shares.texts _
  | identity =>
    cases replied
    exact known
  | constant answer =>
    cases replied
    exact bound answer (by simp [Object.parts])
  | failing => cases replied
  | isEven | isMapping | isList =>
    simp only [Store.reply] at replied
    split at replied <;> cases replied <;> exact shares.atom _ rfl
  | equalTo other =>
    obtain ⟨answer, -, made⟩ := ok_of_bind_ok replied
    cases made
    exact shares.atom _ rfl
  | below other =>
    simp only [Store.reply] at replied
    split at replied <;> cases replied
    exact shares.atom _ rfl
  | length =>
    obtain ⟨answer, -, made⟩ := ok_of_bind_ok replied
    cases made
    exact shares.atom _ rfl
  | form =>
    obtain ⟨shown, -, made⟩ := ok_of_bind_ok replied
    cases made
    exact shares.texts shown
  | wrap =>
    cases replied
    trivial
  | custom name =>
    simp only [Store.reply] at replied
    cases answered : store.replies name argument with
    | error text => simp [answered, Except.mapError] at replied
    | ok known' =>
      simp only [answered, Except.mapError, Except.ok.injEq] at replied
      subst replied
      cases known' with
      | value held => exact shares.answer name argument held known answered
      | list items => trivial

theorem Shares.convert (type : BuiltinType) (known : kept argument) :
    later.convert type argument = store.convert type argument := by
  have alike := shares.alike argument known
  cases type with
  | boolean => simp only [Store.convert, alike.truth]
  | integer => simp only [Store.convert, alike.integerOf]
  | text => simp only [Store.convert, shares.text known]
  | object => rfl

theorem Shares.kept_convert {type : BuiltinType} {reply : Reply}
    (replied : store.convert type argument = .ok reply) : reply.Kept kept := by
  cases type with
  | object => cases replied
  | boolean | integer | text =>
    obtain ⟨answer, -, made⟩ := ok_of_bind_ok replied
    cases made
    exact shares.atom _ rfl

theorem Shares.memberWith? {members : Fields} (each : ∀ field ∈ members, kept field.2)
    (known : kept argument) :
    later.memberWith? argument members = store.memberWith? argument members := by
  induction members with
  | nil => rfl
  | cons member rest inductionHypothesis =>
    obtain ⟨here, others⟩ := List.forall_mem_cons.mp each
    simp only [Store.memberWith?, shares.hashable known, shares.hashable here,
      shares.agrees here known, shares.equal here known, inductionHypothesis others]

theorem Shares.memberOf {owner : Ref} {type : EnumType} (here : store.read owner = .enumType type)
    (inside : kept (.object owner)) (known : kept argument) :
    later.memberOf owner type argument = store.memberOf owner type argument := by
  have each : ∀ field ∈ type.members, kept field.2 := by
    intro field member
    refine shares.inside inside rfl field.2 ?_
    simpa [here, Object.parts] using List.mem_map_of_mem (f := Prod.snd) member
  simp only [Store.memberOf, shares.memberWith? each known, shares.form known]

omit shares in
theorem memberWith?_lt {members : Fields} {index : Nat}
    (found : store.memberWith? argument members = .ok (some index)) : index < members.length := by
  induction members generalizing index with
  | nil => cases found
  | cons member rest inductionHypothesis =>
    have last {answer : Bool}
        (ended : (if answer then pure (some 0)
          else do return (← store.memberWith? argument rest).map (· + 1) :
            Except Fault (Option Nat)) = .ok (some index)) : index < (member :: rest).length := by
      split at ended
      · cases ended
        simp
      · obtain ⟨place?, deeper, made⟩ := ok_of_bind_ok ended
        obtain ⟨place, rfl, rfl⟩ := Option.map_eq_some_iff.mp (Except.ok.inj made)
        simpa using inductionHypothesis deeper
    simp only [Store.memberWith?] at found
    split at found
    · exact last found
    · obtain ⟨answer, -, ended⟩ := ok_of_bind_ok found
      exact last ended

theorem Shares.kept_memberOf {owner : Ref} {type : EnumType} {answer : Value}
    (here : store.read owner = .enumType type) (inside : kept (.object owner))
    (known : kept argument) (found : store.memberOf owner type argument = .ok answer) :
    kept answer := by
  unfold Store.memberOf at found
  dsimp only at found
  split at found
  on_goal 1 => split at found
  on_goal 1 =>
    cases found
    exact known
  -- Any other argument is looked for among the values of the members.
  all_goals
    obtain ⟨place?, looked, made⟩ := ok_of_bind_ok found
    cases place? with
    | none =>
      obtain ⟨shown, -, refused⟩ := ok_of_bind_ok made
      cases refused
    | some index =>
      cases made
      exact shares.part _ inside _ (mem_parts_of_type here (memberWith?_lt looked))

/-- A call of a value that is the same in both stores runs alike: the induction is on the number of
predicates that the call goes through, and carries what it replies. -/
theorem Shares.callWithin (depth : Nat) (callee' : kept source) (known : kept argument) :
    later.callWithin depth source argument = store.callWithin depth source argument ∧
      ∀ reply, (store.callWithin depth source argument).outcome = .ok reply → reply.Kept kept := by
  induction depth generalizing source with
  | zero => exact ⟨rfl, fun _ replied => by cases replied⟩
  | succ depth inductionHypothesis =>
    cases source with
    | builtin type =>
      simp only [Store.callWithin, shares.convert type known]
      exact ⟨trivial, fun reply replied => shares.kept_convert replied⟩
    | object ref =>
      simp only [Store.callWithin, (shares.alike _ callee').read rfl,
        (shares.alike _ callee').callable]
      cases here : store.read ref with
      | function function =>
        have bound : ∀ part ∈ (Object.function function).parts, kept part :=
          here ▸ shares.inside callee' rfl
        simp only [shares.reply bound known]
        exact ⟨trivial, fun reply replied => shares.kept_reply bound known replied⟩
      | enumType type =>
        simp only [shares.memberOf here callee' known]
        refine ⟨trivial, fun reply replied => ?_⟩
        cases found : store.memberOf ref type argument with
        | error fault => simp [found] at replied
        | ok answer =>
          simp only [found, map_ok, Run.outcome_ofExcept, Except.ok.injEq] at replied
          subst replied
          exact shares.kept_memberOf here callee' known found
      | predicate test =>
        have inside : kept test := shares.inside callee' rfl test (by simp [here, Object.parts])
        obtain ⟨same, replies⟩ := inductionHypothesis inside
        simp only [same]
        refine ⟨Run.bind_congr fun reply replied => ?_, fun reply replied => ?_⟩
        · rw [shares.replyTruth (replies reply replied)]
        · rw [Run.outcome_bind] at replied
          obtain ⟨tested, -, replied⟩ := ok_of_bind_ok replied
          rw [Run.outcome_bind] at replied
          obtain ⟨answer, -, replied⟩ := ok_of_bind_ok replied
          cases replied
          exact shares.atom _ rfl
      | _ =>
        refine ⟨rfl, fun reply replied => ?_⟩
        dsimp only at replied
        split at replied <;> cases replied
        exact shares.atom _ rfl
    | _ => exact ⟨rfl, fun _ replied => by cases replied⟩

theorem Shares.passes (test' : kept source) (known : kept argument) :
    later.passes source argument = store.passes source argument := by
  obtain ⟨same, replies⟩ := shares.callWithin (store.size + 1) test' known
  simp only [Store.passes, call, shares.size, same]
  exact Run.bind_congr fun reply replied => by rw [shares.replyTruth (replies reply replied)]

end Calls

section Checks

theorem Shares.reached {inner : Value} (known : kept value) (path : store.Reaches value inner) :
    kept inner :=
  kept_of_reaches shares.part known path

theorem Shares.enumerable (known : kept value) :
    later.enumerable value = store.enumerable value := by
  simp only [Store.enumerable, (shares.alike value known).kind]

theorem Shares.memberValues {owner : Ref} {type : EnumType}
    (here : store.read owner = .enumType type) (inside : kept (.object owner)) :
    later.memberValues owner type = store.memberValues owner type := by
  refine List.filterMap_congr fun index listed => ?_
  have placed := shares.part _ inside _ (mem_parts_of_type here (List.mem_range.mp listed))
  rw [(shares.alike _ placed).member]

theorem Shares.belongs {drawn : Enumeration} (each : ∀ declared ∈ drawn.values, kept declared)
    (known : kept value) : later.belongs drawn value = store.belongs drawn value := by
  have sought : later.underlying value = store.underlying value := by
    simp only [Store.underlying, (shares.alike value known).member]
  have inside : kept (store.underlying value) := by
    unfold underlying
    cases value with
    | member owner index =>
      cases found : store.member? (.member owner index) with
      | none => exact known
      | some member => exact shares.part _ known _ (mem_parts_of_member found)
    | _ => exact known
  simp only [Store.belongs, sought, shares.enumerable inside,
    any_congr fun declared member => shares.agrees (each declared member) inside]

theorem Shares.enumerate (name : String) {values : List Value} (each : ∀ held ∈ values, kept held) :
    later.enumerate name values = store.enumerate name values := by
  have filtered : values.filter later.enumerable = values.filter store.enumerable :=
    List.filter_congr fun held member => shares.enumerable (each held member)
  have chosen : ∀ held ∈ values.filter store.enumerable, kept held :=
    fun held member => each held (List.mem_filter.mp member).1
  have shown : (store.distinct (values.filter store.enumerable)).mapM later.text =
      (store.distinct (values.filter store.enumerable)).mapM store.text :=
    mapM_congr fun held member => shares.text (chosen held (mem_of_mem_distinct member))
  simp only [Store.enumerate, filtered, shares.distinct chosen, shown]

theorem Shares.enumeration? (known : kept source) :
    later.enumeration? source = store.enumeration? source := by
  simp only [Store.enumeration?, (shares.alike source known).object]
  split
  · rename_i name values here
    have inside := shares.inside known here values (by simp [Object.parts])
    rw [(shares.alike values inside).elements?]
  · rfl

theorem Shares.enumerationOf (known : kept source) :
    later.enumerationOf source = store.enumerationOf source := by
  have alike := shares.alike source known
  simp only [Store.enumerationOf, shares.enumeration? known, alike.enumType?, alike.mapping?,
    alike.typeName]
  split
  · rfl
  · rename_i owner type _ found
    obtain ⟨rfl, here⟩ := eq_of_enumType found
    rw [shares.memberValues here known]
    exact shares.enumerate _ fun held member =>
      shares.reached known (reaches_memberValue here member)
  · rename_i entries _ _ found
    have each := shares.entries known found
    have titled : later.mappingName entries = store.mappingName entries := by
      simp only [Store.mappingName, mapM_congr fun entry member => shares.text (each entry member).1]
    rw [titled]
    refine Run.bind_congr fun name _ => shares.enumerate name fun held member => ?_
    obtain ⟨entry, inside, rfl⟩ := List.mem_map.mp member
    exact (each entry inside).2
  · rfl

theorem Shares.checkOf (known : kept source) : later.checkOf source = store.checkOf source := by
  have alike := shares.alike source known
  have built : later.check? source = store.check? source := by
    simp only [Store.check?, alike.object, shares.enumeration? known]
  simp only [Store.checkOf, built, alike.enumType?, alike.mapping?, alike.callable, alike.typeName,
    shares.enumerationOf known]

end Checks

section Rules

variable {name rule : Value}

theorem Shares.ruleParts (known : kept rule) : later.ruleParts rule = store.ruleParts rule := by
  have alike := shares.alike rule known
  simp only [Store.ruleParts, alike.object, alike.mapping?, alike.string?]
  split
  · rfl
  · rename_i entries mapping _
    have found (key : String) :
        later.find? entries (.text key) = store.find? entries (.text key) :=
      shares.find? (fun entry member => (shares.entries known mapping entry member).1)
        (shares.texts key)
    rw [found, found]
  · rfl

theorem Shares.kept_ruleParts (known : kept rule) :
    kept (store.ruleParts rule).1 ∧ kept (store.ruleParts rule).2 := by
  have either {part : Value} (found : store.Reaches rule part ∨ part = .null) : kept part := by
    rcases found with path | rfl
    · exact shares.reached known path
    · exact shares.atom _ rfl
  obtain ⟨descriptor, check⟩ := store.reaches_ruleParts rule
  exact ⟨either descriptor, either check⟩

theorem Shares.ruleOf (name' : kept name) (known : kept rule) :
    later.ruleOf name rule = store.ruleOf name rule := by
  obtain ⟨descriptor, check⟩ := shares.kept_ruleParts known
  simp only [Store.ruleOf, shares.ruleParts known, (shares.alike _ descriptor).string?,
    shares.text name', shares.form known, shares.form check, shares.checkOf check]

end Rules

section Judging

theorem Shares.sequence {series : Series} (known : kept value)
    (found : store.sequence? value = some series) : (seriesEntries series).Each kept := by
  have counted (place : Int) : kept (.integer place) := shares.atom _ rfl
  unfold sequence? at found
  split at found
  · rename_i content wrapped
    cases found
    refine each_numbered (fun place _ => counted place) fun held member =>
      shares.part value known held (mem_parts_of_characters ?_)
    simpa [characters, wrapped] using member
  · split at found
    · rename_i form items here
      cases found
      exact each_numbered (fun place _ => counted place) (shares.inside known here)
    · cases found
      intro entry member
      obtain ⟨place, -, rfl⟩ := List.mem_map.mp member
      exact ⟨counted _, counted _⟩
    · cases found

/-- A value is gone through alike in both stores, by what is the same in both. -/
theorem Shares.entries? (known : kept value) :
    later.entries? value = store.entries? value ∧
      ∀ entries, store.entries? value = some entries → entries.Each kept := by
  have alike := shares.alike value known
  refine ⟨by simp only [Store.entries?, alike.mapping?, alike.sequence?, alike.elements?,
    alike.hasFields, alike.ownFields], fun entries shape => ?_⟩
  unfold Store.entries? at shape
  split at shape
  · rename_i listed _ _ found
    cases shape
    exact shares.entries known found
  · rename_i series _ _ found
    cases shape
    exact shares.sequence known found
  · rename_i items _ _ found
    cases shape
    exact each_numbered (fun place _ => shares.atom _ rfl) fun held member =>
      shares.part value known held (mem_parts_of_elements found held member)
  · split at shape
    · rename_i readable
      cases shape
      exact each_ownFields shares.texts (shares.part value known) readable
    · cases shape

variable {check : Check} (made : ∀ part ∈ check.parts, kept part)

include made

theorem Shares.judgeItem (expected : Expectation) (known : kept value) :
    later.judgeItem expected check value = store.judgeItem expected check value := by
  cases check with
  | byKind => simp only [Store.judgeItem, (shares.alike value known).kind]
  | predicate test =>
    simp only [Store.judgeItem, shares.passes (made test (List.mem_singleton.mpr rfl)) known]
  | enumeration drawn => simp only [Store.judgeItem, shares.belongs made known, shares.display known]

theorem Shares.judgeEach (expected : Expectation) (fault? : Option Fault)
    {items : List (Value × Value)} (each : ∀ entry ∈ items, kept entry.1 ∧ kept entry.2) :
    later.judgeEach expected check fault? items = store.judgeEach expected check fault? items := by
  induction items with
  | nil => rfl
  | cons entry rest inductionHypothesis =>
    obtain ⟨⟨key, item⟩, others⟩ := List.forall_mem_cons.mp each
    simp only [Store.judgeEach, shares.judgeItem made expected item, inductionHypothesis others,
      rejectEntry, shares.text key]

theorem Shares.judgeEntries (expected : Expectation) (known : kept value) :
    later.judgeEntries value expected (pure check) =
      store.judgeEntries value expected (pure check) := by
  obtain ⟨same, inside⟩ := shares.entries? known
  simp only [Store.judgeEntries, shares.form known, same]
  cases shape : store.entries? value with
  | none => rfl
  | some entries =>
    simp only [pure_bind, judgeAll_eq, shares.judgeEach made expected _ (inside entries shape)]

theorem Shares.judgeBare (descriptor : Descriptor) (known : kept value) :
    later.judgeBare value descriptor check = store.judgeBare value descriptor check := by
  simp only [Store.judgeBare, shares.judgeEntries made _ known, shares.judgeItem made _ known]

theorem Shares.judge {descriptor : Value} (known : kept value) (descriptor' : kept descriptor) :
    later.judge value descriptor (pure check) = store.judge value descriptor (pure check) := by
  have alike := shares.alike descriptor descriptor'
  have read : later.descriptor descriptor = store.descriptor descriptor := by
    simp only [Store.descriptor, notDescriptor, alike.base, alike.object, shares.text descriptor']
  simp only [Store.judge, shares.form known, shares.text descriptor', read, pure_bind,
    shares.judgeBare made _ known]

omit made

theorem Shares.judgeField {name rule : Value} (name' : kept name) (known : kept value)
    (rule' : kept rule) :
    later.judgeField name value rule = store.judgeField name value rule := by
  simp only [Store.judgeField, shares.ruleOf name' rule', shares.text name']
  refine Run.bind_congr fun resolved drawn => ?_
  obtain ⟨descriptor, source⟩ := shares.kept_ruleParts rule'
  obtain ⟨written, made⟩ := drawn_of_ruleOf drawn
  have inside : ∀ part ∈ resolved.check.parts, kept part :=
    fun part member => shares.reached source (reaches_of_checkOf made member)
  rw [shares.judge inside known (written ▸ descriptor)]

/-- Rules that are the same in both stores judge a value alike that may have changed, as long as the
fields that they name have not: the induction is on the rules. -/
theorem Shares.judgeRules {entries : List (Value × Value)}
    (each : ∀ entry ∈ entries, kept entry.1 ∧ kept entry.2)
    (same : ∀ entry ∈ entries, later.field value entry.1 = store.field value entry.1)
    (known : ∀ entry ∈ entries, ∀ held, store.field value entry.1 = .ok held → kept held) :
    later.judgeRules value entries = store.judgeRules value entries := by
  induction entries with
  | nil => rfl
  | cons entry rest inductionHypothesis =>
    obtain ⟨⟨name, rule⟩, others⟩ := List.forall_mem_cons.mp each
    obtain ⟨here, there⟩ := List.forall_mem_cons.mp same
    obtain ⟨found, further⟩ := List.forall_mem_cons.mp known
    have step : later.judgeEntry value entry = store.judgeEntry value entry := by
      rw [judgeEntry, here, judgeEntry]
      exact Run.bind_congr fun held read => shares.judgeField name (found held read) rule
    rw [judgeRules_cons, judgeRules_cons, step, inductionHypothesis others there further,
      shares.text name]

end Judging

end Store

end Conform
