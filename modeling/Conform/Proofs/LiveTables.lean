import Conform.Proofs.Copies
import Conform.Proofs.Membership

/-! What stays live in a session and what does not. A table answers by the rules that its mapping
has at the moment, and its operations agree about them; an enumeration keeps the values that its
mapping had when it was built. -/

namespace Conform

namespace Store

variable {store built later last : Store} {source made name : Value} {table rules : Ref}
  {form : MappingForm} {entries : List (Value × Value)} {check : Check} {drawn : Enumeration}

section Enumerations

theorem enumeration_stays (settled : (Action.allocEnumeration drawn).Settles store made built)
    (evolves : built.Evolves later) : later.enumeration? made = some drawn := by
  let members := store.alloc (.set true drawn.values)
  obtain ⟨rfl, rfl⟩ := settled.unique
    (.bind (Action.settles_alloc (.set true drawn.values))
      (Action.settles_alloc (.enumeration drawn.name (.object store.next))))
  have values : (members.alloc (.enumeration drawn.name (.object store.next))).read store.next =
      .set true drawn.values := by
    have placed : members.read store.next = .set true drawn.values := read_alloc_next store _
    rw [read_alloc_of_holds members _ store.next (holds_of_read placed nofun), placed]
  have whole : (members.alloc (.enumeration drawn.name (.object store.next))).read members.next =
      .enumeration drawn.name (.object store.next) := read_alloc_next members _
  have laterValues : later.read store.next = .set true drawn.values :=
    evolves.kept values nofun rfl
  have laterWhole : later.read members.next = .enumeration drawn.name (.object store.next) :=
    evolves.kept whole nofun rfl
  change later.enumeration? (.object members.next) = some drawn
  simp [enumeration?, object?, elements?, laterWhole, laterValues, Object.elements?]

/-- What is built from a mapping is a new object for the enumeration drawn from it. -/
theorem allocEnumeration_of_mapping (mapping : store.mapping? source = some entries)
    (settled : (Action.enumeration source).Settles store made built) :
    ∃ drawn, (store.enumerationOf source).outcome = .ok drawn ∧
      (Action.allocEnumeration drawn).Settles store made built := by
  obtain ⟨-, unbuilt, -⟩ := check?_of_mapping mapping
  obtain ⟨_, _, ⟨known, rfl⟩, settled⟩ := settled.split
  cases known
  obtain ⟨drawn, _, ⟨ran, rfl⟩, settled⟩ := settled.split
  exact ⟨drawn, ran, by simpa [Action.store, Action.reading, unbuilt] using settled⟩

end Enumerations

section RuleObjects

theorem elements?_alloc_rule (descriptor held value : Value) :
    (store.alloc (.rule descriptor held)).elements? value = store.elements? value := by
  cases value with
  | object ref =>
    by_cases new : ref = store.next
    · subst new
      simp [elements?, object?, read_alloc_next, read_next, Object.elements?]
    · simp only [elements?, object?, read_alloc_of_ne store _ new]
  | _ => rfl

/-- A new rule is no check, and not what a check holds either. -/
theorem check?_alloc_rule (descriptor held value : Value) :
    (store.alloc (.rule descriptor held)).check? value = store.check? value := by
  cases value with
  | object ref =>
    by_cases new : ref = store.next
    · subst new
      simp [check?, enumeration?, object?, read_alloc_next, read_next]
    · simp only [check?, enumeration?, object?, read_alloc_of_ne store _ new, elements?_alloc_rule]
  | _ => rfl

theorem checkOf_of_check (known : store.check? source = some check) :
    store.checkOf source = return check := by
  have present : source ≠ .null := by
    rintro rfl
    cases known
  simp [checkOf, present, known]

theorem check?_of_enumeration (built : store.enumeration? source = some drawn) :
    store.check? source = some (.enumeration drawn) := by
  have inner := built
  unfold enumeration? at inner
  split at inner
  · rename_i here
    simp only [check?, here, built, Option.map_some]
  · cases inner

/-- What is drawn from a value that is no check yet is an enumeration or a predicate. -/
theorem ne_byKind_of_drawn (present : source ≠ .null) (unchecked : store.check? source = none)
    (drawn : (store.checkOf source).outcome = .ok check) : check ≠ .byKind := by
  rintro rfl
  rw [checkOf, if_neg present, unchecked] at drawn
  dsimp only at drawn
  split at drawn
  · rw [Run.outcome_bind] at drawn
    obtain ⟨enumeration, -, made⟩ := ok_of_bind_ok drawn
    cases made
  · split at drawn <;> cases drawn

/-- How the object for a check is made: null and a check that is built already need none, and a
new object is made for any other value. -/
inductive MakesCheck (store : Store) (source : Value) : Check → Value → Store → Prop where
  | null {check : Check} (absent : source = .null) : MakesCheck store source check .noCheck store
  | built {check : Check} (present : source ≠ .null) (known : (store.check? source).isSome = true) :
      MakesCheck store source check source store
  | byKind (present : source ≠ .null) (unchecked : store.check? source = none) :
      MakesCheck store source .byKind .noCheck store
  | predicate {test : Value} (present : source ≠ .null) (unchecked : store.check? source = none) :
      MakesCheck store source (.predicate test) (.object store.next)
        (store.alloc (.predicate test))
  | enumeration {drawn : Enumeration} {made : Value} {later : Store} (present : source ≠ .null)
      (unchecked : store.check? source = none)
      (settled : (Action.allocEnumeration drawn).Settles store made later) :
      MakesCheck store source (.enumeration drawn) made later

theorem makesCheck (settled : (Action.checkObject source check).Settles store made later) :
    store.MakesCheck source check made later := by
  obtain ⟨_, _, ⟨known, rfl⟩, settled⟩ := settled.split
  cases known
  by_cases absent : source = .null
  · rw [if_pos absent] at settled
    obtain ⟨rfl, rfl⟩ := settled.unique (Action.settles_pure _)
    exact .null absent
  · rw [if_neg absent] at settled
    cases known : store.check? source with
    | some other =>
      simp only [known, Option.isSome_some, if_true] at settled
      obtain ⟨rfl, rfl⟩ := settled.unique (Action.settles_pure _)
      exact .built absent (by rw [known]; rfl)
    | none =>
      simp only [known, Option.isSome_none, Bool.false_eq_true, if_false] at settled
      cases check with
      | byKind =>
        obtain ⟨rfl, rfl⟩ := settled.unique (Action.settles_pure _)
        exact .byKind absent known
      | predicate test =>
        obtain ⟨rfl, rfl⟩ := settled.unique (Action.settles_alloc _)
        exact .predicate absent known
      | enumeration drawn => exact .enumeration absent known settled

/-- The object for a check that is drawn from a value is that check. -/
theorem check?_checkObject (shared : store.object? .noCheck = some .noCheck)
    (drawn : (store.checkOf source).outcome = .ok check)
    (settled : (Action.checkObject source check).Settles store made later) :
    later.check? made = some check := by
  cases makesCheck settled with
  | null absent =>
    subst absent
    cases drawn
    simp only [check?, shared]
  | built present known =>
    obtain ⟨other, known⟩ := Option.isSome_iff_exists.mp known
    rw [checkOf_of_check known] at drawn
    cases drawn
    exact known
  | byKind present unchecked => exact absurd rfl (ne_byKind_of_drawn present unchecked drawn)
  | predicate present unchecked => simp only [check?, object?, read_alloc_next]
  | enumeration present unchecked settled =>
    exact check?_of_enumeration (enumeration_stays settled (.refl later))

theorem parts_of_ruleOf {rule : Value} {resolved : Rule}
    (drawn : (store.ruleOf name rule).outcome = .ok resolved) :
    store.ruleParts rule = (resolved.descriptor, resolved.source) ∧
      (store.string? resolved.descriptor).isSome = true ∧
      (store.checkOf resolved.source).outcome = .ok resolved.check := by
  rw [outcome_ruleOf] at drawn
  split at drawn
  · obtain ⟨shown, -, ended⟩ := ok_of_bind_ok drawn
    obtain ⟨form, -, ended⟩ := ok_of_bind_ok ended
    cases ended
  · rename_i stringy
    split at drawn
    · rename_i check known
      cases drawn
      exact ⟨rfl, by simpa [Option.isSome_iff_ne_none] using stringy, known⟩
    · obtain ⟨shown, -, ended⟩ := ok_of_bind_ok drawn
      obtain ⟨form, -, ended⟩ := ok_of_bind_ok ended
      cases ended
    · cases drawn

/-- A rule object holds the descriptor that was read and an object made for the check. -/
theorem rule_settles {read : Store → Run Rule} (settled : (Action.rule read).Settles store made last) :
    ∃ resolved held middle, (read store).outcome = .ok resolved ∧
      (Action.checkObject resolved.source resolved.check).Settles store held middle ∧
      made = .object middle.next ∧ last = middle.alloc (.rule resolved.descriptor held) := by
  obtain ⟨resolved, _, ⟨ran, rfl⟩, settled⟩ := settled.split
  obtain ⟨held, middle, placed, settled⟩ := settled.split
  obtain ⟨rfl, rfl⟩ := settled.unique (Action.settles_alloc _)
  exact ⟨resolved, held, middle, ran, placed, rfl, rfl⟩

/-- The object for the check of a rule is that check, also next to the rule object. -/
theorem check?_held {resolved : Rule} {held : Value} (shared : store.object? .noCheck = some .noCheck)
    (drawn : (store.ruleOf name source).outcome = .ok resolved)
    (placed : (Action.checkObject resolved.source resolved.check).Settles store held built) :
    (built.alloc (.rule resolved.descriptor held)).check? held = some resolved.check := by
  rw [check?_alloc_rule]
  exact check?_checkObject shared (parts_of_ruleOf drawn).2.2 placed

/-- The rule object of a table for a name holds the descriptor of the rule that the table has for
it and an object that stands for its check. -/
theorem tableRule_settles (shared : store.object? .noCheck = some .noCheck)
    (settled : (Action.rule fun current => current.tableRuleOf (.object table) name).Settles store
      made last) :
    ∃ resolved check, (store.tableRuleOf (.object table) name).outcome = .ok resolved ∧
      last.object? made = some (.rule resolved.descriptor check) ∧
      last.checkOf check = return resolved.check := by
  obtain ⟨resolved, held, middle, ran, placed, rfl, rfl⟩ := rule_settles settled
  obtain ⟨rule, -, drawn⟩ := ok_of_bind_ok ((Run.outcome_bind _ _).symm.trans ran)
  refine ⟨resolved, held, ran, ?_, checkOf_of_check (check?_held shared drawn placed)⟩
  exact congrArg some (read_alloc_next middle _)

end RuleObjects

section Copying

/-- A copy of a mapping is a new mapping with its entries, unless keys have to be merged. -/
theorem settles_copy (contents : store.read rules = .mapping form entries)
    (whole : store.read rules = .mapping .plain entries ∨
      entries.Pairwise fun one other => store.agrees one.1 other.1 = false) :
    (Action.copy (.object rules)).Settles store (.object store.next, false)
      (store.alloc (.mapping .plain entries)) := by
  have copied : store.copied (.object rules) = .ok (.object (.mapping .plain entries)) := by
    rcases whole with plain | distinct
    · simp only [Store.copied, plain, objectCopy]
    · cases form <;> simp [Store.copied, contents, objectCopy, gathered_of_distinct distinct]
  apply Action.Settles.bind Action.settles_store
  apply Action.Settles.bind (Action.settles_ofExcept copied)
  apply Action.Settles.bind (Action.settles_alloc _)
  exact Action.settles_pure _

theorem Tabulates.mirrors_fresh (tabulates : store.Tabulates table rules form entries)
    (settled : (do
      let other ← Action.alloc (.mapping .plain entries)
      Action.table other).Settles store made last) :
    last.Mirrors (.object table) made := by
  obtain ⟨answer, middle, placed, settled⟩ := settled.split
  obtain ⟨rfl, rfl⟩ := placed.unique (Action.settles_alloc _)
  obtain ⟨rfl, grows, fresh⟩ := tabulates_table (read_alloc_next store _) settled
  have same := tabulates.grown ((grows_alloc store _).trans grows)
  exact (entrywise_of_refl RepeatsRule.same entries).mirrors same fresh

theorem Tabulates.mirrors_copy (tabulates : store.Tabulates table rules form entries)
    (whole : store.read rules = .mapping .plain entries ∨
      entries.Pairwise fun one other => store.agrees one.1 other.1 = false)
    (settled : (do
      let (copy, _) ← Action.copy (.object rules)
      Action.table copy).Settles store made last) :
    last.Mirrors (.object table) made := by
  obtain ⟨answer, middle, copied, settled⟩ := settled.split
  obtain ⟨rfl, rfl⟩ := copied.unique (settles_copy tabulates.contents whole)
  exact tabulates.mirrors_fresh (.bind (Action.settles_alloc _) settled)

end Copying

section Keys

variable {keys : List Value} {key one other : Value}

def SameText (one other : Value) : Prop := ∃ content, one = .text content ∧ other = .text content

/-- Keys that can be keys whatever the store comes to be, and of which two are always taken for one
another or never. -/
structure Enduring (store : Store) (keys : List Value) : Prop where
  hashable : ∀ later, store.Evolves later → ∀ key ∈ keys, later.hashable key = true
  agrees : ∀ later, store.Evolves later → ∀ one ∈ keys, ∀ other ∈ keys,
    later.agrees one other = store.agrees one other

theorem lasting_sameText (store : Store) : store.Lasting SameText := by
  rintro later - one other ⟨content, rfl, rfl⟩
  exact agrees_self later _

/-- Of enduring keys, those that are taken for one another always are. -/
theorem Enduring.lasting (enduring : store.Enduring keys) :
    store.Lasting fun one other => one ∈ keys ∧ other ∈ keys ∧ store.agrees one other = true := by
  rintro later evolves one other ⟨here, there, taken⟩
  rw [enduring.agrees later evolves one here other there, taken]

/-- A number or a string is used as the same one as long as no attribute changes. -/
theorem EvolvesWith.base (evolves : store.Evolves later) (counted : store.enumerable key = true) :
    later.base key = store.base key := by
  cases key with
  | member owner index =>
    cases here : store.read owner with
    | enumType type =>
      have there : later.read owner = .enumType type := evolves.kept here (by simp) rfl
      simp only [Store.base, member?, here, there]
      cases type.members[index]? <;> rfl
    | _ =>
      simp [enumerable, kind, number?, string?, Store.base, member?, object?, callable, here]
        at counted
  | object ref =>
    cases here : store.read ref with
    | derived base =>
      have there : later.read ref = .derived base := evolves.kept here (by simp) rfl
      simp only [Store.base, member?, object?, here, there]
    | _ =>
      rw [enumerable_iff] at counted
      simp [number?, string?, Store.base, member?, object?, here] at counted
  | _ => rfl

/-- Numbers and strings of any type are enduring keys. -/
theorem enduring_of_enumerable (counted : ∀ key ∈ keys, store.enumerable key = true) :
    store.Enduring keys where
  hashable := by
    intro later evolves key member
    have based := evolves.base (counted key member)
    refine hashable_of_based ?_
    rw [based]
    rcases enumerable_iff.mp (counted key member) with ⟨number, counts⟩ | ⟨content, spells⟩
    · exact .inl ⟨number, base_of_number counts⟩
    · exact .inr ⟨content, base_of_string spells⟩
  agrees := by
    intro later evolves one here other there
    exact agrees_of_base (counted one here) (counted other there) (evolves.base (counted one here))
      (evolves.base (counted other there))

/-- Entries whose keys are plain texts, none of them twice, are found under their own keys. -/
theorem findsOwn_of_texts (unrepeated : Unrepeated SameText entries)
    (texts : ∀ entry ∈ entries, ∃ content, entry.1 = .text content) : store.FindsOwn entries := by
  have allowed : ∀ entry ∈ entries, store.hashable entry.1 = true := by
    intro entry member
    obtain ⟨content, text⟩ := texts entry member
    exact text ▸ rfl
  refine findsOwn_of_distinct allowed (unrepeated.imp_of_mem fun {one other} here there apart => ?_)
  obtain ⟨content, text⟩ := texts one here
  obtain ⟨content', text'⟩ := texts other there
  have different : content ≠ content' := by
    rintro rfl
    exact apart ⟨content, text, text'⟩
  rw [text, text', agrees_of_strings rfl rfl, decide_eq_false different]

end Keys

/-- A table that answers by the entries that its mapping has in a store. -/
structure AnswersBy (store : Store) (table rules : Ref) (entries : List (Value × Value)) :
    Prop where
  /-- Its operations are its own, no attribute has taken the place of one. -/
  operations : ∀ operation, operation ≠ "rules" →
    (store.object? (.object table)).any (Object.isTable operation) = true
  /-- The names are the keys, in their order. -/
  names : (Action.tableNames (.object table) store).1 = .answer (entries.map Prod.fst)
  /-- A fresh table over a new mapping of the entries answers the same. -/
  fresh : ∀ made last, (do
      let other ← Action.alloc (.mapping .plain entries)
      Action.table other).Settles store made last → last.Mirrors (.object table) made
  /-- So does one over a copy of the mapping. Only in a copy of a mapping that is no plain one are
  keys merged that are taken for one another. -/
  copied : store.read rules = .mapping .plain entries ∨
      entries.Pairwise (fun one other => store.agrees one.1 other.1 = false) → ∀ made last, (do
      let (copy, _) ← Action.copy (.object rules)
      Action.table copy).Settles store made last → last.Mirrors (.object table) made
  /-- So does a table over a mapping in which the rules and the mappings of values that they are
  checked by are copies too. -/
  repeated : ∀ other rules' form' entries', store.Tabulates other rules' form' entries' →
    Entrywise store.RepeatsRule entries entries' → store.Mirrors (.object table) (.object other)
  /-- A string is among the names just when it is in the table. -/
  named : ∀ name content, store.string? name = some content →
    ((entries.map Prod.fst).any (fun key => store.agrees key name) = true ↔
      store.holds (.object table) name = .ok true)
  /-- Just then its rule can be asked for. -/
  ruled : ∀ name content, store.string? name = some content →
    ((∀ shown, (store.tableRuleOf (.object table) name).outcome ≠ .error (.noRule shown)) ↔
      store.holds (.object table) name = .ok true)
  /-- And just then a value can be judged under it. -/
  judged : ∀ name content value, store.string? name = some content →
    ((∀ shown, (store.judgeFieldByTable (.object table) name value).outcome ≠
        .error (.noRule shown)) ↔
      store.holds (.object table) name = .ok true)
  /-- A value is judged under a name by the descriptor and the check of the rule for it. -/
  field : ∀ name shown value, store.text name = .ok shown →
    store.judgeFieldByTable (.object table) name value = (do
      let rule ← store.tableRuleOf (.object table) name
      let verdict ← store.judge value rule.descriptor (pure rule.check)
      return verdict.at shown)
  /-- These are what the rule object for the name holds. -/
  rule : ∀ name made last,
    (Action.rule fun current => current.tableRuleOf (.object table) name).Settles store made last →
    ∃ resolved check, (store.tableRuleOf (.object table) name).outcome = .ok resolved ∧
      last.object? made = some (.rule resolved.descriptor check) ∧
      last.checkOf check = return resolved.check
  /-- An object is judged as its fields are, one name after the other, up to the first that is not
  accepted, as long as each rule is found by its own name. -/
  whole : store.FindsOwn entries → ∀ value, store.hasFields value = true →
    (store.judgeByTable (.object table) value).SameAnswer
      (store.judgeNamed (.object table) value (entries.map Prod.fst))

theorem Tabulates.answersBy (tabulates : store.Tabulates table rules form entries)
    (shared : store.object? .noCheck = some .noCheck) : store.AnswersBy table rules entries where
  operations _ other := tabulates.isTable other
  names := by rw [tabulates.tableNames]
  fresh _ _ settled := tabulates.mirrors_fresh settled
  copied whole _ _ settled := tabulates.mirrors_copy whole settled
  repeated _ _ _ _ other alike := alike.mirrors tabulates other
  named _ _ string := tabulates.mem_names_iff string
  ruled _ _ string := tabulates.tableRuleOf_iff string
  judged _ _ value string := tabulates.judgeFieldByTable_iff string value
  field _ _ value titled := judgeFieldByTable_eq titled _ value
  rule _ _ _ settled := tableRule_settles shared settled
  whole := by
    intro found value shaped
    rw [tabulates.judgeByTable, judgeFields_of_mapping shaped tabulates.mapping?]
    exact judgeRules_by_names tabulates value found

end Store

namespace Session

variable {store : Store} {steps : List (Operation × Option String)}

/-- Rule tables are live, enumerations are not. Whatever steps follow the construction of a table
over a mapping, items set and deleted anywhere, more tables and enumerations built, values judged,
the table answers by the entries that the mapping has come to have; each of them is found by its
own name, if the names are plain texts, or other keys that are enduring, of which no mapping has one
twice. And an enumeration that was built from a mapping has the values that the mapping had when it
was built. -/
theorem tables_stay_live (shared : store.object? .noCheck = some .noCheck)
    (keep : ∀ next ∈ steps, next.1.keepsAttributes = true) (bindings : Fields) :
    (∀ rules form entries made built, store.read rules = .mapping form entries →
      (Action.table (.object rules)).Settles store made built →
      ∃ table current, made = .object table ∧
        (after ⟨built, bindings⟩ steps).store.read rules = .mapping form current ∧
        (after ⟨built, bindings⟩ steps).store.AnswersBy table rules current ∧
        (Unrepeated Store.SameText entries → (∀ entry ∈ current, ∃ content, entry.1 = .text content) →
          (after ⟨built, bindings⟩ steps).store.FindsOwn current) ∧
        (built.Enduring (current.map Prod.fst) →
          entries.Pairwise (fun one other => built.agrees one.1 other.1 = false) →
          (after ⟨built, bindings⟩ steps).store.FindsOwn current ∧
            current.Pairwise fun one other =>
              (after ⟨built, bindings⟩ steps).store.agrees one.1 other.1 = false)) ∧
    (∀ source entries made built, store.mapping? source = some entries →
      (Action.enumeration source).Settles store made built →
      ∃ shown, store.mappingName entries = .ok shown ∧
        (after ⟨built, bindings⟩ steps).store.enumeration? made =
          some ⟨shown, store.distinct ((entries.map Prod.snd).filter store.enumerable)⟩) := by
  constructor
  · intro rules form entries made built contents settled
    obtain ⟨rfl, grows, tabulates⟩ := Store.tabulates_table contents settled
    have run {alike : Value → Value → Prop} (lasting : built.Lasting alike) :
        built.EvolvesWith alike (after ⟨built, bindings⟩ steps).store :=
      after_evolves ⟨built, bindings⟩ lasting keep
    obtain ⟨current, later, unrepeated⟩ := tabulates.evolved (run (Store.lasting_sameText built))
    have known : (after ⟨built, bindings⟩ steps).store.read ⟨2⟩ = .noCheck :=
      (grows.evolves.trans (run (Store.lasting_sameText built)).loosely).kept
        (Option.some.inj shared) nofun rfl
    refine ⟨store.next, current, rfl, later.contents, later.answersBy ?_, ?_, ?_⟩
    · simp only [Value.noCheck, Store.object?, known]
    · intro before texts
      exact Store.findsOwn_of_texts (unrepeated before) texts
    · intro enduring before
      have evolved : built.Evolves (after ⟨built, bindings⟩ steps).store :=
        (run (Store.lasting_sameText built)).loosely
      have distinct : current.Pairwise fun one other =>
          (after ⟨built, bindings⟩ steps).store.agrees one.1 other.1 = false := by
        obtain ⟨again, there, kept⟩ := tabulates.evolved (run enduring.lasting)
        cases there.contents.symm.trans later.contents
        refine (kept (before.imp ?_)).imp_of_mem ?_
        · rintro one other apart ⟨-, -, taken⟩
          exact Bool.noConfusion (apart.symm.trans taken)
        · intro one other here there apart
          have among : one.1 ∈ current.map Prod.fst := List.mem_map_of_mem here
          have amongst : other.1 ∈ current.map Prod.fst := List.mem_map_of_mem there
          rw [enduring.agrees _ evolved _ among _ amongst]
          simpa [among, amongst] using apart
      have allowed : ∀ entry ∈ current,
          (after ⟨built, bindings⟩ steps).store.hashable entry.1 = true :=
        fun entry member => enduring.hashable _ evolved _ (List.mem_map_of_mem member)
      exact ⟨Store.findsOwn_of_distinct allowed distinct, distinct⟩
  · intro source entries made built mapping settled
    obtain ⟨drawn, ran, placed⟩ := Store.allocEnumeration_of_mapping mapping settled
    obtain ⟨shown, titled, rfl⟩ := Store.eq_of_enumerationOf mapping ran
    have evolved : built.Evolves (after ⟨built, bindings⟩ steps).store :=
      after_evolves ⟨built, bindings⟩ (fun _ _ _ _ => False.elim) keep
    exact ⟨shown, titled, Store.enumeration_stays placed evolved⟩

/-- A store with rules for one field, whose values are those of a mapping, and with a name that is a
string of another type. -/
def withChoices : Store :=
  let cells : List Object :=
    [.mapping .plain [(.text "a", .object ⟨5⟩)],
      .mapping .plain [(.text "type", .text "string"), (.text "check", .object ⟨6⟩)],
      .mapping .plain [(.text "x", .text "red")], .derived (.text "b")]
  cells.foldl Store.alloc Store.initial

/-- One more value, another rule, and no rule for the first field any more. -/
def changes : List (Operation × Option String) :=
  [(.setItem (.value (.object ⟨6⟩)) (.value (.text "y")) (.value (.text "blue")), none),
    (.setItem (.value (.object ⟨4⟩)) (.value (.object ⟨7⟩)) (.value (.text "number")), none),
    (.dropItem (.value (.object ⟨4⟩)) (.value (.text "a")), none)]

/-- The table follows the changes and the enumeration does not. -/
theorem table_follows_changes :
    (∃ made built, (Action.table (.object ⟨4⟩)).Settles withChoices made built ∧
      (Action.tableNames made (after ⟨built, []⟩ changes).store).1 = .answer [.object ⟨7⟩] ∧
      (after ⟨built, []⟩ changes).store.FindsOwn [(.object ⟨7⟩, .text "number")]) ∧
    ∃ made built, (Action.enumeration (.object ⟨6⟩)).Settles withChoices made built ∧
      (after ⟨built, []⟩ changes).store.mapping? (.object ⟨6⟩) =
        some [(.text "x", .text "red"), (.text "y", .text "blue")] ∧
      (after ⟨built, []⟩ changes).store.enumeration? made =
        some ⟨"enum \x7bx\x7d", [.text "red"]⟩ := by
  have keep : ∀ next ∈ changes, next.1.keepsAttributes = true := by decide
  have shared : withChoices.object? .noCheck = some .noCheck := rfl
  obtain ⟨tables, enumerations⟩ := tables_stay_live shared keep []
  constructor
  · obtain ⟨table, current, made, contents, answers, -, found⟩ :=
      tables ⟨4⟩ .plain _ _ _ rfl ⟨rfl, rfl⟩
    let built : Store := (Action.table (.object ⟨4⟩) withChoices).2
    have left : (after ⟨built, []⟩ changes).store.read ⟨4⟩ =
        .mapping .plain [(.object ⟨7⟩, .text "number")] := by decide +kernel
    have enduring : built.Enduring [.object ⟨7⟩] := Store.enduring_of_enumerable (by decide)
    cases made
    cases contents.symm.trans left
    have own : (after ⟨built, []⟩ changes).store.FindsOwn [(.object ⟨7⟩, .text "number")] :=
      (found enduring (List.pairwise_singleton _ _)).1
    exact ⟨_, built, ⟨rfl, rfl⟩, answers.names, own⟩
  · obtain ⟨shown, titled, kept⟩ := enumerations (.object ⟨6⟩) _ _ _ rfl ⟨rfl, rfl⟩
    let built : Store := (Action.enumeration (.object ⟨6⟩) withChoices).2
    have widened : (after ⟨built, []⟩ changes).store.mapping? (.object ⟨6⟩) =
        some [(.text "x", .text "red"), (.text "y", .text "blue")] := by decide +kernel
    cases titled
    exact ⟨_, built, ⟨rfl, rfl⟩, widened, kept⟩

end Session

end Conform
