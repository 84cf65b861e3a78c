import Conform.Shape
import Conform.Text.Quoted

/-! The written form of values, their text in messages and their display in reasons.
Writing fails at an object that lacks a part that its form shows, at an integer of too many
digits, and where an object comes to be written inside itself without end. A form that has an end
may be nested to any depth. -/

namespace Conform

/-- What is written, or the fault of an integer with too many digits. -/
def writtenOr (shown? : Option String) : Except Fault String :=
  match shown? with
  | some shown => .ok shown
  | none => .error .tooLong

/-- Forms one after another, with a separator between them. -/
def listed (parts : List String) : String := String.intercalate ", " parts

/-- What stands for an object inside its own form. Named tuples, tables, models and
objects of custom types have nothing of the kind. -/
def Object.ellipsis? : Object → Option String
  | .mapping .plain _ => some "\x7b...\x7d"
  | .mapping .readOnly _ => some "mappingproxy(\x7b...\x7d)"
  | .sequence .list _ | .sequence .deque _ => some "[...]"
  | .sequence .tuple _ => some "(...)"
  | .set frozen _ => some (if frozen then "frozenset(...)" else "set(...)")
  | .mapping .ordered _ | .record _ | .view _ _ => some "..."
  | object => if object.frozen?.isSome then some "..." else none

/-- Named parts between the brackets of their type. -/
def labelled (typeName : String) (write : Value → Except Fault String) (fields : Fields) :
    Except Fault String := do
  let parts ← fields.mapM fun (name, value) => do return name ++ "=" ++ (← write value)
  return typeName ++ "(" ++ listed parts ++ ")"

private def pairs (write : Value → Except Fault String) (opening separator closing : String)
    (entries : List (Value × Value)) : Except Fault (List String) :=
  entries.mapM fun (key, value) => do
    return opening ++ (← write key) ++ separator ++ (← write value) ++ closing

private def bracketed (write : Value → Except Fault String) (opening closing : String)
    (items : List Value) : Except Fault String := do
  return opening ++ listed (← items.mapM write) ++ closing

private def braces (write : Value → Except Fault String) (entries : List (Value × Value)) :
    Except Fault String := do
  return "\x7b" ++ listed (← pairs write "" ": " "" entries) ++ "\x7d"

private def tupleForm (write : Value → Except Fault String) (items : List Value) :
    Except Fault String :=
  match items with
  | [item] => bracketed write "(" ",)" [item]
  | items => bracketed write "(" ")" items

private def rangeForm (start stop step : Int) : Except Fault String := do
  let shown := if step = 1 then [start, stop] else [start, stop, step]
  return "range(" ++ listed (← shown.mapM fun bound => writtenOr (Integer.text? bound)) ++ ")"

/-- The form of the object at an address, whose parts are written by `write`. -/
def Object.formWith (self : Ref) (write : Value → Except Fault String) :
    Object → Except Fault String
  | .mapping .plain entries => braces write entries
  | .mapping .ordered entries => do
    if entries = [] then return "OrderedDict()"
    return "OrderedDict([" ++ listed (← pairs write "(" ", " ")" entries) ++ "])"
  | .mapping .readOnly entries => do return "mappingproxy(" ++ (← braces write entries) ++ ")"
  | .mapping (.custom _) _ => .ok "<mapping>"
  | .sequence .list items => bracketed write "[" "]" items
  | .sequence .tuple items => tupleForm write items
  | .sequence .deque items => bracketed write "deque([" "])" items
  | .sequence (.named typeName labels) items => labelled typeName write (labels.zip items)
  | .sequence (.custom _) _ => .ok "<seq>"
  | .range start stop step => rangeForm start stop step
  | .set frozen items =>
    match frozen, items with
    | false, [] => .ok "set()"
    | true, [] => .ok "frozenset()"
    | false, items => bracketed write "\x7b" "\x7d" items
    | true, items => bracketed write "frozenset(\x7b" "\x7d)" items
  | .view .keys items => bracketed write "dict_keys([" "])" items
  | .view .items items => bracketed write "dict_items([" "])" items
  | .view .values items => bracketed write "dict_values([" "])" items
  | .generator _ => .ok "<generator>"
  | .byteArray bytes => .ok ("bytearray(" ++ Text.quotedBytes bytes true ++ ")")
  | .derived base => write base
  | .bare => .ok "<object>"
  | .plain whole => .ok ("<" ++ whole.typeName ++ ">")
  | .slotted whole => .ok ("<" ++ whole.typeName ++ ">")
  | .record whole => do labelled whole.typeName write (← whole.declaredFields)
  | .model whole => labelled whole.typeName write (whole.writtenFields self)
  | .function known => .ok ("<func " ++ known.name ++ ">")
  | .enumType type => .ok ("<enum '" ++ type.name ++ "'>")
  | .table own =>
    match own.named? "rules" with
    | some rules => do return "RuleTable(" ++ (← write rules) ++ ")"
    | none => .error .noAttribute
  | object =>
    match object.frozen? with
    | some (typeName, fields) => labelled typeName write fields
    | none => .ok "<object>"

section

variable {write other : Value → Except Fault String}

theorem labelled_ok {fields : Fields}
    (each : ∀ field ∈ fields, ∃ shown, write field.2 = .ok shown) (typeName : String) :
    ∃ shown, labelled typeName write fields = .ok shown := by
  obtain ⟨parts, written⟩ := mapM_ok_of_each
    (fun (name, value) => do return name ++ "=" ++ (← write value)) fun field member => by
      obtain ⟨shown, here⟩ := each field member
      exact ⟨field.1 ++ "=" ++ shown, by simp [here]⟩
  exact ⟨typeName ++ "(" ++ listed parts ++ ")", by rw [labelled, written]; rfl⟩

private theorem pairs_ok {entries : List (Value × Value)}
    (each : ∀ entry ∈ entries, (∃ shown, write entry.1 = .ok shown) ∧
      ∃ shown, write entry.2 = .ok shown) (opening separator closing : String) :
    ∃ shown, pairs write opening separator closing entries = .ok shown := by
  refine mapM_ok_of_each _ fun entry member => ?_
  obtain ⟨⟨key, first⟩, item, second⟩ := each entry member
  exact ⟨opening ++ key ++ separator ++ item ++ closing, by simp [first, second]⟩

private theorem braces_ok {entries : List (Value × Value)}
    (each : ∀ entry ∈ entries, (∃ shown, write entry.1 = .ok shown) ∧
      ∃ shown, write entry.2 = .ok shown) :
    ∃ shown, braces write entries = .ok shown := by
  obtain ⟨parts, written⟩ := pairs_ok each "" ": " ""
  exact ⟨_, by rw [braces, written]; rfl⟩

private theorem bracketed_ok {items : List Value}
    (each : ∀ item ∈ items, ∃ shown, write item = .ok shown) (opening closing : String) :
    ∃ shown, bracketed write opening closing items = .ok shown := by
  obtain ⟨parts, written⟩ := mapM_ok_of_each _ each
  exact ⟨_, by rw [bracketed, written]; rfl⟩

private theorem tupleForm_ok {items : List Value}
    (each : ∀ item ∈ items, ∃ shown, write item = .ok shown) :
    ∃ shown, tupleForm write items = .ok shown := by
  unfold tupleForm
  split
  · exact bracketed_ok each "(" ",)"
  · exact bracketed_ok each "(" ")"

private theorem rangeForm_ok {start stop step : Int}
    (each : ∀ bound ∈ [start, stop, step], (Integer.text? bound).isSome = true) :
    ∃ shown, rangeForm start stop step = .ok shown := by
  refine map_ok_of_ok (fun shown => "range(" ++ listed shown ++ ")")
    (mapM_ok_of_each _ fun bound member => ?_)
  have among : bound ∈ [start, stop, step] := by
    revert member
    split <;> simp +contextual [or_imp]
  obtain ⟨shown, here⟩ := Option.isSome_iff_exists.mp (each bound among)
  exact ⟨shown, by simp [here, writtenOr]⟩

/-- An object that lacks nothing is written whenever all that its form shows is. -/
theorem Object.formWith_ok {object : Object} {self : Ref} (complete : object.isComplete = true)
    (legible : object.isLegible = true)
    (each : ∀ part ∈ object.written self, ∃ shown, write part = .ok shown) :
    ∃ shown, object.formWith self write = .ok shown := by
  have fieldsEach {fields : Fields} (held : ∀ field ∈ fields, field.2 ∈ object.written self) :
      ∀ field ∈ fields, ∃ shown, write field.2 = .ok shown :=
    fun field member => each field.2 (held field member)
  cases object with
  | mapping form entries =>
    cases form with
    | plain => exact braces_ok (each_entry each)
    | ordered =>
      obtain ⟨parts, paired⟩ := pairs_ok (each_entry each) "(" ", " ")"
      by_cases none : entries = []
      · exact ⟨"OrderedDict()", by simp [formWith, none]⟩
      · exact ⟨"OrderedDict([" ++ listed parts ++ "])", by simp [formWith, none, paired]⟩
    | readOnly =>
      obtain ⟨shown, written⟩ := braces_ok (each_entry each)
      exact ⟨"mappingproxy(" ++ shown ++ ")", by simp [formWith, written]⟩
    | custom callable => exact ⟨_, rfl⟩
  | sequence form items =>
    cases form with
    | list => exact bracketed_ok each "[" "]"
    | tuple => exact tupleForm_ok each
    | deque => exact bracketed_ok each "deque([" "])"
    | named typeName labels =>
      exact labelled_ok (fun field member => each field.2 (List.of_mem_zip member).2) typeName
    | custom callable => exact ⟨_, rfl⟩
  | set frozen items =>
    cases frozen <;> cases items with
    | nil => exact ⟨_, rfl⟩
    | cons first rest => exact bracketed_ok each _ _
  | view part items => cases part <;> exact bracketed_ok each _ _
  | derived base => exact each base (by simp [written])
  | record whole =>
    obtain ⟨fields, read, owned⟩ := Record.declaredFields_of_isComplete complete
    obtain ⟨shown, written⟩ := labelled_ok
      (fieldsEach fun field member => List.mem_map_of_mem (owned field member)) whole.typeName
    exact ⟨shown, by simp [formWith, read, written]⟩
  | model whole =>
    exact labelled_ok (fieldsEach fun _ member => List.mem_map_of_mem member) whole.typeName
  | table own =>
    obtain ⟨rules, found⟩ := Option.isSome_iff_exists.mp legible
    obtain ⟨shown, written⟩ := each rules (by simp [written, found])
    exact ⟨"RuleTable(" ++ shown ++ ")", by simp [formWith, found, written]⟩
  | enumeration name values => exact labelled_ok (fieldsEach (by simp [written])) "EnumDefinition"
  | noCheck => exact labelled_ok (by simp) "NoCheck"
  | predicate test => exact labelled_ok (fieldsEach (by simp [written])) "Predicate"
  | rule type check => exact labelled_ok (fieldsEach (by simp [written])) "TypeRule"
  | outcome ok error => exact labelled_ok (fieldsEach (by simp [written])) "CheckResult"
  | container kindName element =>
    exact labelled_ok (fieldsEach (by simp [written])) "ContainerDescriptor"
  | range start stop step =>
    simp only [isLegible, Bool.and_eq_true, List.all_eq_true] at legible
    exact rangeForm_ok legible.1
  | generator items => exact ⟨_, rfl⟩
  | byteArray bytes => exact ⟨_, rfl⟩
  | bare => exact ⟨_, rfl⟩
  | plain whole => exact ⟨_, rfl⟩
  | slotted whole => exact ⟨_, rfl⟩
  | function known => exact ⟨_, rfl⟩
  | enumType type => exact ⟨_, rfl⟩

private theorem labelled_congr {fields : Fields}
    (each : ∀ field ∈ fields, write field.2 = other field.2) (typeName : String) :
    labelled typeName write fields = labelled typeName other fields := by
  unfold labelled
  congr 1
  exact mapM_congr fun field member => by simp only [each field member]

private theorem pairs_congr {entries : List (Value × Value)}
    (each : ∀ entry ∈ entries, write entry.1 = other entry.1 ∧ write entry.2 = other entry.2)
    (opening separator closing : String) :
    pairs write opening separator closing entries =
      pairs other opening separator closing entries := by
  refine mapM_congr fun entry member => ?_
  obtain ⟨key, value⟩ := each entry member
  simp only [key, value]

private theorem braces_congr {entries : List (Value × Value)}
    (each : ∀ entry ∈ entries, write entry.1 = other entry.1 ∧ write entry.2 = other entry.2) :
    braces write entries = braces other entries := by
  rw [braces, pairs_congr each, braces]

private theorem bracketed_congr {items : List Value}
    (each : ∀ item ∈ items, write item = other item) (opening closing : String) :
    bracketed write opening closing items = bracketed other opening closing items := by
  rw [bracketed, mapM_congr each, bracketed]

/-- The form of an object depends on how the values are written that it is made of. -/
theorem Object.formWith_congr {object : Object} {self : Ref}
    (each : ∀ part ∈ object.written self, write part = other part) :
    object.formWith self write = object.formWith self other := by
  have fieldsEach {fields : Fields} (held : ∀ field ∈ fields, field.2 ∈ object.written self) :
      ∀ field ∈ fields, write field.2 = other field.2 :=
    fun field member => each field.2 (held field member)
  cases object with
  | mapping form entries =>
    cases form with
    | plain => exact braces_congr (each_entry each)
    | ordered => simp only [formWith, pairs_congr (each_entry each)]
    | readOnly => simp only [formWith, braces_congr (each_entry each)]
    | custom callable => rfl
  | sequence form items =>
    cases form with
    | list => exact bracketed_congr each "[" "]"
    | tuple =>
      simp only [formWith, tupleForm]
      split <;> exact bracketed_congr each _ _
    | deque => exact bracketed_congr each "deque([" "])"
    | named typeName labels =>
      exact labelled_congr (fieldsEach fun _ member => (List.of_mem_zip member).2) typeName
    | custom callable => rfl
  | set frozen items =>
    simp only [formWith]
    split
    · rfl
    · rfl
    · exact bracketed_congr each _ _
    · exact bracketed_congr each _ _
  | view part items => cases part <;> exact bracketed_congr each _ _
  | derived base => exact each base (by simp [written])
  | record whole =>
    simp only [formWith]
    cases read : whole.declaredFields with
    | error fault => rfl
    | ok fields =>
      exact labelled_congr (fieldsEach fun _ member =>
        List.mem_map_of_mem (Record.mem_of_declaredFields read member)) whole.typeName
  | model whole =>
    exact labelled_congr (fieldsEach fun _ member => List.mem_map_of_mem member) whole.typeName
  | table own =>
    simp only [formWith]
    cases found : own.named? "rules" with
    | none => rfl
    | some rules => simp only [each rules (by simp [written, found])]
  | noCheck | predicate test | enumeration name values | rule type check | outcome ok error
    | container kindName element =>
    exact labelled_congr (fieldsEach (by simp [written])) _
  | _ => rfl

private theorem pairs_foreign (each : ∀ value, Foreign (write value))
    (opening separator closing : String) (entries : List (Value × Value)) :
    Foreign (pairs write opening separator closing entries) := by
  refine .mapM ?_ entries
  rintro ⟨key, value⟩
  exact .bind (each key) fun _ => .bind (each value) fun _ => .ok _

private theorem braces_foreign (each : ∀ value, Foreign (write value))
    (entries : List (Value × Value)) : Foreign (braces write entries) :=
  .bind (pairs_foreign each "" ": " "" entries) fun _ => .ok _

private theorem bracketed_foreign (each : ∀ value, Foreign (write value))
    (opening closing : String) (items : List Value) :
    Foreign (bracketed write opening closing items) :=
  .bind (.mapM each items) fun _ => .ok _

private theorem labelled_foreign (each : ∀ value, Foreign (write value)) (typeName : String)
    (fields : Fields) : Foreign (labelled typeName write fields) := by
  refine .bind (.mapM ?_ fields) fun _ => .ok _
  rintro ⟨name, value⟩
  exact .bind (each value) fun _ => .ok _

theorem writtenOr_foreign (shown? : Option String) : Foreign (writtenOr shown?) := by
  cases shown? with
  | none => exact .error rfl
  | some shown => exact .ok shown

private theorem rangeForm_foreign (start stop step : Int) : Foreign (rangeForm start stop step) :=
  .bind (.mapM (fun _ => writtenOr_foreign _) _) fun _ => .ok _

/-- Writing an object raises no fault of the library's own unless writing a part does. -/
theorem Object.formWith_foreign (each : ∀ value, Foreign (write value)) (self : Ref)
    (object : Object) : Foreign (object.formWith self write) := by
  cases object with
  | mapping form entries =>
    cases form with
    | plain => exact braces_foreign each entries
    | ordered =>
      simp only [formWith]
      split
      · exact .ok _
      · exact .bind (pairs_foreign each "(" ", " ")" entries) fun _ => .ok _
    | readOnly => exact .bind (braces_foreign each entries) fun _ => .ok _
    | custom callable => exact .ok _
  | sequence form items =>
    cases form with
    | list => exact bracketed_foreign each "[" "]" items
    | tuple =>
      simp only [formWith, tupleForm]
      split <;> exact bracketed_foreign each _ _ _
    | deque => exact bracketed_foreign each "deque([" "])" items
    | named typeName labels => exact labelled_foreign each typeName _
    | custom callable => exact .ok _
  | set frozen items =>
    simp only [formWith]
    split
    · exact .ok _
    · exact .ok _
    · exact bracketed_foreign each _ _ _
    · exact bracketed_foreign each _ _ _
  | view part items => cases part <;> exact bracketed_foreign each _ _ items
  | derived base => exact each base
  | record whole =>
    refine .bind (.mapM (fun name => ?_) whole.declared) fun _ => labelled_foreign each _ _
    split
    · exact .ok _
    · exact .error rfl
  | model whole => exact labelled_foreign each whole.typeName (whole.writtenFields self)
  | range start stop step => exact rangeForm_foreign start stop step
  | table own =>
    simp only [formWith]
    split
    · exact .bind (each _) fun _ => .ok _
    · exact .error rfl
  | noCheck | predicate test | enumeration name values | rule type check | outcome ok error
    | container kindName element => exact labelled_foreign each _ _
  | _ => exact .ok _

end

namespace Store

private def typeForm : BuiltinType → String
  | .integer => "<class 'int'>"
  | .text => "<class 'str'>"
  | .boolean => "<class 'bool'>"
  | .object => "<class 'object'>"

/-- The form of a value as an enumerated type writes it whose members belong to a base
other than the plain one: as an integer or as a text, which the value has to be. -/
def baseForm (store : Store) (base : EnumBase) (value : Value) : Except Fault String :=
  match base, store.integer? value, store.string? value with
  | .integer, some number, _ => writtenOr (Integer.text? number)
  | .text, _, some content | .textual, _, some content => .ok (Text.quoted content)
  | _, _, _ => .error .unsuitable

/-- The form of a value nested at most `depth` deep, inside the objects of `opened`. Only the
objects of which something stands inside their own form are kept there. -/
def formWithin (store : Store) : Nat → List Ref → Value → Except Fault String
  | 0, _, _ => .error .tooDeep
  | depth + 1, opened, value =>
    match value with
    | .null => .ok "None"
    | .undefined => .ok "UNDEFINED"
    | .boolean flag => .ok (if flag then "True" else "False")
    | .number number => writtenOr number.form?
    | .text content | .wrapped content => .ok (Text.quoted content)
    | .decimal decimal => .ok ("Decimal('" ++ decimal.text ++ "')")
    | .complex re im => .ok (complexForm re im)
    | .bytes bytes => .ok (Text.quotedBytes bytes false)
    | .builtin type => .ok (typeForm type)
    | .member owner index =>
      match store.member? (.member owner index) with
      | some member => do
        let inner ←
          if member.type.base = .plain then store.formWithin depth opened member.value
          else store.baseForm member.type.base member.value
        return "<" ++ member.type.name ++ "." ++ member.name ++ ": " ++ inner ++ ">"
      | none => .ok "<object>"
    | .object ref =>
      let object := store.read ref
      match object.ellipsis? with
      | some ellipsis =>
        if ref ∈ opened then .ok ellipsis
        else object.formWith ref (store.formWithin depth (ref :: opened))
      | none => object.formWith ref (store.formWithin depth opened)

/-- The values that may have others inside their forms: objects and members. -/
def nodes (store : Store) : List Value :=
  (List.range store.size).flatMap fun address =>
    .object ⟨address⟩ ::
      match store.read ⟨address⟩ with
      | .enumType type => (List.range type.members.length).map (.member ⟨address⟩)
      | _ => []

/-- A depth that no form exceeds unless it has no end. Where nothing stands for an object inside
its own form, the object is written as often as it is reached; between two others that are opened,
each of which is opened once, a form that ends passes each such value at most once. -/
def formDepth (store : Store) : Nat := (store.size + 1) * (store.nodes.length + 1) + 1

def form (store : Store) (value : Value) : Except Fault String :=
  store.formWithin store.formDepth [] value

/-- The text of a value in a message. A text stands for itself, a member for its number,
its text or its name, and an enumeration for its name; other values have their form. -/
def text (store : Store) (value : Value) : Except Fault String :=
  match value with
  | .text content | .wrapped content => .ok content
  | .number number => writtenOr number.text?
  | .decimal decimal => .ok decimal.text
  | .member .. =>
    match store.member? value with
    | some ⟨⟨_, .integer, _, _⟩, _, _, .number number⟩ => writtenOr number.text?
    | some ⟨⟨_, .textual, _, _⟩, _, _, .text content⟩ => .ok content
    | some member => .ok (member.type.name ++ "." ++ member.name)
    | none => .ok "<object>"
  | .object ref =>
    match store.read ref with
    | .enumeration name _ => .ok name
    | .derived (.text content) | .derived (.wrapped content) => .ok content
    | .mapping .readOnly entries =>
      (Object.mapping .plain entries).formWith ref (store.formWithin store.formDepth [ref])
    | .model whole => do
      let parts ← (whole.writtenFields ref).mapM fun (name, value) => do
        return name ++ "=" ++ (← store.form value)
      return String.intercalate " " parts
    | _ => store.form value
  | _ => store.form value

def display (store : Store) (value : Value) : Except Fault String :=
  match value with
  | .null => .ok "null"
  | .undefined => .ok "undefined"
  | .boolean flag => .ok (if flag then "true" else "false")
  | _ => store.text value

end Store

end Conform
