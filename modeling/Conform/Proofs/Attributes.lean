import Conform.Proofs.Contents

namespace Conform

namespace Store

variable {store : Store} {value name : Value} {content : String}

theorem mem_memberEntries_of_namedMember? {owner : Ref} {type : EnumType} {name : String}
    (found : namedMember? owner type name = some value) :
    value ∈ (memberEntries owner type).map Prod.snd := by
  obtain ⟨index, place, rfl⟩ := Option.map_eq_some_iff.mp found
  refine List.mem_map.mpr ⟨(.text name, .member owner index), ?_, rfl⟩
  cases first : type.members.findIdx? fun member => member.1 = name with
  | some earliest =>
    rw [first] at place
    obtain rfl : earliest = index := Option.some.inj place
    obtain ⟨inside, same, _⟩ := List.findIdx?_eq_some_iff_getElem.mp first
    refine List.mem_append_left _ (List.mem_map.mpr ⟨(type.members[earliest], earliest), ?_, ?_⟩)
    · exact List.mk_mem_zipIdx_iff_getElem?.mpr (List.getElem?_eq_getElem inside)
    · simpa using same
  | none =>
    rw [first] at place
    obtain ⟨before, after, split, _⟩ := List.lookup_eq_some_iff.mp place
    exact List.mem_append_right _ (List.mem_map.mpr ⟨(name, index), by simp [split], rfl⟩)

theorem Sound.namedMember {ref : Ref} {type : EnumType} {name : String}
    (sound : store.Sound (.object ref)) (here : store.read ref = .enumType type)
    (found : namedMember? ref type name = some value) : store.Sound value := by
  refine sound.part (List.mem_append_left _ (List.mem_append_left _ (List.mem_append_right _ ?_)))
  simpa only [membersAt, here] using mem_memberEntries_of_namedMember? found

theorem attributes_eq_attributesOf (noMember : store.member? value = none) :
    store.attributes value = store.attributesOf value := by
  unfold Store.attributes
  simp [noMember]

theorem Sound.kind {ref : Ref} {kindName element : Value} (sound : store.Sound (.object ref))
    (here : store.read ref = .container kindName element) (kind : ContainerKind) :
    store.Sound kind.toValue := by
  refine sound.part (List.mem_append_left _ (List.mem_append_left _ (List.mem_append_right _ ?_)))
  have listed : kind ∈ ContainerKind.all := by cases kind <;> decide
  simpa only [membersAt, here] using List.mem_map_of_mem listed

theorem kind_or_null_of_kindAttribute {kindName : Value}
    (found : store.kindAttribute kindName = .ok (some value)) :
    value = .null ∨ ∃ kind : ContainerKind, value = kind.toValue := by
  unfold kindAttribute at found
  split at found
  · rename_i known _
    cases found
    cases known with
    | none => exact Or.inl rfl
    | some kind => exact Or.inr ⟨kind, rfl⟩
  · simp at found
  · simp at found

/-- An attribute of an object is a part of it, a text, or a member of the object itself or of the
container kinds. -/
theorem Sound.objectAttribute {ref : Ref} {name : String} (sound : store.Sound (.object ref))
    (found : store.objectAttribute ref (store.read ref) name = .ok (some value)) :
    store.Sound value := by
  have inside (part : value ∈ (store.read ref).parts) : store.Sound value :=
    sound.object_part rfl part
  have named {fields : Fields} (found : fields.named? name = some value) :
      value ∈ fields.map Prod.snd := List.mem_map_of_mem (Fields.mem_of_named? found)
  cases here : store.read ref with
  | plain whole =>
    simp only [here, Store.objectAttribute] at found inside
    split at found
    · simp at found
    · simp at found
    · rcases Option.or_eq_some_iff.mp (Except.ok.inj found) with own | ⟨_, inherited⟩
      · exact inside (List.mem_append_left _ (Attributes.mem_parts_of_named? own))
      · exact inside (List.mem_append_right _ (named inherited))
  | slotted whole =>
    simp only [here, Store.objectAttribute] at found inside
    rcases Option.or_eq_some_iff.mp (Except.ok.inj found) with own | ⟨_, inherited⟩
    · exact inside (List.mem_append_left _ (named own))
    · exact inside (List.mem_append_right _ (named inherited))
  | record whole =>
    simp only [here, Store.objectAttribute] at found inside
    exact inside (named (Except.ok.inj found))
  | model whole =>
    simp only [here, Store.objectAttribute] at found inside
    rcases Option.or_eq_some_iff.mp (Except.ok.inj found) with shown | ⟨_, extra⟩
    · refine inside (List.mem_append_left _ ?_)
      rcases Option.or_eq_some_iff.mp shown with own | ⟨_, hidden⟩
      · exact List.mem_append_left _ (named own)
      · exact List.mem_append_right _ (named hidden)
    · exact inside (List.mem_append_right _ (named extra))
  | sequence form items =>
    simp only [here, Store.objectAttribute] at found inside
    cases form with
    | named typeName labels =>
      simp only at found
      exact inside (List.of_mem_zip (Fields.mem_of_named? (Except.ok.inj found))).2
    | _ => simp [Object.frozen?] at found
  | derived base =>
    simp only [here, Store.objectAttribute] at found
    have content := Fields.mem_of_named? (Except.ok.inj found)
    cases base with
    | wrapped text =>
      obtain ⟨_, rfl⟩ := Prod.mk.inj (List.mem_singleton.mp content)
      exact sound_text text
    | _ => simp [Value.contentFields] at content
  | enumType type =>
    simp only [here, Store.objectAttribute] at found
    exact sound.namedMember here (Except.ok.inj found)
  | table own =>
    simp only [here, Store.objectAttribute] at found inside
    exact inside (Attributes.mem_parts_of_named? (Except.ok.inj found))
  | container kindName element =>
    simp only [here, Store.objectAttribute] at found inside
    split at found
    · rcases kind_or_null_of_kindAttribute found with rfl | ⟨kind, rfl⟩
      · exact sound_null
      · exact sound.kind here kind
    · have part := Fields.mem_of_named? (Except.ok.inj found)
      simp only [List.mem_cons, Prod.mk.injEq, List.not_mem_nil, or_false] at part
      rcases part with ⟨_, rfl⟩ | ⟨_, rfl⟩ <;> exact inside (by simp [Object.parts])
  | _ =>
    simp only [here, Store.objectAttribute] at found
    split at found
    · rename_i typeName fields listed
      exact each_frozen sound_text (fun _ part => sound.object_part (congrArg some here) part) listed _
        (Fields.mem_of_named? (Except.ok.inj found))
    · simp at found

theorem Sound.attached {name : String} {result : Value} (sound : store.Sound value)
    (readable : store.hasFields value = true) (noMember : store.member? value = none)
    (found : (store.attributesOf value).named? name = some result) : store.Sound result := by
  rw [← attributes_eq_attributesOf noMember] at found
  exact sound.part (mem_parts_of_attributes readable (Attributes.mem_parts_of_named? found))

theorem read_owner_of_member? {owner : Ref} {index : Nat} {member : MemberOf}
    (known : store.member? (.member owner index) = some member) :
    store.read owner = .enumType member.type := by
  simp only [member?] at known
  split at known
  · rename_i type here
    obtain ⟨field, _, rfl⟩ := Option.map_eq_some_iff.mp known
    exact here
  · simp at known

/-- An attribute of a member is one of its own, or another member of its type. -/
theorem Sound.memberAttribute {owner : Ref} {index : Nat} {name : String} {result : Value}
    (sound : store.Sound (.member owner index))
    (readable : store.hasFields (.member owner index) = true)
    (found : store.memberAttribute? owner index name = some result) : store.Sound result := by
  have own {name : String}
      (found : (store.attributes (.member owner index)).named? name = some result) :
      store.Sound result :=
    sound.part (mem_parts_of_attributes readable (Attributes.mem_parts_of_named? found))
  unfold memberAttribute? at found
  split at found
  · exact own found
  · split at found
    · exact own found
    · rcases Option.or_eq_some_iff.mp found with here | ⟨_, other⟩
      · exact own here
      · obtain ⟨member, known, named⟩ := Option.bind_eq_some_iff.mp other
        have type := read_owner_of_member? known
        have owned : store.Sound (.object owner) :=
          sound.part (List.mem_append_left _ (List.mem_append_left _ (by simp)))
        exact owned.namedMember type named

theorem Sound.attributeOf {name : String} {result : Value} (sound : store.Sound value)
    (readable : store.hasFields value = true)
    (found : store.attributeOf value name = .ok (some result)) : store.Sound result := by
  have attached (noMember : store.member? value = none)
      (found : (store.attributesOf value).named? name = some result) : store.Sound result :=
    sound.attached readable noMember found
  cases value with
  | object ref =>
    simp only [Store.attributeOf] at found
    cases own : store.objectAttribute ref (store.read ref) name with
    | error fault => simp [own] at found
    | ok here? =>
      simp only [own, ok_bind, pure_eq_ok, Except.ok.injEq] at found
      rcases Option.or_eq_some_iff.mp found with here | ⟨_, besides⟩
      · exact sound.objectAttribute (here ▸ own)
      · exact attached rfl besides
  | member owner index => exact sound.memberAttribute readable (Except.ok.inj found)
  | complex re im =>
    have part := Fields.mem_of_named? (Except.ok.inj found)
    simp only [List.mem_cons, Prod.mk.injEq, List.not_mem_nil, or_false] at part
    rcases part with ⟨_, rfl⟩ | ⟨_, rfl⟩ <;> exact sound_number rfl
  | wrapped content =>
    rcases Option.or_eq_some_iff.mp (Except.ok.inj found) with own | ⟨_, besides⟩
    · obtain ⟨_, rfl⟩ := Prod.mk.inj (List.mem_singleton.mp (Fields.mem_of_named? own))
      exact sound_text content
    · exact attached rfl besides
  | _ => exact attached rfl (Except.ok.inj found)

theorem attributeOf_of_attributeNamed {name : Value} {result? : Option Value}
    (found : store.attributeNamed value name = .ok result?) :
    ∃ content, store.attributeOf value content = .ok result? := by
  unfold attributeNamed at found
  split at found
  · rename_i content string
    exact ⟨content, found⟩
  · simp at found

/-- A field of what is no mapping is an attribute, or undefined. -/
theorem attributeNamed_of_field {name result : Value} (noMapping : store.mapping? value = none)
    (found : store.field value name = .ok result) :
    ∃ resolved result?, store.attributeNamed value resolved = .ok result? ∧
      result?.getD .undefined = result := by
  have read {resolved : Value}
      (found : (do return (← store.attributeNamed value resolved).getD .undefined) =
        Except.ok (ε := Fault) result) :
      ∃ resolved result?, store.attributeNamed value resolved = .ok result? ∧
        result?.getD .undefined = result := by
    obtain ⟨result?, here, known⟩ := ok_of_bind_ok found
    exact ⟨resolved, result?, here, Except.ok.inj known⟩
  simp only [Store.field, noMapping] at found
  split at found
  · obtain ⟨_, _, rest⟩ := ok_of_bind_ok found
    exact read rest
  · exact read found

/-- What a value without gaps holds under a name has no gaps either. -/
theorem Sound.field {name result : Value} (sound : store.Sound value)
    (readable : store.hasFields value = true) (found : store.field value name = .ok result) :
    store.Sound result := by
  cases mapping : store.mapping? value with
  | some entries =>
    simp only [Store.field, mapping] at found
    obtain ⟨_, _, known⟩ := ok_of_bind_ok found
    cases held : store.find? entries name with
    | none =>
      obtain rfl : Value.undefined = result := by simpa [held] using known
      exact sound_undefined
    | some value =>
      obtain ⟨entry, member, rfl⟩ := mem_of_find? held
      obtain rfl : entry.2 = result := by simpa [held] using known
      exact (sound.mapping mapping entry member).2
  | none =>
    obtain ⟨resolved, result?, here, rfl⟩ := attributeNamed_of_field mapping found
    obtain ⟨content, read⟩ := attributeOf_of_attributeNamed here
    cases result? with
    | none => exact sound_undefined
    | some value => exact sound.attributeOf readable read

end Store

end Conform
