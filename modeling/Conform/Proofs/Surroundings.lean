import Conform.Session
import Conform.Proofs.Demands

namespace Conform

namespace Store

variable {store : Store}

section Converting

theorem integerInBase_foreign (value base : Value) : Foreign (store.integerInBase value base) := by
  unfold integerInBase
  split
  · exact .error rfl
  · rename_i radix _
    split
    · exact .error rfl
    · split
      · rename_i content _
        cases Integer.ofText? radix.toNat content with
        | none => exact .error rfl
        | some known => exact .ok known
      · rename_i bytes _ _
        cases Integer.ofBytes? radix.toNat bytes with
        | none => exact .error rfl
        | some known => exact .ok known
      · exact .error rfl

theorem integerOfAll_foreign (arguments : List Value) : Foreign (store.integerOfAll arguments) := by
  unfold integerOfAll
  split
  · exact .ok 0
  · exact integerOf_foreign _
  · exact integerInBase_foreign _ _
  · exact .error rfl

theorem decoded_foreign (value name : Value) : Foreign (store.decoded value name) := by
  unfold decoded
  split
  · split
    · exact .error rfl
    · split
      · exact .ok _
      · exact .error rfl
  · exact .error rfl

theorem textOfAll_foreign (arguments : List Value) : Foreign (store.textOfAll arguments) := by
  unfold textOfAll
  split
  · exact .ok ""
  · exact text_foreign _
  · exact decoded_foreign _ _
  · split
    · exact decoded_foreign _ _
    · exact .error rfl
  · exact .error rfl

/-- Arguments that have to be strings are refused as unsuitable, once they have been written. -/
theorem stringOfAll_foreign (arguments : List Value) : Foreign (store.stringOfAll arguments) := by
  have string (value : Value) : Foreign (do
      if (store.string? value).isSome then return ()
      let _ ← store.form value
      throw .unsuitable) := by
    split
    · exact .ok ()
    · exact .bind (form_foreign value) fun _ => .error rfl
  unfold stringOfAll
  split
  · exact .bind (.forM string _) fun _ => textOfAll_foreign _
  · exact .bind (.forM string _) fun _ => textOfAll_foreign _
  · exact .bind (string _) fun _ => textOfAll_foreign _
  · exact .bind (string _) fun _ => .bind (string _) fun _ => textOfAll_foreign _
  · exact .bind (.forM (fun value => .bind (form_foreign value) fun _ => .ok ()) _) fun _ =>
      .error rfl

theorem baseConversion_foreign (base : EnumBase) (value : Value) :
    Foreign (store.baseConversion base value) := by
  cases base with
  | plain => exact .ok value
  | integer => exact .map (integerOfAll_foreign _) _
  | text => exact .map (textOfAll_foreign _) _
  | textual => exact .map (stringOfAll_foreign _) _

end Converting

section Making

theorem memberFields_foreign (typeName : String) (declared written : Fields) :
    Foreign (store.memberFields typeName declared written) := by
  induction written generalizing declared with
  | nil =>
    simp only [memberFields]
    split
    · exact .error rfl
    · exact .ok declared
  | cons member rest inductionHypothesis =>
    simp only [memberFields]
    split
    · exact .error rfl
    · exact inductionHypothesis declared
    · split
      · exact .bind (form_foreign _) fun _ => .error rfl
      · exact inductionHypothesis _

theorem withMembers_foreign (type : EnumType) (written : Fields) :
    Foreign (store.withMembers type written) := by
  induction written generalizing type with
  | nil => exact .ok type
  | cons member rest inductionHypothesis =>
    refine .bind (baseConversion_foreign type.base member.2) fun converted => ?_
    refine .bind (memberWith_foreign converted type.members) fun found => ?_
    cases found with
    | none => exact inductionHypothesis _
    | some index => exact inductionHypothesis _

theorem enumTypeOf_foreign (name : String) (base : EnumBase) (written : Fields) :
    Foreign (store.enumTypeOf name base written) :=
  .bind (memberFields_foreign name [] written) fun _ => withMembers_foreign _ _

theorem memberNamed_foreign (owner : Value) (name : String) :
    Foreign (store.memberNamed owner name) := by
  unfold memberNamed
  split
  · split
    · exact .ok _
    · exact .error rfl
  · exact .error rfl

theorem entriesOf_foreign (written : List (Value × Value)) : Foreign (store.entriesOf written) :=
  .bind (.forM (fun entry => requireHashable_foreign entry.1) written) fun _ => .ok _

theorem elementsOf_foreign (written : List Value) : Foreign (store.elementsOf written) :=
  .bind (.forM requireHashable_foreign written) fun _ => .ok _

theorem floatOf_foreign (mark : Nat) (written : String) : Foreign (floatOf mark written) := by
  unfold floatOf
  split
  · exact .ok _
  · exact .error rfl

theorem bytesOf_foreign (written : String) : Foreign (bytesOf written) := by
  unfold bytesOf
  split
  · exact .ok _
  · exact .error rfl

theorem decimalOf_foreign (mark : Nat) (written : String) : Foreign (decimalOf mark written) := by
  unfold decimalOf
  split
  · exact .ok _
  · exact .error rfl

theorem fractionOf_foreign (dividend divisor : Int) : Foreign (fractionOf dividend divisor) := by
  unfold fractionOf
  split
  · exact .error rfl
  · exact .ok _

theorem rangeOf_foreign (start stop step : Int) : Foreign (rangeOf start stop step) := by
  unfold rangeOf
  split
  · exact .error rfl
  · exact .ok _

theorem slottedOf_foreign (typeName : String) (slots : List String) (own inherited : Fields) :
    Foreign (slottedOf typeName slots own inherited) := by
  unfold slottedOf
  split
  · exact .error rfl
  · split
    · exact .error rfl
    · exact .ok _

theorem withoutAll_foreign (fields : Fields) (names : List String) :
    Foreign (withoutAll fields names) := by
  induction names generalizing fields with
  | nil => exact .ok fields
  | cons name rest inductionHypothesis =>
    simp only [withoutAll]
    split
    · exact inductionHypothesis _
    · exact .error rfl

theorem recordOf_foreign (typeName : String) (declared extra : Fields) (deleted : List String)
    (callable : Bool) : Foreign (store.recordOf typeName declared extra deleted callable) :=
  .bind (withoutAll_foreign _ deleted) fun _ => .ok _

end Making

section Finding

theorem place_foreign (length : Nat) (index : Int) : Foreign (place length index) := by
  have counted (number : Int) : Foreign
      (if 0 ≤ number ∧ number < length then .ok number.toNat else .error .outOfRange) := by
    split
    · exact .ok _
    · exact .error rfl
  exact counted _

theorem item_foreign (target key : Value) : Foreign (store.item target key) := by
  unfold item
  split
  · refine .bind (requireHashable_foreign key) fun _ => ?_
    split
    · exact .ok _
    · exact .error rfl
  · split
    · exact .bind (place_foreign _ _) fun _ => .ok _
    · exact .error rfl
  · exact .error rfl

theorem matching_foreign (left right : Value) : Foreign (store.matching left right) := by
  unfold matching
  split
  · exact .ok true
  · exact equal_foreign left right

/-- By induction on the depth, which is spent on each table inside a table. -/
theorem holdsWithin_foreign (depth : Nat) (target value : Value) :
    Foreign (store.holdsWithin depth target value) := by
  induction depth generalizing target with
  | zero => exact .error rfl
  | succ depth inductionHypothesis =>
    have among (values : List Value) :
        Foreign (values.anyM fun other => store.matching other value) :=
      .anyM (fun other => matching_foreign other value) values
    simp only [holdsWithin]
    split
    · exact holdsText_foreign _ _
    · exact holdsBytes_foreign store _ value
    · exact .bind (requireHashable_foreign value) fun _ => .ok _
    · split
      · exact holdsText_foreign _ _
      · split
        · exact among _
        · exact among _
        · exact among _
        · exact holdsNumber_foreign store _ value
        · exact holdsElement_foreign matching_foreign _ value
        · exact holdsElement_foreign matching_foreign _ value
        · split
          · exact .ok _
          · exact .error rfl
        · exact .ok _
        · exact among _
        · exact holdsField_faults store (pairwise_foreign matching_foreign) _ value
        · split
          · exact inductionHypothesis _
          · exact .error rfl
        · exact .error rfl
      · exact .error rfl

theorem holds_foreign (target value : Value) : Foreign (store.holds target value) :=
  holdsWithin_foreign _ target value

theorem contents_foreign (value : Value) : Foreign (store.contents value) := by
  unfold contents
  split
  · exact .ok _
  · exact .ok _
  · exact .ok _
  · exact .ok _
  · exact .ok _
  · exact .ok _
  · split
    · exact .ok _
    · exact .error rfl

theorem attributeNamed_foreign (value name : Value) :
    Foreign (store.attributeNamed value name) := by
  unfold attributeNamed
  split
  · exact attributeOf_foreign value _
  · exact .error rfl

theorem requiredAttribute_foreign (value name : Value) :
    Foreign (store.requiredAttribute value name) := by
  refine .bind (attributeNamed_foreign value name) fun found => ?_
  cases found with
  | some attributeValue => exact .ok attributeValue
  | none => exact .error rfl

/-- All entries of a reading that a fault of another's may end. -/
theorem all_foreign {entries : Entries}
    (broken : ∀ fault, entries.fault? = some fault → fault.isOwn = false) :
    Foreign entries.all := by
  unfold Entries.all
  split
  · exact .ok _
  · rename_i fault ended
    exact .error (broken fault ended)

theorem tableRules_foreign (table : Value) : Foreign (store.tableRules table) := by
  unfold tableRules
  split
  · split
    · exact .ok _
    · exact .error rfl
  · exact .error rfl

theorem outcomeParts_foreign (value : Value) : Foreign (store.outcomeParts value) := by
  unfold outcomeParts
  split
  · exact .ok _
  · exact .error rfl

end Finding

section Copying

theorem objectCopy_foreign (object : Object) : Foreign (store.objectCopy object) := by
  unfold objectCopy
  split <;> first | exact .ok _ | exact .error rfl

theorem copied_foreign (value : Value) : Foreign (store.copied value) := by
  unfold copied
  split
  · exact objectCopy_foreign _
  · exact .ok _
  · exact .ok _

end Copying

section Changing

theorem byteOf_foreign (value : Value) : Foreign (store.byteOf value) := by
  unfold byteOf
  split
  · split
    · exact .ok _
    · exact .error rfl
  · exact .error rfl

theorem indexOf_foreign (key : Value) : Foreign (store.indexOf key) := by
  unfold indexOf
  split
  · split
    · exact .ok _
    · exact .error rfl
  · exact .error rfl

theorem itemFault_isOwn (countsPlaces : Bool) (key : Value) :
    (store.itemFault countsPlaces key).isOwn = false := by
  unfold itemFault
  split
  · rename_i fault beyond
    split
    · exact indexOf_foreign key fault beyond
    · rfl
  · rfl

theorem withItem_foreign (object : Object) (key value : Value) :
    Foreign (store.withItem object key value) := by
  unfold withItem
  split
  · split
    · exact .bind (requireHashable_foreign key) fun _ => .ok _
    · exact .error (itemFault_isOwn true key)
  · split
    · exact .bind (indexOf_foreign key) fun _ => .bind (place_foreign _ _) fun _ => .ok _
    · exact .error (itemFault_isOwn true key)
  · exact .bind (indexOf_foreign key) fun _ => .bind (byteOf_foreign value) fun _ =>
      .bind (place_foreign _ _) fun _ => .ok _
  · exact .error (itemFault_isOwn _ key)

theorem withoutItem_foreign (object : Object) (key : Value) :
    Foreign (store.withoutItem object key) := by
  unfold withoutItem
  split
  · split
    · refine .bind (requireHashable_foreign key) fun _ => ?_
      split
      · exact .ok _
      · exact .error rfl
    · exact .error (itemFault_isOwn true key)
  · split
    · exact .bind (indexOf_foreign key) fun _ => .bind (place_foreign _ _) fun _ => .ok _
    · exact .error (itemFault_isOwn true key)
  · exact .bind (indexOf_foreign key) fun _ => .bind (place_foreign _ _) fun _ => .ok _
  · exact .error (itemFault_isOwn _ key)

theorem withAppended_foreign (object : Object) (value : Value) :
    Foreign (store.withAppended object value) := by
  unfold withAppended
  split
  · split
    · exact .ok _
    · exact .error rfl
  · exact .bind (byteOf_foreign value) fun _ => .ok _
  · exact .error rfl

theorem attributeName_foreign (name : Value) : Foreign (store.attributeName name) := by
  unfold attributeName
  split
  · exact .ok _
  · exact .error rfl

private theorem frozen_foreign (object : Object) :
    Foreign (.error (if object.frozen?.isSome then .frozen else .noAttribute) :
      Except Fault Object) := by
  split
  · exact .error rfl
  · exact .error rfl

theorem withAttribute_foreign (object : Object) (name : String) (spelling value : Value) :
    Foreign (withAttribute object name spelling value) := by
  unfold withAttribute
  split
  · split
    · exact .error rfl
    · exact .ok _
  · split
    · exact .ok _
    · exact .error rfl
  · exact .ok _
  · split
    · exact .ok _
    · split
      · exact .ok _
      · split
        · exact .ok _
        · exact .error rfl
  · split
    · exact .error rfl
    · exact .ok _
  · split
    · exact .ok _
    · exact .error rfl
  · exact frozen_foreign _

theorem withoutAttribute_foreign (object : Object) (name : String) :
    Foreign (withoutAttribute object name) := by
  have without (own : Fields) (rebuild : Fields → Object) : Foreign
      (if (own.named? name).isSome then .ok (rebuild (own.without name))
      else .error .noAttribute) := by
    split
    · exact .ok _
    · exact .error rfl
  cases object with
  | plain whole =>
    simp only [withoutAttribute]
    split
    · exact .ok _
    · exact .error rfl
  | slotted whole => exact without whole.own fun own => .slotted { whole with own }
  | record whole => exact without whole.own fun own => .record { whole with own }
  | model whole =>
    simp only [withoutAttribute]
    split
    · exact .ok _
    · split
      · exact .ok _
      · exact without whole.extra fun extra => .model { whole with extra }
  | table own =>
    simp only [withoutAttribute]
    split
    · exact .ok _
    · exact .error rfl
  | _ => exact frozen_foreign _

end Changing

theorem undefinedTraits_foreign : Foreign (undefinedTraits store) :=
  .bind (truth_foreign _) fun _ => .bind (form_foreign _) fun _ => .bind (copied_foreign _)
    fun _ => .ok _

end Store

end Conform
