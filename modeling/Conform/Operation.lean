import Conform.Term

namespace Conform

/-- An operation with its arguments as terms. -/
inductive Operation where
  | kind (value : Term)
  | isAbsent (value : Term)
  | display (value : Term)
  | hasFields (value : Term)
  | undefinedTraits
  | lineage (name : String)
  | exportedNames
  | withoutMark (descriptor : Term)
  | container (descriptor : Term)
  | containerKind (name : Term)
  | check (source : Term)
  | call (check value : Term)
  | enumeration (source : Term)
  | isMember (value source : Term)
  | judgeMember (value source : Term)
  | demandMember (value source : Term)
  | field (value name : Term)
  | ownFields (value : Term)
  | entries (value : Term)
  | copy (value : Term)
  | rule (name rule : Term)
  | judge (value descriptor check : Term)
  | judgeEntries (value descriptor check : Term)
  | judgeField (name value rule : Term)
  | judgeFields (value rules : Term)
  | demand (demand : Demand) (value message : Term)
  | demandValue (value descriptor check message : Term)
  | demandEntries (value descriptor check message : Term)
  | demandFields (value rules message : Term)
  | assemble (source guard creator : Term)
  | failure (text : Term)
  | outcomeAt (value place : Term)
  | unwrap (value message : Term)
  | outcomeParts (value : Term)
  | truth (value : Term)
  | form (value : Term)
  | text (value : Term)
  | contains (target value : Term)
  | tableNames (table : Term)
  | tableRule (table name : Term)
  | judgeByTable (table value : Term)
  | judgeFieldByTable (table name value : Term)
  | validate (table value message : Term)
  | value (value : Term)
  | same (left right : Term)
  | equal (left right : Term)
  | item (target key : Term)
  | attributeOf (target name : Term)
  | setItem (target key value : Term)
  | dropItem (target key : Term)
  | append (target value : Term)
  | setAttribute (target name value : Term)
  | dropAttribute (target name : Term)

/-- What an operation answers: a value, or a copy that may be the copied value itself. -/
inductive Answer where
  | value (value : Value)
  | copy (value : Value) (itself : Bool)

end Conform
