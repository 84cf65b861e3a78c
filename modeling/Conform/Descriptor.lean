import Conform.Form
import Conform.Run

namespace Conform

/-- A descriptor: its characters, how messages show it, and whether it is a wrapped text.
Only a member of an enumerated type is shown otherwise than by its characters. -/
structure Descriptor where
  content : String
  shown : String
  wrapped : Bool
deriving DecidableEq

/-- A container descriptor: the characters before its first opening bracket and those up
to the first closing bracket after it. -/
structure Container where
  kindName : String
  element : String
  wrapped : Bool
deriving DecidableEq

def optionalMark : Char := '?'

namespace Descriptor

/-- A descriptor shown by its characters. -/
def ofContent (content : String) (wrapped : Bool) : Descriptor := ⟨content, content, wrapped⟩

def toValue (descriptor : Descriptor) : Value :=
  if descriptor.wrapped then .wrapped descriptor.content else .text descriptor.content

/-- A descriptor without its last character when that is the optional mark, and whether
it was. -/
def withoutMark (descriptor : Descriptor) : Descriptor × Bool :=
  match descriptor.content.toList.reverse with
  | last :: rest =>
    if last = optionalMark then
      (ofContent (String.ofList rest.reverse) descriptor.wrapped, true)
    else (descriptor, false)
  | [] => (descriptor, false)

end Descriptor

namespace ContainerKind

/-- The kind with a name in any letter case. No character beyond ASCII has a lower case
among the letters of these names. -/
def ofName? (name : String) : Option ContainerKind :=
  all.find? fun kind => kind.name.toList = name.toList.map Char.toLower

end ContainerKind

namespace Container

/-- The two parts of `kind<element>`, of which characters after the closing bracket are
no part. A text without an opening bracket names no container. -/
def split? (chars : List Char) : Except DescriptorFlaw (Option (List Char × List Char)) :=
  match chars.dropWhile (· ≠ '<') with
  | [] => .ok none
  | _ :: inner =>
    let kindName := chars.takeWhile (· ≠ '<')
    let element := inner.takeWhile (· ≠ '>')
    if '>' ∉ inner then .error .unclosed
    else if kindName = [] then .error .missingKind
    else if element = [] then .error .missingElement
    else if '<' ∈ element then .error .nested
    else .ok (some (kindName, element))

/-- The container kind that a descriptor names, if it names one. -/
def kind? (container : Container) : Option ContainerKind :=
  ContainerKind.ofName? container.kindName

/-- The written form of a container descriptor. -/
def content (container : Container) : String :=
  container.kindName ++ "<" ++ container.element ++ ">"

def elementDescriptor (container : Container) : Descriptor :=
  .ofContent container.element container.wrapped

def toObject (container : Container) : Object :=
  .container (Descriptor.ofContent container.kindName container.wrapped).toValue
    container.elementDescriptor.toValue

end Container

namespace Descriptor

/-- Reads a container descriptor. Brackets that are left open or nested are worth a
warning. -/
def container? (descriptor : Descriptor) : Run (Option Container) := do
  let shown := descriptor.shown
  match Container.split? descriptor.content.toList with
  | .ok none => return none
  | .ok (some (kindChars, elementChars)) =>
    let container : Container :=
      ⟨String.ofList kindChars, String.ofList elementChars, descriptor.wrapped⟩
    Run.debug .descriptor ("Parsed container descriptor '" ++ shown ++ "': " ++ container.content)
    return some container
  | .error flaw =>
    match flaw with
    | .unclosed =>
      Run.write .warning .descriptor ("Descriptor '" ++ shown ++ "' has no closing '>'")
    | .nested =>
      Run.write .warning .descriptor ("Nested container descriptor rejected: '" ++ shown ++ "'")
    | .missingKind | .missingElement => pure ()
    Run.fail (.malformedDescriptor flaw shown)

end Descriptor

namespace Store

/-- The fault of a value that is used as a descriptor and is no text. -/
def notDescriptor (store : Store) (value : Value) : Fault :=
  match value with
  | .bytes _ | .builtin .text => .unsuitable
  | _ =>
    match store.object? value with
    | some (.byteArray _) => .unsuitable
    | some (.enumType type) =>
      if type.base = .text ∨ type.base = .textual then .unsuitable else .noAttribute
    | _ => .noAttribute

def descriptor (store : Store) (value : Value) : Except Fault Descriptor :=
  match store.base value with
  | .text content => do return ⟨content, ← store.text value, false⟩
  | .wrapped content => .ok (.ofContent content true)
  | _ => .error (store.notDescriptor value)

/-- The container kind that a text names. Bytes name none. -/
def containerKind? (store : Store) (value : Value) : Except Fault (Option ContainerKind) :=
  match store.content? value, store.bytes? value with
  | some content, _ => .ok (ContainerKind.ofName? content)
  | none, some _ => .ok none
  | none, none => .error (store.notDescriptor value)

end Store

end Conform
