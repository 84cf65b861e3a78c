import Conform.Object

/-! The store of objects. Reading is total, a new object takes the next address, and a
write changes one object only. -/

namespace Conform

inductive ContainerKind where
  | array
  | map
  | set
deriving DecidableEq

namespace ContainerKind

def all : List ContainerKind := [.array, .map, .set]

def name : ContainerKind → String
  | .array => "array"
  | .map => "map"
  | .set => "set"

def memberName : ContainerKind → String
  | .array => "ARRAY"
  | .map => "MAP"
  | .set => "SET"

def index : ContainerKind → Nat
  | .array => 0
  | .map => 1
  | .set => 2

/-- The enumerated type of the container kinds. -/
def type : EnumType where
  name := "ContainerKind"
  base := .text
  members := all.map fun kind => (kind.memberName, .text kind.name)
  aliases := []

end ContainerKind

/-- A store of objects, one for each address in use, and of the attributes attached to
values that have no place for them. What custom functions reply comes with it and never
changes: a reply, or the text of an error of their own. -/
structure Store where
  cells : Array Object
  attached : List (Value × Attributes)
  replies : String → Value → Except String Reply

namespace Store

/-- The object at an address; an address that is not in use holds a bare object. -/
def read (store : Store) (ref : Ref) : Object :=
  store.cells[ref.address]?.getD .bare

def size (store : Store) : Nat := store.cells.size

def next (store : Store) : Ref := ⟨store.cells.size⟩

def alloc (store : Store) (object : Object) : Store :=
  { store with cells := store.cells.push object }

def write (store : Store) (ref : Ref) (object : Object) : Store :=
  { store with cells := store.cells.setIfInBounds ref.address object }

def attributesOf (store : Store) (value : Value) : Attributes :=
  (store.attached.lookup value).getD .empty

def attach (store : Store) (value : Value) (attributes : Attributes) : Store :=
  { store with
    attached := (value, attributes) :: store.attached.filter fun other => other.1 ≠ value }

/-- An address in use. -/
def Holds (store : Store) (ref : Ref) : Prop := ref.address < store.size

def object? (store : Store) : Value → Option Object
  | .object ref => some (store.read ref)
  | _ => none

/-- A store with the objects that every session shares. -/
def initial : Store where
  cells :=
    #[.enumType ContainerKind.type, .outcome (.boolean true) .null, .noCheck, .sequence .tuple []]
  attached := []
  replies := fun _ argument => .ok (.value argument)

theorem read_of_not_holds {store : Store} {ref : Ref} (free : ¬ store.Holds ref) :
    store.read ref = .bare := by
  have missing : store.cells[ref.address]? = none := by simpa [Holds, size] using free
  simp [read, missing]

theorem holds_of_read {store : Store} {ref : Ref} {object : Object} (here : store.read ref = object)
    (known : object ≠ .bare) : store.Holds ref :=
  Classical.byContradiction fun free => known (here.symm.trans (read_of_not_holds free))

theorem read_alloc_next (store : Store) (object : Object) :
    (store.alloc object).read store.next = object := by
  simp [read, alloc, next]

theorem read_alloc_of_holds (store : Store) (object : Object) (ref : Ref)
    (held : store.Holds ref) : (store.alloc object).read ref = store.read ref := by
  have bounded : ref.address < store.cells.size := held
  simp [read, alloc, Array.getElem?_push, Nat.ne_of_lt bounded]

theorem read_attach (store : Store) (value : Value) (attributes : Attributes) (ref : Ref) :
    (store.attach value attributes).read ref = store.read ref := rfl

theorem attributesOf_attach_same (store : Store) (value : Value) (attributes : Attributes) :
    (store.attach value attributes).attributesOf value = attributes := by
  simp [attributesOf, attach]

theorem read_write_same (store : Store) (object : Object) (ref : Ref)
    (held : store.Holds ref) : (store.write ref object).read ref = object := by
  have bounded : ref.address < store.cells.size := held
  simp [read, write, bounded]

theorem read_write_of_ne (store : Store) (object : Object) (written other : Ref)
    (different : written ≠ other) :
    (store.write written object).read other = store.read other := by
  have apart : written.address ≠ other.address := by
    intro same
    exact different (by cases written; cases other; simp_all)
  simp [read, write, apart]

end Store

def ContainerKind.typeRef : Ref := ⟨0⟩

def ContainerKind.toValue (kind : ContainerKind) : Value := .member typeRef kind.index

/-- The outcome that every successful check shares. -/
def Value.success : Value := .object ⟨1⟩

/-- The check that tests nothing. -/
def Value.noCheck : Value := .object ⟨2⟩

/-- The tuple without items, of which there is only one. -/
def Value.emptyTuple : Value := .object ⟨3⟩

end Conform
