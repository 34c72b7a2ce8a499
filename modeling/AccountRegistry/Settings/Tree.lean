import AccountRegistry.Settings.Path
import AccountRegistry.Settings.Value

set_option autoImplicit false

/-!
# Trees of settings

The tree into which the layers of settings are merged. A tree is known by what
can be looked up in it, so that settings at different places commute. Giving a
place a value makes the tables and lists on the way to it out of whatever was
there before; it fails only for an index before the start of a list, or too far
from it.
-/
namespace AccountRegistry.Settings

/-- Lists and nulls that were taken over from a file as they are remember its name. The items
of a list at and beyond its length are null. -/
inductive Tree where
  | text (s : String)
  | null (origin : Option String)
  | array (length : Nat) (item : Nat → Tree) (origin : Option String)
  | table (child : String → Option Tree)

namespace Tree

def empty : Tree := .table fun _ => none

def child? (name : String) : Option Tree → Option Tree
  | some (.table child) => child name
  | _ => none

def setChild (name : String) (new : Tree) (old : Option Tree) : Tree :=
  .table fun n => if n = name then some new else child? n old

def elements : Option Tree → Nat × (Nat → Tree) × Option String
  | some (.array length item origin) => (length, item, origin)
  | _ => (0, fun _ => .null none, none)

def setItem (i : Nat) (new : Tree) (old : Option Tree) : Tree :=
  let (length, item, origin) := elements old
  .array (max length (i + 1)) (fun j => if j = i then new else item j) origin

mutual

def ofValue (origin : Option String) : Value → Tree
  | .null => .null origin
  | .scalar s => .text s.asText
  | .array items => .array items.length (itemOf origin items) origin
  | .table entries => .table (childOf origin entries)

def itemOf (origin : Option String) : List Value → Nat → Tree
  | [], _ => .null none
  | v :: _, 0 => ofValue origin v
  | _ :: vs, i + 1 => itemOf origin vs i

def childOf (origin : Option String) : List (String × Value) → String → Option Tree
  | [], _ => none
  | (k, v) :: rest, name => if k = name then some (ofValue origin v) else childOf origin rest name

end

mutual

/-- What a place holds after it was given a value. A table is merged into what is there, entry by
entry, so an empty table leaves it alone; any other value takes its place. -/
def merge (origin : Option String) : Value → Option Tree → Tree
  | .table entries, old => mergeEntries origin entries (old.getD empty)
  | .null, _ => ofValue origin .null
  | .scalar s, _ => ofValue origin (.scalar s)
  | .array items, _ => ofValue origin (.array items)

def mergeEntries (origin : Option String) : List (String × Value) → Tree → Tree
  | [], t => t
  | (k, v) :: rest, t =>
    mergeEntries origin rest (setChild k (merge origin v (child? k (some t))) (some t))

end

/-- The greatest length of a list: ninety-six bytes for each element have to fit into the half of
an address space of sixty-four bits. -/
def maxLength : Nat := (Nat.pow 2 63 - 1) / 96

/-- The position of an index in a list of the given length; negative indices count from its
end. There is none before the start of the list, and none that a list cannot reach. -/
def position? (length : Nat) (index : Int) : Option Nat :=
  if 0 ≤ index then if index.toNat < maxLength then some index.toNat else none
  else if index.natAbs ≤ length then some (length - index.natAbs)
  else none

/-- Gives the place at the end of some steps a value. A list element is replaced by it even if it
is a table. -/
def place? (origin : Option String) (v : Value) : List Step → Option Tree → Option Tree
  | [], old => some (merge origin v old)
  | .child name :: steps, old =>
    (place? origin v steps (child? name old)).map fun t => setChild name t old
  | [.element index], old =>
    (position? (elements old).1 index).map fun i => setItem i (ofValue origin v) old
  | .element index :: steps, old =>
    (position? (elements old).1 index).bind fun i =>
      (place? origin v steps (some ((elements old).2.1 i))).map fun t => setItem i t old

def placeAt? (origin : Option String) (path : Path) (v : Value) (t : Tree) : Option Tree :=
  place? origin v (.child path.leading :: path.steps) (some t)

end Tree

structure Layer where
  origin : Option String
  entries : List (String × Value)

def latest : List (String × Value) → List (String × Value)
  | [] => []
  | e :: rest => if e.1 ∈ rest.map Prod.fst then latest rest else e :: latest rest

def Layer.applied? (l : Layer) (t : Tree) : Option Tree :=
  l.entries.foldlM (fun t (key, v) => t.placeAt? l.origin (Path.ofKey key) v) t

def settle? (layers : List Layer) : Option Tree :=
  layers.foldlM (fun t l => l.applied? t) Tree.empty

end AccountRegistry.Settings
