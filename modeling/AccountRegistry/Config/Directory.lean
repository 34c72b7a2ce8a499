set_option autoImplicit false

/-!
# Where a configuration is looked for

The working directory and the variables of the environment, as far as reading a
configuration can see them.
-/
namespace AccountRegistry

/-- A file that may not be read is a file like the others. -/
inductive DirectoryEntry where
  | folder
  | file (content : ByteArray)
  | unreadable

abbrev Directory := String → Option DirectoryEntry

namespace Directory

def empty : Directory := fun _ => none

def isFile (d : Directory) (name : String) : Bool :=
  match d name with
  | some (.file _) | some .unreadable => true
  | _ => false

def text? (d : Directory) (name : String) : Option String :=
  match d name with
  | some (.file content) => String.fromUTF8? content
  | _ => none

end Directory

/-- Names and values; of names that agree without regard to case the last counts. -/
abbrev Environment := List (String × String)

/-- The variables as the system hands them over, be they text or not. -/
abbrev Block := List (ByteArray × ByteArray)

namespace Block

/-- A name ends at an equals sign, but not at one that it begins with. -/
def split? : List UInt8 → Option (ByteArray × ByteArray)
  | [] => none
  | first :: rest =>
    match rest.span (· ≠ '='.toUInt8) with
    | (_, []) => none
    | (name, _ :: value) => some (⟨(first :: name).toArray⟩, ⟨value.toArray⟩)

def ofBytes (bytes : ByteArray) : Block := (bytes.toList.splitOn 0).filterMap split?

def text? (v : ByteArray × ByteArray) : Option (String × String) := do
  return (← String.fromUTF8? v.1, ← String.fromUTF8? v.2)

def legible (b : Block) : Environment := b.filterMap text?

def variables? (b : Block) : Option Environment := b.mapM text?

end Block
end AccountRegistry
