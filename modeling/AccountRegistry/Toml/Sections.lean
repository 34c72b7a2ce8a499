import AccountRegistry.Toml.Item

set_option autoImplicit false

/-!
# Sections of TOML

A header opens a table, or adds one to a list of tables, for the assignments
below it. How a table came to be decides what may still be added to it: one that
was only implied by a longer header may have a header of its own, and what an
assignment made is closed to headers.
-/
namespace AccountRegistry.Toml
open AccountRegistry.Settings (Value)

structure Section where
  repeated : Bool
  key : List String
  items : Items

/-- A place in a document under construction. The elements of a list of tables are in order; a
further one goes to its end. -/
inductive Node where
  | leaf (v : Value)
  | table (headed : Bool) (entries : List (String × Node))
  | tables (elements : List Node)

abbrev Nodes := List (String × Node)

def Node.ofItems? (items : Items) : Option Node :=
  match (Item.table false items).value? with
  | some (.table entries) => some (.table true (entries.map fun (k, v) => (k, .leaf v)))
  | some v => some (.leaf v)
  | none => none

def Nodes.fill? (items : Items) (nodes : Nodes) : Option Node := do
  let entries ← entriesOf? items
  if entries.any fun (k, _) => hasKey k nodes then none
  else some (.table true (nodes ++ entries.map fun (k, v) => (k, .leaf v)))

/-- Opens the table at the end of a header's key and fills it. A header that leads through a list
of tables goes on in the last of them. No header is the first entry of a table that would make
it a date. -/
def Nodes.open? (repeated : Bool) (items : Items) : List String → Nodes → Option Nodes
  | [], _ => none
  | [key], nodes =>
    if nodes.isEmpty ∧ key = momentKey then none
    else nodes |> adjust? key fun
      | none => (Node.ofItems? items).map fun t => if repeated then .tables [t] else t
      | some (.table false inner) => if repeated then none else Nodes.fill? items inner
      | some (.tables elements) =>
        if repeated then (Node.ofItems? items).map fun t => .tables (elements ++ [t]) else none
      | some _ => none
  | key :: next :: keys, nodes =>
    if nodes.isEmpty ∧ key = momentKey then none
    else nodes |> adjust? key fun
      | none => (open? repeated items (next :: keys) []).map (.table false)
      | some (.table headed inner) =>
        (open? repeated items (next :: keys) inner).map (.table headed)
      | some (.tables elements) =>
        match elements.getLast? with
        | some (.table headed inner) =>
          (open? repeated items (next :: keys) inner).map fun t =>
            .tables (elements.dropLast ++ [.table headed t])
        | _ => none
      | some (.leaf _) => none

mutual

def Node.value : Node → Value
  | .leaf v => v
  | .table _ entries => .table (entriesValue entries)
  | .tables elements => .array (elementsValue elements)

def entriesValue : List (String × Node) → List (String × Value)
  | [] => []
  | (k, n) :: rest => (k, n.value) :: entriesValue rest

def elementsValue : List Node → List Value
  | [] => []
  | n :: rest => n.value :: elementsValue rest

end

/-- The value of a document: the items before its first header, then its sections in order.
If those items make it a date, its sections are not looked at. -/
def documentValue? (items : Items) (sections : List Section) : Option Value := do
  match ← Node.ofItems? items with
  | .table _ nodes =>
    let nodes ← sections.foldlM (fun nodes s => Nodes.open? s.repeated s.items s.key nodes) nodes
    return .table (entriesValue nodes)
  | n => return n.value

end AccountRegistry.Toml
