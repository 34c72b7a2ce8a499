import AccountRegistry.Settings.Value

set_option autoImplicit false

/-!
# Items of TOML

What a TOML text assigns to its keys, before anybody looks at it. Assignments
with keys of several parts are gathered in tables; whether a key is given twice,
and whether a date is one, shows only when an item is taken for a value.
-/
namespace AccountRegistry.Toml
open AccountRegistry.Calendar
open AccountRegistry.Settings (Scalar Value)

/-- A table made by keys is open to further keys; one in curly brackets is not. -/
inductive Item where
  | scalar (s : Scalar)
  | moment (text : List Char)
  | array (items : List Item)
  | table (isOpen : Bool) (entries : List (String × Item))

abbrev Items := List (String × Item)

def adjust? {α : Type} (key : String) (f : Option α → Option α) :
    List (String × α) → Option (List (String × α))
  | [] => (f none).map fun a => [(key, a)]
  | (k, a) :: rest =>
    if k = key then (f (some a)).map fun a => (k, a) :: rest
    else (adjust? key f rest).map ((k, a) :: ·)

def Items.add? (item : Item) : List String → Items → Option Items
  | [], _ => none
  | [key], entries => some (entries ++ [(key, item)])
  | key :: next :: keys, entries => entries |> adjust? key fun
    | none => (add? item (next :: keys) []).map (.table true)
    | some (.table true inner) => (add? item (next :: keys) inner).map (.table true)
    | some _ => none

def Items.ofAssignments? (assignments : List (List String × Item)) : Option Items :=
  assignments.foldlM (fun entries (key, item) => Items.add? item key entries) []

/-- A table that starts with this key is the date which that entry spells out. -/
def momentKey : String := "$__toml_private_datetime"

def momentValue? (text : List Char) : Option Value :=
  (DateTime.read? text).map fun d => .scalar (.moment d)

def Item.spelledMoment? : Item → Option Value
  | .scalar (.text s) => momentValue? s.toList
  | _ => none

def hasKey {α : Type} (key : String) (entries : List (String × α)) : Bool :=
  entries.any (·.1 = key)

mutual

def Item.value? : Item → Option Value
  | .scalar s => some (.scalar s)
  | .moment text => momentValue? text
  | .array items => (valuesOf? items).map .array
  | .table _ entries =>
    match entries with
    | [] => some (.table [])
    | (key, first) :: _ =>
      if key = momentKey then first.spelledMoment? else (entriesOf? entries).map .table

def valuesOf? : List Item → Option (List Value)
  | [] => some []
  | item :: items => do
    let v ← item.value?
    return v :: (← valuesOf? items)

def entriesOf? : List (String × Item) → Option (List (String × Value))
  | [] => some []
  | (key, item) :: rest => do
    let v ← item.value?
    let vs ← entriesOf? rest
    if hasKey key vs then none else some ((key, v) :: vs)

end

end AccountRegistry.Toml
