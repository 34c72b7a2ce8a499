import AccountRegistry.Calendar.DateTime
import AccountRegistry.Number.Positional

set_option autoImplicit false

/-!
# Values of a settings file

What a settings file in any of the formats says: texts, truth values, numbers,
dates, lists and tables. Every scalar has a text; lists, tables and null do not.
-/
namespace AccountRegistry.Settings
open AccountRegistry.Text AccountRegistry.Number AccountRegistry.Calendar

inductive Scalar where
  | text (s : String)
  | flag (b : Bool)
  | whole (n : Int)
  | real (x : Binary64)
  | moment (d : DateTime)
deriving DecidableEq, Repr

def Scalar.asText : Scalar → String
  | .text s => s
  | .flag b => if b then "true" else "false"
  | .whole n => String.ofList (Digits.writeInt n)
  | .real x => x.text
  | .moment d => d.text

/-- A table lists its entries in the order of the file. -/
inductive Value where
  | null
  | scalar (s : Scalar)
  | array (items : List Value)
  | table (entries : List (String × Value))
deriving Repr

def Value.ofString (s : String) : Value := .scalar (.text s)

end AccountRegistry.Settings
