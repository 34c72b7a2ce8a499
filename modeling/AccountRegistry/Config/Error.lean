import AccountRegistry.Text.Quoted

set_option autoImplicit false

/-!
# Configuration errors

Why a configuration is refused, and how each cause is worded. Reading refuses for
what does not parse, what is no text and what is not valid; the other errors are
those of whoever reports one as a failure of the program.
-/
namespace AccountRegistry
open AccountRegistry.Text

inductive Found where
  | map
  | sequence
  | unit
deriving DecidableEq, Repr

def Found.text : Found → String
  | .map => "map"
  | .sequence => "sequence"
  | .unit => "unit value"

inductive ConfigError where
  | frozen
  | notFound (key : String)
  | fileParse (cause : String) (uri : Option String)
  | invalidType (found : Found) (key : String) (origin : Option String)
  | message (text : String)
  | foreign (text : String)
deriving DecidableEq, Repr

namespace ConfigError

def within : Option String → String
  | none => ""
  | some origin => " in " ++ origin

def text : ConfigError → String
  | .frozen => "configuration is frozen"
  | .notFound key => "configuration property " ++ quote key ++ " not found"
  | .fileParse cause uri => cause ++ within uri
  | .invalidType found key origin =>
    "invalid type: " ++ found.text ++ ", expected a string for key `" ++ key ++ "`" ++ within origin
  | .message text | .foreign text => text

end ConfigError
end AccountRegistry
