import AccountRegistry.Log.Record
import AccountRegistry.Text.Quoted

set_option autoImplicit false

/-!
# Registrations

What registering a user gives: a registration, or the error that the name is
taken already.
-/
namespace AccountRegistry
open AccountRegistry.Text

structure Registration where
  registered : Bool
  username : String
deriving DecidableEq, Repr

namespace Registration

def of (username : String) : Registration := ⟨true, username⟩

def description (r : Registration) : String :=
  describe "RegistrationResult"
    [("registered", if r.registered then "true" else "false"), ("username", quote r.username)]

end Registration

inductive RegistryError where
  | duplicateUser (username : String)
deriving DecidableEq, Repr

namespace RegistryError

def text : RegistryError → String
  | .duplicateUser username => "User already exists: " ++ username

def description : RegistryError → String
  | .duplicateUser username => "DuplicateUser(" ++ quote username ++ ")"

end RegistryError
end AccountRegistry
