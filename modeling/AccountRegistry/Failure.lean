import AccountRegistry.Config.Error
import AccountRegistry.Log.Record
import AccountRegistry.Store.Registration

set_option autoImplicit false

/-!
# Failures

The errors of the configuration and of a store in one type, and the records that
report them.
-/
namespace AccountRegistry
open AccountRegistry.Log (Record)

inductive Failure where
  | config (error : ConfigError)
  | registry (error : RegistryError)
deriving DecidableEq, Repr

def reportTarget : String := "user_registry::error::handlers"

namespace Failure

def source : Failure → String
  | .config e => e.text
  | .registry e => e.text

def text : Failure → String
  | .config e => "Configuration error: " ++ e.text
  | .registry e => "Registry error: " ++ e.text

def record (f : Failure) : Record := ⟨.error, reportTarget, "User registry error: " ++ f.text⟩

end Failure

def RegistryError.record : RegistryError → Record
  | .duplicateUser username =>
    ⟨.warn, reportTarget, "Registration rejected for '" ++ username ++ "': " ++
      (RegistryError.duplicateUser username).text⟩

end AccountRegistry
