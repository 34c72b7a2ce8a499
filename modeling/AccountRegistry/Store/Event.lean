import AccountRegistry.Log.Record

set_option autoImplicit false

/-!
# Events of a store

What a store tells its log, and how each event is worded.
-/
namespace AccountRegistry
open AccountRegistry.Log (Level Record)

/-- Writing excludes every other access, reading excludes writing only. -/
inductive Access where
  | read
  | write
deriving DecidableEq, Repr

def Access.verb : Access → String
  | .read => "read"
  | .write => "write"

inductive Event where
  | recovered (access : Access)
  | registered (username : String)
  | rejected (username : String)
  | authenticated (username : String) (accepted : Bool)
deriving DecidableEq, Repr

namespace Event

def access : Event → Access
  | .recovered access => access
  | .registered _ => .write
  | .rejected _ => .write
  | .authenticated _ _ => .read

def level : Event → Level
  | .recovered _ => .warn
  | _ => .debug

def message : Event → String
  | .recovered access => "Credential store lock was poisoned, recovering for " ++ access.verb
  | .registered username => "Registered user: " ++ username
  | .rejected username => "Registration rejected, user already exists: " ++ username
  | .authenticated username accepted =>
    "Authentication for " ++ username ++ ": " ++ if accepted then "accepted" else "rejected"

def target : String := "user_registry::auth::store"

def record (e : Event) : Record := ⟨e.level, target, e.message⟩

end Event
end AccountRegistry
