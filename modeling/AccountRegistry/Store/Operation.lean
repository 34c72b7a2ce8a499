import AccountRegistry.Store.Basic

set_option autoImplicit false

/-!
# Operations as data

One request to a store with its arguments, the answers to all of them in one
type, and runs of several operations one after the other.
-/
namespace AccountRegistry

inductive Operation where
  | register (username secret : String)
  | authenticate (username secret : String)
  | isRegistered (username : String)
  | usernames
  | size
  | isEmpty
  | snapshot
  | description
deriving DecidableEq, Repr

inductive Answer where
  | registered (r : Registration)
  | refused (e : RegistryError)
  | verdict (b : Bool)
  | names (l : List String)
  | count (n : Nat)
  | copy (users : Users)
  | text (s : String)

def Answer.ofRegistration : Except RegistryError Registration → Answer
  | .ok r => .registered r
  | .error e => .refused e

def Operation.access : Operation → Access
  | .register _ _ => .write
  | _ => .read

namespace Store

def perform (s : Store) : Operation → Outcome Answer
  | .register username secret => (s.register username secret).map .ofRegistration
  | .authenticate username secret => (s.authenticate username secret).map .verdict
  | .isRegistered username => (s.isRegistered username).map .verdict
  | .usernames => s.usernames.map .names
  | .size => s.size.map .count
  | .isEmpty => s.isEmpty.map .verdict
  | .snapshot => s.snapshot.map .copy
  | .description => s.description.map .text

/-- Performs operations in turn; one in which the transform breaks off does not stop the run. -/
def performAll (s : Store) : List Operation → List (Outcome Answer)
  | [] => []
  | op :: ops =>
    let o := s.perform op
    o :: o.store.performAll ops

def after (s : Store) (ops : List Operation) : Store :=
  ops.foldl (fun s op => (s.perform op).store) s

/-- Registers users one after the other until the transform breaks off, and counts those that
were accepted. -/
def registerAll (s : Store) : List (String × String) → Option Nat × Store
  | [] => (some 0, s)
  | (username, secret) :: rest =>
    let o := s.register username secret
    match o.answer with
    | none => (none, o.store)
    | some (.ok _) =>
      let (count, last) := o.store.registerAll rest
      (count.map (· + 1), last)
    | some (.error _) => o.store.registerAll rest

end Store
end AccountRegistry
