import Std.Data.ExtTreeMap
import AccountRegistry.Store.Event
import AccountRegistry.Store.Registration
import AccountRegistry.Store.Transform

set_option autoImplicit false

/-!
# Credential stores

A store maps user names to credentials. An operation gives an answer, or none if
the transform broke off in it, with the events that it told the log and the store
after it. Breaking off during a registration poisons a store: it goes on working,
and from then on every access first tells that it recovered.
-/
namespace AccountRegistry
open AccountRegistry.Text

/-- User names in ascending order, each with its credential. -/
abbrev Users := Std.ExtTreeMap String String compare

structure Store where
  transform : Transform
  users : Users
  poisoned : Bool

structure Outcome (α : Type) where
  answer : Option α
  events : List Event
  store : Store

def Outcome.map {α β : Type} (f : α → β) (o : Outcome α) : Outcome β :=
  ⟨o.answer.map f, o.events, o.store⟩

namespace Store

def ofTransform (t : Transform) : Store := ⟨t, ∅, false⟩

def new : Store := ofTransform (.suffix .default)

def ofConfig (c : Config) : Store := ofTransform (.suffix ⟨c.credentialSuffix⟩)

def recovery (s : Store) (access : Access) : List Event :=
  if s.poisoned then [.recovered access] else []

/-- Registers a user unless the name is taken. The secret of a taken name is not looked at. -/
def register (s : Store) (username secret : String) : Outcome (Except RegistryError Registration) :=
  let recovery := s.recovery .write
  if s.users.contains username then
    ⟨some (.error (.duplicateUser username)), recovery ++ [.rejected username], s⟩
  else
    match s.transform secret with
    | none => ⟨none, recovery, { s with poisoned := true }⟩
    | some credential =>
      ⟨some (.ok (.of username)), recovery ++ [.registered username],
        { s with users := s.users.insert username credential }⟩

def authenticate (s : Store) (username secret : String) : Outcome Bool :=
  let recovery := s.recovery .read
  match s.users[username]? with
  | none => ⟨some false, recovery ++ [.authenticated username false], s⟩
  | some stored =>
    match s.transform secret with
    | none => ⟨none, recovery, s⟩
    | some credential =>
      let accepted := stored == credential
      ⟨some accepted, recovery ++ [.authenticated username accepted], s⟩

def looking {α : Type} (s : Store) (f : Users → α) : Outcome α :=
  ⟨some (f s.users), s.recovery .read, s⟩

def isRegistered (s : Store) (username : String) : Outcome Bool := s.looking (·.contains username)

def usernames (s : Store) : Outcome (List String) := s.looking (·.keys)

def size (s : Store) : Outcome Nat := s.looking (·.size)

def isEmpty (s : Store) : Outcome Bool := s.looking (·.isEmpty)

def snapshot (s : Store) : Outcome Users := s.looking id

def descriptionOf (count : Nat) : String :=
  "CredentialStore \x7b users: " ++ Digits.decimal count ++ ", .. \x7d"

def tallDescriptionOf (count : Nat) : String :=
  "CredentialStore \x7b\n    users: " ++ Digits.decimal count ++ ",\n    ..\n\x7d"

def description (s : Store) : Outcome String := s.looking fun users => descriptionOf users.size

def tallDescription (s : Store) : Outcome String :=
  s.looking fun users => tallDescriptionOf users.size

end Store

def Users.description (users : Users) : String :=
  "\x7b" ++ ", ".intercalate (users.toList.map fun (u, c) => quote u ++ ": " ++ quote c) ++ "\x7d"

end AccountRegistry
