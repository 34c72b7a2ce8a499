import AccountRegistry.Store.Concurrent

set_option autoImplicit false

/-!
# Races for user names

Several registrations at once, each in a thread of its own, and what came of
them for each name. A race in which a transform breaks off has no result; the
counts of any other do not depend on the schedule.
-/
namespace AccountRegistry.Race

/-- A registration that took part in a race, and its answer. -/
structure Contender where
  username : String
  secret : String
  answer : Option Answer

def Contender.won (c : Contender) : Bool :=
  match c.answer with
  | some (.registered _) => true
  | _ => false

def Contender.lost (c : Contender) : Bool :=
  match c.answer with
  | some (.refused _) => true
  | _ => false

structure Tally where
  username : String
  wins : Nat
  duplicates : Nat
  winnersAuthenticate : Bool
deriving DecidableEq, Repr

def work (pairs : List (String × String)) : List (List Operation) :=
  pairs.map fun (username, secret) => [.register username secret]

def finish (s : Store) (pairs : List (String × String)) (schedule : List Nat) : Concurrent.State :=
  Concurrent.run (.start s (work pairs)) schedule

def contenders (pairs : List (String × String)) (c : Concurrent.State) : List Contender :=
  pairs.zipWith (fun (username, secret) t => ⟨username, secret, t.answers.head?.join⟩) c.threads

def names (pairs : List (String × String)) : List String :=
  (pairs.foldl (fun (m : Users) (username, _) => m.insert username "") ∅).keys

def tally (s : Store) (cs : List Contender) (username : String) : Tally :=
  let own := cs.filter (·.username == username)
  { username
    wins := (own.filter Contender.won).length
    duplicates := (own.filter Contender.lost).length
    winnersAuthenticate := (own.filter Contender.won).all fun c =>
      (s.authenticate c.username c.secret).answer == some true }

/-- The tallies of a race, one for each name; none if a contender has no answer. -/
def tallies? (s : Store) (pairs : List (String × String)) (cs : List Contender) :
    Option (List Tally) :=
  if cs.all (·.answer.isSome) then some ((names pairs).map (tally s cs)) else none

def run (s : Store) (pairs : List (String × String)) : Option (List Tally) × Store :=
  let last := finish s pairs (Concurrent.inTurn (work pairs))
  (tallies? last.store pairs (contenders pairs last), last.store)

end AccountRegistry.Race
