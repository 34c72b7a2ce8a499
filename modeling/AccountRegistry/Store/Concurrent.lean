import AccountRegistry.Store.Operation

set_option autoImplicit false

/-!
# Stores shared between threads

Threads work through lists of operations on one store. An operation is a series
of small steps: it takes the lock, tells whether it recovered, looks the user up,
derives a credential, inserts or compares it, tells what it did and gives the
lock back. Threads may alternate at every step. Of the lock nothing is assumed
but that a writer excludes everyone else, and that a derivation which breaks off
poisons the store if it happened under the lock of a writer.
-/
namespace AccountRegistry.Concurrent

/-- How far an operation has come: it holds the lock, has told whether it recovered, knows the
credential that is stored, has derived one of its own, knows its answer, has told what it did. In a
phase that is broken, deriving has failed. -/
inductive Phase where
  | entered
  | checked
  | found (stored : Option String)
  | derived (stored : Option String) (credential : String)
  | answered (answer : Answer)
  | told (answer : Answer)
  | broken

inductive Activity where
  | idle
  | running (op : Operation) (phase : Phase)

/-- The answers of a thread are in the order of its operations. -/
structure Thread where
  activity : Activity
  pending : List Operation
  answers : List (Option Answer)

def Thread.start (ops : List Operation) : Thread := ⟨.idle, ops, []⟩

def Thread.done (t : Thread) : Bool :=
  match t.activity with
  | .idle => t.pending.isEmpty
  | .running _ _ => false

structure Lock where
  readers : Nat
  writing : Bool
deriving DecidableEq, Repr

namespace Lock

def free : Lock := ⟨0, false⟩

def take? (l : Lock) : Access → Option Lock
  | .read => if l.writing then none else some { l with readers := l.readers + 1 }
  | .write => if l.writing || l.readers ≠ 0 then none else some { l with writing := true }

def give (l : Lock) : Access → Lock
  | .read => { l with readers := l.readers - 1 }
  | .write => { l with writing := false }

end Lock

/-- A shared store; every event is kept with the number of the thread that told it. -/
structure State where
  store : Store
  lock : Lock
  threads : List Thread
  events : List (Nat × Event)

def State.start (s : Store) (work : List (List Operation)) : State :=
  ⟨s, .free, work.map .start, []⟩

/-- What one step does: the next phase, or the answer when the lock is given back. -/
inductive Move where
  | next (phase : Phase) (events : List Event) (store : Store)
  | leave (answer : Option Answer) (store : Store)

def lookUp (s : Store) : Operation → Phase
  | .register username _ | .authenticate username _ => .found s.users[username]?
  | .isRegistered username => .answered (.verdict (s.users.contains username))
  | .usernames => .answered (.names s.users.keys)
  | .size => .answered (.count s.users.size)
  | .isEmpty => .answered (.verdict s.users.isEmpty)
  | .snapshot => .answered (.copy s.users)
  | .description => .answered (.text (Store.descriptionOf s.users.size))

def derive (s : Store) (stored : Option String) : Operation → Phase
  | .register username secret =>
    match stored, s.transform secret with
    | some _, _ => .answered (.refused (.duplicateUser username))
    | none, some credential => .derived stored credential
    | none, none => .broken
  | .authenticate _ secret =>
    match stored, s.transform secret with
    | none, _ => .answered (.verdict false)
    | some _, some credential => .derived stored credential
    | some _, none => .broken
  | _ => .broken

def conclude (s : Store) (stored : Option String) (credential : String) :
    Operation → Answer × Store
  | .register username _ =>
    (.registered (.of username), { s with users := s.users.insert username credential })
  | _ => (.verdict (stored == some credential), s)

def telling : Operation → Answer → List Event
  | .register username _, .registered _ => [.registered username]
  | .register username _, _ => [.rejected username]
  | .authenticate username _, .verdict accepted => [.authenticated username accepted]
  | _, _ => []

def move (s : Store) (op : Operation) : Phase → Move
  | .entered => .next .checked (s.recovery op.access) s
  | .checked => .next (lookUp s op) [] s
  | .found stored => .next (derive s stored op) [] s
  | .derived stored credential =>
    let (answer, s) := conclude s stored credential op
    .next (.answered answer) [] s
  | .answered answer => .next (.told answer) (telling op answer) s
  | .told answer => .leave (some answer) s
  | .broken => .leave none
    (match op.access with
    | .write => { s with poisoned := true }
    | .read => s)

def step? (c : State) (i : Nat) : Option State := do
  let t ← c.threads[i]?
  match t.activity with
  | .idle =>
    match t.pending with
    | [] => none
    | op :: ops =>
      let lock ← c.lock.take? op.access
      return { c with lock, threads := c.threads.set i ⟨.running op .entered, ops, t.answers⟩ }
  | .running op phase =>
    match move c.store op phase with
    | .next phase events store =>
      return { c with
        store
        threads := c.threads.set i { t with activity := .running op phase }
        events := c.events ++ events.map (i, ·) }
    | .leave answer store =>
      return { c with
        store
        lock := c.lock.give op.access
        threads := c.threads.set i ⟨.idle, t.pending, t.answers ++ [answer]⟩ }

/-- Lets threads take steps in the given order; a thread that cannot is passed over. -/
def run (c : State) (schedule : List Nat) : State :=
  schedule.foldl (fun c i => (step? c i).getD c) c

def State.done (c : State) : Bool := c.threads.all Thread.done

def stepsPerOperation : Nat := 7

def inTurn (work : List (List Operation)) : List Nat :=
  work.zipIdx.flatMap fun (ops, i) => List.replicate (stepsPerOperation * ops.length) i

end AccountRegistry.Concurrent
