import AccountRegistry.Config.Reading
import AccountRegistry.Failure
import AccountRegistry.Log.Filter
import AccountRegistry.Store.Operation

set_option autoImplicit false

/-!
# The demo

The program as a whole: it loads the configuration, registers and authenticates
the demo user, lets several tasks try to register the same name again, and shows
the users. The tasks run at the same time, so what it writes is a function of the
schedule in which they get their turns and their results are awaited. Left out are
the start of the runtime, whose threads may not be had, and the variable
RUST_LOG_STYLE, which can give the log colours.
-/
namespace AccountRegistry.Demo
open AccountRegistry.Text
open AccountRegistry.Log (Record Filter)

def contenders : Nat := 4

def target : String := "user_registry"

def info (message : String) : Record := ⟨.info, target, message⟩

def error (message : String) : Record := ⟨.error, target, message⟩

inductive Turn where
  | contend (task : Nat)
  | await
deriving DecidableEq, Repr

/-- What a task has come to: a result, or none if the transform broke off in it. -/
abbrev TaskResult := Option (Except RegistryError Registration)

/-- Tasks are awaited in order; a task without a result has not had its turn. -/
structure Contest where
  store : Store
  results : List (Option TaskResult)
  awaited : Nat
  rejected : Nat
  records : List Record

namespace Contest

def start (s : Store) : Contest := ⟨s, List.replicate contenders none, 0, 0, []⟩

def secretOf (task : Nat) : String := "retry" ++ Digits.decimal task

def contend (username : String) (task : Nat) (c : Contest) : Contest :=
  match c.results[task]? with
  | some none =>
    let o := c.store.register username (secretOf task)
    { c with
      store := o.store
      results := c.results.set task (some o.answer)
      records := c.records ++ o.events.map Event.record }
  | _ => c

def report : TaskResult → Record
  | some (.error e) => e.record
  | some (.ok r) => error ("Unexpected registration of " ++ r.username)
  | none => error "Registration task failed: the task broke off"

def isRejection : TaskResult → Bool
  | some (.error _) => true
  | _ => false

def await (c : Contest) : Contest :=
  match c.results[c.awaited]? with
  | some (some result) =>
    { c with
      awaited := c.awaited + 1
      rejected := c.rejected + if isRejection result then 1 else 0
      records := c.records ++ [report result] }
  | _ => c

def turn (username : String) (c : Contest) : Turn → Contest
  | .contend task => c.contend username task
  | .await => c.await

def remaining : List Turn :=
  (List.range contenders).map .contend ++ List.replicate contenders .await

def finish (username : String) (s : Store) (schedule : List Turn) : Contest :=
  (schedule ++ remaining).foldl (turn username) (start s)

end Contest

structure Report where
  exit : Nat
  output : List String
  records : List Record
deriving DecidableEq, Repr

def registrationLine : Except RegistryError Registration → String
  | .ok r => "Registration successful: " ++ if r.registered then "true" else "false"
  | .error e => "Registration failed: " ++ e.text

def lineOf {α : Type} (line : α → String) (o : Outcome α) : List String :=
  (o.answer.map line).toList

def authenticationLine (accepted : Bool) : String :=
  "Authentication successful: " ++ if accepted then "true" else "false"

def rejectionLine (rejected : Nat) : String :=
  "Duplicate registrations rejected: " ++ Digits.decimal rejected ++ "/" ++ Digits.decimal contenders

def usersLine (users : Users) : String := "Current users: " ++ users.description

def runWith (c : Config) (schedule : List Turn) : Report :=
  let registered := (Store.ofConfig c).register c.demoUsername c.demoSecret
  let authenticated := registered.store.authenticate c.demoUsername c.demoSecret
  let contest := Contest.finish c.demoUsername authenticated.store schedule
  let shown := contest.store.snapshot
  { exit := 0
    output := lineOf registrationLine registered ++ lineOf authenticationLine authenticated ++
      [rejectionLine contest.rejected] ++ lineOf usersLine shown
    records := (registered.events ++ authenticated.events).map Event.record ++ contest.records ++
      shown.events.map Event.record }

def launching : Record := info "Launching user registry demo..."

def fallingBack : Record := info "Falling back to default configuration"

def abortCode : Nat := 101

/-- The program from the point at which loading has come to something, be it what it may. -/
def runOn (loaded : Except Config.Fault Config) (schedule : List Turn) : Report :=
  match loaded with
  | .ok c =>
    let r := runWith c schedule
    { r with records := launching :: r.records }
  | .error (.refused e) =>
    let r := runWith .default schedule
    { r with records := launching :: (Failure.config e).record :: fallingBack :: r.records }
  | .error .aborted => ⟨abortCode, [], [launching]⟩

def run [Config.Parsers] (d : Directory) (env : Environment) (schedule : List Turn) : Report :=
  runOn (Config.load d env) schedule

def filterVariable : String := "RUST_LOG"

def filterOf (env : Environment) : Filter.Reading :=
  Filter.parse ((env.lookup filterVariable).getD Log.defaultFilter)

def Report.logLines (r : Report) (env : Environment) : List String :=
  linesOf ((filterOf env).written r.records)

end AccountRegistry.Demo
