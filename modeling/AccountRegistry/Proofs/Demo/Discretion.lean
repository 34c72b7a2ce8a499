import AccountRegistry.Proofs.Demo.Outcome

set_option autoImplicit false

/-!
# What the log of the demo keeps to itself

The log tells the name of the demo user, but neither its secret nor the suffix of
its credential: a contest for a name that is taken goes the same way whatever
store has it. What the store tells of its refusals depends on the turns the tasks
take; where the filter drops that, the log is the same for every schedule.
-/
namespace AccountRegistry.Demo
open AccountRegistry.Text
open AccountRegistry.Log (Record Filter)

namespace Contest

section Stores
variable {username : String} {s s' : Store} {c : Contest}

def on (s : Store) (c : Contest) : Contest := { c with store := s }

theorem turn_on (h : Refusing username s c)
    (taken : ∃ stored : String, s'.users[username]? = some stored)
    (unpoisoned : s'.poisoned = false) (t : Turn) :
    (c.on s').turn username t = (c.turn username t).on s' := by
  cases t with
  | await =>
    simp only [turn, await, on]
    split <;> rfl
  | contend task =>
    obtain ⟨stored, hstored⟩ := h.taken
    obtain ⟨stored', hstored'⟩ := taken
    simp only [turn, contend, on, h.store, Store.register_of_taken hstored,
      Store.register_of_taken hstored', Store.recovery, h.unpoisoned, unpoisoned]
    split <;> rfl

theorem run_on (h : Refusing username s c)
    (taken : ∃ stored : String, s'.users[username]? = some stored)
    (unpoisoned : s'.poisoned = false) (schedule : List Turn) :
    schedule.foldl (turn username) (c.on s') = (schedule.foldl (turn username) c).on s' := by
  induction schedule generalizing c with
  | nil => rfl
  | cons t schedule ih =>
    rw [List.foldl_cons, List.foldl_cons, turn_on h taken unpoisoned, ih (h.turn t)]

theorem records_finish (taken : ∃ stored : String, s.users[username]? = some stored)
    (unpoisoned : s.poisoned = false)
    (taken' : ∃ stored : String, s'.users[username]? = some stored)
    (unpoisoned' : s'.poisoned = false) (schedule : List Turn) :
    (finish username s' schedule).records = (finish username s schedule).records := by
  have hrun : finish username s' schedule = (finish username s schedule).on s' :=
    run_on (refusing_start taken unpoisoned) taken' unpoisoned' (schedule ++ remaining)
  rw [hrun]
  rfl

end Stores

/-- Records without what a store tells of its refusals. -/
def reports (username : String) (records : List Record) : List Record :=
  records.filter (· ≠ (Event.rejected username).record)

theorem reports_append (username : String) (xs ys : List Record) :
    reports username (xs ++ ys) = reports username xs ++ reports username ys :=
  List.filter_append ..

section Reports
variable {username : String} {s : Store} {c : Contest}

def Reported (username : String) (c : Contest) : Prop :=
  reports username c.records =
    List.replicate c.awaited (RegistryError.duplicateUser username).record

theorem Reported.turn (h : Refusing username s c) (hr : Reported username c) (t : Turn) :
    Reported username (c.turn username t) := by
  cases t with
  | contend task =>
    obtain ⟨stored, hstored⟩ := h.taken
    rw [Contest.turn, contend]
    split
    · rw [Reported, h.store, Store.register_of_taken hstored, Store.recovery, h.unpoisoned,
        reports_append, hr]
      simp [reports]
    · exact hr
  | await =>
    rw [Contest.turn, await]
    split
    · next result hresult =>
      obtain rfl := h.results result (List.mem_of_getElem? hresult)
      rw [Reported, reports_append, hr, List.replicate_succ']
      rfl
    · exact hr

theorem Reported.run (h : Refusing username s c) (hr : Reported username c)
    (schedule : List Turn) : Reported username (schedule.foldl (Contest.turn username) c) := by
  induction schedule generalizing c with
  | nil => exact hr
  | cons t schedule ih => exact ih (h.turn t) (hr.turn h t)

theorem reports_finish (taken : ∃ stored : String, s.users[username]? = some stored)
    (unpoisoned : s.poisoned = false) (schedule : List Turn) :
    reports username (finish username s schedule).records =
      List.replicate contenders (RegistryError.duplicateUser username).record := by
  obtain ⟨hrefusing, hcount⟩ := finish_refusing taken unpoisoned schedule
  have hreported : Reported username (finish username s schedule) :=
    Reported.run (refusing_start taken unpoisoned) rfl _
  rw [hreported, ← hrefusing.rejected, hcount]

end Reports

end Contest

theorem runWith_records (c : Config) (schedule : List Turn) : (runWith c schedule).records =
    (Event.registered c.demoUsername).record :: (Event.authenticated c.demoUsername true).record ::
      (Contest.finish c.demoUsername (held c) schedule).records := by
  obtain ⟨hrefusing, -⟩ := Contest.finish_refusing ⟨_, users_held c⟩ rfl schedule
  have hshown : (held c).snapshot.events = [] := rfl
  simp only [runWith, register_demo, authenticate_demo, hrefusing.store, hshown, List.map_nil,
    List.append_nil]
  rfl

theorem run_of_load [Config.Parsers] {d : Directory} {env : Environment} {c : Config}
    (hload : Config.load d env = .ok c) (schedule : List Turn) :
    run d env schedule =
      { runWith c schedule with records := launching :: (runWith c schedule).records } := by
  unfold run
  rw [hload]
  rfl

/-- The filter lets nothing pass that a store tells in the course of its work. -/
def DropsStoreDebug (f : Filter) : Prop :=
  ∀ message, f.admits ⟨.debug, Event.target, message⟩ = false

theorem filter_reports {f : Filter} (hf : DropsStoreDebug f) (username : String)
    (records : List Record) :
    (Contest.reports username records).filter f.admits = records.filter f.admits := by
  rw [Contest.reports, List.filter_filter]
  refine List.filter_congr fun r _ => ?_
  by_cases hr : r = (Event.rejected username).record
  · have hdrop : f.admits (Event.rejected username).record = false := hf _
    simp [hr, hdrop]
  · simp [hr]

theorem logLines_eq_of_filter {env env' : Environment} {r r' : Report}
    (hfilter : env'.lookup filterVariable = env.lookup filterVariable)
    (hrecords : r'.records.filter (filterOf env).filter.admits =
      r.records.filter (filterOf env).filter.admits) : r'.logLines env' = r.logLines env := by
  have hreading : filterOf env' = filterOf env := by
    rw [filterOf, hfilter]
    rfl
  rw [Report.logLines, Report.logLines, hreading, Filter.Reading.written, Filter.Reading.written,
    Filter.written, Filter.written, hrecords]

section Runs
variable [Config.Parsers] {d d' : Directory} {env env' : Environment} {c c' : Config}

theorem records_run (hload : Config.load d env = .ok c) (schedule : List Turn) :
    (run d env schedule).records = launching :: (Event.registered c.demoUsername).record ::
      (Event.authenticated c.demoUsername true).record ::
        (Contest.finish c.demoUsername (held c) schedule).records := by
  rw [run_of_load hload, ← runWith_records]

/-- What is left of the records without what the store tells of refusals is the same for every
schedule. -/
theorem reports_run (hload : Config.load d env = .ok c) (schedule : List Turn) :
    Contest.reports c.demoUsername (run d env schedule).records =
      Contest.reports c.demoUsername [launching, (Event.registered c.demoUsername).record,
        (Event.authenticated c.demoUsername true).record] ++
      List.replicate contenders (RegistryError.duplicateUser c.demoUsername).record := by
  rw [records_run hload, ← Contest.reports_finish ⟨_, users_held c⟩ rfl schedule,
    ← Contest.reports_append]
  rfl

/-- Two runs for one demo user that may differ in its secret and the suffix write the same log and,
but for the last line, the same output. Under a filter that drops what the store tells, the log
does not depend on their schedules either. -/
theorem log_tells_name_only (hfilter : env'.lookup filterVariable = env.lookup filterVariable)
    (hload : Config.load d env = .ok c) (hload' : Config.load d' env' = .ok c')
    (hname : c'.demoUsername = c.demoUsername) :
    (∀ schedule, (run d' env' schedule).logLines env' = (run d env schedule).logLines env ∧
      ∃ first last last', (run d env schedule).output = first ++ [last] ∧
        (run d' env' schedule).output = first ++ [last']) ∧
    (DropsStoreDebug (filterOf env).filter → ∀ schedule schedule',
      (run d' env' schedule').logLines env' = (run d env schedule).logLines env) := by
  have taken : ∃ stored : String, (held c).users[c.demoUsername]? = some stored :=
    ⟨_, users_held c⟩
  have taken' : ∃ stored : String, (held c').users[c.demoUsername]? = some stored :=
    ⟨_, hname ▸ users_held c'⟩
  refine ⟨fun schedule => ⟨?_, ?_⟩, fun hdrops schedule schedule' => ?_⟩
  · refine logLines_eq_of_filter hfilter (congrArg (List.filter _) ?_)
    rw [records_run hload, records_run hload', hname,
      Contest.records_finish taken rfl taken' rfl]
  · rw [run_of_load hload, run_of_load hload', runWith_output, runWith_output]
    exact ⟨["Registration successful: true", "Authentication successful: true",
      "Duplicate registrations rejected: 4/4"], _, _, rfl, rfl⟩
  · have hreports : Contest.reports c.demoUsername (run d' env' schedule').records =
        Contest.reports c.demoUsername (run d env schedule).records := by
      rw [reports_run hload, ← hname, reports_run hload']
    refine logLines_eq_of_filter hfilter ?_
    calc (run d' env' schedule').records.filter (filterOf env).filter.admits
        = (Contest.reports c.demoUsername (run d' env' schedule').records).filter
            (filterOf env).filter.admits := (filter_reports hdrops _ _).symm
      _ = (Contest.reports c.demoUsername (run d env schedule).records).filter
            (filterOf env).filter.admits := by rw [hreports]
      _ = _ := filter_reports hdrops _ _

end Runs

def quietVariables : Environment := [("RUST_LOG", "trace,user_registry::auth::store=info")]

def secretVariables : Environment :=
  [("USER_REGISTRY_DEMO_SECRET", "x\n[ERROR user_registry] y"), ("user_registry_credential_suffix", "#"),
    ("RUST_LOG", "trace,user_registry::auth::store=info")]

theorem dropsStoreDebug_quiet : DropsStoreDebug (filterOf quietVariables).filter := by
  have hdeciding : ((filterOf quietVariables).filter.deciding? Event.target).any
      (fun d => Log.Threshold.admits d.threshold .debug) = false := by
    decide +kernel
  intro message
  rw [Filter.admits, hdeciding, Bool.false_and]

theorem log_tells_name_only_quiet :
    let d : Directory := fun _ => none
    let c : Config := ⟨"#", "alice", "x\n[ERROR user_registry] y"⟩
    secretVariables.lookup filterVariable = quietVariables.lookup filterVariable ∧
    Config.load d quietVariables = .ok .default ∧ Config.load d secretVariables = .ok c ∧
    c.demoUsername = Config.default.demoUsername ∧
    DropsStoreDebug (filterOf quietVariables).filter ∧
    (run d secretVariables []).logLines secretVariables =
      (run d quietVariables []).logLines quietVariables ∧
    (run d secretVariables [.contend 2, .await, .contend 0]).logLines secretVariables =
      (run d quietVariables []).logLines quietVariables := by
  have hfilter : secretVariables.lookup filterVariable = quietVariables.lookup filterVariable := by
    decide
  have hload : Config.load (fun _ => none) quietVariables = .ok .default := by decide +kernel
  have hload' : Config.load (fun _ => none) secretVariables =
      .ok ⟨"#", "alice", "x\n[ERROR user_registry] y"⟩ := by
    decide +kernel
  obtain ⟨hsame, hany⟩ := log_tells_name_only hfilter hload hload' rfl
  exact ⟨hfilter, hload, hload', rfl, dropsStoreDebug_quiet, (hsame []).1,
    hany dropsStoreDebug_quiet [] _⟩

end AccountRegistry.Demo
