import AccountRegistry.Proofs.Config.Outcome
import AccountRegistry.Proofs.Demo.Contest
import AccountRegistry.Proofs.Text.Lines
import AccountRegistry.Proofs.Text.Quoted

set_option autoImplicit false

/-!
# What the demo writes

Whatever the settings are and whatever turns the tasks take, the demo writes the
same four lines but for the quoted name and credential in the last of them. An
error in the settings is told once, and no record tells of anything unexpected.
-/
namespace AccountRegistry.Demo
open AccountRegistry.Text
open AccountRegistry.Log (Record)

def held (c : Config) : Store where
  transform := .suffix ⟨c.credentialSuffix⟩
  users := (∅ : Users).insert c.demoUsername (c.demoSecret ++ c.credentialSuffix)
  poisoned := false

section User
variable (c : Config)

theorem users_held :
    (held c).users[c.demoUsername]? = some (c.demoSecret ++ c.credentialSuffix) :=
  Std.ExtTreeMap.getElem?_insert_self

theorem register_demo : (Store.ofConfig c).register c.demoUsername c.demoSecret =
    ⟨some (.ok (.of c.demoUsername)), [.registered c.demoUsername], held c⟩ :=
  Store.register_of_free Std.ExtTreeMap.getElem?_empty rfl

theorem authenticate_demo : (held c).authenticate c.demoUsername c.demoSecret =
    ⟨some true, [.authenticated c.demoUsername true], held c⟩ := by
  have hderive : (held c).transform c.demoSecret = some (c.demoSecret ++ c.credentialSuffix) := rfl
  rw [Store.authenticate_of_known (users_held c) hderive, beq_self_eq_true]
  rfl

theorem description_held : (held c).users.description =
    "\x7b" ++ (quote c.demoUsername ++ ": " ++ quote (c.demoSecret ++ c.credentialSuffix)) ++
      "\x7d" := by
  have hlist : (held c).users.toList = [(c.demoUsername, c.demoSecret ++ c.credentialSuffix)] := rfl
  rw [Users.description, hlist, List.map_singleton, String.intercalate_singleton]

end User

def linesFor (c : Config) : List String :=
  ["Registration successful: true",
   "Authentication successful: true",
   "Duplicate registrations rejected: 4/4",
   "Current users: \x7b" ++ quote c.demoUsername ++ ": " ++
     quote (c.demoSecret ++ c.credentialSuffix) ++ "\x7d"]

theorem rejectionLine_contenders :
    rejectionLine contenders = "Duplicate registrations rejected: 4/4" := by
  decide +kernel

theorem usersLine_held (c : Config) : usersLine (held c).users =
    "Current users: \x7b" ++ quote c.demoUsername ++ ": " ++
      quote (c.demoSecret ++ c.credentialSuffix) ++ "\x7d" := by
  have hmark : "Current users: " ++ "\x7b" = "Current users: \x7b" := by decide
  have hassoc : ∀ s t u v w x : String,
      s ++ (t ++ (u ++ v ++ w) ++ x) = s ++ t ++ u ++ v ++ w ++ x := by
    simp [String.append_assoc]
  calc usersLine (held c).users
      = "Current users: " ++ ("\x7b" ++ (quote c.demoUsername ++ ": " ++
          quote (c.demoSecret ++ c.credentialSuffix)) ++ "\x7d") :=
        congrArg ("Current users: " ++ ·) (description_held c)
    _ = "Current users: " ++ "\x7b" ++ quote c.demoUsername ++ ": " ++
          quote (c.demoSecret ++ c.credentialSuffix) ++ "\x7d" := hassoc _ _ _ _ _ _
    _ = _ := congrArg (· ++ _ ++ _ ++ _ ++ _) hmark

theorem runWith_output (c : Config) (schedule : List Turn) :
    (runWith c schedule).output = linesFor c := by
  obtain ⟨hrefusing, hcount⟩ := Contest.finish_refusing ⟨_, users_held c⟩ rfl schedule
  simp only [runWith, register_demo, authenticate_demo, hrefusing.store, hcount,
    rejectionLine_contenders]
  rw [linesFor, ← usersLine_held]
  rfl

theorem isVisible_linesFor {c : Config} {l : String} (hl : l ∈ linesFor c) :
    isVisible l = true := by
  simp only [linesFor, List.mem_cons, List.not_mem_nil, or_false] at hl
  obtain rfl | rfl | rfl | rfl := hl
  · decide +kernel
  · decide +kernel
  · decide +kernel
  · have hmarks : (isVisible "Current users: \x7b" && isVisible ": " && isVisible "\x7d") = true := by
      decide +kernel
    simp only [Bool.and_eq_true] at hmarks
    simp only [isVisible_append, isVisible_quote, hmarks, Bool.and_self]

def alarms : List String := ["Unexpected registration", "Registration task failed"]

def isAlarm (r : Record) : Bool := alarms.any fun start => start.toList.isPrefixOf r.message.toList

def Routine (r : Record) : Prop := r.level ≠ .error ∧ isAlarm r = false

def apart (s t : String) : Bool := !s.toList.isPrefixOf t.toList && !t.toList.isPrefixOf s.toList

theorem isAlarm_eq_false {r : Record} {start rest : String} (hmessage : r.message = start ++ rest)
    (h : alarms.all (apart start) = true) : isAlarm r = false := by
  rw [isAlarm, List.any_eq_false]
  intro a ha halarm
  have hapart := List.all_eq_true.1 h a ha
  simp only [apart, Bool.and_eq_true, Bool.not_eq_true', ← Bool.not_eq_true,
    List.isPrefixOf_iff_prefix] at hapart halarm
  have hstart : start.toList <+: r.message.toList := by
    rw [hmessage, String.toList_append]
    exact List.prefix_append _ _
  -- of two starts of one message the longer starts with the shorter
  obtain hshort | hlong := List.prefix_or_prefix_of_prefix halarm hstart
  · exact hapart.2 hshort
  · exact hapart.1 hlong

theorem routine_event (e : Event) : Routine e.record := by
  cases e with
  | recovered access => exact ⟨nofun, isAlarm_eq_false rfl (by decide)⟩
  | registered username => exact ⟨nofun, isAlarm_eq_false rfl (by decide)⟩
  | rejected username => exact ⟨nofun, isAlarm_eq_false rfl (by decide)⟩
  | authenticated username accepted =>
    have hmessage : (Event.authenticated username accepted).record.message =
        "Authentication for " ++
          (username ++ (": " ++ if accepted then "accepted" else "rejected")) := by
      change "Authentication for " ++ username ++ ": " ++ _ = _
      rw [String.append_assoc, String.append_assoc]
    exact ⟨nofun, isAlarm_eq_false hmessage (by decide)⟩

theorem routine_rejection (username : String) :
    Routine (RegistryError.duplicateUser username).record := by
  have hmessage : (RegistryError.duplicateUser username).record.message =
      "Registration rejected for '" ++
        (username ++ ("': " ++ (RegistryError.duplicateUser username).text)) := by
    simp only [RegistryError.record, String.append_assoc]
  exact ⟨nofun, isAlarm_eq_false hmessage (by decide)⟩

theorem runWith_routine (c : Config) (schedule : List Turn) :
    ∀ r ∈ (runWith c schedule).records, Routine r := by
  obtain ⟨hrefusing, -⟩ := Contest.finish_refusing ⟨_, users_held c⟩ rfl schedule
  intro r hr
  simp only [runWith, register_demo, authenticate_demo, List.mem_append] at hr
  obtain (hbefore | hcontest) | hafter := hr
  · obtain ⟨e, -, rfl⟩ := List.mem_map.1 hbefore
    exact routine_event e
  · obtain rfl | rfl := hrefusing.records r hcontest
    · exact routine_event _
    · exact routine_rejection _
  · obtain ⟨e, -, rfl⟩ := List.mem_map.1 hafter
    exact routine_event e

def inForce : Except Config.Fault Config → Config
  | .ok c => c
  | .error _ => .default

/-- A run that was not broken off, by what loading the configuration came to. -/
structure Completes (loaded : Except Config.Fault Config) (r : Report) : Prop where
  exit : r.exit = 0
  output : r.output = linesFor (inForce loaded)
  lines : linesOf (ofLines r.output) = linesFor (inForce loaded)
  visible : ∀ l ∈ r.output, isVisible l = true
  unalarmed : ∀ x ∈ r.records, isAlarm x = false
  /-- An error in the settings is the only error that is told, and right before the fallback. -/
  reported : ∀ e, loaded = .error (.refused e) → ∃ before later : List Record,
    r.records = before ++
      ⟨.error, reportTarget, "User registry error: Configuration error: " ++ e.text⟩ ::
        fallingBack :: later ∧
      ∀ x ∈ before ++ later, x.level ≠ .error

theorem linesOf_linesFor (c : Config) : linesOf (ofLines (linesFor c)) = linesFor c :=
  linesOf_ofLines fun _ hl => newline_notMem_of_isVisible (isVisible_linesFor hl)

theorem record_config (e : ConfigError) : (Failure.config e).record =
    ⟨.error, reportTarget, "User registry error: Configuration error: " ++ e.text⟩ := by
  have hmark : "User registry error: Configuration error: " =
      "User registry error: " ++ "Configuration error: " := by decide
  rw [hmark, String.append_assoc]
  rfl

theorem completes_of_opening {loaded : Except Config.Fault Config} {r : Report}
    {schedule : List Turn} {opening : List Record} (hexit : r.exit = 0)
    (houtput : r.output = (runWith (inForce loaded) schedule).output)
    (hrecords : r.records = opening ++ (runWith (inForce loaded) schedule).records)
    (hquiet : ∀ x ∈ opening, isAlarm x = false)
    (hreported : ∀ e, loaded = .error (.refused e) →
      opening = [launching, (Failure.config e).record, fallingBack]) :
    Completes loaded r := by
  have hlines := houtput.trans (runWith_output _ _)
  have hroutine := runWith_routine (inForce loaded) schedule
  refine ⟨hexit, hlines, ?_, fun l hl => ?_, fun x hx => ?_, fun e he => ?_⟩
  · rw [hlines, linesOf_linesFor]
  · rw [hlines] at hl
    exact isVisible_linesFor hl
  · rw [hrecords] at hx
    obtain hx | hx := List.mem_append.1 hx
    · exact hquiet x hx
    · exact (hroutine x hx).2
  · refine ⟨[launching], (runWith (inForce loaded) schedule).records, ?_, fun x hx => ?_⟩
    · rw [hrecords, hreported e he, record_config]
      rfl
    · obtain rfl | hx := List.mem_cons.1 hx
      · exact nofun
      · exact (hroutine x hx).1

theorem completes_runOn {loaded : Except Config.Fault Config} (h : loaded ≠ .error .aborted)
    (schedule : List Turn) : Completes loaded (runOn loaded schedule) := by
  cases loaded with
  | ok c =>
    have hquiet : ∀ x ∈ [launching], isAlarm x = false := by decide
    exact completes_of_opening rfl rfl rfl hquiet nofun
  | error fault =>
    cases fault with
    | aborted => exact absurd rfl h
    | refused e =>
      have hquiet : ∀ x ∈ [launching, (Failure.config e).record, fallingBack], isAlarm x = false := by
        simp only [List.mem_cons, List.not_mem_nil, or_false]
        rintro x (rfl | rfl | rfl)
        · decide
        · exact isAlarm_eq_false rfl (by decide)
        · decide
      refine completes_of_opening rfl rfl rfl hquiet fun e' he => ?_
      cases he
      rfl

theorem load_of_agreeing [Config.Parsers] {d : Directory} {env env' : Environment}
    (h : env'.filter (·.1 ≠ filterVariable) = env.filter (·.1 ≠ filterVariable)) :
    Config.load d env' = Config.load d env := by
  have hvariable : Config.variableKey? filterVariable = none := by decide
  have hother : ∀ v : String × String, decide (v.1 ≠ filterVariable) = false →
      Config.variableKey? v.1 = none := by
    intro v hv
    rwa [not_not.1 (of_decide_eq_false hv)]
  rw [← Config.load_filter hother d env', h, Config.load_filter hother]

/-- Every run that loading does not break off completes, and neither the schedule nor the log
filter has a part in what it writes. -/
theorem run_completes [Config.Parsers] (d : Directory) (env : Environment) (schedule : List Turn)
    (h : Config.load d env ≠ .error .aborted) :
    Completes (Config.load d env) (run d env schedule) ∧
      ∀ (env' : Environment) (schedule' : List Turn),
        env'.filter (·.1 ≠ filterVariable) = env.filter (·.1 ≠ filterVariable) →
          (run d env' schedule').output = (run d env schedule).output := by
  have hrun : Completes (Config.load d env) (run d env schedule) := completes_runOn h schedule
  refine ⟨hrun, fun env' schedule' hagree => ?_⟩
  have hload := load_of_agreeing (d := d) hagree
  have hrun' : Completes (Config.load d env') (run d env' schedule') :=
    completes_runOn (hload ▸ h) schedule'
  rw [hrun'.output, hrun.output, hload]

def forgingName : String := "bob\nDuplicate registrations rejected: 0/4"

def forgingConfig : Config := { Config.default with demoUsername := forgingName }

def forgingVariables : Environment :=
  [("USER_REGISTRY_DEMO_USERNAME", forgingName), ("RUST_LOG", "off")]

theorem run_completes_forging :
    Config.load (fun _ => none) forgingVariables ≠ .error .aborted ∧
      Completes (.ok forgingConfig)
        (run (fun _ => none) forgingVariables [.contend 2, .await, .contend 0]) ∧
      (run (fun _ => none) [("USER_REGISTRY_DEMO_USERNAME", forgingName)] []).output =
        (run (fun _ => none) forgingVariables [.contend 2, .await, .contend 0]).output := by
  have hload : Config.load (fun _ => none) forgingVariables = .ok forgingConfig := by
    decide +kernel
  have h : Config.load (fun _ => none) forgingVariables ≠ .error .aborted := by
    rw [hload]
    nofun
  obtain ⟨hrun, hsame⟩ := run_completes (fun _ => none) forgingVariables
    [.contend 2, .await, .contend 0] h
  exact ⟨h, hload ▸ hrun, hsame _ [] (by decide)⟩

example :
    (run (fun _ => none) [("USER_REGISTRY_CREDENTIAL_SUFFIX", "")] []).records.take 3 =
      [launching,
       ⟨.error, reportTarget,
         "User registry error: Configuration error: credential_suffix cannot be empty"⟩,
       fallingBack] := by
  decide +kernel

end AccountRegistry.Demo
