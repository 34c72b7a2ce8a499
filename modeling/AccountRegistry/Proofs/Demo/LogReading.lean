import AccountRegistry.Proofs.Demo.Discretion
import AccountRegistry.Proofs.Log.Complaints
import AccountRegistry.Proofs.Log.Lines

set_option autoImplicit false

/-!
# The log of the demo is read back

The demo tells the name of its user and the texts of errors as they are. Still no
name and no error makes a line look like a record that is not one, and the records
are read back from the lines, up to control sequences: these are dropped, and a
sequence without an end drops the newline after its record as well. What is
complained of in the filter is written before, with newlines of its own.
-/
namespace AccountRegistry.Demo
open AccountRegistry.Text
open AccountRegistry.Log (Record Tells Begins opensRecord)

def userRecords (username : String) : List Record :=
  [(Event.registered username).record, (Event.authenticated username true).record,
   (Event.rejected username).record, (RegistryError.duplicateUser username).record]

theorem messages_userRecords (username : String) : (userRecords username).map (·.message) =
    ["Registered user: " ++ username, "Authentication for " ++ username ++ ": " ++ "accepted",
     "Registration rejected, user already exists: " ++ username,
     "Registration rejected for '" ++ username ++ "': " ++ ("User already exists: " ++ username)] :=
  rfl

theorem mem_userRecords {c : Config} {schedule : List Turn} {r : Record}
    (h : r ∈ (runWith c schedule).records) : r ∈ userRecords c.demoUsername := by
  obtain ⟨hrefusing, -⟩ := Contest.finish_refusing ⟨_, users_held c⟩ rfl schedule
  rw [runWith_records] at h
  simp only [List.mem_cons] at h
  simp only [userRecords, List.mem_cons, List.not_mem_nil, or_false]
  obtain h | h | h := h
  · exact .inl h
  · exact .inr (.inl h)
  · exact .inr (.inr (hrefusing.records r h))

section Runs
variable {loaded : Except Config.Fault Config} {schedule : List Turn} {r : Record}

theorem forall_records {P : Record → Prop} (hlaunching : P launching) (hfallback : P fallingBack)
    (herror : ∀ e, loaded = .error (.refused e) → P (Failure.config e).record)
    (huser : ∀ r ∈ userRecords (inForce loaded).demoUsername, P r) :
    ∀ r ∈ (runOn loaded schedule).records, P r := by
  cases loaded with
  | ok c => exact List.forall_mem_cons.2 ⟨hlaunching, fun r h => huser r (mem_userRecords h)⟩
  | error fault =>
    cases fault with
    | aborted => exact List.forall_mem_singleton.2 hlaunching
    | refused e =>
      have hrest : ∀ r ∈ (runWith .default schedule).records, P r :=
        fun r h => huser r (mem_userRecords h)
      exact List.forall_mem_cons.2 ⟨hlaunching, List.forall_mem_cons.2 ⟨herror e rfl,
        List.forall_mem_cons.2 ⟨hfallback, hrest⟩⟩⟩

theorem isTargetName_records :
    ∀ r ∈ (runOn loaded schedule).records, Record.isTargetName r.target = true := by
  have hreport : Record.isTargetName reportTarget = true := by decide +kernel
  have hevent : Record.isTargetName Event.target = true := by decide +kernel
  refine forall_records (by decide +kernel) (by decide +kernel) (fun _ _ => hreport) ?_
  simp only [userRecords, List.forall_mem_cons, List.not_mem_nil, false_imp_iff, implies_true,
    and_true]
  exact ⟨hevent, hevent, hevent, hreport⟩

theorem isPlainText_records (huser : isPlainText (inForce loaded).demoUsername = true)
    (herror : ∀ e, loaded = .error (.refused e) → isPlainText e.text = true) :
    ∀ r ∈ (runOn loaded schedule).records, isPlainText r.message = true := by
  have hmessages : ∀ m ∈ (userRecords (inForce loaded).demoUsername).map (·.message),
      isPlainText m = true := by
    rw [messages_userRecords]
    simp only [List.forall_mem_cons, isPlainText_append, huser]
    decide +kernel
  refine forall_records (by decide +kernel) (by decide +kernel) (fun e he => ?_)
    fun r hr => hmessages _ (List.mem_map_of_mem hr)
  rw [record_config, isPlainText_append, herror e he]
  decide +kernel

end Runs

def Report.told (r : Report) (env : Environment) : List Record :=
  r.records.filter (filterOf env).filter.admits

def filterText (env : Environment) : String := (env.lookup filterVariable).getD Log.defaultFilter

/-- What some lines tell of the records of a run that its filter lets pass. -/
structure ReadsBack (loaded : Except Config.Fault Config) (told : List Record)
    (lines : List String) : Prop where
  /-- No line is forged: those that begin with a bracket begin with the heads of records, in the
  order of these and at most one for each. -/
  unforged : List.SublistForall₂ Begins (lines.filter opensRecord) told
  /-- The records are read back as they are shown, if no newline at the end of one is dropped. -/
  shown : (∀ r ∈ told, r.keepsNewline = true) → Tells lines (told.map Record.shown)
  /-- The records themselves are read back, if no control sequences come in. -/
  plain : isPlainText (inForce loaded).demoUsername = true →
    (∀ e, loaded = .error (.refused e) → isPlainText e.text = true) → Tells lines told

theorem ReadsBack.preceded {loaded : Except Config.Fault Config} {told : List Record}
    {foreword lines : List String} (h : ReadsBack loaded told lines)
    (hforeword : ∀ l ∈ foreword, opensRecord l = false) :
    ReadsBack loaded told (foreword ++ lines) where
  unforged := (Log.filter_opensRecord_append hforeword lines).symm ▸ h.unforged
  shown hkeeps := (h.shown hkeeps).preceded hforeword
  plain huser herror := (h.plain huser herror).preceded hforeword

theorem readsBack_records (loaded : Except Config.Fault Config) (schedule : List Turn)
    (env : Environment) : ReadsBack loaded ((runOn loaded schedule).told env)
      (linesOf ((filterOf env).filter.written (runOn loaded schedule).records)) := by
  have htargets : ∀ r ∈ (runOn loaded schedule).told env,
      Record.isTargetName r.target = true :=
    fun r hr => isTargetName_records r (List.mem_filter.1 hr).1
  refine ⟨Log.Filter.unforged_written htargets, Log.Filter.tells_written htargets,
    fun huser herror => ?_⟩
  have hplain : ∀ r ∈ (runOn loaded schedule).told env, isPlainText r.message = true :=
    fun r hr => isPlainText_records huser herror r (List.mem_filter.1 hr).1
  have hshown : ((runOn loaded schedule).told env).map Record.shown =
      (runOn loaded schedule).told env :=
    (List.map_congr_left fun r hr => Record.shown_of_isPlainText (hplain r hr)).trans
      (List.map_id' _)
  rw [← hshown]
  exact Log.Filter.tells_written htargets
    fun r hr => Record.keepsNewline_of_isPlainText (hplain r hr)

theorem logLines_eq_append (r : Report) (env : Environment) : r.logLines env =
    (filterOf env).complaintLines ++ linesOf ((filterOf env).filter.written r.records) :=
  (filterOf env).linesOf_written r.records

/-- The log of a run has the lines of the complaints about the filter, and then lines from which the
passing records are read back. They are read back from all lines together if no newline in the
filter is followed by a bracket. -/
theorem log_reads_back (loaded : Except Config.Fault Config) (schedule : List Turn)
    (env : Environment) :
    let r := runOn loaded schedule
    (∃ lines, r.logLines env = (filterOf env).complaintLines ++ lines ∧
      ReadsBack loaded (r.told env) lines) ∧
    (Unbracketed (filterText env).toList → ReadsBack loaded (r.told env) (r.logLines env)) := by
  have hrecords := readsBack_records loaded schedule env
  refine ⟨⟨_, logLines_eq_append _ _, hrecords⟩, fun hfilter => ?_⟩
  rw [logLines_eq_append]
  exact hrecords.preceded (Log.Filter.complaints_open_none hfilter)

def configNaming (username : String) : Config := { Config.default with demoUsername := username }

def imitatingVariables : Environment :=
  [("USER_REGISTRY_DEMO_USERNAME", "bob\n[ERROR user_registry] gone\n    too"),
   ("RUST_LOG", "warn,a=b\nc")]

theorem log_reads_back_imitations :
    let env := imitatingVariables
    let imitating := run (fun _ => none) env [.contend 2, .await]
    let e := ConfigError.message "\n[WARN  user_registry::error::handlers] Registration rejected"
    let refused := runOn (.error (.refused e)) []
    let coloured := runOn (.ok (configNaming "\x1b[31mbob\n[ERROR user_registry] \x1b[0mgone")) []
    Unbracketed (filterText env).toList ∧
    Tells (imitating.logLines env) (imitating.told env) ∧
    Tells (refused.logLines env) (refused.told env) ∧
    Tells (coloured.logLines env) ((coloured.told env).map Record.shown) := by
  intro env imitating e refused coloured
  have hfilter : Unbracketed (filterText env).toList := by decide +kernel
  have hload : Config.load (fun _ => none) env =
      .ok (configNaming "bob\n[ERROR user_registry] gone\n    too") := by
    decide +kernel
  have hkeeps : ∀ r ∈ coloured.told env, r.keepsNewline = true := by
    let r := (RegistryError.duplicateUser "\x1b[31mbob\n[ERROR user_registry] \x1b[0mgone").record
    have htold : coloured.told env = List.replicate contenders r := by decide +kernel
    have hkept : r.keepsNewline = true := by decide +kernel
    rw [htold]
    exact fun x hx => List.eq_of_mem_replicate hx ▸ hkept
  refine ⟨hfilter, ?_, ?_, ?_⟩
  · dsimp only [imitating]
    rw [run, hload]
    exact ((log_reads_back _ _ env).2 hfilter).plain (by decide +kernel) nofun
  · refine ((log_reads_back (.error (.refused e)) [] env).2 hfilter).plain (by decide +kernel) ?_
    rintro _ ⟨⟩
    decide +kernel
  · exact ((log_reads_back _ _ env).2 hfilter).shown hkeeps

def runNaming (username : String) : Report := runOn (.ok (configNaming username)) []

def warnings : Environment := [("RUST_LOG", "warn")]

def bracketed : Environment := [("RUST_LOG", "warn,x=y\n[\nz")]

theorem told_warnings : ∀ username ∈ ["\x1b[0mbob", "bob", "\x1b]"],
    (runNaming username).told warnings =
      List.replicate contenders (RegistryError.duplicateUser username).record := by
  decide +kernel

theorem written_told (r : Report) (env : Environment) :
    (filterOf env).filter.written r.records = String.join ((r.told env).map Record.written) := rfl

theorem log_of_escaped_name :
    (runNaming "\x1b[0mbob").logLines warnings = (runNaming "bob").logLines warnings := by
  have htarget : Record.isTargetName reportTarget = true := by decide +kernel
  have hshown : ∀ username ∈ ["\x1b[0mbob", "bob"],
      (RegistryError.duplicateUser username).record.keepsNewline = true ∧
        (RegistryError.duplicateUser username).record.shown =
          (RegistryError.duplicateUser "bob").record := by
    decide +kernel
  have hlog : ∀ username ∈ ["\x1b[0mbob", "bob"], (runNaming username).logLines warnings =
      (filterOf warnings).complaintLines ++ linesOf (String.join
        (List.replicate contenders (RegistryError.duplicateUser "bob").record.text)) := by
    intro username hu
    obtain ⟨hkeeps, hsame⟩ := hshown username hu
    rw [logLines_eq_append, written_told, told_warnings username (List.mem_append_left ["\x1b]"] hu),
      List.map_replicate, Record.written_eq_text htarget hkeeps, hsame]
  rw [hlog _ (by decide), hlog _ (by decide)]

theorem lines_of_open_name : (((runNaming "\x1b]").logLines warnings).filter opensRecord).length <
    ((runNaming "\x1b]").told warnings).length := by
  have hcomplaints : (filterOf warnings).complaintLines = [] := by decide +kernel
  have hnewline : '\n' ∉ (RegistryError.duplicateUser "\x1b]").record.written.toList := by
    decide +kernel
  have hone : (linesOf (String.join (List.replicate contenders
      (RegistryError.duplicateUser "\x1b]").record.written))).length ≤ 1 := by
    refine length_linesOf_of_notMem fun hm => ?_
    rw [String.toList_join] at hm
    obtain ⟨s, hs, hm⟩ := List.mem_flatMap.1 hm
    exact hnewline (List.eq_of_mem_replicate hs ▸ hm)
  rw [logLines_eq_append, written_told, told_warnings _ (by decide), hcomplaints, List.nil_append,
    List.map_replicate, List.length_replicate]
  exact Nat.lt_of_le_of_lt (Nat.le_trans (List.length_filter_le _ _) hone) (by decide)

theorem lines_of_bracketed_filter : ((runNaming "bob").told bracketed).length <
    (((runNaming "bob").logLines bracketed).filter opensRecord).length := by
  have hcomplaint : ((filterOf bracketed).complaintLines.filter opensRecord).length = 1 := by
    decide +kernel
  have hrecords := (readsBack_records (.ok (configNaming "bob")) [] bracketed).plain
    (by decide) nofun
  rw [logLines_eq_append, List.filter_append, List.length_append, hcomplaint]
  exact Nat.lt_of_lt_of_eq (Nat.lt_add_of_pos_left Nat.one_pos)
    (congrArg (1 + ·) hrecords.opened.length_eq.symm)

/-- Two names with one log, a name that leaves fewer lines than records, and a filter whose
complaint looks like a record. -/
theorem log_not_read_back :
    ((runNaming "\x1b[0mbob").logLines warnings = (runNaming "bob").logLines warnings ∧
      (runNaming "\x1b[0mbob").told warnings ≠ (runNaming "bob").told warnings) ∧
    (((runNaming "\x1b]").logLines warnings).filter opensRecord).length <
      ((runNaming "\x1b]").told warnings).length ∧
    ((runNaming "bob").told bracketed).length <
      (((runNaming "bob").logLines bracketed).filter opensRecord).length := by
  refine ⟨⟨log_of_escaped_name, ?_⟩, lines_of_open_name, lines_of_bracketed_filter⟩
  rw [told_warnings _ (by decide), told_warnings _ (by decide)]
  decide +kernel

end AccountRegistry.Demo
