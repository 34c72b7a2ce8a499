import AccountRegistry.Proofs.Demo.Outcome
import AccountRegistry.Proofs.Text.Unquoting

set_option autoImplicit false

/-!
# Descriptions tell things apart

The description of a configuration, a transform, a registration, an error or a
single user has no control character in it, and no other thing of its kind has
the same one, whatever texts the things are made of. So the demo ends with one
line, which tells the name and the credential of its user.
-/
namespace AccountRegistry
open AccountRegistry.Text

/-- A text for each thing of a kind, on one line and like that of no other thing. -/
structure Legible {α : Type} (text : α → String) : Prop where
  visible : ∀ a, isVisible (text a) = true
  injective : Function.Injective text

theorem legible_describe {α : Type} {text : α → String} (name : String)
    (fields : α → List (String × String)) (keys : List String)
    (htext : ∀ a, text a = describe name (quotedFields (fields a)))
    (hkeys : ∀ a, (fields a).map Prod.fst = keys)
    (hvisible : (name :: keys).all isVisible = true) (hinj : Function.Injective fields) :
    Legible text where
  visible a := by
    rw [List.all_cons, Bool.and_eq_true, List.all_eq_true] at hvisible
    rw [htext]
    refine isVisible_describe hvisible.1 fun f hf => ?_
    obtain ⟨g, hg, rfl⟩ := List.mem_map.1 hf
    have hkey : g.1 ∈ keys := hkeys a ▸ List.mem_map_of_mem hg
    exact ⟨hvisible.2 _ hkey, isVisible_quote _⟩
  injective a b h := by
    rw [htext, htext] at h
    exact hinj (describe_quoted_inj ((hkeys a).trans (hkeys b).symm) h)

def Config.fields (c : Config) : List (String × String) :=
  [("credential_suffix", c.credentialSuffix), ("demo_username", c.demoUsername),
   ("demo_secret", c.demoSecret)]

theorem Config.fields_injective : Function.Injective Config.fields := by
  rintro ⟨suffix, username, secret⟩ ⟨suffix', username', secret'⟩ h
  simp only [Config.fields, List.cons.injEq, Prod.mk.injEq, true_and, and_true] at h
  obtain ⟨rfl, rfl, rfl⟩ := h
  rfl

theorem Config.description_legible : Legible Config.description :=
  legible_describe "RegistryConfig" Config.fields
    ["credential_suffix", "demo_username", "demo_secret"] (fun _ => rfl) (fun _ => rfl)
    (by decide +kernel) Config.fields_injective

def SuffixTransform.fields (t : SuffixTransform) : List (String × String) :=
  [("suffix", t.suffix)]

theorem SuffixTransform.fields_injective : Function.Injective SuffixTransform.fields := by
  rintro ⟨suffix⟩ ⟨suffix'⟩ h
  simp only [SuffixTransform.fields, List.cons.injEq, Prod.mk.injEq, true_and, and_true] at h
  rw [h]

theorem SuffixTransform.description_legible : Legible SuffixTransform.description :=
  legible_describe "SuffixTransform" SuffixTransform.fields ["suffix"] (fun _ => rfl)
    (fun _ => rfl) (by decide +kernel) SuffixTransform.fields_injective

abbrev Granted := { r : Registration // r.registered = true }

theorem Granted.eq_of : ∀ r : Granted, r.val = .of r.val.username
  | ⟨⟨true, _⟩, _⟩ => rfl

theorem Registration.description_of (username : String) : (Registration.of username).description =
    "RegistrationResult \x7b registered: true, username: " ++ (quote username ++ " \x7d") := by
  have hfront : "RegistrationResult" ++ (" \x7b " ++ ("registered" ++ (": " ++ ("true" ++ (", " ++
      ("username" ++ ": ")))))) = "RegistrationResult \x7b registered: true, username: " := by
    decide +kernel
  rw [← hfront]
  simp only [Registration.description, Registration.of, describe, if_true, List.map_cons,
    List.map_nil, String.intercalate_cons_cons, String.intercalate_singleton, String.append_assoc]

theorem Registration.description_legible : Legible fun r : Granted => r.val.description where
  visible r := by
    rw [r.eq_of, Registration.description_of, isVisible_append, isVisible_append, isVisible_quote]
    decide +kernel
  injective r r' h := by
    have husername : r.val.username = r'.val.username := by
      dsimp only at h
      rw [r.eq_of, r'.eq_of, Registration.description_of, Registration.description_of,
        String.append_right_inj, quote_append_inj] at h
      exact h.1
    refine Subtype.ext ?_
    rw [r.eq_of, r'.eq_of, husername]

theorem RegistryError.description_duplicateUser (username : String) :
    (RegistryError.duplicateUser username).description =
      "DuplicateUser(" ++ (quote username ++ ")") :=
  String.append_assoc

theorem RegistryError.description_legible : Legible RegistryError.description where
  visible e := by
    cases e with
    | duplicateUser username =>
      rw [RegistryError.description_duplicateUser, isVisible_append "DuplicateUser(",
        isVisible_append (quote username), isVisible_quote]
      decide +kernel
  injective e e' h := by
    cases e with
    | duplicateUser username =>
      cases e' with
      | duplicateUser username' =>
        rw [RegistryError.description_duplicateUser, RegistryError.description_duplicateUser,
          String.append_right_inj, quote_append_inj] at h
        rw [h.1]

abbrev SingleUser := { users : Users // users.size = 1 }

theorem SingleUser.exists_toList (users : SingleUser) :
    ∃ username credential, users.val.toList = [(username, credential)] := by
  have hlength : users.val.toList.length = 1 := by
    rw [Std.ExtTreeMap.length_toList]
    exact users.property
  obtain ⟨⟨username, credential⟩, hlist⟩ := List.length_eq_one_iff.1 hlength
  exact ⟨username, credential, hlist⟩

theorem SingleUser.description_eq {users : Users} {username credential : String}
    (h : users.toList = [(username, credential)]) :
    users.description = "\x7b" ++ (quote username ++ (": " ++ (quote credential ++ "\x7d"))) := by
  simp only [Users.description, h, List.map_singleton, String.intercalate_singleton,
    String.append_assoc]

theorem SingleUser.description_legible :
    Legible fun users : SingleUser => users.val.description where
  visible users := by
    obtain ⟨username, credential, h⟩ := users.exists_toList
    rw [SingleUser.description_eq h, isVisible_append "\x7b", isVisible_append (quote username),
      isVisible_append ": ", isVisible_append (quote credential), isVisible_quote, isVisible_quote]
    decide +kernel
  injective users users' h := by
    obtain ⟨username, credential, hlist⟩ := users.exists_toList
    obtain ⟨username', credential', hlist'⟩ := users'.exists_toList
    dsimp only at h
    rw [SingleUser.description_eq hlist, SingleUser.description_eq hlist', String.append_right_inj,
      quote_append_inj, String.append_right_inj, quote_append_inj] at h
    obtain ⟨rfl, rfl, -⟩ := h
    exact Subtype.ext (Std.ExtTreeMap.toList_inj.1 (hlist.trans hlist'.symm))

namespace Demo

def lastUser (c : Config) : String × String :=
  (c.demoUsername, c.demoSecret ++ c.credentialSuffix)

theorem toList_held (c : Config) : (held c).users.toList = [lastUser c] := rfl

def lastLine (c : Config) : String := usersLine (held c).users

theorem lastLine_inj {c c' : Config} : lastLine c = lastLine c' ↔ lastUser c = lastUser c' := by
  have hsize : ∀ c, (held c).users.size = 1 := fun _ => rfl
  constructor
  · intro h
    have hdescription : (held c).users.description = (held c').users.description :=
      (String.append_right_inj "Current users: ").1 h
    have hsame : (⟨_, hsize c⟩ : SingleUser) = ⟨_, hsize c'⟩ :=
      SingleUser.description_legible.injective hdescription
    have hlist := congrArg Std.ExtTreeMap.toList (Subtype.mk.inj hsame)
    rw [toList_held, toList_held] at hlist
    exact List.singleton_inj.1 hlist
  · intro h
    have hsame : (held c).users = (held c').users := by
      rw [← Std.ExtTreeMap.toList_inj, toList_held, toList_held, h]
    rw [lastLine, lastLine, hsame]

theorem lastLine_mem (c : Config) : lastLine c ∈ linesFor c := by
  rw [lastLine, usersLine_held]
  exact .tail _ (.tail _ (.tail _ (.head _)))

theorem isVisible_lastLine (c : Config) : isVisible (lastLine c) = true :=
  isVisible_linesFor (lastLine_mem c)

theorem linesOf_visible {line : String} (h : isVisible line = true) :
    linesOf (line ++ "\n") = [line] := by
  have hlines : ∀ l ∈ [line], '\n' ∉ l.toList := fun l hl =>
    newline_notMem_of_isVisible (List.mem_singleton.1 hl ▸ h)
  have hjoined : ofLines [line] = line ++ "\n" := by simp [ofLines]
  rw [← hjoined, linesOf_ofLines hlines]

section Runs
variable [Config.Parsers]

theorem getLast?_output {d : Directory} {env : Environment}
    (h : Config.load d env ≠ .error .aborted) (schedule : List Turn) :
    (run d env schedule).output.getLast? = some (lastLine (inForce (Config.load d env))) := by
  rw [run, (completes_runOn h schedule).output, lastLine, usersLine_held]
  rfl

/-- The last line of a run can be read, and is that of all runs which end with the same user. -/
structure TellsUser (d : Directory) (env : Environment) (line : String) : Prop where
  visible : isVisible line = true
  single : linesOf (line ++ "\n") = [line]
  tells : ∀ (d' : Directory) (env' : Environment) (schedule' : List Turn),
    Config.load d' env' ≠ .error .aborted →
      ((run d' env' schedule').output.getLast? = some line ↔
        lastUser (inForce (Config.load d' env')) = lastUser (inForce (Config.load d env)))

theorem tellsUser (d : Directory) (env : Environment) :
    TellsUser d env (lastLine (inForce (Config.load d env))) where
  visible := isVisible_lastLine _
  single := linesOf_visible (isVisible_lastLine _)
  tells d' env' schedule' h := by
    rw [getLast?_output h, Option.some.injEq, lastLine_inj]

end Runs
end Demo

/-- Things of a kind have descriptions without control characters, and different ones have
different descriptions. The last line of the demo tells who its user is. -/
theorem descriptions_legible [Config.Parsers] :
    Legible Config.description ∧ Legible SuffixTransform.description ∧
    (Legible fun r : Granted => r.val.description) ∧ Legible RegistryError.description ∧
    (Legible fun users : SingleUser => users.val.description) ∧
    ∀ (d : Directory) (env : Environment) (schedule : List Demo.Turn),
      Config.load d env ≠ .error .aborted → ∃ line,
        (Demo.run d env schedule).output.getLast? = some line ∧ Demo.TellsUser d env line :=
  ⟨Config.description_legible, SuffixTransform.description_legible,
    Registration.description_legible, RegistryError.description_legible,
    SingleUser.description_legible,
    fun d env schedule h => ⟨_, Demo.getLast?_output h schedule, Demo.tellsUser d env⟩⟩

theorem descriptions_legible_forging :
    Config.load Directory.empty Demo.forgingVariables ≠ .error .aborted ∧ ∃ line,
      (Demo.run Directory.empty Demo.forgingVariables [.contend 1]).output.getLast? = some line ∧
        Demo.TellsUser Directory.empty Demo.forgingVariables line := by
  have hload : Config.load Directory.empty Demo.forgingVariables = .ok Demo.forgingConfig := by
    decide +kernel
  have h : Config.load Directory.empty Demo.forgingVariables ≠ .error .aborted := by
    rw [hload]
    nofun
  exact ⟨h, descriptions_legible.2.2.2.2.2 _ _ [.contend 1] h⟩

/-- A name that looks like the end of the quoted text and the start of the next field. -/
example : let c : Config := ⟨"x", "a\", demo_secret: \"b\n", "\u0301"⟩
    c.description = "RegistryConfig \x7b credential_suffix: \"x\", " ++
      "demo_username: \"a\\\", demo_secret: \\\"b\\n\", demo_secret: \"\\u\x7b301\x7d\" \x7d" := by
  decide +kernel

end AccountRegistry
