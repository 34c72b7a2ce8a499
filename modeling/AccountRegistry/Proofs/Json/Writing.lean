import Mathlib.Data.List.Forall2
import Mathlib.Data.List.TakeWhile
import AccountRegistry.Json.Document
import AccountRegistry.Proofs.Text.Escaping

set_option autoImplicit false

/-!
# Writing JSON

An object of texts is read back, whatever white space stands between its tokens.
-/
namespace AccountRegistry.Json
open AccountRegistry.Text
open AccountRegistry.Settings (Value)

theorem unit?_fourDigits (capital : Bool) {n : Nat} (hn : n < 0x10000) (rest : List Char) :
    ∃ h, unit? (Escaping.fourDigits capital n ++ rest) = some (n, ⟨rest, h⟩) := by
  have htake : (Escaping.fourDigits capital n ++ rest).take 4 =
      Escaping.fourDigits capital n := rfl
  refine ⟨by simp, ?_⟩
  rw [unit?, htake, if_pos (Escaping.length_fourDigits _ _), Escaping.read?_fourDigits _ hn]
  rfl

theorem unicode?_fourDigits (capital : Bool) {c : Char} (hc : c.toNat < 0xD800)
    (rest : List Char) :
    ∃ h, unicode? (Escaping.fourDigits capital c.toNat ++ rest) = some (c, ⟨rest, h⟩) := by
  have hleading : ¬ isLeadingSurrogate c.toNat = true := by
    simp only [isLeadingSurrogate, Bool.and_eq_true, decide_eq_true_eq]
    omega
  have htrailing : isTrailingSurrogate c.toNat = false := by
    simp only [isTrailingSurrogate, Bool.and_eq_false_iff, decide_eq_false_iff_not]
    omega
  obtain ⟨h, hunit⟩ := unit?_fourDigits capital (Nat.lt_trans hc (by decide)) rest
  refine ⟨h, ?_⟩
  rw [unicode?, hunit, Option.bind_eq_bind, Option.bind_some]
  dsimp only
  rw [if_neg hleading, htrailing, Char.ofNat_toNat]
  rfl

theorem character?_unicode {cs rest : List Char} {c : Char} {h : rest.length ≤ cs.length}
    (hcode : unicode? cs = some (c, ⟨rest, h⟩)) :
    character? '\\' ('u' :: cs) = some (c, ⟨rest, Nat.le_succ_of_le h⟩) := by
  have hcharacter : character? '\\' ('u' :: cs) =
      (unicode? cs).map fun e => (e.1, Rest.within e.2 (Rest.length_le_cons 'u' cs)) := rfl
  rw [hcharacter, hcode]
  rfl

theorem exists_character (capital : Bool) (c : Char) (rest : List Char) :
    ∃ first more h, Escaping.escape capital c = first :: more ∧ first ≠ '"' ∧
      character? first (more ++ rest) = some (c, ⟨rest, h⟩) := by
  obtain ⟨rfl | rfl, hescape⟩ | ⟨hcontrol, hescape⟩ | ⟨⟨hquote, hbackslash, hcontrol⟩, hescape⟩ :=
    Escaping.escape_cases capital c
  · exact ⟨_, _, Nat.le_succ _, hescape, by decide, rfl⟩
  · exact ⟨_, _, Nat.le_succ _, hescape, by decide, rfl⟩
  · have hc : c.toNat < 0xD800 :=
      Nat.lt_trans (Escaping.toNat_lt_of_isControl hcontrol) (by decide)
    obtain ⟨h, hcode⟩ := unicode?_fourDigits capital hc rest
    exact ⟨'\\', 'u' :: Escaping.fourDigits capital c.toNat, Nat.le_succ_of_le h, hescape,
      by decide, character?_unicode hcode⟩
  · have hplain : ¬ c.toNat < 0x20 := by
      simp only [isControl, Bool.or_eq_true, decide_eq_true_eq, not_or] at hcontrol
      exact hcontrol.1
    refine ⟨c, [], Nat.le_refl _, hescape, hquote, ?_⟩
    rw [character?, if_neg hbackslash, if_neg hplain]
    rfl

theorem body?_escaped (capital : Bool) (s rest : List Char) :
    ∃ h, body? (s.flatMap (Escaping.escape capital) ++ '"' :: rest) = some (s, ⟨rest, h⟩) := by
  induction s with
  | nil =>
    rw [List.flatMap_nil, List.nil_append]
    refine ⟨Nat.lt_succ_self _, ?_⟩
    rw [body?]
    rfl
  | cons c s ih =>
    obtain ⟨first, more, hmore, hescape, hquote, hcharacter⟩ := exists_character capital c
      (s.flatMap (Escaping.escape capital) ++ '"' :: rest)
    obtain ⟨h, hbody⟩ := ih
    rw [List.flatMap_cons, hescape, List.append_assoc, List.cons_append]
    refine ⟨Nat.lt_trans h (Rest.length_lt_cons first hmore), ?_⟩
    rw [body?, if_neg hquote, hcharacter]
    dsimp only
    rw [hbody]
    rfl

/-- A text that is read as one token, whatever follows it. -/
structure Spells (text : String) (t : Token) : Prop where
  starts : ∃ c cs, text.toList = c :: cs ∧ isSpace c = false
  scans : ∀ rest, ∃ h, scan? (text.toList ++ rest) = some (t, ⟨rest, h⟩)

theorem spells_enquoted (capital : Bool) (s : String) :
    Spells (enquoted capital s) (.text s.toList) where
  starts := ⟨_, _, toList_enquoted capital s, by decide⟩
  scans rest := by
    obtain ⟨h, hbody⟩ := body?_escaped capital s.toList rest
    rw [toList_enquoted_append]
    refine ⟨Nat.lt_succ_of_lt h, ?_⟩
    have hscan : ∀ cs, scan? ('"' :: cs) = (body? cs).map fun e =>
        (.text e.1, Rest.beyond e.2 (Rest.length_le_cons '"' cs)) := fun _ => rfl
    rw [hscan, hbody]
    rfl

theorem spells_mark {text : String} {mark : Char} {t : Token} (htext : text.toList = [mark])
    (h : markOf? mark = some t) (hspace : isSpace mark = false) : Spells text t where
  starts := ⟨mark, [], htext, hspace⟩
  scans rest := by
    rw [htext, List.singleton_append]
    refine ⟨Nat.lt_succ_self _, ?_⟩
    rw [scan?, h]
    rfl

theorem tokens?_of_start {cs start : List Char} (h : cs.dropWhile isSpace = start) :
    tokens? cs = if start.isEmpty then some [] else
      (scan? start).bind fun e => (tokens? e.2.val).map (e.1 :: ·) := by
  have heq : tokens? cs = if (Rest.dropping isSpace cs).val.isEmpty then some [] else
      (scan? (Rest.dropping isSpace cs).val).bind fun e => (tokens? e.2.val).map (e.1 :: ·) := by
    rw [tokens?]
    cases scan? (Rest.dropping isSpace cs).val <;> rfl
  subst h
  exact heq

def laidOut (gap : Nat → String) : List String → String
  | [] => gap 0
  | text :: texts => gap 0 ++ text ++ laidOut (fun i => gap (i + 1)) texts

theorem tokens?_laidOut {gap : Nat → String}
    (hgap : ∀ i, ∀ c ∈ (gap i).toList, isSpace c = true) {texts : List String}
    {ts : List Token} (h : List.Forall₂ Spells texts ts) :
    tokens? (laidOut gap texts).toList = some ts := by
  induction h generalizing gap with
  | nil =>
    have hstart : (gap 0).toList.dropWhile isSpace = [] :=
      List.dropWhile_eq_nil_iff.2 (hgap 0)
    rw [laidOut, tokens?_of_start hstart]
    rfl
  | @cons text t texts ts htext _ ih =>
    obtain ⟨c, cs, hstarts, hspace⟩ := htext.starts
    have hstart : ∀ more, ((gap 0).toList ++ (text.toList ++ more)).dropWhile isSpace =
        text.toList ++ more := fun more => by
      rw [List.dropWhile_append_of_pos (hgap 0), hstarts, List.cons_append,
        List.dropWhile_cons_of_neg (by simp [hspace])]
    obtain ⟨hlt, hscan⟩ := htext.scans (laidOut (fun i => gap (i + 1)) texts).toList
    have hfirst : ∀ more, ¬ (text.toList ++ more).isEmpty = true := fun more => by
      rw [hstarts, List.cons_append]
      exact Bool.false_ne_true
    rw [laidOut, String.toList_append, String.toList_append, List.append_assoc,
      tokens?_of_start (hstart _), if_neg (hfirst _), hscan, Option.bind_some]
    dsimp only
    rw [ih fun i => hgap (i + 1)]
    rfl

def memberTokens (m : String × String) : List Token := [.text m.1.toList, .colon, .text m.2.toList]

theorem memberTokens_append (m : String × String) (ts : List Token) :
    memberTokens m ++ ts = .text m.1.toList :: .colon :: .text m.2.toList :: ts := rfl

theorem value?_text (depth : Nat) (s : String) (ts : List Token) :
    value? depth (.text s.toList :: ts) = some (.ofString s, Rest.after _ ts) := by
  rw [value?, String.ofList_toList]

theorem members?_last (depth : Nat) (m : String × String) (rest : List Token) :
    ∃ h, members? depth (memberTokens m ++ .closeBrace :: rest) =
      some ([(m.1, .ofString m.2)], ⟨rest, h⟩) := by
  rw [memberTokens_append]
  refine ⟨by simp only [List.length_cons]; omega, ?_⟩
  rw [members?, value?_text]
  simp only [String.ofList_toList]
  rfl

theorem members?_more {depth : Nat} (m : String × String) {more rest : List Token}
    {members : List (String × Value)}
    (hmore : ∃ h, members? depth more = some (members, ⟨rest, h⟩)) :
    ∃ h, members? depth (memberTokens m ++ .comma :: more) =
      some ((m.1, .ofString m.2) :: members, ⟨rest, h⟩) := by
  obtain ⟨h, hmore⟩ := hmore
  rw [memberTokens_append]
  refine ⟨by simp only [List.length_cons]; omega, ?_⟩
  rw [members?, value?_text]
  dsimp only [Rest.after]
  rw [hmore, String.ofList_toList]
  rfl

theorem members?_tokens (depth : Nat) (m : String × String) (members : List (String × String))
    (rest : List Token) :
    ∃ h, members? depth
        ([.comma].intercalate ((m :: members).map memberTokens) ++ .closeBrace :: rest) =
      some ((m :: members).map fun m => (m.1, .ofString m.2), ⟨rest, h⟩) := by
  induction members generalizing m with
  | nil =>
    rw [List.map_singleton, List.intercalate_singleton]
    exact members?_last depth m rest
  | cons m' members ih =>
    have hmore := ih m'
    rw [List.map_cons] at hmore
    rw [List.map_cons, List.map_cons, List.intercalate_cons_cons, List.append_assoc,
      List.append_assoc, List.singleton_append]
    exact members?_more m hmore

theorem putMember_of_notMem {name : String} (v : Value) {members : List (String × Value)}
    (h : name ∉ members.map Prod.fst) : putMember name v members = members ++ [(name, v)] := by
  induction members with
  | nil => rfl
  | cons m members ih =>
    rw [List.map_cons, List.mem_cons, not_or] at h
    rw [putMember, if_neg fun he => h.1 he.symm, ih h.2]
    rfl

theorem lastMembers_of_nodup {members : List (String × Value)}
    (h : (members.map Prod.fst).Nodup) : lastMembers members = members := by
  have hfrom : ∀ done, ((done ++ members).map Prod.fst).Nodup →
      members.foldl (fun done m => putMember m.1 m.2 done) done = done ++ members := by
    clear h
    induction members with
    | nil => exact fun done _ => (List.append_nil done).symm
    | cons m members ih =>
      intro done hnodup
      have hnew : m.1 ∉ done.map Prod.fst := by
        rw [List.map_append, List.map_cons, List.nodup_append] at hnodup
        exact fun hmem => hnodup.2.2 _ hmem _ List.mem_cons_self rfl
      have hput := putMember_of_notMem m.2 hnew
      rw [List.append_cons] at hnodup
      rw [List.foldl_cons, hput, ih _ hnodup, ← List.append_cons]
  exact hfrom [] h

theorem value?_object (depth : Nat) {members : List (String × String)} (rest : List Token)
    (hdistinct : (members.map Prod.fst).Nodup) :
    ∃ h, value? (depth + 1)
        (.openBrace :: ([.comma].intercalate (members.map memberTokens) ++ .closeBrace :: rest)) =
      some (.table (members.map fun m => (m.1, .ofString m.2)), ⟨rest, h⟩) := by
  cases members with
  | nil =>
    rw [List.map_nil, List.intercalate_nil, List.nil_append]
    refine ⟨by simp only [List.length_cons]; omega, ?_⟩
    rw [value?]
    rfl
  | cons m members =>
    obtain ⟨h, hmembers⟩ := members?_tokens depth m members rest
    have hkeys : (((m :: members).map fun m => (m.1, Value.ofString m.2)).map Prod.fst).Nodup := by
      rw [List.map_map]
      exact hdistinct
    have hopen : ∀ ts, [Token.comma].intercalate ((m :: members).map memberTokens) ++
        .closeBrace :: rest = .closeBrace :: ts → False := by
      intro ts he
      rw [List.map_cons, memberTokens, List.intercalate_cons_cons_left, List.cons_append] at he
      cases (List.cons.inj he).1
    refine ⟨Nat.lt_succ_of_lt h, ?_⟩
    rw [value?, hmembers, Option.map_some]
    · dsimp only
      rw [lastMembers_of_nodup hkeys]
      rfl
    · exact hopen

def memberTexts (capital : Bool) (m : String × String) : List String :=
  [enquoted capital m.1, ":", enquoted capital m.2]

def written (capital : Bool) (gap : Nat → String) (members : List (String × String)) : String :=
  laidOut gap ("\x7b" :: ([","].intercalate (members.map (memberTexts capital)) ++ ["\x7d"]))

theorem spells_memberTexts (capital : Bool) (m : String × String) :
    List.Forall₂ Spells (memberTexts capital m) (memberTokens m) :=
  .cons (spells_enquoted capital m.1) <|
    .cons (spells_mark rfl rfl rfl) <|
      .cons (spells_enquoted capital m.2) .nil

theorem spells_members (capital : Bool) (members : List (String × String)) :
    List.Forall₂ Spells ([","].intercalate (members.map (memberTexts capital)))
      ([.comma].intercalate (members.map memberTokens)) := by
  have hcomma : List.Forall₂ Spells [","] [.comma] :=
    .cons (spells_mark rfl rfl rfl) .nil
  induction members with
  | nil => exact .nil
  | cons m members ih =>
    cases members with
    | nil => exact spells_memberTexts capital m
    | cons m' members =>
      have hrest := ih
      rw [List.map_cons, List.map_cons] at hrest
      rw [List.map_cons, List.map_cons, List.map_cons, List.map_cons,
        List.intercalate_cons_cons, List.intercalate_cons_cons]
      exact List.rel_append (List.rel_append (spells_memberTexts capital m) hcomma) hrest

theorem read?_written (capital : Bool) {gap : Nat → String}
    (hgap : ∀ i, ∀ c ∈ (gap i).toList, isSpace c = true) {members : List (String × String)}
    (hdistinct : (members.map Prod.fst).Nodup) :
    read? (written capital gap members) =
      some (members.map fun m => (m.1, Value.ofString m.2)) := by
  have hspells : List.Forall₂ Spells
      ("\x7b" :: ([","].intercalate (members.map (memberTexts capital)) ++ ["\x7d"]))
      (.openBrace :: ([.comma].intercalate (members.map memberTokens) ++ [.closeBrace])) :=
    .cons (spells_mark rfl rfl rfl) <|
      List.rel_append (spells_members capital members) (.cons (spells_mark rfl rfl rfl) .nil)
  obtain ⟨h, hvalue⟩ := value?_object 126 [] hdistinct
  have hdepth : maxDepth = 126 + 1 := rfl
  have hdocument : document? (written capital gap members) =
      some (.table (members.map fun m => (m.1, .ofString m.2))) := by
    rw [document?, written, tokens?_laidOut hgap hspells, Option.bind_eq_bind, Option.bind_some,
      hdepth, hvalue]
    rfl
  rw [read?, hdocument]
  rfl

end AccountRegistry.Json
