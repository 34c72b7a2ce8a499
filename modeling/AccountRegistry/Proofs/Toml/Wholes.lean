import AccountRegistry.Proofs.Text.Decimal
import AccountRegistry.Proofs.Text.Lines
import AccountRegistry.Proofs.Toml.Writing

set_option autoImplicit false

/-!
# Whole numbers in TOML

A whole number in its decimal digits, after a minus sign if it is negative and
possibly after a plus sign if it is not, is one item if it has a place among the
numbers of sixty-four bits. Otherwise it is none, and the text is no TOML.
-/
namespace AccountRegistry.Toml
open AccountRegistry.Text
open AccountRegistry.Settings (Scalar Value)

theorem digitRun?_write (m : Nat) :
    digitRun? 10 false (Digits.write 10 m) = some (Digits.write 10 m, []) := by
  have hdigits : ∀ c ∈ Digits.write 10 m,
      (c = '_' || (Digits.valueIn? 10 c).isSome) = true := by
    intro c hc
    obtain ⟨d, hd, rfl⟩ := Digits.mem_write (by decide) hc
    rw [Digits.valueIn?_digit (by decide) hd, Option.isSome_some, Bool.or_true]
  have hrun : (Digits.write 10 m).takeWhile (fun c => c = '_' || (Digits.valueIn? 10 c).isSome) =
      Digits.write 10 m := by
    have hall : (Digits.write 10 m ++ []).takeWhile _ = Digits.write 10 m ++ [].takeWhile _ :=
      List.takeWhile_append_of_pos hdigits
    rwa [List.takeWhile_nil, List.append_nil] at hall
  have hparts : pieces '_' (Digits.write 10 m) = [Digits.write 10 m] :=
    pieces_of_notMem fun h => absurd (Digits.isDecimal_of_mem_write h) (by decide)
  have hnonempty : [Digits.write 10 m].any (·.isEmpty) = false := by
    obtain ⟨c, cs, hwrite, -⟩ := Digits.exists_write m
    rw [hwrite]
    rfl
  have hzeros : ¬ (!false && decide (1 < (Digits.write 10 m).length) &&
      decide ((Digits.write 10 m).head? = some '0')) = true := by
    intro h
    simp only [Bool.not_false, Bool.true_and, Bool.and_eq_true, decide_eq_true_eq] at h
    exact absurd (Digits.length_write_of_zero h.2) (Nat.ne_of_gt h.1)
  simp only [digitRun?, hrun, hparts, hnonempty, if_neg hzeros, List.drop_length,
    List.flatten_singleton]
  rfl

theorem whole?_writeInt (n : Int) : whole? 10 true false (Digits.writeInt n) =
    if Digits.isWord64 n then some (.whole n) else none := by
  obtain ⟨negative, m, hsplit, hvalue⟩ := Digits.splitMinus_writeInt n
  have hread : Digits.read? 10 (Digits.write 10 m) = some m :=
    Digits.read?_write (by decide) (by decide) m
  have hopen : whole? 10 true false (Digits.writeInt n) =
      (digitRun? 10 false (Digits.splitMinus (Digits.writeInt n)).2).bind fun run =>
        (guard run.2.isEmpty : Option Unit).bind fun _ => (Digits.read? 10 run.1).bind fun m =>
          if Digits.isWord64 (Digits.withSign (Digits.splitMinus (Digits.writeInt n)).1 m) then
            some (.whole (Digits.withSign (Digits.splitMinus (Digits.writeInt n)).1 m))
          else none := rfl
  have hrest : (guard (([] : List Char).isEmpty = true) : Option Unit) = some () := rfl
  rw [hopen, hsplit]
  dsimp only
  rw [digitRun?_write, Option.bind_some]
  dsimp only
  rw [hrest, Option.bind_some, hread, Option.bind_some, hvalue]

section Word
variable (n : Int) {ts : List Token} (hts : EndsLine .newline ts)

theorem announcedBase?_writeInt : announcedBase? (Digits.writeInt n) = none := by
  unfold announcedBase?
  split
  · next ds h => exact absurd (h ▸ by simp) (Digits.notMem_writeInt n (c := 'x') (by decide))
  · next ds h => exact absurd (h ▸ by simp) (Digits.notMem_writeInt n (c := 'o') (by decide))
  · next ds h => exact absurd (h ▸ by simp) (Digits.notMem_writeInt n (c := 'b') (by decide))
  · rfl

theorem plainNumber?_writeInt : plainNumber? (Digits.writeInt n) =
    if Digits.isWord64 n then some (.whole n) else none := by
  have hletter : ∀ s : List Char, 'n' ∈ s → Digits.writeInt n ≠ s := fun s hs he =>
    Digits.notMem_writeInt n (by decide) (he ▸ hs)
  rw [plainNumber?, if_neg (hletter _ (by decide)), if_neg (hletter _ (by decide)), if_neg,
    whole?_writeInt]
  rintro (h | h)
  · exact hletter _ (by decide) h
  · exact hletter _ (by decide) h

theorem isBareKey_toString : IsBareKey (toString n) where
  ne_empty h := by
    have hnone : Digits.writeInt n = [] := by rw [← Digits.toList_toString, h]; rfl
    cases n with
    | ofNat m => exact Digits.write_ne_nil 10 m hnone
    | negSucc m => cases hnone
  wordChars c hc := by
    rw [Digits.toList_toString] at hc
    obtain ⟨d, hd, rfl⟩ | rfl := Digits.mem_writeInt hc
    · have all : ∀ e : Fin 10, isWordChar (Digits.digit e.val) = true := by decide
      exact all ⟨d, hd⟩
    · decide

include hts

theorem number?_writeInt : number? (Digits.writeInt n) ts =
    if Digits.isWord64 n then some (.whole n, Rest.all ts) else none := by
  have hexponent : ¬ (Digits.writeInt n).any (fun c => c = 'e' || c = 'E') = true := by
    intro h
    obtain ⟨c, hc, he⟩ := List.any_eq_true.1 h
    simp only [Bool.or_eq_true, decide_eq_true_eq] at he
    obtain rfl | rfl := he
    · exact Digits.notMem_writeInt n (by decide) hc
    · exact Digits.notMem_writeInt n (by decide) hc
  have hperiod : ¬ ts.head? = some .period := fun h => nomatch hts _ h
  rw [number?, announcedBase?_writeInt]
  dsimp only
  rw [if_neg hexponent, if_neg hperiod, plainNumber?_writeInt]
  split <;> rfl

theorem numberOrMoment?_writeInt : numberOrMoment? (Digits.writeInt n) ts =
    if Digits.isWord64 n then some (.scalar (.whole n), Rest.all ts) else none := by
  have hletter : (Digits.writeInt n).any (fun c => c = 'T' || c = 't') = false := by
    rw [List.any_eq_false]
    intro c hc h
    simp only [Bool.or_eq_true, decide_eq_true_eq] at h
    obtain rfl | rfl := h
    · exact Digits.notMem_writeInt n (by decide) hc
    · exact Digits.notMem_writeInt n (by decide) hc
  have hminus : ((Digits.writeInt n).drop 1).any (· = '-') = false := by
    rw [List.any_eq_false]
    intro c hc h
    rw [of_decide_eq_true h] at hc
    exact absurd (Digits.isDecimal_of_mem_drop hc) (by decide)
  have hcolon : decide (ts.head? = some .colon) = false := decide_eq_false fun h => nomatch hts _ h
  have hdate : ¬ (looksLikeDate (Digits.writeInt n) || decide (ts.head? = some .colon)) = true := by
    rw [looksLikeDate, hletter, hminus, hcolon, Bool.false_and, Bool.false_and]
    decide
  rw [numberOrMoment?, if_neg hdate, number?_writeInt n hts]
  split <;> rfl

theorem word?_writeInt : word? (Digits.writeInt n) ts =
    if Digits.isWord64 n then some (.scalar (.whole n), Rest.all ts) else none := by
  have hletter : ∀ s : List Char, 'e' ∈ s → Digits.writeInt n ≠ s := fun s hs he =>
    Digits.notMem_writeInt n (by decide) (he ▸ hs)
  have hbegins : beginsNumber (Digits.writeInt n) = true := by
    cases n with
    | ofNat m =>
      obtain ⟨c, cs, hwrite, hc⟩ := Digits.exists_write m
      rw [Digits.writeInt, hwrite]
      simp [beginsNumber, hc]
    | negSucc m => simp [beginsNumber, Digits.writeInt]
  rw [word?, if_neg (hletter _ (by decide)), if_neg (hletter _ (by decide)), if_pos hbegins,
    numberOrMoment?_writeInt n hts]

theorem item?_word_writeInt : ∃ h, item? (.word (Digits.writeInt n) :: ts) =
    if Digits.isWord64 n then some (.scalar (.whole n), ⟨ts, h⟩) else none := by
  refine ⟨Nat.lt_succ_self _, ?_⟩
  rw [item?, word?_writeInt n hts]
  split <;> rfl

theorem item?_plus_writeInt : ∃ h, item? (.plus :: .word (Digits.writeInt n) :: ts) =
    if Digits.isWord64 n then some (.scalar (.whole n), ⟨ts, h⟩) else none := by
  refine ⟨by simp only [List.length_cons]; omega, ?_⟩
  rw [item?, number?_writeInt n hts]
  split <;> rfl

end Word

theorem isBlank_of_isWordChar {c : Char} (h : isWordChar c = true) : isBlank c = false := by
  rw [Bool.eq_false_iff]
  intro hblank
  simp only [isBlank, Bool.or_eq_true, decide_eq_true_eq] at hblank
  obtain rfl | rfl := hblank <;> exact absurd h (by decide)

theorem scans_word {key : String} (hkey : IsBareKey key) : Scans key.toList [.word key.toList] where
  starts c hc := isBlank_of_isWordChar (hkey.wordChars c (List.mem_of_mem_head? hc))
  scans _ hrest := scanAll?_word hkey fun c hc => hrest c hc ▸ rfl

theorem scans_plus {key : String} (hkey : IsBareKey key) :
    Scans ("+" ++ key).toList [.plus, .word key.toList] where
  starts c hc := by
    rw [String.toList_append] at hc
    obtain rfl : '+' = c := Option.some.inj hc
    rfl
  scans rest hrest := by
    have hplus : scanAll? ('+' :: (key.toList ++ rest)) =
        (scanAll? (key.toList ++ rest)).map (.plus :: ·) := scanAll?_cons (h := Nat.le_refl _) rfl
    rw [String.toList_append]
    change scanAll? ('+' :: (key.toList ++ rest)) = _
    rw [hplus, (scans_word hkey).scans rest hrest, Option.map_map]
    rfl

/-- How a whole number may be written: its decimal digits, and a plus sign in front of them if it
is not negative. -/
def literals (n : Int) : List String :=
  toString n :: if 0 ≤ n then ["+" ++ toString n] else []

theorem literals_cases {n : Int} {l : String} (hl : l ∈ literals n) :
    l = toString n ∨ l = "+" ++ toString n := by
  rw [literals, List.mem_cons] at hl
  split at hl
  · rwa [List.mem_singleton] at hl
  · exact .inl (hl.resolve_right List.not_mem_nil)

/-- A literal is read as the item that its number is, or is none. -/
theorem exists_scans {n : Int} {l : String} (hl : l ∈ literals n) :
    ∃ tokens, Scans l.toList tokens ∧ ∀ rest, EndsLine .newline rest → ∃ h,
      item? (tokens ++ rest) =
        if Digits.isWord64 n then some (.scalar (.whole n), ⟨rest, h⟩) else none := by
  have hbare := isBareKey_toString n
  obtain rfl | rfl := literals_cases hl
  · refine ⟨_, scans_word hbare, fun rest hrest => ?_⟩
    rw [Digits.toList_toString]
    exact item?_word_writeInt n hrest
  · refine ⟨_, scans_plus hbare, fun rest hrest => ?_⟩
    rw [Digits.toList_toString]
    exact item?_plus_writeInt n hrest

theorem return_notMem_literal {n : Int} {l : String} (hl : l ∈ literals n) : '\r' ∉ l.toList := by
  have hdigits : '\r' ∉ (toString n).toList :=
    Digits.toList_toString n ▸ Digits.notMem_writeInt n (by decide)
  obtain rfl | rfl := literals_cases hl
  · exact hdigits
  · rw [String.toList_append, List.mem_append]
    rintro (hplus | hmem)
    · exact absurd hplus (by decide)
    · exact hdigits hmem

theorem toList_line (key l : String) :
    (key ++ " = " ++ l).toList = key.toList ++ ' ' :: '=' :: ' ' :: (l.toList ++ []) := by
  simp

section Assignment
variable {key : String} (hkey : IsBareKey key) {l : String} {tokens : List Token}
include hkey

theorem head?_line : (key ++ " = " ++ l).toList.head? ≠ some '\ufeff' := by
  obtain ⟨c, cs, hfirst⟩ : ∃ c cs, key.toList = c :: cs :=
    List.exists_cons_of_ne_nil fun he => hkey.ne_empty (String.toList_eq_nil_iff.1 he)
  rw [toList_line, hfirst, List.cons_append, List.head?_cons]
  intro hmark
  have hword : isWordChar c = true := hkey.wordChars c (hfirst ▸ List.mem_cons_self)
  rw [Option.some.inj hmark] at hword
  exact absurd hword (by decide)

theorem return_notMem_line (hreturn : '\r' ∉ l.toList) : '\r' ∉ (key ++ " = " ++ l).toList := by
  rw [String.toList_append, String.toList_append, List.mem_append, List.mem_append]
  rintro ((hmem | hmem) | hmem)
  · exact absurd (hkey.wordChars _ hmem) (by decide)
  · exact absurd hmem (by decide)
  · exact hreturn hmem

theorem read?_line {x : Scalar} (hvalue : Spells l.toList tokens (.scalar x))
    (hreturn : '\r' ∉ l.toList) : read? (key ++ " = " ++ l) = some [(key, .scalar x)] := by
  have hlines := linesIn?_assignment hkey hvalue (endsLine_nil '\n')
  rw [linesIn?_nil, Option.map_some, ← toList_line] at hlines
  have hmoment : momentKey ∉ [key].map id := by
    intro hmem
    obtain rfl := List.mem_singleton.1 hmem
    exact absurd (hkey.wordChars '$' (by decide)) (by decide)
  exact @read?_of_linesIn? String id (fun _ => x) [key] _ (head?_line hkey)
    (return_notMem_line hkey hreturn) hlines (List.nodup_singleton key) hmoment

theorem read?_malformed (hvalue : Scans l.toList tokens) (hreturn : '\r' ∉ l.toList)
    (hitem : item? (tokens ++ []) = none) : read? (key ++ " = " ++ l) = none := by
  obtain ⟨hlt, hparts⟩ := key?_word key.toList [' '] (.blank [' '] :: (tokens ++ []))
  have hscan : tokens? (key ++ " = " ++ l) =
      some (.word key.toList :: .blank [' '] :: .equals :: .blank [' '] :: (tokens ++ [])) := by
    rw [tokens?_eq_scanAll? (head?_line hkey) (return_notMem_line hkey hreturn), toList_line,
      scanAll?_assignment hkey hvalue (endsLine_nil '\n'), scanAll?, Option.map_some]
  have hline : line? (.word key.toList :: .blank [' '] :: .equals :: .blank [' '] ::
      (tokens ++ [])) = none := by
    change assignment? _ = none
    rw [assignment?, hparts]
    dsimp only [skipBlank]
    rw [hitem]
  have hlines : lines? (.word key.toList :: .blank [' '] :: .equals :: .blank [' '] ::
      (tokens ++ [])) = none := by
    have hstart : ∀ ts : List Token, (Token.word key.toList :: ts).dropWhile isSpacing =
        .word key.toList :: ts := fun _ => rfl
    rw [lines?_of_start (hstart _), hline]
    rfl
  rw [read?, value?, hscan, Option.bind_eq_bind, Option.bind_some, hlines]
  rfl

end Assignment

theorem read?_literal {key : String} (hkey : IsBareKey key) {n : Int} {l : String}
    (hl : l ∈ literals n) : read? (key ++ " = " ++ l) =
      if Digits.isWord64 n then some [(key, .scalar (.whole n))] else none := by
  obtain ⟨tokens, hscans, hitem⟩ := exists_scans hl
  have hreturn := return_notMem_literal hl
  split
  · next hword =>
    simp only [if_pos hword] at hitem
    exact read?_line hkey ⟨hscans, hitem⟩ hreturn
  · next hword =>
    obtain ⟨_, hnone⟩ := hitem [] (endsLine_nil _)
    rw [if_neg hword] at hnone
    exact read?_malformed hkey hscans hreturn hnone

theorem read?_quoted {key : String} (hkey : IsBareKey key) (s : String) :
    read? (key ++ " = " ++ enquoted false s) = some [(key, .ofString s)] := by
  have hreturn : '\r' ∉ (enquoted false s).toList := fun hmem =>
    absurd (List.all_eq_true.1 (isVisible_enquoted false s) _ hmem) (by decide)
  exact read?_line hkey (spells_enquoted false s) hreturn

end AccountRegistry.Toml
