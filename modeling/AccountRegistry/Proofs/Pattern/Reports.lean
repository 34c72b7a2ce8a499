import AccountRegistry.Pattern.Basic
import AccountRegistry.Proofs.Text.Decimal
import AccountRegistry.Proofs.Text.Openings

set_option autoImplicit false

/-!
# The lines of reports

A report of a fault shows the lines of the pattern after blanks or their numbers,
so no line of it begins with a bracket, whatever the pattern is.
-/
namespace AccountRegistry.Pattern
open AccountRegistry.Text

def isBland (s : String) : Bool := s.toList.all fun c => c ≠ '\n' && c ≠ '['

/-- A text that may follow a newline as a line. -/
structure IsInner (l : String) : Prop where
  newline_notMem : '\n' ∉ l.toList
  head?_ne : l.toList.head? ≠ some '['

section Bland
variable {s t : String}

theorem isBland_iff : isBland s = true ↔ '\n' ∉ s.toList ∧ '[' ∉ s.toList := by
  simp only [isBland, List.all_eq_true, Bool.and_eq_true, decide_eq_true_eq]
  exact ⟨fun h => ⟨fun hm => (h _ hm).1 rfl, fun hm => (h _ hm).2 rfl⟩,
    fun h c hc => ⟨fun he => h.1 (he ▸ hc), fun he => h.2 (he ▸ hc)⟩⟩

@[simp] theorem isBland_append : isBland (s ++ t) = (isBland s && isBland t) := by
  simp [isBland]

theorem IsInner.of_isBland (h : isBland s = true) : IsInner s where
  newline_notMem := (isBland_iff.1 h).1
  head?_ne := fun he => (isBland_iff.1 h).2 (List.mem_of_head? he)

theorem IsInner.append (hs : isBland s = true) (hne : s.toList ≠ []) (ht : '\n' ∉ t.toList) :
    IsInner (s ++ t) where
  newline_notMem := by simp [(isBland_iff.1 hs).1, ht]
  head?_ne := by
    obtain ⟨c, cs, hcs⟩ := List.exists_cons_of_ne_nil hne
    rw [String.toList_append, hcs]
    intro he
    exact (isBland_iff.1 hs).2 (hcs ▸ Option.some.inj he ▸ List.mem_cons_self)

end Bland

theorem isBland_decimal (n : Nat) : isBland (Digits.decimal n) = true := by
  rw [isBland_iff, Digits.decimal, String.toList_ofList]
  exact ⟨Digits.notMem_write n (by decide), Digits.notMem_write n (by decide)⟩

theorem isBland_message (c : Cause) : isBland c.message = true := by
  cases c with
  | nestedTooDeep limit =>
    have hmessage : (Cause.nestedTooDeep limit).message =
        "exceed the maximum number of nested parentheses/brackets (" ++ toString limit ++ ")" := rfl
    have hlimit := isBland_decimal limit
    rw [← Digits.toString_eq_decimal] at hlimit
    rw [hmessage, isBland_append, isBland_append, hlimit]
    decide +kernel
  | _ => decide +kernel

theorem toList_pushn (s : String) (c : Char) (n : Nat) :
    (s.pushn c n).toList = s.toList ++ List.replicate n c := by
  induction n with
  | zero => exact (List.append_nil _).symm
  | succ n ih =>
    have hpush : s.pushn c (n + 1) = (s.pushn c n).push c := rfl
    rw [hpush, String.toList_push, ih, List.append_assoc, ← List.replicate_succ']

namespace Report

theorem newline_notMem_patternLines {pattern l : String} (h : l ∈ patternLines pattern) :
    '\n' ∉ l.toList := by
  have hpiece : ∀ p ∈ pieces '\n' pattern.toList, '\n' ∉ p := fun p hp => notMem_of_mem_pieces hp
  have hended : ∀ p ∈ (pieces '\n' pattern.toList).dropLast.map
      (fun l => if l.getLast? = some '\r' then l.dropLast else l), '\n' ∉ p := by
    intro p hp
    obtain ⟨q, hq, rfl⟩ := List.mem_map.1 hp
    have hq := hpiece q (List.dropLast_subset _ hq)
    split
    · exact fun hm => hq (List.dropLast_subset _ hm)
    · exact hq
  have hlast : '\n' ∉ (pieces '\n' pattern.toList).getLastD [] := by
    rw [List.getLastD_eq_getLast?]
    cases hp : (pieces '\n' pattern.toList).getLast? with
    | none => exact List.not_mem_nil
    | some p => exact hpiece p (List.mem_of_getLast? hp)
  obtain ⟨p, hp, rfl⟩ := List.mem_map.1 h
  rw [String.toList_ofList]
  split at hp
  · exact hended p hp
  · obtain hp | hp := List.mem_append.1 hp
    · exact hended p hp
    · exact List.mem_singleton.1 hp ▸ hlast

theorem isBland_lineHead (width number : Nat) : isBland (lineHead width number) = true := by
  unfold lineHead
  split
  · decide
  · have hdigits := isBland_decimal number
    rw [Digits.decimal] at hdigits
    rw [isBland_append, String.ofList_append, isBland_append, hdigits]
    simp [isBland]

theorem lineHead_ne_nil (width number : Nat) : (lineHead width number).toList ≠ [] := by
  unfold lineHead
  split <;> simp

theorem isBland_marksFrom (width : Nat) (spans : List Span) :
    isBland (String.ofList (marksFrom width spans)) = true := by
  induction spans generalizing width with
  | nil => rfl
  | cons s spans ih =>
    rw [marksFrom, String.ofList_append, isBland_append, ih]
    simp [isBland]

theorem isInner_shownLine {width number : Nat} {spans : List Span} {line : String}
    (h : '\n' ∉ line.toList) : ∀ l ∈ shownLine width spans line number, IsInner l := by
  intro l hl
  obtain rfl | hl := List.mem_cons.1 hl
  · exact .append (isBland_lineHead width number) (lineHead_ne_nil width number) h
  · split at hl
    · cases hl
    · obtain rfl := List.mem_singleton.1 hl
      refine .of_isBland ?_
      rw [isBland_append, isBland_marksFrom]
      simp [isBland, toList_pushn]

theorem isInner_note (s : Span) : IsInner (note s) := by
  refine .of_isBland ?_
  simp only [note, placeText, isBland_append, isBland_decimal]
  decide

end Report

theorem toList_intercalate_newline (l : String) (ls : List String) :
    ("\n".intercalate (l :: ls)).toList = l.toList ++ (ls.map String.toList).flatMap ('\n' :: ·) := by
  induction ls generalizing l with
  | nil => simp
  | cons k ls ih => simp [String.intercalate_cons_cons, ih]

theorem unbracketed_intercalate {l : String} {ls : List String} (hfirst : '\n' ∉ l.toList)
    (h : ∀ k ∈ ls, IsInner k) : Unbracketed ("\n".intercalate (l :: ls)).toList := by
  rw [toList_intercalate_newline]
  refine Unbracketed.after (unbracketed_flatMap fun cs hcs => ?_) hfirst
  obtain ⟨k, hk, rfl⟩ := List.mem_map.1 hcs
  exact ⟨(h k hk).newline_notMem, (h k hk).head?_ne⟩

open Report in
theorem unbracketed_report (f : Fault) (pattern : String) :
    Unbracketed (f.report pattern).toList := by
  have hdivider : IsInner ("".pushn '~' 79) := .of_isBland (by decide +kernel)
  have hmessage : IsInner ("error: " ++ f.cause.message) :=
    .append (by decide) (by decide) (isBland_iff.1 (isBland_message f.cause)).1
  refine unbracketed_intercalate (by decide) fun l hl => ?_
  simp only [List.append_eq, List.nil_append, List.mem_append] at hl
  obtain ((hl | hl) | hl) | hl := hl
  · split at hl
    · exact List.mem_singleton.1 hl ▸ hdivider
    · cases hl
  · obtain ⟨p, hp, hl⟩ := List.mem_flatMap.1 hl
    have hline : p.1 ∈ patternLines pattern := List.fst_mem_of_mem_zipIdx hp
    exact isInner_shownLine (newline_notMem_patternLines hline) l hl
  · split at hl
    · obtain rfl | hl := List.mem_cons.1 hl
      · exact hdivider
      · obtain ⟨s, -, rfl⟩ := List.mem_map.1 hl
        exact isInner_note s
    · cases hl
  · exact List.mem_singleton.1 hl ▸ hmessage

theorem unbracketed_refusal (r : Refusal) (pattern : String) :
    Unbracketed (r.text pattern).toList := by
  cases r with
  | malformed fault => exact unbracketed_report fault pattern
  | wordsUnavailable =>
    have htext : Refusal.wordsUnavailable.text pattern = "error building NFA" := rfl
    rw [htext]
    exact unbracketed_of_notMem (by decide)
  | tooHeavy =>
    have htext : Refusal.tooHeavy.text pattern =
        "Compiled regex exceeds size limit of " ++ Digits.decimal weightLimit ++ " bytes." := rfl
    have hlimit := isBland_decimal weightLimit
    refine unbracketed_of_notMem (isBland_iff.1 ?_).1
    rw [htext, isBland_append, isBland_append, hlimit]
    decide

end AccountRegistry.Pattern
