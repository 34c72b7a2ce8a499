import AccountRegistry.Text.Quoted

set_option autoImplicit false

/-!
# What is in quoted text

Whatever a text contains, there is no control character in its quoted form: it
stands on one line.
-/
namespace AccountRegistry.Text

theorem Digits.mem_write {base : Nat} (hbase : 2 ≤ base) {n : Nat} {c : Char}
    (h : c ∈ write base n) : ∃ d < base, c = digit d := by
  induction n using Nat.strongRecOn with
  | ind n ih =>
    rw [write] at h
    split at h
    · next hlast => exact ⟨n, by omega, List.mem_singleton.1 h⟩
    · next hmore =>
      obtain hfirst | hlast := List.mem_append.1 h
      · exact ih _ (Nat.div_lt_self (by omega) (by omega)) hfirst
      · exact ⟨n % base, Nat.mod_lt _ (by omega), List.mem_singleton.1 hlast⟩

theorem isControl_hexDigit {d : Nat} (h : d < 16) : isControl (Digits.digit d) = false := by
  have all : ∀ e : Fin 16, isControl (Digits.digit e.val) = false := by decide
  exact all ⟨d, h⟩

namespace Quoted

theorem isControl_hexEscape {c d : Char} (h : d ∈ hexEscape c) : isControl d = false := by
  simp only [hexEscape, List.mem_append, List.mem_cons, List.not_mem_nil, or_false] at h
  obtain (((rfl | rfl | rfl) | hdigit) | rfl) := h
  · decide
  · decide
  · decide
  · obtain ⟨e, he, rfl⟩ := Digits.mem_write (by decide) hdigit
    exact isControl_hexDigit he
  · decide

theorem isControl_escape {c d : Char} (h : d ∈ escape c) : isControl d = false := by
  have hpair : ∀ e : Char, isControl e = false → d ∈ ['\\', e] → isControl d = false := by
    intro e he hd
    simp only [List.mem_cons, List.not_mem_nil, or_false] at hd
    obtain rfl | rfl := hd
    · decide
    · exact he
  unfold escape at h
  split at h
  · exact hpair _ (by decide) h
  · exact hpair _ (by decide) h
  · exact hpair _ (by decide) h
  · exact hpair _ (by decide) h
  · exact hpair _ (by decide) h
  · exact hpair _ (by decide) h
  · split at h
    · exact isControl_hexEscape h
    · next hprintable =>
      rw [List.mem_singleton.1 h]
      exact Bool.eq_false_iff.2 fun hc => hprintable (isUnprintable_of_isControl c hc)

end Quoted

def isVisible (s : String) : Bool := s.toList.all fun c => !isControl c

theorem isVisible_append (s t : String) : isVisible (s ++ t) = (isVisible s && isVisible t) := by
  rw [isVisible, String.toList_append, List.all_append, isVisible, isVisible]

theorem isVisible_quote (s : String) : isVisible (quote s) = true := by
  refine List.all_eq_true.2 fun c hc => ?_
  rw [Bool.not_eq_true']
  rw [quote, String.toList_ofList, Quoted.quoteChars, List.mem_cons, List.mem_append,
    List.mem_singleton] at hc
  obtain rfl | hinside | rfl := hc
  · decide
  · obtain ⟨e, -, he⟩ := List.mem_flatMap.1 hinside
    exact Quoted.isControl_escape he
  · decide

theorem all_intercalate (p : Char → Bool) {sep : String} (hsep : sep.toList.all p = true)
    {l : List String} (h : ∀ s ∈ l, s.toList.all p = true) :
    (sep.intercalate l).toList.all p = true := by
  induction l with
  | nil => rfl
  | cons s l ih =>
    obtain ⟨hs, hl⟩ := List.forall_mem_cons.1 h
    cases l with
    | nil => rwa [String.intercalate_singleton]
    | cons t l =>
      rw [String.intercalate_cons_cons, String.toList_append, String.toList_append,
        List.all_append, List.all_append, hs, hsep, ih hl]
      rfl

theorem isVisible_intercalate {sep : String} (hsep : isVisible sep = true) {l : List String}
    (h : ∀ s ∈ l, isVisible s = true) : isVisible (sep.intercalate l) = true :=
  all_intercalate _ hsep h

theorem isVisible_describe {name : String} (hname : isVisible name = true)
    {fields : List (String × String)}
    (h : ∀ f ∈ fields, isVisible f.1 = true ∧ isVisible f.2 = true) :
    isVisible (describe name fields) = true := by
  have hmarks : isVisible " \x7b " ∧ isVisible ", " ∧ isVisible ": " ∧ isVisible " \x7d" := by
    decide +kernel
  obtain ⟨hopen, hcomma, hcolon, hclose⟩ := hmarks
  have hfields : ∀ s ∈ fields.map fun f => f.1 ++ ": " ++ f.2, isVisible s = true := by
    intro s hs
    obtain ⟨f, hf, rfl⟩ := List.mem_map.1 hs
    rw [isVisible_append, isVisible_append, (h f hf).1, hcolon, (h f hf).2]
    rfl
  rw [describe, isVisible_append, isVisible_append, isVisible_append, hname, hopen,
    isVisible_intercalate hcomma hfields, hclose]
  rfl

theorem newline_notMem_of_isVisible {s : String} (h : isVisible s = true) : '\n' ∉ s.toList :=
  fun hmem => nomatch List.all_eq_true.1 h '\n' hmem

end AccountRegistry.Text
