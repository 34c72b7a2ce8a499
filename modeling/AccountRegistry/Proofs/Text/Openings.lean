import AccountRegistry.Proofs.Text.Lines
import AccountRegistry.Text.Blank
import Mathlib.Data.List.Chain

set_option autoImplicit false

/-!
# Lines that begin with a bracket

A text where no newline is followed by an opening bracket has no line that begins
with one, its first line excepted, and neither has any part of it.
-/
namespace AccountRegistry.Text

theorem infix_of_mem_pieces {sep : Char} {cs p : List Char} (h : p ∈ pieces sep cs) : p <:+: cs := by
  have hjoined : ∀ ps : List (List Char), p ∈ ps → p <:+: joined [sep] ps := by
    intro ps hp
    induction ps with
    | nil => exact absurd hp List.not_mem_nil
    | cons q ps ih =>
      rw [joined_eq_flatMap]
      obtain rfl | hp := List.mem_cons.1 hp
      · exact (List.prefix_append _ _).isInfix
      · cases ps with
        | nil => exact absurd hp List.not_mem_nil
        | cons q' ps =>
          have hrest := ih hp
          rw [joined_eq_flatMap] at hrest
          refine hrest.trans ?_
          rw [List.flatMap_cons, List.append_assoc, ← List.append_assoc]
          exact (List.suffix_append _ _).isInfix
  exact joined_pieces sep cs ▸ hjoined _ h

theorem infix_of_trimmed (p : Char → Bool) (cs : List Char) : trimmed p cs <:+: cs := by
  have hend : trimmed p cs <+: cs.dropWhile p := by
    rw [trimmed, ← List.reverse_suffix, List.reverse_reverse]
    exact List.dropWhile_suffix p
  exact hend.isInfix.trans (List.dropWhile_suffix p).isInfix

def Unbracketed (cs : List Char) : Prop := cs.IsChain fun c d => ¬(c = '\n' ∧ d = '[')

instance : DecidablePred Unbracketed := fun cs =>
  inferInstanceAs (Decidable (cs.IsChain fun c d => ¬(c = '\n' ∧ d = '[')))

section Unbracketed
variable {cs ds : List Char}

theorem Unbracketed.append (hc : Unbracketed cs) (hd : Unbracketed ds)
    (h : ds.head? ≠ some '[') : Unbracketed (cs ++ ds) :=
  List.isChain_append.2 ⟨hc, hd, fun _ _ _ hy he => h (he.2 ▸ hy)⟩

theorem Unbracketed.after (hd : Unbracketed ds) (h : '\n' ∉ cs) : Unbracketed (cs ++ ds) := by
  have hc : Unbracketed cs := by
    induction cs with
    | nil => exact List.IsChain.nil
    | cons c cs ih =>
      obtain ⟨hne, hcs⟩ := List.ne_and_not_mem_of_not_mem_cons h
      exact List.isChain_cons.2 ⟨fun _ _ he => hne he.1.symm, ih hcs⟩
  refine List.isChain_append.2 ⟨hc, hd, fun x hx _ _ he => h ?_⟩
  exact he.1 ▸ List.mem_of_getLast? hx

theorem unbracketed_of_notMem (h : '\n' ∉ cs) : Unbracketed cs := by
  have hnil : Unbracketed [] := List.IsChain.nil
  simpa using hnil.after h

theorem Unbracketed.cons (c : Char) (hc : Unbracketed cs) (h : cs.head? ≠ some '[') :
    Unbracketed (c :: cs) :=
  List.isChain_cons.2 ⟨fun _ hy he => h (he.2 ▸ hy), hc⟩

theorem Unbracketed.between {before after : List Char} (h : Unbracketed cs)
    (hbefore : '\n' ∉ before) (hafter : '\n' ∉ after) (hfirst : after.head? ≠ some '[') :
    Unbracketed (before ++ cs ++ after) :=
  (h.after hbefore).append (unbracketed_of_notMem hafter) hfirst

theorem unbracketed_flatMap {lines : List (List Char)}
    (h : ∀ l ∈ lines, '\n' ∉ l ∧ l.head? ≠ some '[') :
    Unbracketed (lines.flatMap ('\n' :: ·)) := by
  induction lines with
  | nil => exact List.IsChain.nil
  | cons l lines ih =>
    obtain ⟨⟨hline, hfirst⟩, hlines⟩ := List.forall_mem_cons.1 h
    rw [List.flatMap_cons]
    refine ((unbracketed_of_notMem hline).cons '\n' hfirst).append (ih hlines) ?_
    cases lines with
    | nil => exact nofun
    | cons k lines => simp

/-- No line of a text begins with a bracket if none does with a newline put in front. -/
theorem head?_of_mem_pieces (h : Unbracketed ('\n' :: cs)) {p : List Char}
    (hp : p ∈ pieces '\n' cs) : p.head? ≠ some '[' := by
  -- what stands before a text decides about its first piece only
  have hpieces : ∀ (before : Char) (cs : List Char), Unbracketed (before :: cs) →
      ∀ q qs, pieces '\n' cs = q :: qs →
        (before = '\n' → q.head? ≠ some '[') ∧ ∀ p ∈ qs, p.head? ≠ some '[' := by
    intro before cs hcs q qs hq
    induction cs generalizing before q qs with
    | nil =>
      cases hq
      exact ⟨fun _ => nofun, nofun⟩
    | cons c cs ih =>
      obtain ⟨hfirst, hrest⟩ := List.isChain_cons_cons.1 hcs
      obtain ⟨r, rs, hr⟩ := List.exists_cons_of_ne_nil (pieces_ne_nil '\n' cs)
      obtain ⟨hopen, hlater⟩ := ih c hrest r rs hr
      rw [pieces, hr] at hq
      by_cases hc : c = '\n'
      · rw [if_pos hc] at hq
        cases hq
        exact ⟨fun _ => nofun, List.forall_mem_cons.2 ⟨hopen hc, hlater⟩⟩
      · rw [if_neg hc] at hq
        cases hq
        exact ⟨fun hb he => hfirst ⟨hb, Option.some.inj he⟩, hlater⟩
  obtain ⟨q, qs, hq⟩ := List.exists_cons_of_ne_nil (pieces_ne_nil '\n' cs)
  obtain ⟨hopen, hlater⟩ := hpieces '\n' cs h q qs hq
  rw [hq] at hp
  obtain rfl | hp := List.mem_cons.1 hp
  · exact hopen rfl
  · exact hlater p hp

end Unbracketed
end AccountRegistry.Text
