import AccountRegistry.Proofs.Text.Quoted

set_option autoImplicit false

/-!
# Reading quoted text back

An escape tells where it ends, and a quote that is not escaped ends the text. So
whatever follows a quoted text, both the text and what follows can be told from
the two together.
-/
namespace AccountRegistry.Text

namespace Quoted

def escaped? : List Char → Option (Char × List Char)
  | '"' :: cs => some ('"', cs)
  | '\\' :: cs => some ('\\', cs)
  | 'n' :: cs => some ('\n', cs)
  | 'r' :: cs => some ('\r', cs)
  | 't' :: cs => some ('\t', cs)
  | '0' :: cs => some ('\x00', cs)
  | 'u' :: '\x7b' :: cs =>
    let ds := cs.takeWhile (· ≠ '\x7d')
    (Digits.read? 16 ds).map fun n => (Char.ofNat n, cs.drop (ds.length + 1))
  | _ => none

def unescape? : List Char → Option (Char × List Char)
  | [] => none
  | c :: cs => if c = '\\' then escaped? cs else some (c, cs)

theorem unescape?_backslash (cs : List Char) : unescape? ('\\' :: cs) = escaped? cs := rfl

theorem brace_notMem_write (n : Nat) : '\x7d' ∉ Digits.write 16 n := by
  intro hmem
  obtain ⟨d, hd, he⟩ := Digits.mem_write (by decide) hmem
  have all : ∀ e : Fin 16, '\x7d' ≠ Digits.digit e.val := by decide
  exact all ⟨d, hd⟩ he

theorem unescape?_hexEscape (c : Char) (rest : List Char) :
    unescape? (hexEscape c ++ rest) = some (c, rest) := by
  have hdigits : (Digits.write 16 c.toNat ++ '\x7d' :: rest).takeWhile (· ≠ '\x7d') =
      Digits.write 16 c.toNat := by
    rw [List.takeWhile_append_of_pos]
    · simp
    · intro d hd
      exact decide_eq_true fun he => brace_notMem_write _ (he ▸ hd)
  have hform : hexEscape c ++ rest =
      '\\' :: 'u' :: '\x7b' :: (Digits.write 16 c.toNat ++ '\x7d' :: rest) := by
    simp [hexEscape]
  rw [hform, unescape?_backslash, escaped?]
  simp only [hdigits, Digits.read?_write (by decide : 2 ≤ 16) (by decide), Option.map_some,
    Char.ofNat_toNat, List.drop_append, Option.some.injEq, Prod.mk.injEq, true_and]
  simp

theorem unescape?_escape (c : Char) (rest : List Char) :
    unescape? (escape c ++ rest) = some (c, rest) := by
  unfold escape
  split
  · rfl
  · rfl
  · rfl
  · rfl
  · rfl
  · rfl
  · next hquote hbackslash _ _ _ _ =>
    split
    · exact unescape?_hexEscape c rest
    · exact if_neg hbackslash

theorem exists_escape (c : Char) : ∃ first more, escape c = first :: more ∧ first ≠ '"' := by
  unfold escape
  split
  · exact ⟨_, _, rfl, by decide⟩
  · exact ⟨_, _, rfl, by decide⟩
  · exact ⟨_, _, rfl, by decide⟩
  · exact ⟨_, _, rfl, by decide⟩
  · exact ⟨_, _, rfl, by decide⟩
  · exact ⟨_, _, rfl, by decide⟩
  · next hquote _ _ _ _ _ =>
    split
    · exact ⟨_, _, rfl, by decide⟩
    · exact ⟨_, _, rfl, hquote⟩

theorem escapes_ne_quote (c : Char) (cs xs ys : List Char) :
    (c :: cs).flatMap escape ++ xs ≠ '"' :: ys := by
  obtain ⟨first, more, hescape, hne⟩ := exists_escape c
  rw [List.flatMap_cons, hescape]
  exact fun h => hne (List.cons.inj h).1

/-- A quote after some escapes is the end of them. -/
theorem escapes_append_inj {cs ds xs ys : List Char}
    (h : cs.flatMap escape ++ '"' :: xs = ds.flatMap escape ++ '"' :: ys) :
    cs = ds ∧ xs = ys := by
  induction cs generalizing ds with
  | nil =>
    cases ds with
    | nil => exact ⟨rfl, (List.cons.inj h).2⟩
    | cons d ds => exact absurd h.symm (escapes_ne_quote d ds _ _)
  | cons c cs ih =>
    cases ds with
    | nil => exact absurd h (escapes_ne_quote c cs _ _)
    | cons d ds =>
      rw [List.flatMap_cons, List.flatMap_cons, List.append_assoc, List.append_assoc] at h
      have hread := congrArg unescape? h
      rw [unescape?_escape, unescape?_escape, Option.some.injEq, Prod.mk.injEq] at hread
      obtain ⟨rfl, hrest⟩ := hread
      obtain ⟨rfl, hafter⟩ := ih hrest
      exact ⟨rfl, hafter⟩

end Quoted

theorem toList_quote_append (u s : String) :
    (quote u ++ s).toList = '"' :: (u.toList.flatMap Quoted.escape ++ '"' :: s.toList) := by
  simp [quote, Quoted.quoteChars]

/-- Of two quoted texts with something after them, the one determines the other. -/
theorem quote_append_inj {u v s t : String} : quote u ++ s = quote v ++ t ↔ u = v ∧ s = t := by
  constructor
  · intro h
    rw [← String.toList_inj, toList_quote_append, toList_quote_append, List.cons.injEq] at h
    obtain ⟨htext, hafter⟩ := Quoted.escapes_append_inj h.2
    exact ⟨String.toList_inj.1 htext, String.toList_inj.1 hafter⟩
  · rintro ⟨rfl, rfl⟩
    rfl

def quotedFields (fields : List (String × String)) : List (String × String) :=
  fields.map fun f => (f.1, quote f.2)

theorem fields_append_inj {fields fields' : List (String × String)}
    (hkeys : fields.map Prod.fst = fields'.map Prod.fst) {s t : String}
    (h : ", ".intercalate ((quotedFields fields).map fun f => f.1 ++ ": " ++ f.2) ++ s =
      ", ".intercalate ((quotedFields fields').map fun f => f.1 ++ ": " ++ f.2) ++ t) :
    fields = fields' := by
  induction fields generalizing fields' with
  | nil => exact (List.map_eq_nil_iff.1 hkeys.symm).symm
  | cons f fields ih =>
    obtain ⟨f', fields', rfl⟩ : ∃ f' rest, fields' = f' :: rest :=
      List.exists_cons_of_ne_nil fun he => by rw [he] at hkeys; cases hkeys
    obtain ⟨key, v⟩ := f
    obtain ⟨key', v'⟩ := f'
    obtain ⟨rfl, hrest⟩ := List.cons.inj hkeys
    have hlengths := congrArg List.length hrest
    cases fields with
    | nil =>
      obtain rfl := List.map_eq_nil_iff.1 hrest.symm
      simp only [quotedFields, List.map_cons, List.map_nil, String.intercalate_singleton,
        String.append_assoc, String.append_right_inj, quote_append_inj] at h
      rw [h.1]
    | cons g fields =>
      obtain ⟨g', fields', rfl⟩ : ∃ g' rest, fields' = g' :: rest :=
        List.exists_cons_of_ne_nil fun he => by rw [he] at hrest; cases hrest
      simp only [quotedFields, List.map_cons, String.intercalate_cons_cons,
        String.append_assoc, String.append_right_inj, quote_append_inj] at h
      rw [h.1, ih hrest]
      simpa only [quotedFields, List.map_cons, String.append_assoc] using h.2

/-- Records with the same fields have the same description only if they have the same texts. -/
theorem describe_quoted_inj {name : String} {fields fields' : List (String × String)}
    (hkeys : fields.map Prod.fst = fields'.map Prod.fst)
    (h : describe name (quotedFields fields) = describe name (quotedFields fields')) :
    fields = fields' := by
  have hassoc : ∀ gs, describe name gs =
      name ++ (" \x7b " ++ (", ".intercalate (gs.map fun f => f.1 ++ ": " ++ f.2) ++ " \x7d")) := by
    intro gs
    rw [describe, String.append_assoc, String.append_assoc]
  rw [hassoc, hassoc, String.append_right_inj, String.append_right_inj] at h
  exact fields_append_inj hkeys h

end AccountRegistry.Text
