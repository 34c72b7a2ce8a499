import AccountRegistry.Proofs.Text.Quoted

set_option autoImplicit false

/-!
# Decimal text

The digits that are written of a number in base ten are those of its usual text:
digits and nothing else, after a minus sign where it is negative, and no zero in
front of others.
-/
namespace AccountRegistry.Text.Digits

theorem digit_eq_digitChar {d : Nat} (hd : d < 10) : digit d = d.digitChar := by
  have all : ∀ e : Fin 10, digit e.val = e.val.digitChar := by decide
  exact all ⟨d, hd⟩

theorem write_eq_toDigits (n : Nat) : write 10 n = Nat.toDigits 10 n := by
  induction n using Nat.strongRecOn with
  | ind n ih =>
    rw [write, Nat.toDigits_eq_if (by decide)]
    by_cases hlast : n < 10
    · rw [if_pos (.inl hlast), if_pos hlast, digit_eq_digitChar hlast]
    · have hrest : n % 10 < 10 := Nat.mod_lt _ (by decide)
      rw [if_neg (by omega), if_neg hlast, ih _ (by omega), digit_eq_digitChar hrest]

theorem toString_eq_decimal (n : Nat) : toString n = decimal n := by
  have htext : toString n = n.repr := rfl
  rw [htext, decimal, write_eq_toDigits, ← Nat.toList_repr, String.ofList_toList]

theorem toList_toString (n : Int) : (toString n).toList = writeInt n := by
  cases n with
  | ofNat m =>
    have htext : toString (Int.ofNat m) = m.repr := rfl
    rw [htext, Nat.toList_repr, writeInt, write_eq_toDigits]
  | negSucc m =>
    have htext : toString (Int.negSucc m) = "-" ++ (m + 1).repr := rfl
    rw [htext, String.toList_append, Nat.toList_repr, writeInt, write_eq_toDigits]
    rfl

theorem isDecimal_digit {d : Nat} (hd : d < 10) : isDecimal (digit d) = true := by
  have all : ∀ e : Fin 10, isDecimal (digit e.val) = true := by decide
  exact all ⟨d, hd⟩

theorem isDecimal_of_mem_write {n : Nat} {c : Char} (h : c ∈ write 10 n) : isDecimal c = true := by
  obtain ⟨d, hd, rfl⟩ := mem_write (by decide) h
  exact isDecimal_digit hd

theorem notMem_write (n : Nat) {c : Char} (h : isDecimal c = false) : c ∉ write 10 n := by
  intro hmem
  rw [isDecimal_of_mem_write hmem] at h
  cases h

theorem exists_write (n : Nat) : ∃ c cs, write 10 n = c :: cs ∧ isDecimal c = true := by
  cases hwrite : write 10 n with
  | nil => exact absurd hwrite (write_ne_nil 10 n)
  | cons c cs => exact ⟨c, cs, rfl, isDecimal_of_mem_write (hwrite ▸ List.mem_cons_self)⟩

theorem head?_write_of_ne_zero {n : Nat} (h : n ≠ 0) : (write 10 n).head? ≠ some '0' := by
  induction n using Nat.strongRecOn with
  | ind n ih =>
    rw [write]
    split
    · next hlast =>
      have all : ∀ e : Fin 10, e.val ≠ 0 → digit e.val ≠ '0' := by decide
      exact fun hzero => all ⟨n, by omega⟩ h (Option.some.inj hzero)
    · obtain ⟨c, cs, hfront, -⟩ := exists_write (n / 10)
      have hzero := ih (n / 10) (by omega) (by omega)
      rw [hfront] at hzero ⊢
      exact hzero

theorem length_write_of_zero {n : Nat} (h : (write 10 n).head? = some '0') :
    (write 10 n).length = 1 := by
  obtain rfl : n = 0 := Decidable.byContradiction fun hn => head?_write_of_ne_zero hn h
  rw [write]
  rfl

theorem mem_writeInt {n : Int} {c : Char} (h : c ∈ writeInt n) :
    (∃ d < 10, c = digit d) ∨ c = '-' := by
  cases n with
  | ofNat m => exact .inl (mem_write (by decide) h)
  | negSucc m =>
    obtain rfl | h := List.mem_cons.1 h
    · exact .inr rfl
    · exact .inl (mem_write (by decide) h)

theorem notMem_writeInt (n : Int) {c : Char} (h : (isDecimal c || c = '-') = false) :
    c ∉ writeInt n := by
  rw [Bool.or_eq_false_iff, decide_eq_false_iff_not] at h
  cases n with
  | ofNat m => exact notMem_write m h.1
  | negSucc m =>
    rintro (_ | ⟨_, hmem⟩)
    · exact h.2 rfl
    · exact notMem_write (m + 1) h.1 hmem

/-- A minus sign is in front or nowhere. -/
theorem isDecimal_of_mem_drop {n : Int} {c : Char} (h : c ∈ (writeInt n).drop 1) :
    isDecimal c = true := by
  cases n with
  | ofNat m => exact isDecimal_of_mem_write (List.mem_of_mem_drop h)
  | negSucc m => exact isDecimal_of_mem_write h

theorem splitMinus_writeInt (n : Int) :
    ∃ negative m, splitMinus (writeInt n) = (negative, write 10 m) ∧ withSign negative m = n := by
  cases n with
  | ofNat m =>
    obtain ⟨c, cs, hwrite, hc⟩ := exists_write m
    refine ⟨false, m, ?_, rfl⟩
    rw [writeInt, hwrite, splitMinus]
    rintro cs' hminus
    rw [(List.cons.inj hminus).1] at hc
    exact absurd hc (by decide)
  | negSucc m => exact ⟨true, m + 1, rfl, rfl⟩

end AccountRegistry.Text.Digits
