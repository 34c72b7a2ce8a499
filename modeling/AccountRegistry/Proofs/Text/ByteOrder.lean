import Mathlib.Data.String.Basic

set_option autoImplicit false

/-!
# The order of texts by their bytes

The bytes of texts in UTF-8 are in the same lexicographic order as their code
points: of two characters the one with fewer bytes starts with the lesser byte,
and two of equally many bytes are told apart by the first group of bits in which
they differ.
-/
namespace AccountRegistry.Text

def utf8 (s : String) : List UInt8 := s.toUTF8.data.toList

def codePoints (s : String) : List Nat := s.toList.map Char.toNat

theorem utf8_eq_flatMap (s : String) : utf8 s = s.toList.flatMap String.utf8EncodeChar := by
  rw [utf8, String.toUTF8_eq_toByteArray, ← String.utf8Encode_toList, List.utf8Encode,
    List.toList_data_toByteArray]

section Bytes
variable {m n : Nat} {xs ys : List UInt8}

theorem bytes_lt_of_lt (h : m < n) (hn : n < 256 := by omega) :
    UInt8.ofNat m :: xs < UInt8.ofNat n :: ys :=
  List.cons_lt_cons_iff.2 (.inl ((UInt8.ofNat_lt_iff_lt (h.trans hn) hn).2 h))

theorem bytes_lt_of_le (h : m ≤ n) (hrest : m = n → xs < ys) (hn : n < 256 := by omega) :
    UInt8.ofNat m :: xs < UInt8.ofNat n :: ys := by
  obtain hlt | rfl := Nat.lt_or_eq_of_le h
  · exact bytes_lt_of_lt hlt
  · exact List.cons_lt_cons_iff.2 (.inr ⟨rfl, hrest rfl⟩)

end Bytes

theorem toNat_lt (c : Char) : c.toNat < 0x110000 := by
  have hvalid : c.toNat < 0xD800 ∨ 0xDFFF < c.toNat ∧ c.toNat < 0x110000 := c.valid
  omega

/-- Whatever follows them, the bytes of two different characters decide. -/
theorem encodeChar_lt {c d : Char} (h : c < d) (xs ys : List UInt8) :
    String.utf8EncodeChar c ++ xs < String.utf8EncodeChar d ++ ys := by
  have hlt : c.val.toNat < d.val.toNat := h
  have hbound : d.val.toNat < 0x110000 := toNat_lt d
  unfold String.utf8EncodeChar
  generalize c.val.toNat = m at hlt
  generalize d.val.toNat = n at hlt hbound
  dsimp only
  -- by the number of bytes of the greater one; with fewer bytes the other starts below it
  obtain hfour | hfour := Nat.lt_or_ge 65535 n
  · rw [if_neg (by omega : ¬ n ≤ 127), if_neg (by omega : ¬ n ≤ 2047),
      if_neg (by omega : ¬ n ≤ 65535)]
    split_ifs
    · exact bytes_lt_of_lt (by omega)
    · exact bytes_lt_of_lt (by omega)
    · exact bytes_lt_of_lt (by omega)
    · exact bytes_lt_of_le (by omega) fun _ => bytes_lt_of_le (by omega) fun _ =>
        bytes_lt_of_le (by omega) fun _ => bytes_lt_of_lt (by omega)
  rw [if_pos (by omega : m ≤ 65535), if_pos hfour]
  obtain hthree | hthree := Nat.lt_or_ge 2047 n
  · rw [if_neg (by omega : ¬ n ≤ 127), if_neg (by omega : ¬ n ≤ 2047)]
    split_ifs
    · exact bytes_lt_of_lt (by omega)
    · exact bytes_lt_of_lt (by omega)
    · exact bytes_lt_of_le (by omega) fun _ => bytes_lt_of_le (by omega) fun _ =>
        bytes_lt_of_lt (by omega)
  rw [if_pos (by omega : m ≤ 2047), if_pos hthree]
  obtain htwo | hone := Nat.lt_or_ge 127 n
  · rw [if_neg (by omega : ¬ n ≤ 127)]
    split_ifs
    · exact bytes_lt_of_lt (by omega)
    · exact bytes_lt_of_le (by omega) fun _ => bytes_lt_of_lt (by omega)
  rw [if_pos (by omega : m ≤ 127), if_pos hone]
  exact bytes_lt_of_lt (by omega)

theorem encodeChars_lt {cs ds : List Char} (h : cs < ds) :
    cs.flatMap String.utf8EncodeChar < ds.flatMap String.utf8EncodeChar := by
  induction cs generalizing ds with
  | nil =>
    cases ds with
    | nil => cases h
    | cons d ds =>
      rw [List.flatMap_nil, List.flatMap_cons]
      obtain ⟨b, bs, hd⟩ := List.exists_cons_of_ne_nil (String.utf8EncodeChar_ne_nil (c := d))
      rw [hd]
      exact List.nil_lt_cons _ _
  | cons c cs ih =>
    cases ds with
    | nil => cases h
    | cons d ds =>
      rw [List.flatMap_cons, List.flatMap_cons]
      obtain hlt | ⟨rfl, hrest⟩ := List.cons_lt_cons_iff.1 h
      · exact encodeChar_lt hlt _ _
      · exact List.append_left_lt (ih hrest)

theorem utf8_lt_iff {u v : String} : utf8 u < utf8 v ↔ u < v := by
  have hmono : ∀ {u v : String}, u < v → utf8 u < utf8 v := by
    intro u v h
    rw [utf8_eq_flatMap, utf8_eq_flatMap]
    exact encodeChars_lt (String.lt_iff_toList_lt.1 h)
  refine ⟨fun h => ?_, hmono⟩
  -- the other two ways in which the texts may compare are lost in the bytes
  obtain hlt | rfl | hgt := lt_trichotomy u v
  · exact hlt
  · exact absurd h (List.lt_irrefl _)
  · exact absurd h (List.lt_asymm (hmono hgt))

theorem codePoints_lt_iff {u v : String} : codePoints u < codePoints v ↔ u < v := by
  have hchars : ∀ cs ds : List Char, cs.map Char.toNat < ds.map Char.toNat ↔ cs < ds := by
    intro cs
    induction cs with
    | nil => intro ds; cases ds <;> simp
    | cons c cs ih =>
      intro ds
      cases ds with
      | nil => simp
      | cons d ds =>
        rw [List.map_cons, List.map_cons, List.cons_lt_cons_iff, List.cons_lt_cons_iff, ih,
          Char.toNat_inj]
        rfl
  rw [String.lt_iff_toList_lt]
  exact hchars _ _

end AccountRegistry.Text
