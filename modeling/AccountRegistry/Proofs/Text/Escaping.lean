import AccountRegistry.Proofs.Text.Quoted

set_option autoImplicit false

/-!
# Texts between quotes

How a text is written in TOML and JSON alike: a quote and a backslash follow a
backslash, a control character is given by its code point, and every other
character stands for itself.
-/
namespace AccountRegistry.Text

namespace Escaping

def hexDigit (capital : Bool) (d : Nat) : Char :=
  if capital ∧ 10 ≤ d then Char.ofNat ('A'.toNat + (d - 10)) else Digits.digit d

def fourDigits (capital : Bool) (n : Nat) : List Char :=
  [n / 0x1000, n / 0x100 % 0x10, n / 0x10 % 0x10, n % 0x10].map (hexDigit capital)

def escape (capital : Bool) (c : Char) : List Char :=
  if c = '"' then ['\\', '"']
  else if c = '\\' then ['\\', '\\']
  else if isControl c then '\\' :: 'u' :: fourDigits capital c.toNat
  else [c]

theorem valueIn?_hexDigit (capital : Bool) {d : Nat} (hd : d < 16) :
    Digits.valueIn? 16 (hexDigit capital d) = some d := by
  have all : ∀ (b : Bool) (e : Fin 16), Digits.valueIn? 16 (hexDigit b e.val) = some e.val := by
    decide
  exact all capital ⟨d, hd⟩

theorem read?_fourDigits (capital : Bool) {n : Nat} (hn : n < 0x10000) :
    Digits.read? 16 (fourDigits capital n) = some n := by
  have hfirst : n / 0x1000 < 16 := by omega
  have hsecond : n / 0x100 % 0x10 < 16 := Nat.mod_lt _ (by decide)
  have hthird : n / 0x10 % 0x10 < 16 := Nat.mod_lt _ (by decide)
  have hfourth : n % 0x10 < 16 := Nat.mod_lt _ (by decide)
  simp only [Digits.read?, fourDigits, List.map_cons, List.map_nil, Digits.readFrom,
    valueIn?_hexDigit capital hfirst, valueIn?_hexDigit capital hsecond,
    valueIn?_hexDigit capital hthird, valueIn?_hexDigit capital hfourth, Option.bind_some,
    Option.some.injEq]
  omega

theorem length_fourDigits (capital : Bool) (n : Nat) : (fourDigits capital n).length = 4 := rfl

theorem toNat_lt_of_isControl {c : Char} (h : isControl c = true) : c.toNat < 0xA0 := by
  simp only [isControl, Bool.or_eq_true, Bool.and_eq_true, decide_eq_true_eq] at h
  omega

theorem isControl_hexDigit (capital : Bool) {d : Nat} (hd : d < 16) :
    isControl (hexDigit capital d) = false := by
  have all : ∀ (b : Bool) (e : Fin 16), isControl (hexDigit b e.val) = false := by decide
  exact all capital ⟨d, hd⟩

theorem isControl_fourDigits {capital : Bool} {n : Nat} (hn : n < 0x10000) {d : Char}
    (h : d ∈ fourDigits capital n) : isControl d = false := by
  obtain ⟨e, he, rfl⟩ := List.mem_map.1 h
  have hlow : e < 16 := by
    simp only [List.mem_cons, List.not_mem_nil, or_false] at he
    omega
  exact isControl_hexDigit capital hlow

/-- A quote or a backslash, a control character, and any other. -/
theorem escape_cases (capital : Bool) (c : Char) :
    (c = '"' ∨ c = '\\') ∧ escape capital c = ['\\', c] ∨
    isControl c = true ∧ escape capital c = '\\' :: 'u' :: fourDigits capital c.toNat ∨
    (c ≠ '"' ∧ c ≠ '\\' ∧ ¬ isControl c = true) ∧ escape capital c = [c] := by
  unfold escape
  split
  · next hquote => exact .inl ⟨.inl hquote, by rw [hquote]⟩
  · next hquote =>
    split
    · next hbackslash => exact .inl ⟨.inr hbackslash, by rw [hbackslash]⟩
    · next hbackslash =>
      split
      · next hcontrol => exact .inr (.inl ⟨hcontrol, rfl⟩)
      · next hcontrol => exact .inr (.inr ⟨⟨hquote, hbackslash, hcontrol⟩, rfl⟩)

theorem isControl_escape {capital : Bool} {c d : Char} (h : d ∈ escape capital c) :
    isControl d = false := by
  obtain ⟨hpair, hescape⟩ | ⟨hcontrol, hescape⟩ | ⟨⟨-, -, hcontrol⟩, hescape⟩ := escape_cases capital c
  · rw [hescape, List.mem_cons, List.mem_singleton] at h
    obtain rfl | rfl := h
    · decide
    · obtain rfl | rfl := hpair <;> decide
  · rw [hescape, List.mem_cons, List.mem_cons] at h
    obtain rfl | rfl | hdigit := h
    · decide
    · decide
    · exact isControl_fourDigits (Nat.lt_trans (toNat_lt_of_isControl hcontrol) (by decide)) hdigit
  · rw [hescape, List.mem_singleton] at h
    rw [h]
    exact Bool.eq_false_iff.2 hcontrol

end Escaping

def enquoted (capital : Bool) (s : String) : String :=
  "\"" ++ String.ofList (s.toList.flatMap (Escaping.escape capital)) ++ "\""

theorem toList_enquoted (capital : Bool) (s : String) : (enquoted capital s).toList =
    '"' :: (s.toList.flatMap (Escaping.escape capital) ++ ['"']) := by
  simp [enquoted]

theorem toList_enquoted_append (capital : Bool) (s : String) (rest : List Char) :
    (enquoted capital s).toList ++ rest =
      '"' :: (s.toList.flatMap (Escaping.escape capital) ++ '"' :: rest) := by
  rw [toList_enquoted, List.cons_append, List.append_assoc, List.singleton_append]

theorem isVisible_enquoted (capital : Bool) (s : String) :
    isVisible (enquoted capital s) = true := by
  refine List.all_eq_true.2 fun c hc => ?_
  rw [toList_enquoted, List.mem_cons, List.mem_append, List.mem_singleton] at hc
  rw [Bool.not_eq_true']
  obtain rfl | hinside | rfl := hc
  · decide
  · obtain ⟨e, -, he⟩ := List.mem_flatMap.1 hinside
    exact Escaping.isControl_escape he
  · decide

example : enquoted true "a\"\\\n\u007f\u0300" = "\"a\\\"\\\\\\u000A\\u007F\u0300\"" := by
  decide +kernel

end AccountRegistry.Text
