import AccountRegistry.Proofs.Config.RoundTrip
import AccountRegistry.Proofs.Toml.Wholes
import Mathlib.Algebra.Group.Int.Defs

set_option autoImplicit false

/-!
# Whole numbers as settings

A whole number that is given without quotes is the text of its decimal digits, so
long as it has a place among the numbers of sixty-four bits. Beyond them it is
refused, never taken for another number.
-/
namespace AccountRegistry.Config
open AccountRegistry.Settings (Value Layer Scalar IsPlain)
open AccountRegistry.Text (enquoted)

def replaced (c : Config) (s : Setting) (text : String) : Config :=
  match s with
  | .credentialSuffix => { c with credentialSuffix := text }
  | .demoUsername => { c with demoUsername := text }
  | .demoSecret => { c with demoSecret := text }

theorem get_replaced (c : Config) (s s' : Setting) (text : String) :
    (c.replaced s text).get s' = if s' = s then text else c.get s' := by
  cases s <;> cases s' <;> rfl

theorem replaced_suffix_ne_empty (s : Setting) {text : String} (h : text ≠ "") :
    (default.replaced s text).credentialSuffix ≠ "" := by
  cases s with
  | credentialSuffix => exact h
  | demoUsername => exact (by decide : default.credentialSuffix ≠ "")
  | demoSecret => exact (by decide : default.credentialSuffix ≠ "")

theorem lookup_entry (s s' : Setting) (v : Value) :
    [(s.key, v)].lookup s'.key = if s' = s then some v else none := by
  by_cases hs : s' = s
  · rw [if_pos hs, hs]
    exact List.lookup_cons_self
  · have hkey : (s'.key == s.key) = false := beq_false_of_ne fun he => hs (key_injective he)
    rw [if_neg hs, List.lookup_cons, hkey]
    rfl

theorem ofLayers_entry (s : Setting) {x : Scalar} (h : x.asText ≠ "") :
    ofLayers [⟨none, [(s.key, .scalar x)]⟩] = .ok (default.replaced s x.asText) := by
  have hplain : ∀ e ∈ [(s.key, Value.scalar x)], IsPlain e.1 := fun e he =>
    List.mem_singleton.1 he ▸ isPlain_key s
  have hchosen : ∀ s', taken none s' (chosen [(s.key, .scalar x)] [] s') =
      .ok ((default.replaced s x.asText).get s') := by
    intro s'
    have hlookup := lookup_entry s s' (.scalar x)
    rw [get_replaced]
    by_cases hs : s' = s
    · rw [if_pos hs] at hlookup ⊢
      rw [chosen_of_file rfl hlookup nofun]
      rfl
    · rw [if_neg hs] at hlookup ⊢
      rw [chosen_of_silent rfl (.inl hlookup)]
      rfl
  have hlayers : ofLayers [⟨none, [(s.key, .scalar x)]⟩, environmentLayer []] =
      .ok (default.replaced s x.asText) :=
    ofLayers_of_taken (replaced_suffix_ne_empty s h) none hplain (List.nodup_singleton _)
      (fun _ hv => nomatch hv) List.nodup_nil hchosen
  exact (ofLayers_silent _).symm.trans hlayers

theorem ofToml_of_read? [Parsers] {text : String} {s : Setting} {x : Scalar} (h : x.asText ≠ "")
    (hread : Toml.read? text = some [(s.key, .scalar x)]) :
    ofToml text = .ok (default.replaced s x.asText) := by
  rw [ofToml, textLayer_of_parsed .toml hread]
  exact ofLayers_entry s h

theorem toString_ne_empty (n : Int) : toString n ≠ "" := (Toml.isBareKey_toString n).ne_empty

theorem asText_whole (n : Int) : (Scalar.whole n).asText = toString n := by
  rw [Scalar.asText, ← Text.Digits.toList_toString, String.ofList_toList]

theorem enquoted_toString (n : Int) : enquoted false (toString n) = "\"" ++ toString n ++ "\"" := by
  have hplain : ∀ c ∈ (toString n).toList, Text.Escaping.escape false c = [c] := by
    intro c hc
    rw [Text.Digits.toList_toString] at hc
    obtain ⟨d, hd, rfl⟩ | rfl := Text.Digits.mem_writeInt hc
    · have all : ∀ e : Fin 10, Text.Escaping.escape false (Text.Digits.digit e.val) =
          [Text.Digits.digit e.val] := by decide
      exact all ⟨d, hd⟩
    · decide
  rw [enquoted, List.flatMap_congr hplain, List.flatMap_singleton', String.ofList_toList]

theorem isWord64_iff (n : Int) : Text.Digits.isWord64 n = true ↔ -2 ^ 63 ≤ n ∧ n < 2 ^ 63 := by
  simp [Text.Digits.isWord64]

/-- Without quotes and between them a whole number of sixty-four bits is one and the same text. A
greater or smaller one is malformed without quotes. -/
theorem whole_numbers_exact [Parsers] (s : Setting) (n : Int) :
    ofToml (s.key ++ " = \"" ++ toString n ++ "\"") = .ok (default.replaced s (toString n)) ∧
    ∀ l ∈ Toml.literals n,
      (-2 ^ 63 ≤ n ∧ n < 2 ^ 63 →
        ofToml (s.key ++ " = " ++ l) = .ok (default.replaced s (toString n))) ∧
      (¬ (-2 ^ 63 ≤ n ∧ n < 2 ^ 63) →
        ofToml (s.key ++ " = " ++ l) =
          .error (.refused (.fileParse (Parsers.refusal .toml (s.key ++ " = " ++ l)) none))) := by
  have hbare := isBareKey_key s
  refine ⟨?_, fun l hl => ?_⟩
  · have hmarks : " = " ++ "\"" = " = \"" := by decide
    have htext : s.key ++ " = \"" ++ toString n ++ "\"" =
        s.key ++ " = " ++ enquoted false (toString n) := by
      rw [enquoted_toString, ← hmarks]
      simp only [String.append_assoc]
    rw [htext]
    exact ofToml_of_read? (x := .text (toString n)) (toString_ne_empty n)
      (Toml.read?_quoted hbare _)
  · have hread := Toml.read?_literal hbare hl
    rw [← isWord64_iff]
    refine ⟨fun hword => ?_, fun hword => ?_⟩
    · rw [if_pos hword] at hread
      rw [← asText_whole]
      exact ofToml_of_read? (asText_whole n ▸ toString_ne_empty n) hread
    · rw [if_neg hword] at hread
      rw [ofToml, textLayer_of_malformed .toml hread]
      rfl

theorem whole_numbers_exact_limits :
    ofToml "demo_secret = -9223372036854775808" =
      .ok ⟨"_hashed", "alice", "-9223372036854775808"⟩ ∧
    ofToml "credential_suffix = +9223372036854775807" =
      .ok ⟨"9223372036854775807", "alice", "password123"⟩ ∧
    ofToml "credential_suffix = \"9223372036854775807\"" =
      .ok ⟨"9223372036854775807", "alice", "password123"⟩ ∧
    ofToml "demo_username = 9223372036854775808" =
      .error (.refused (.fileParse "malformed TOML" none)) := by
  have hleast : toString (-2 ^ 63 : Int) = "-9223372036854775808" := by decide +kernel
  have hgreatest : toString (2 ^ 63 - 1 : Int) = "9223372036854775807" := by decide +kernel
  have hbeyond : toString (2 ^ 63 : Int) = "9223372036854775808" := by decide +kernel
  have hsecret := ((whole_numbers_exact .demoSecret (-2 ^ 63)).2 _ List.mem_cons_self).1 (by decide)
  have hsigned : "+9223372036854775807" ∈ Toml.literals (2 ^ 63 - 1) := by decide +kernel
  obtain ⟨hquoted, hsuffix⟩ := whole_numbers_exact .credentialSuffix (2 ^ 63 - 1)
  have hplus := (hsuffix _ hsigned).1 (by decide)
  have hrefused := ((whole_numbers_exact .demoUsername (2 ^ 63)).2 _ List.mem_cons_self).2 (by decide)
  rw [hleast] at hsecret
  rw [hgreatest] at hquoted hplus
  rw [hbeyond] at hrefused
  exact ⟨hsecret, hplus, hquoted, hrefused⟩

end AccountRegistry.Config
