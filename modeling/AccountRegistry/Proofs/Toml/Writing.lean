import AccountRegistry.Proofs.Text.Escaping
import AccountRegistry.Proofs.Toml.Keys

set_option autoImplicit false

/-!
# Writing TOML

Texts under bare keys, each on a line of its own, are read back. What is said of
lines and documents holds for any value that is read as one item when its line
ends; a text between quotes is such a value.
-/
namespace AccountRegistry.Toml
open AccountRegistry.Text
open AccountRegistry.Settings (Scalar Value)

theorem codePoint?_fourDigits (capital : Bool) {c : Char} (hc : c.toNat < 0x10000)
    (rest : List Char) :
    ∃ h, codePoint? 4 (Escaping.fourDigits capital c.toNat ++ rest) = some ([c], ⟨rest, h⟩) := by
  have htake : (Escaping.fourDigits capital c.toNat ++ rest).take 4 =
      Escaping.fourDigits capital c.toNat := rfl
  have hvalid : c.toNat.isValidChar := c.valid
  refine ⟨by simp, ?_⟩
  rw [codePoint?, htake, if_pos (Escaping.length_fourDigits _ _), Escaping.read?_fourDigits _ hc]
  dsimp only
  rw [if_pos hvalid, Char.ofNat_toNat]
  rfl

theorem piece?_codePoint {cs rest : List Char} {text : List Char} {h : rest.length ≤ cs.length}
    (hcode : codePoint? 4 cs = some (text, ⟨rest, h⟩)) :
    piece? .basic false '\\' ('u' :: cs) =
      some ⟨false, text, ⟨rest, Nat.le_succ_of_le h⟩⟩ := by
  have hpiece : piece? .basic false '\\' ('u' :: cs) =
      (escape? false ('u' :: cs)).map fun e => ⟨false, e.1, e.2⟩ := rfl
  have hescape : escape? false ('u' :: cs) =
      (codePoint? 4 cs).map fun e => (e.1, Rest.within e.2 (Rest.length_le_cons 'u' cs)) := rfl
  rw [hpiece, hescape, hcode]
  rfl

theorem isPlain_of_not_isControl {c : Char} (h : ¬ isControl c = true) :
    c ≠ '\n' ∧ isPlain c = true := by
  simp only [isControl, Bool.or_eq_true, Bool.and_eq_true, decide_eq_true_eq, not_or] at h
  refine ⟨?_, ?_⟩
  · rintro rfl
    exact h.1 (by decide)
  · simp only [isPlain, isCommentChar, Bool.and_eq_true, Bool.or_eq_true, decide_eq_true_eq]
    omega

theorem exists_piece (capital : Bool) (c : Char) (rest : List Char) :
    ∃ first more h, Escaping.escape capital c = first :: more ∧ first ≠ '"' ∧
      piece? .basic false first (more ++ rest) = some ⟨false, [c], ⟨rest, h⟩⟩ := by
  obtain ⟨rfl | rfl, hescape⟩ | ⟨hcontrol, hescape⟩ | ⟨⟨hquote, hbackslash, hcontrol⟩, hescape⟩ :=
    Escaping.escape_cases capital c
  · exact ⟨_, _, Nat.le_succ _, hescape, by decide, rfl⟩
  · exact ⟨_, _, Nat.le_succ _, hescape, by decide, rfl⟩
  · have hc : c.toNat < 0x10000 :=
      Nat.lt_trans (Escaping.toNat_lt_of_isControl hcontrol) (by decide)
    obtain ⟨h, hcode⟩ := codePoint?_fourDigits capital hc rest
    exact ⟨'\\', 'u' :: Escaping.fourDigits capital c.toNat, Nat.le_succ_of_le h, hescape,
      by decide, piece?_codePoint hcode⟩
  · obtain ⟨hnewline, hplain⟩ := isPlain_of_not_isControl hcontrol
    refine ⟨c, [], Nat.le_refl _, hescape, hquote, ?_⟩
    rw [piece?, if_neg (show c ≠ Quotes.basic.mark from hquote), if_neg hnewline,
      if_neg fun h => hbackslash h.1, if_pos hplain]
    rfl

theorem body?_escaped (capital : Bool) (s rest : List Char) :
    ∃ h, body? .basic false (s.flatMap (Escaping.escape capital) ++ '"' :: rest) =
      some (s, ⟨rest, h⟩) := by
  induction s with
  | nil =>
    rw [List.flatMap_nil, List.nil_append]
    refine ⟨Nat.lt_succ_self _, ?_⟩
    rw [body?]
    rfl
  | cons c s ih =>
    obtain ⟨first, more, hmore, hescape, -, hpiece⟩ := exists_piece capital c
      (s.flatMap (Escaping.escape capital) ++ '"' :: rest)
    obtain ⟨h, hbody⟩ := ih
    rw [List.flatMap_cons, hescape, List.append_assoc, List.cons_append]
    refine ⟨Nat.lt_trans h (Rest.length_lt_cons first hmore), ?_⟩
    rw [body?, hpiece]
    dsimp only
    rw [hbody]
    rfl

/-- A string ends at its closing quote, unless it is empty and a third quote follows. -/
theorem string?_escaped (capital : Bool) (s : List Char) {rest : List Char}
    (hrest : rest.head? ≠ some '"') :
    ∃ h, string? .basic (s.flatMap (Escaping.escape capital) ++ '"' :: rest) =
      some (.quoted s false, ⟨rest, h⟩) := by
  cases s with
  | nil =>
    have hopen : ¬ ((('"' :: rest).take 2).all (· = Quotes.basic.mark) ∧
        (('"' :: rest).take 2).length = 2) := by
      cases rest with
      | nil => decide
      | cons d rest =>
        rintro ⟨hall, -⟩
        simp only [List.take_succ_cons, List.take_zero, List.all_cons, Bool.and_eq_true,
          decide_eq_true_eq] at hall
        exact hrest (congrArg some hall.2.1)
    rw [List.flatMap_nil, List.nil_append]
    refine ⟨Nat.le_succ _, ?_⟩
    rw [string?, if_neg hopen]
    rfl
  | cons c s =>
    obtain ⟨first, more, -, hescape, hquote, -⟩ := exists_piece capital c
      (s.flatMap (Escaping.escape capital) ++ '"' :: rest)
    have hbody := body?_escaped capital (c :: s) rest
    rw [List.flatMap_cons, hescape, List.append_assoc, List.cons_append] at hbody ⊢
    obtain ⟨h, hbody⟩ := hbody
    have hopen : ∀ cs : List Char, ¬ (((first :: cs).take 2).all (· = Quotes.basic.mark) ∧
        ((first :: cs).take 2).length = 2) := fun cs hall =>
      hquote (of_decide_eq_true (Bool.and_eq_true_iff.1 hall.1).1)
    have hhead : ∀ cs : List Char, ¬ (first :: cs).head? = some Quotes.basic.mark := fun cs he =>
      hquote (Option.some.inj he)
    refine ⟨Nat.le_of_lt h, ?_⟩
    rw [string?, if_neg (hopen _), if_neg (hhead _), hbody]
    rfl

def EndsLine {α : Type} (newline : α) (rest : List α) : Prop := ∀ x ∈ rest.head?, x = newline

theorem endsLine_nil {α : Type} (newline : α) : EndsLine newline [] := fun _ h => nomatch h

theorem endsLine_cons {α : Type} (newline : α) (rest : List α) :
    EndsLine newline (newline :: rest) := fun _ h => (Option.some.inj h).symm

theorem EndsLine.cases {α : Type} {newline : α} {rest : List α} (h : EndsLine newline rest) :
    rest = [] ∨ ∃ more, rest = newline :: more := by
  cases rest with
  | nil => exact .inl rfl
  | cons x more => exact .inr ⟨more, by rw [h x rfl]⟩

theorem scanAll?_cons {c : Char} {cs rest : List Char} {t : Token} {h : rest.length ≤ cs.length}
    (hscan : scan? c cs = some (t, ⟨rest, h⟩)) :
    scanAll? (c :: cs) = (scanAll? rest).map (t :: ·) := by
  rw [scanAll?, hscan]

theorem scanAll?_newline (cs : List Char) :
    scanAll? ('\n' :: cs) = (scanAll? cs).map (.newline :: ·) :=
  scanAll?_cons (h := Nat.le_refl _) rfl

theorem scanAll?_equals (cs : List Char) :
    scanAll? ('=' :: cs) = (scanAll? cs).map (.equals :: ·) :=
  scanAll?_cons (h := Nat.le_refl _) rfl

theorem scanAll?_blank {cs : List Char} (h : ∀ c ∈ cs.head?, isBlank c = false) :
    scanAll? (' ' :: cs) = (scanAll? cs).map (.blank [' '] :: ·) := by
  have hspan : cs.takeWhile isBlank = [] ∧ cs.dropWhile isBlank = cs := by
    cases cs with
    | nil => exact ⟨rfl, rfl⟩
    | cons c cs => simp [h c rfl]
  have hscan : scan? ' ' cs =
      some (.blank (' ' :: cs.takeWhile isBlank), Rest.dropping isBlank cs) := rfl
  rw [scanAll?_cons hscan, hspan.1, hspan.2]

theorem scanAll?_quoted (capital : Bool) (s : String) {rest : List Char}
    (hrest : rest.head? ≠ some '"') :
    scanAll? ((enquoted capital s).toList ++ rest) =
      (scanAll? rest).map (.quoted s.toList false :: ·) := by
  obtain ⟨h, hstring⟩ := string?_escaped capital s.toList hrest
  rw [toList_enquoted_append]
  exact scanAll?_cons hstring

structure IsBareKey (key : String) : Prop where
  ne_empty : key ≠ ""
  wordChars : ∀ c ∈ key.toList, isWordChar c = true

theorem scan?_word {c : Char} (hc : isWordChar c = true) (cs : List Char) :
    scan? c cs = some (.word (c :: cs.takeWhile isWordChar), Rest.dropping isWordChar cs) := by
  have hmark : markOf? c = none := by
    unfold markOf?
    split
    case h_11 => rfl
    all_goals exact absurd hc (by decide)
  have hother : c ≠ '"' ∧ c ≠ '\x27' ∧ c ≠ '#' ∧ ¬ isBlank c = true := by
    refine ⟨?_, ?_, ?_, fun h => ?_⟩
    · rintro rfl
      exact absurd hc (by decide)
    · rintro rfl
      exact absurd hc (by decide)
    · rintro rfl
      exact absurd hc (by decide)
    · simp only [isBlank, Bool.or_eq_true, decide_eq_true_eq] at h
      obtain rfl | rfl := h <;> exact absurd hc (by decide)
  obtain ⟨hbasic, hliteral, hcomment, hblank⟩ := hother
  rw [scan?, hmark]
  dsimp only
  rw [if_neg hbasic, if_neg hliteral, if_neg hcomment, if_neg hblank, if_pos hc]

theorem scanAll?_word {key : String} (hkey : IsBareKey key) {rest : List Char}
    (hrest : ∀ c ∈ rest.head?, isWordChar c = false) :
    scanAll? (key.toList ++ rest) = (scanAll? rest).map (.word key.toList :: ·) := by
  obtain ⟨hne, hchars⟩ := hkey
  have hspan : rest.takeWhile isWordChar = [] ∧ rest.dropWhile isWordChar = rest := by
    cases rest with
    | nil => exact ⟨rfl, rfl⟩
    | cons c cs => simp [hrest c rfl]
  cases hkey : key.toList with
  | nil => exact absurd (String.toList_eq_nil_iff.1 hkey) hne
  | cons c cs =>
    rw [hkey, List.forall_mem_cons] at hchars
    rw [List.cons_append, scanAll?_cons (scan?_word hchars.1 _),
      List.takeWhile_append_of_pos hchars.2, List.dropWhile_append_of_pos hchars.2, hspan.1,
      hspan.2, List.append_nil]

/-- Characters that are the given tokens, if the line ends after them. -/
structure Scans (value : List Char) (tokens : List Token) : Prop where
  starts : ∀ c ∈ value.head?, isBlank c = false
  scans : ∀ rest, EndsLine '\n' rest →
    scanAll? (value ++ rest) = (scanAll? rest).map (tokens ++ ·)

/-- Characters that are one item, if the line ends after them. -/
structure Spells (value : List Char) (tokens : List Token) (item : Item) : Prop
    extends Scans value tokens where
  items : ∀ rest, EndsLine .newline rest → ∃ h, item? (tokens ++ rest) = some (item, ⟨rest, h⟩)

theorem spells_enquoted (capital : Bool) (s : String) :
    Spells (enquoted capital s).toList [.quoted s.toList false] (.scalar (.text s)) where
  starts c hc := by
    rw [toList_enquoted] at hc
    obtain rfl : '"' = c := Option.some.inj hc
    rfl
  scans rest hrest := scanAll?_quoted capital s fun h => absurd (hrest _ h) (by decide)
  items rest _ := by
    rw [List.singleton_append]
    refine ⟨Nat.lt_succ_self _, ?_⟩
    rw [item?, String.ofList_toList]
    rfl

theorem key?_word (w b : List Char) (ts : List Token) :
    ∃ h, key? (.word w :: .blank b :: .equals :: ts) =
      some ([String.ofList w], ⟨.equals :: ts, h⟩) := by
  refine ⟨by simp, ?_⟩
  rw [key?]
  rfl

theorem lineEnd?_of_endsLine {rest : List Token} (h : EndsLine .newline rest) :
    ∃ hle, lineEnd? rest = some ⟨rest.tail, hle⟩ := by
  obtain rfl | ⟨more, rfl⟩ := h.cases
  · exact ⟨Nat.le_refl _, rfl⟩
  · exact ⟨Nat.le_succ _, rfl⟩

theorem lines?_of_start {ts start : List Token} (h : ts.dropWhile isSpacing = start) :
    lines? ts = if start.isEmpty then some [] else
      (line? start).bind fun e => (lines? e.2.val).map (e.1 :: ·) := by
  have heq : lines? ts = if (Rest.dropping isSpacing ts).val.isEmpty then some [] else
      (line? (Rest.dropping isSpacing ts).val).bind fun e => (lines? e.2.val).map (e.1 :: ·) := by
    rw [lines?]
    dsimp only
    cases line? (Rest.dropping isSpacing ts).val <;> rfl
  subst h
  exact heq

theorem lines?_newline (ts : List Token) : lines? (.newline :: ts) = lines? ts := by
  have hstart : (Token.newline :: ts).dropWhile isSpacing = ts.dropWhile isSpacing := rfl
  rw [lines?_of_start hstart, lines?_of_start rfl]

theorem lines?_tail {rest : List Token} (h : EndsLine .newline rest) :
    lines? rest.tail = lines? rest := by
  obtain rfl | ⟨more, rfl⟩ := h.cases
  · rfl
  · exact (lines?_newline more).symm

theorem lines?_assignment (w b b' : List Char) {value : List Char} {tokens rest : List Token}
    {item : Item} (hvalue : Spells value tokens item) (hrest : EndsLine .newline rest) :
    lines? (.word w :: .blank b :: .equals :: .blank b' :: (tokens ++ rest)) =
      (lines? rest).map (.assignment [String.ofList w] item :: ·) := by
  obtain ⟨hkeylt, hkey⟩ := key?_word w b (.blank b' :: (tokens ++ rest))
  obtain ⟨hitemlt, hitem⟩ := hvalue.items rest hrest
  obtain ⟨hendle, hend⟩ := lineEnd?_of_endsLine hrest
  have hline : line? (.word w :: .blank b :: .equals :: .blank b' :: (tokens ++ rest)) =
      assignment? (.word w :: .blank b :: .equals :: .blank b' :: (tokens ++ rest)) := rfl
  have hstart : ∀ ts : List Token, (Token.word w :: ts).dropWhile isSpacing = .word w :: ts :=
    fun _ => rfl
  rw [lines?_of_start (hstart _), hline, assignment?, hkey]
  dsimp only [skipBlank]
  rw [hitem]
  dsimp only
  rw [hend, ← lines?_tail hrest]
  rfl

def linesIn? (cs : List Char) : Option (List Line) := (scanAll? cs).bind lines?

theorem linesIn?_nil : linesIn? [] = some [] := by
  rw [linesIn?, scanAll?, Option.bind_some, lines?_of_start List.dropWhile_nil]
  rfl

theorem linesIn?_newline (cs : List Char) : linesIn? ('\n' :: cs) = linesIn? cs := by
  rw [linesIn?, linesIn?, scanAll?_newline]
  cases scanAll? cs with
  | none => rfl
  | some ts => exact lines?_newline ts

theorem scanAll?_endsLine {rest : List Char} {ts : List Token} (hrest : EndsLine '\n' rest)
    (h : scanAll? rest = some ts) : EndsLine .newline ts := by
  obtain rfl | ⟨more, rfl⟩ := hrest.cases
  · rw [scanAll?, Option.some.injEq] at h
    exact h ▸ endsLine_nil _
  · rw [scanAll?_newline] at h
    obtain ⟨after, -, rfl⟩ := Option.map_eq_some_iff.1 h
    exact endsLine_cons _ _

theorem scanAll?_assignment {key : String} (hkey : IsBareKey key) {value rest : List Char}
    {tokens : List Token} (hvalue : Scans value tokens) (hrest : EndsLine '\n' rest) :
    scanAll? (key.toList ++ ' ' :: '=' :: ' ' :: (value ++ rest)) = (scanAll? rest).map fun ts =>
      .word key.toList :: .blank [' '] :: .equals :: .blank [' '] :: (tokens ++ ts) := by
  have hstart : ∀ c ∈ (value ++ rest).head?, isBlank c = false := by
    cases value with
    | nil => exact fun c hc => hrest c hc ▸ rfl
    | cons d value => exact hvalue.starts
  have hafterKey : ∀ c ∈ (' ' :: '=' :: ' ' :: (value ++ rest)).head?, isWordChar c = false :=
    fun c hc => Option.some.inj hc ▸ rfl
  have hbeforeEquals : ∀ c ∈ ('=' :: ' ' :: (value ++ rest)).head?, isBlank c = false :=
    fun c hc => Option.some.inj hc ▸ rfl
  rw [scanAll?_word hkey hafterKey, scanAll?_blank hbeforeEquals, scanAll?_equals,
    scanAll?_blank hstart, hvalue.scans rest hrest]
  simp only [Option.map_map, Function.comp_def]

theorem linesIn?_assignment {key : String} (hkey : IsBareKey key) {value rest : List Char}
    {tokens : List Token} {item : Item} (hvalue : Spells value tokens item)
    (hrest : EndsLine '\n' rest) :
    linesIn? (key.toList ++ ' ' :: '=' :: ' ' :: (value ++ rest)) =
      (linesIn? rest).map (.assignment [key] item :: ·) := by
  rw [linesIn?, linesIn?, scanAll?_assignment hkey hvalue.toScans hrest]
  cases hscan : scanAll? rest with
  | none => rfl
  | some ts =>
    simp only [Option.map_some, Option.bind_some]
    rw [lines?_assignment _ _ _ hvalue (scanAll?_endsLine hrest hscan), String.ofList_toList]

theorem foldLineEnds_of_notMem {cs : List Char} (h : '\r' ∉ cs) : foldLineEnds cs = cs := by
  fun_induction foldLineEnds cs with
  | case1 => rfl
  | case2 c => rfl
  | case3 c d cs hends ih => exact absurd (hends.1 ▸ List.mem_cons_self) h
  | case4 c d cs _ ih => rw [ih (List.not_mem_of_not_mem_cons h)]

theorem dropByteOrderMark_of_head {cs : List Char} (h : cs.head? ≠ some '\ufeff') :
    dropByteOrderMark cs = cs := by
  unfold dropByteOrderMark
  split
  · exact absurd rfl h
  · rfl

theorem tokens?_eq_scanAll? {text : String} (hmark : text.toList.head? ≠ some '\ufeff')
    (hreturn : '\r' ∉ text.toList) : tokens? text = scanAll? text.toList := by
  rw [tokens?, dropByteOrderMark_of_head hmark, foldLineEnds_of_notMem hreturn]

section Assignments
variable {α : Type} (key : α → String) (scalar : α → Scalar) {xs : List α}

theorem assignmentsOf_map (xs : List α) :
    assignmentsOf (xs.map fun x => .assignment [key x] (.scalar (scalar x))) =
      xs.map fun x => ([key x], .scalar (scalar x)) := by
  induction xs with
  | nil => rfl
  | cons x xs ih => rw [List.map_cons, assignmentsOf, ih, List.map_cons]

theorem sections?_map (xs : List α) :
    sections? (xs.map fun x => .assignment [key x] (.scalar (scalar x))) = some [] := by
  induction xs with
  | nil => rfl
  | cons x xs ih => rw [List.map_cons, sections?, ih]

theorem ofAssignments?_map (xs : List α) :
    Items.ofAssignments? (xs.map fun x => ([key x], .scalar (scalar x))) =
      some (xs.map fun x => (key x, .scalar (scalar x))) := by
  have hfrom : ∀ items : Items,
      (xs.map fun x => ([key x], Item.scalar (scalar x))).foldlM
          (fun items assigned => Items.add? assigned.2 assigned.1 items) items =
        some (items ++ xs.map fun x => (key x, .scalar (scalar x))) := by
    induction xs with
    | nil => exact fun items => by simp
    | cons x xs ih =>
      intro items
      have hadd : Items.add? (.scalar (scalar x)) [key x] items =
          some (items ++ [(key x, .scalar (scalar x))]) := by rw [Items.add?]
      rw [List.map_cons, List.foldlM_cons]
      dsimp only
      rw [hadd, Option.bind_eq_bind, Option.bind_some, ih, List.append_assoc, List.map_cons,
        List.singleton_append]
  exact hfrom []

variable {key}

theorem entriesOf?_map (h : (xs.map key).Nodup) :
    entriesOf? (xs.map fun x => (key x, .scalar (scalar x))) =
      some (xs.map fun x => (key x, .scalar (scalar x))) := by
  induction xs with
  | nil => rw [List.map_nil, entriesOf?]; rfl
  | cons x xs ih =>
    rw [List.map_cons, List.nodup_cons] at h
    have hnew : ¬ hasKey (key x) (xs.map fun x => (key x, Value.scalar (scalar x))) = true := by
      intro hkey
      obtain ⟨e, he, hsame⟩ := List.any_eq_true.1 hkey
      obtain ⟨x', hx', rfl⟩ := List.mem_map.1 he
      exact h.1 (List.mem_map.2 ⟨x', hx', of_decide_eq_true hsame⟩)
    rw [List.map_cons, entriesOf?, Item.value?, ih h.2]
    simp only [Option.bind_eq_bind, Option.bind_some, if_neg hnew, List.map_cons]

theorem read?_of_linesIn? {text : String} (hmark : text.toList.head? ≠ some '\ufeff')
    (hreturn : '\r' ∉ text.toList)
    (hlines : linesIn? text.toList =
      some (xs.map fun x => .assignment [key x] (.scalar (scalar x))))
    (hkeys : (xs.map key).Nodup) (hmoment : momentKey ∉ xs.map key) :
    read? text = some (xs.map fun x => (key x, .scalar (scalar x))) := by
  have hitems : (Item.table false (xs.map fun x => (key x, Item.scalar (scalar x)))).value? =
      some (.table (xs.map fun x => (key x, .scalar (scalar x)))) := by
    cases xs with
    | nil => rw [List.map_nil, Item.value?]; rfl
    | cons x xs =>
      have hfirst : ¬ key x = momentKey := fun he => hmoment (he ▸ List.mem_cons_self)
      have hvalues := entriesOf?_map scalar hkeys
      rw [List.map_cons] at hvalues ⊢
      rw [Item.value?, if_neg hfirst, hvalues]
      rfl
  have hdocument : documentValue? (xs.map fun x => (key x, .scalar (scalar x))) [] =
      some (.table (xs.map fun x => (key x, .scalar (scalar x)))) := by
    simp only [documentValue?, Node.ofItems?, hitems, Option.bind_eq_bind, Option.bind_some,
      List.foldlM_nil, Option.pure_def, entriesValue_eq_map, List.map_map]
    simp only [Function.comp_def, Node.value]
  have hvalue : value? text = some (.table (xs.map fun x => (key x, .scalar (scalar x)))) := by
    have hread : (tokens? text).bind lines? =
        some (xs.map fun x => .assignment [key x] (.scalar (scalar x))) := by
      rw [tokens?_eq_scanAll? hmark hreturn]
      exact hlines
    obtain ⟨ts, hts, hls⟩ := Option.bind_eq_some_iff.1 hread
    simp only [value?, hts, hls, Option.bind_eq_bind, Option.bind_some, assignmentsOf_map,
      ofAssignments?_map, sections?_map, hdocument]
  rw [read?, hvalue]
  rfl

end Assignments

def assignment (capital : Bool) (e : String × String) : String :=
  e.1 ++ " = " ++ enquoted capital e.2

def written (capital ended : Bool) (entries : List (String × String)) : String :=
  "\n".intercalate (entries.map (assignment capital)) ++ if ended then "\n" else ""

section Written
variable (capital ended : Bool) {entries : List (String × String)}

theorem toList_assignment_append (e : String × String) (rest : List Char) :
    (assignment capital e).toList ++ rest =
      e.1.toList ++ ' ' :: '=' :: ' ' :: ((enquoted capital e.2).toList ++ rest) := by
  simp [assignment]

theorem toList_written : (written capital ended entries).toList =
    ['\n'].intercalate (entries.map fun e => (assignment capital e).toList) ++
      if ended then ['\n'] else [] := by
  cases ended <;> simp [written, String.toList_intercalate, Function.comp_def]

theorem linesIn?_written (hkeys : ∀ e ∈ entries, IsBareKey e.1) :
    linesIn? (written capital ended entries).toList =
      some (entries.map fun e => .assignment [e.1] (.scalar (.text e.2))) := by
  have hlast : EndsLine '\n' (if ended then ['\n'] else []) ∧
      linesIn? (if ended then ['\n'] else []) = some [] := by
    cases ended with
    | true => exact ⟨endsLine_cons _ _, (linesIn?_newline []).trans linesIn?_nil⟩
    | false => exact ⟨endsLine_nil _, linesIn?_nil⟩
  rw [toList_written]
  generalize (if ended then ['\n'] else []) = last at hlast
  have hfirst : ∀ (e : String × String) (rest : List Char), IsBareKey e.1 → EndsLine '\n' rest →
      linesIn? ((assignment capital e).toList ++ rest) =
        (linesIn? rest).map (.assignment [e.1] (.scalar (.text e.2)) :: ·) := by
    intro e rest hkey hrest
    rw [toList_assignment_append]
    exact linesIn?_assignment hkey (spells_enquoted capital e.2) hrest
  induction entries with
  | nil => exact hlast.2
  | cons e entries ih =>
    obtain ⟨hkey, hkeys⟩ := List.forall_mem_cons.1 hkeys
    cases entries with
    | nil =>
      rw [List.map_singleton, List.intercalate_singleton, hfirst e last hkey hlast.1, hlast.2]
      rfl
    | cons e' entries =>
      have hrest := ih hkeys
      rw [List.map_cons] at hrest
      rw [List.map_cons, List.map_cons, List.intercalate_cons_cons, List.append_assoc,
        List.append_assoc, List.singleton_append, hfirst e _ hkey (endsLine_cons _ _),
        linesIn?_newline, hrest]
      rfl

theorem return_notMem_written (hkeys : ∀ e ∈ entries, IsBareKey e.1) :
    '\r' ∉ (written capital ended entries).toList := by
  have hline : ∀ s ∈ entries.map (assignment capital), s.toList.all (· ≠ '\r') = true := by
    intro s hs
    obtain ⟨e, he, rfl⟩ := List.mem_map.1 hs
    have hkey : e.1.toList.all (· ≠ '\r') = true := List.all_eq_true.2 fun c hc =>
      decide_eq_true fun hr => absurd ((hkeys e he).wordChars c hc) (hr ▸ by decide)
    have hvalue : (enquoted capital e.2).toList.all (· ≠ '\r') = true :=
      List.all_eq_true.2 fun c hc => decide_eq_true fun hr =>
        absurd (List.all_eq_true.1 (isVisible_enquoted capital e.2) c hc) (hr ▸ by decide)
    rw [assignment, String.toList_append, String.toList_append, List.all_append, List.all_append,
      hkey, hvalue]
    decide
  have hall : (written capital ended entries).toList.all (· ≠ '\r') = true := by
    rw [written, String.toList_append, List.all_append, all_intercalate _ (by decide) hline]
    cases ended <;> decide
  exact fun h => absurd rfl (of_decide_eq_true (List.all_eq_true.1 hall _ h))

theorem head?_written (hkeys : ∀ e ∈ entries, IsBareKey e.1) :
    (written capital ended entries).toList.head? ≠ some '\ufeff' := by
  rw [toList_written]
  cases entries with
  | nil =>
    rw [List.map_nil, List.intercalate_nil]
    cases ended <;> decide
  | cons e entries =>
    obtain ⟨hne, hchars⟩ := hkeys e List.mem_cons_self
    obtain ⟨c, cs, hkey⟩ : ∃ c cs, e.1.toList = c :: cs :=
      List.exists_cons_of_ne_nil fun he => hne (String.toList_eq_nil_iff.1 he)
    have hline := toList_assignment_append capital e []
    rw [List.append_nil, hkey, List.cons_append] at hline
    rw [List.map_cons, hline, List.intercalate_cons_cons_left, List.cons_append, List.head?_cons]
    intro hmark
    have hword : isWordChar c = true := hchars c (hkey ▸ List.mem_cons_self)
    rw [Option.some.inj hmark] at hword
    exact absurd hword (by decide)

theorem read?_written (hkeys : ∀ e ∈ entries, IsBareKey e.1)
    (hdistinct : (entries.map Prod.fst).Nodup) :
    read? (written capital ended entries) =
      some (entries.map fun e => (e.1, Value.ofString e.2)) := by
  have hmoment : momentKey ∉ entries.map Prod.fst := by
    intro hmem
    obtain ⟨e, he, hkey⟩ := List.mem_map.1 hmem
    exact absurd ((hkeys e he).wordChars '$' (hkey ▸ by decide)) (by decide)
  exact read?_of_linesIn? (fun e => .text e.2) (head?_written capital ended hkeys)
    (return_notMem_written capital ended hkeys) (linesIn?_written capital ended hkeys) hdistinct
    hmoment

end Written

end AccountRegistry.Toml
