import AccountRegistry.Toml.Number
import AccountRegistry.Toml.Sections

set_option autoImplicit false

/-!
# TOML documents

Tokens read as items, as keys and assignments, and as sections, each a header
with the assignments below it. `read?` gives the top-level entries of a text, or
none if the text is no TOML.
-/
namespace AccountRegistry.Toml
open AccountRegistry.Text
open AccountRegistry.Settings (Value)

def skipBlank : (ts : List Token) → NoLonger ts
  | .blank _ :: ts => ⟨ts, Nat.le_succ _⟩
  | ts => Rest.all ts

def keyPart? : (ts : List Token) → Option (String × Shorter ts)
  | .word w :: ts => some (String.ofList w, Rest.after _ ts)
  | .quoted s false :: ts => some (String.ofList s, Rest.after _ ts)
  | _ => none

def key? (ts : List Token) : Option (List String × Shorter ts) :=
  match keyPart? (skipBlank ts).val with
  | none => none
  | some (part, r) =>
    have h : r.val.length < ts.length := Nat.lt_of_lt_of_le r.property (skipBlank ts).property
    match h₁ : (skipBlank r.val).val with
    | .period :: more =>
      have h₂ : more.length < ts.length := Nat.lt_trans (Rest.tail_lt _ h₁) h
      (key? more).map fun (parts, r) => (part :: parts, Rest.beyond r (Nat.le_of_lt h₂))
    | _ => some ([part], Rest.below (skipBlank r.val) h)
termination_by ts.length

def isSpacing : Token → Bool
  | .blank _ | .newline | .comment => true
  | _ => false

/-- A word starts a number or a date if it starts with a digit or a minus sign, or is the name
of an infinite number or of none. -/
def beginsNumber (w : List Char) : Bool :=
  w = "inf".toList || w = "nan".toList ||
    match w with
    | c :: _ => c = '-' || Digits.isDecimal c
    | [] => false

def word? (w : List Char) (ts : List Token) : Option (Item × NoLonger ts) :=
  if w = "true".toList then some (.scalar (.flag true), Rest.all ts)
  else if w = "false".toList then some (.scalar (.flag false), Rest.all ts)
  else if beginsNumber w then numberOrMoment? w ts
  else none

mutual

def item? (ts : List Token) : Option (Item × Shorter ts) :=
  match ts with
  | .quoted s _ :: ts => some (.scalar (.text (String.ofList s)), Rest.after _ ts)
  | .word w :: ts => (word? w ts).map fun (v, r) => (v, Rest.step r)
  | .plus :: .word w :: ts => (number? w ts).map fun (s, r) =>
    (.scalar s, Rest.below r (by simp only [List.length_cons]; omega))
  | .openBracket :: ts => (items? ts).map fun (vs, r) =>
    (.array vs, Rest.beyond r (Nat.le_succ _))
  | .openBrace :: ts =>
    match h : (skipBlank ts).val with
    | .closeBrace :: rest =>
      some (.table false [], ⟨rest, Nat.lt_succ_of_lt (Rest.tail_lt _ h)⟩)
    | _ =>
      match members? ts with
      | none => none
      | some (assignments, r) => (Items.ofAssignments? assignments).map fun entries =>
        (.table false entries, Rest.beyond r (Nat.le_succ _))
  | _ => none
termination_by 2 * ts.length

/-- The items of an array up to its closing bracket; a comma may follow the last. -/
def items? (ts : List Token) : Option (List Item × Shorter ts) :=
  let start := Rest.dropping isSpacing ts
  if start.val.head? = some .closeBracket then
    match h : start.val with
    | _ :: rest => some ([], ⟨rest, Rest.tail_lt start h⟩)
    | [] => none
  else
    have h₀ := (Rest.dropping isSpacing ts).property
    match item? start.val with
    | none => none
    | some (v, r) =>
      have h : r.val.length < ts.length := Nat.lt_of_lt_of_le r.property h₀
      match h₁ : (Rest.dropping isSpacing r.val).val with
      | .comma :: more =>
        have h₂ : more.length < ts.length := Nat.lt_trans (Rest.tail_lt _ h₁) h
        (items? more).map fun (vs, r) => (v :: vs, Rest.beyond r (Nat.le_of_lt h₂))
      | .closeBracket :: more => some ([v], ⟨more, Nat.lt_trans (Rest.tail_lt _ h₁) h⟩)
      | _ => none
termination_by 2 * ts.length + 1

def members? (ts : List Token) : Option (List (List String × Item) × Shorter ts) :=
  match key? ts with
  | none => none
  | some (key, k) =>
    match h₀ : k.val with
    | .equals :: start =>
      have h₁ : start.length < ts.length := by
        have := k.property
        rw [h₀, List.length_cons] at this
        omega
      have h₂ : (skipBlank start).val.length ≤ start.length := (skipBlank start).property
      match item? (skipBlank start).val with
      | none => none
      | some (v, r) =>
        have h : r.val.length < ts.length := Nat.lt_trans r.property (by omega)
        match h₃ : (skipBlank r.val).val with
        | .comma :: more =>
          have h₄ : more.length < ts.length := Nat.lt_trans (Rest.tail_lt _ h₃) h
          (members? more).map fun (rest, r) =>
            ((key, v) :: rest, Rest.beyond r (Nat.le_of_lt h₄))
        | .closeBrace :: more => some ([(key, v)], ⟨more, Nat.lt_trans (Rest.tail_lt _ h₃) h⟩)
        | _ => none
    | _ => none
termination_by 2 * ts.length

end

inductive Line where
  | header (repeated : Bool) (key : List String)
  | assignment (key : List String) (item : Item)

def lineEnd? (ts : List Token) : Option (NoLonger ts) :=
  match h : (skipBlank ts).val with
  | [] | [.comment] => some ⟨[], Nat.zero_le _⟩
  | .newline :: rest => some ⟨rest, Nat.le_of_lt (Rest.tail_lt _ h)⟩
  | .comment :: .newline :: rest => some ⟨rest, by
      have := Rest.tail_lt _ h
      simp only [List.length_cons] at this
      omega⟩
  | _ => none

def headerKey? (repeated : Bool) (ts : List Token) : Option (List String × NoLonger ts) :=
  match key? ts with
  | none => none
  | some (key, k) =>
    match repeated, h : k.val with
    | true, .closeBracket :: .closeBracket :: rest =>
      (lineEnd? rest).map fun r => (key, Rest.within r (by
        have := k.property
        rw [h] at this
        simp only [List.length_cons] at this
        omega))
    | false, .closeBracket :: rest =>
      (lineEnd? rest).map fun r => (key, Rest.within r (by
        have := k.property
        rw [h] at this
        simp only [List.length_cons] at this
        omega))
    | _, _ => none

def assignment? (ts : List Token) : Option (Line × Shorter ts) :=
  match key? ts with
  | none => none
  | some (key, k) =>
    match h : k.val with
    | .equals :: start =>
      match item? (skipBlank start).val with
      | none => none
      | some (v, v') => (lineEnd? v'.val).map fun r => (.assignment key v, Rest.below r (by
        have := v'.property
        have := (skipBlank start).property
        have := k.property
        rw [h, List.length_cons] at this
        omega))
    | _ => none

def line? (ts : List Token) : Option (Line × Shorter ts) :=
  match ts with
  | .openBracket :: .openBracket :: ts => (headerKey? true ts).map fun (key, r) =>
    (.header true key, Rest.below r (by simp only [List.length_cons]; omega))
  | .openBracket :: ts => (headerKey? false ts).map fun (key, r) =>
    (.header false key, Rest.step r)
  | ts => assignment? ts

def lines? (ts : List Token) : Option (List Line) :=
  let start := Rest.dropping isSpacing ts
  if start.val.isEmpty then some []
  else
    match line? start.val with
    | none => none
    | some (l, r) =>
      have : r.val.length < ts.length := Nat.lt_of_lt_of_le r.property start.property
      (lines? r.val).map (l :: ·)
termination_by ts.length

def assignmentsOf : List Line → List (List String × Item)
  | .assignment key item :: ls => (key, item) :: assignmentsOf ls
  | _ => []

def sections? : List Line → Option (List Section)
  | [] => some []
  | .header repeated key :: ls => do
    let items ← Items.ofAssignments? (assignmentsOf ls)
    return ⟨repeated, key, items⟩ :: (← sections? ls)
  | .assignment _ _ :: ls => sections? ls

def value? (text : String) : Option Value := do
  let ls ← lines? (← tokens? text)
  documentValue? (← Items.ofAssignments? (assignmentsOf ls)) (← sections? ls)

/-- The entries of a document. A document that is a date has none. -/
def read? (text : String) : Option (List (String × Value)) :=
  (value? text).map fun
    | .table entries => entries
    | _ => []

end AccountRegistry.Toml
