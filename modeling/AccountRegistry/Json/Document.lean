import AccountRegistry.Json.Token

set_option autoImplicit false

/-!
# JSON documents

Tokens read as a value. Lists and objects may be nested to a fixed depth, and of
the members of one name the last counts. `read?` gives the members of the object
that a text holds; a text with any other value has none.
-/
namespace AccountRegistry.Json
open AccountRegistry.Text
open AccountRegistry.Settings (Value)

def maxDepth : Nat := 127

def putMember (name : String) (v : Value) : List (String × Value) → List (String × Value)
  | [] => [(name, v)]
  | (k, w) :: rest => if k = name then (k, v) :: rest else (k, w) :: putMember name v rest

def lastMembers (members : List (String × Value)) : List (String × Value) :=
  members.foldl (fun done (name, v) => putMember name v done) []

mutual

/-- Reads a value inside of which `depth` further levels may open. -/
def value? (depth : Nat) (ts : List Token) : Option (Value × Shorter ts) :=
  match ts, depth with
  | .text cs :: ts, _ => some (.ofString (String.ofList cs), Rest.after _ ts)
  | .value v :: ts, _ => some (v, Rest.after _ ts)
  | .openBracket :: .closeBracket :: ts, _ + 1 =>
    some (.array [], ⟨ts, by simp only [List.length_cons]; omega⟩)
  | .openBracket :: ts, depth + 1 => (items? depth ts).map fun (vs, r) =>
    (.array vs, Rest.beyond r (Nat.le_succ _))
  | .openBrace :: .closeBrace :: ts, _ + 1 =>
    some (.table [], ⟨ts, by simp only [List.length_cons]; omega⟩)
  | .openBrace :: ts, depth + 1 => (members? depth ts).map fun (ms, r) =>
    (.table (lastMembers ms), Rest.beyond r (Nat.le_succ _))
  | _, _ => none
termination_by 2 * ts.length

def items? (depth : Nat) (ts : List Token) : Option (List Value × Shorter ts) :=
  match value? depth ts with
  | none => none
  | some (v, r) =>
    match h : r.val with
    | .comma :: more =>
      have h₁ : more.length < ts.length := by
        have := r.property
        rw [h, List.length_cons] at this
        omega
      (items? depth more).map fun (vs, r) => (v :: vs, Rest.beyond r (Nat.le_of_lt h₁))
    | .closeBracket :: more => some ([v], ⟨more, by
        have := r.property
        rw [h, List.length_cons] at this
        omega⟩)
    | _ => none
termination_by 2 * ts.length + 1

def members? (depth : Nat) (ts : List Token) : Option (List (String × Value) × Shorter ts) :=
  match ts with
  | .text name :: .colon :: ts =>
    match value? depth ts with
    | none => none
    | some (v, r) =>
      match h : r.val with
      | .comma :: more =>
        have h₁ : more.length < ts.length := by
          have := r.property
          rw [h, List.length_cons] at this
          omega
        (members? depth more).map fun (ms, r) =>
          ((String.ofList name, v) :: ms, Rest.beyond r (by simp only [List.length_cons]; omega))
      | .closeBrace :: more => some ([(String.ofList name, v)], ⟨more, by
          have := r.property
          rw [h, List.length_cons] at this
          simp only [List.length_cons]
          omega⟩)
      | _ => none
  | _ => none
termination_by 2 * ts.length

end

def document? (text : String) : Option Value := do
  let (v, r) ← value? maxDepth (← tokens? text.toList)
  guard r.val.isEmpty
  return v

def read? (text : String) : Option (List (String × Value)) :=
  (document? text).map fun
    | .table members => members
    | _ => []

end AccountRegistry.Json
