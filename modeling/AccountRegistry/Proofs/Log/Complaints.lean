import AccountRegistry.Log.Filter
import AccountRegistry.Proofs.Log.Decoding
import AccountRegistry.Proofs.Pattern.Reports

set_option autoImplicit false

/-!
# Complaints

Complaints about a filter are written before the records. A complaint quotes a
part of the filter as it is, so one of its lines begins with a bracket only if
there is a newline with a bracket after it in the filter.
-/
namespace AccountRegistry.Log
open AccountRegistry.Text

namespace Filter

def Complaint.line (c : Complaint) : String := "warning: " ++ c.text ++ ", ignoring it"

theorem Complaint.written_eq_line (c : Complaint) : c.written = c.line ++ "\n" := by
  have hend : ", ignoring it\n" = ", ignoring it" ++ "\n" := by decide
  rw [written, line, hend, String.append_assoc, String.append_assoc, String.append_assoc]

namespace Reading

def complaintLines (f : Reading) : List String :=
  linesOf (String.join (f.complaints.map Complaint.written))

theorem join_complaints (f : Reading) :
    String.join (f.complaints.map Complaint.written) = ofLines (f.complaints.map Complaint.line) := by
  rw [ofLines, List.map_map]
  exact congrArg String.join (List.map_congr_left fun c _ => c.written_eq_line)

theorem complaintLines_eq_flatMap (f : Reading) :
    f.complaintLines = (f.complaints.map Complaint.line).flatMap (piecesOf '\n') := by
  rw [complaintLines, join_complaints, linesOf_ofLines_flatMap]

theorem linesOf_written (f : Reading) (records : List Record) :
    linesOf (f.written records) = f.complaintLines ++ linesOf (f.filter.written records) := by
  rw [written, join_complaints, linesOf_ofLines_append, complaintLines_eq_flatMap]

end Reading

/-- A complaint about items quotes a part of the filter; one about a pattern has a report of its
own. -/
def Complaint.Quotes (spec : List Char) : Complaint → Prop
  | .slashes text | .directive text => text.toList <:+: spec
  | .pattern _ _ => True

theorem Complaint.Quotes.mono {spec spec' : List Char} {c : Complaint} (h : c.Quotes spec)
    (hspec : spec <:+: spec') : c.Quotes spec' := by
  cases c with
  | slashes text => exact List.IsInfix.trans h hspec
  | directive text => exact List.IsInfix.trans h hspec
  | pattern text refusal => trivial

theorem quotes_directive {item : List Char} {c : Complaint} (h : directive item = .error c) :
    c.Quotes item := by
  unfold directive at h
  split at h
  · cases h
  · next level hpieces =>
    dsimp only at h
    split at h
    · cases h
    · split at h
      · cases h
      · cases h
        have hlevel : level <:+: item := infix_of_mem_pieces (by rw [hpieces]; simp)
        rw [Complaint.Quotes, String.toList_ofList]
        exact (infix_of_trimmed _ _).trans hlevel
  · cases h
    simp [Complaint.Quotes]

namespace Reading

theorem quotes_add {spec item : List Char} {f : Reading} (hitem : item <:+: spec)
    (h : ∀ c ∈ f.complaints, c.Quotes spec) : ∀ c ∈ (f.add item).complaints, c.Quotes spec := by
  unfold add
  dsimp only
  split
  · exact h
  · split
    · exact h
    · next e he =>
      have hquotes : e.Quotes spec := (quotes_directive he).mono ((infix_of_trimmed _ _).trans hitem)
      exact List.forall_mem_append.2 ⟨h, List.forall_mem_singleton.2 hquotes⟩

theorem quotes_foldl_add {spec : List Char} {items : List (List Char)} {f : Reading}
    (hitems : ∀ item ∈ items, item <:+: spec) (h : ∀ c ∈ f.complaints, c.Quotes spec) :
    ∀ c ∈ (items.foldl add f).complaints, c.Quotes spec := by
  induction items generalizing f with
  | nil => exact h
  | cons item items ih =>
    obtain ⟨hitem, hrest⟩ := List.forall_mem_cons.1 hitems
    exact ih hrest (quotes_add hitem h)

theorem quotes_ofItems (items : List Char) : ∀ c ∈ (ofItems items).complaints, c.Quotes items :=
  quotes_foldl_add (fun _ hp => infix_of_mem_pieces hp) nofun

theorem complaints_finish (f : Reading) : f.finish.complaints = f.complaints := by
  unfold finish
  split <;> rfl

theorem quotes_addPattern {spec : List Char} {f : Reading} (text : String)
    (h : ∀ c ∈ f.complaints, c.Quotes spec) :
    ∀ c ∈ (f.addPattern text).complaints, c.Quotes spec := by
  unfold addPattern
  split
  · exact h
  · exact List.forall_mem_append.2 ⟨h, List.forall_mem_singleton.2 trivial⟩

end Reading

theorem quotes_parse (text : String) : ∀ c ∈ (parse text).complaints, c.Quotes text.toList := by
  unfold parse
  split
  · next items hpieces =>
    rw [Reading.complaints_finish]
    have hitems : items <:+: text.toList := infix_of_mem_pieces (by rw [hpieces]; simp)
    exact fun c hc => (Reading.quotes_ofItems items c hc).mono hitems
  · next items pattern hpieces =>
    rw [Reading.complaints_finish]
    have hitems : items <:+: text.toList := infix_of_mem_pieces (by rw [hpieces]; simp)
    exact Reading.quotes_addPattern _ fun c hc => (Reading.quotes_ofItems items c hc).mono hitems
  · rw [Reading.complaints_finish]
    exact List.forall_mem_singleton.2 List.infix_rfl

section Openings
variable {spec : List Char} (hspec : Unbracketed spec)
include hspec

theorem Complaint.unbracketed_text {c : Complaint} (h : c.Quotes spec) :
    Unbracketed c.text.toList := by
  cases c with
  | slashes text =>
    have htext : (slashes text).text = "invalid logging spec '" ++ text ++ "' (too many '/'s)" := rfl
    have hquoted : Unbracketed text.toList := hspec.infix h
    rw [htext, String.toList_append, String.toList_append]
    exact hquoted.between (by decide) (by decide) (by decide)
  | directive text =>
    have htext : (directive text).text = "invalid logging spec '" ++ text ++ "'" := rfl
    have hquoted : Unbracketed text.toList := hspec.infix h
    rw [htext, String.toList_append, String.toList_append]
    exact hquoted.between (by decide) (by decide) (by decide)
  | pattern text refusal =>
    have htext : (pattern text refusal).text = "invalid regex filter - " ++ refusal.text text := rfl
    rw [htext, String.toList_append]
    exact (Pattern.unbracketed_refusal refusal text).after (by decide)

theorem Complaint.opens_none {c : Complaint} (h : c.Quotes spec) :
    ∀ l ∈ piecesOf '\n' c.line, opensRecord l = false := by
  have hline : Unbracketed c.line.toList := by
    rw [line, String.toList_append, String.toList_append]
    exact (Complaint.unbracketed_text hspec h).between (by decide) (by decide) (by decide)
  have hfirst : c.line.toList.head? ≠ some '[' := by
    simp [line]
  intro l hl
  obtain ⟨p, hp, rfl⟩ := List.mem_map.1 hl
  rw [opensRecord, String.toList_ofList]
  exact decide_eq_false (head?_of_mem_pieces (hline.cons '\n' hfirst) hp)

end Openings

/-- A filter in which no newline is followed by a bracket has no complaint that looks like a
record. -/
theorem complaints_open_none {text : String} (h : Unbracketed text.toList) :
    ∀ l ∈ (parse text).complaintLines, opensRecord l = false := by
  intro l hl
  rw [Reading.complaintLines_eq_flatMap, List.flatMap_map] at hl
  obtain ⟨c, hc, hl⟩ := List.mem_flatMap.1 hl
  exact Complaint.opens_none h (quotes_parse text c hc) l hl

end Filter
end AccountRegistry.Log
