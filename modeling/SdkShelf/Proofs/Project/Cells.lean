import SdkShelf.Proofs.Text.Cells
import SdkShelf.Proofs.Text.Word
import SdkShelf.Proofs.Timestamp
import SdkShelf.Proofs.Url.Text
import SdkShelf.Session

/-!
# The line of a project

The list has a line for each project, with a tab between any two things that it tells of the
project.  Dates and counts have neither tabs nor line breaks in them, and addresses that were read
have no control characters at all.  So it depends on ids and names whether the lines can be taken
apart again.
-/

namespace SdkShelf

namespace Text

/-- A sign of ids, dates and counts. -/
def IsPlain (c : Char) : Prop := c.isAlphanum = true ∨ c ∈ ['-', '+', ' ']

instance (c : Char) : Decidable (IsPlain c) := inferInstanceAs (Decidable (_ ∨ _))

theorem isPlain_of_isDigit {c : Char} (h : c.isDigit = true) : IsPlain c := by
  rw [IsPlain, Char.isAlphanum, h, Bool.or_true]
  exact Or.inl rfl

theorem isCell_of_plain {text : String} (h : ∀ c ∈ text.toList, IsPlain c) : IsCell text := by
  constructor <;> exact fun hmem => absurd (h _ hmem) (by decide)

theorem isCell_of_lacks_control {text : String}
    (h : Url.Lacks Url.Percent.control text.toList) : IsCell text := by
  constructor <;> exact fun hmem => absurd (h _ hmem) (by decide)

theorem isCell_count (n : Nat) : IsCell (toString n ++ " endpoints") := by
  refine isCell_of_plain ?_
  rw [String.toList_append, List.forall_mem_append, toList_toString]
  exact ⟨fun c hc => isPlain_of_isDigit (isDigit_toDigits n c hc), by simp [IsPlain]⟩

end Text

theorem Timestamp.isCell_dateText (d : Date) : Text.IsCell (String.ofList (dateText d)) := by
  have hpadded : ∀ width n, ∀ c ∈ padded width n, Text.IsPlain c :=
    fun width n c hc => Text.isPlain_of_isDigit (isDigit_padded width n c hc)
  have hyear : ∀ c ∈ yearText d.year, Text.IsPlain c := by
    rw [yearText]
    split
    · exact hpadded _ _
    · refine List.forall_mem_cons.mpr ⟨?_, hpadded _ _⟩
      split <;> decide
  refine Text.isCell_of_plain ?_
  rw [String.toList_ofList, dateText, List.append_assoc, List.forall_mem_append, List.cons_append,
    List.forall_mem_cons, List.forall_mem_append, List.forall_mem_cons]
  exact ⟨hyear, by decide, hpadded _ _, by decide, hpadded _ _⟩

/-- What is listed of a project. -/
def Project.cells (p : Project) : List String :=
  [p.id, p.name, p.sourceUrl, String.ofList (Timestamp.dateText p.createdAt.date),
    toString p.spec.endpoints.length ++ " endpoints"]

theorem Project.forall_mem_cells_iff {p : Project} (hid : Text.IsCell p.id)
    (hurl : Text.IsCell p.sourceUrl) :
    (∀ cell ∈ p.cells, Text.IsCell cell) ↔ Text.IsCell p.name := by
  simp only [cells, List.forall_mem_cons, hid, hurl, Timestamp.isCell_dateText, Text.isCell_count,
    true_and]
  exact and_iff_left (List.forall_mem_nil _)

theorem Session.listText_eq (projects : List Project) :
    listText projects = String.join
      ((projects.map Project.cells).map fun row => "\t".intercalate row ++ "\n") := by
  rw [List.map_map]
  rfl

/-- Where ids and addresses are cells it depends on the names whether a list reads back. -/
theorem Session.cells_listText_iff {projects : List Project}
    (h : ∀ p ∈ projects, Text.IsCell p.id ∧ Text.IsCell p.sourceUrl) :
    (Text.lines (listText projects)).map Text.cells = projects.map Project.cells ↔
      ∀ p ∈ projects, Text.IsCell p.name := by
  have hne : ∀ row ∈ projects.map Project.cells, row ≠ [] := by
    intro row hrow
    obtain ⟨p, _, rfl⟩ := List.mem_map.mp hrow
    exact List.cons_ne_nil _ _
  rw [listText_eq, Text.map_cells_lines_iff hne, List.forall_mem_map]
  exact forall₂_congr fun p hp => Project.forall_mem_cells_iff (h p hp).1 (h p hp).2

end SdkShelf
