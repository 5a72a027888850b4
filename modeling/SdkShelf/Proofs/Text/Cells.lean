/-!
# Lines and their cells

A text is taken apart at its line breaks, and a line at its tabs.  What was put together from lines,
and a line from cells, comes back as long as no part has a sign in it that ends one.
-/

namespace SdkShelf
namespace Text

/-! ## Pieces -/

/-- What is true of the glue and of every text is true of the texts glued together. -/
theorem forall_mem_intercalate {P : Char → Prop} {glue : String} (hglue : ∀ c ∈ glue.toList, P c)
    {texts : List String} (h : ∀ text ∈ texts, ∀ c ∈ text.toList, P c) :
    ∀ c ∈ (glue.intercalate texts).toList, P c := by
  induction texts with
  | nil => exact List.forall_mem_nil _
  | cons text texts ih =>
    obtain ⟨htext, htexts⟩ := List.forall_mem_cons.mp h
    cases texts with
    | nil =>
      rw [String.intercalate_singleton]
      exact htext
    | cons next texts =>
      rw [String.intercalate_cons_cons, String.toList_append, String.toList_append,
        List.forall_mem_append, List.forall_mem_append]
      exact ⟨⟨htext, hglue⟩, ih htexts⟩

theorem mem_intercalate {glue text : String} {texts : List String} (h : text ∈ texts) {c : Char}
    (hc : c ∈ text.toList) : c ∈ (glue.intercalate texts).toList := by
  induction texts with
  | nil => exact absurd h List.not_mem_nil
  | cons first texts ih =>
    cases texts with
    | nil =>
      rw [String.intercalate_singleton, ← List.mem_singleton.mp h]
      exact hc
    | cons next texts =>
      rw [String.intercalate_cons_cons, String.toList_append, List.mem_append]
      rcases List.mem_cons.mp h with rfl | h
      · rw [String.toList_append]
        exact .inl (List.mem_append_left _ hc)
      · exact .inr (ih h)

/-- The pieces of a text between the places where a sign stands. -/
def pieces (sep : Char) (text : String) : List String := (text.toList.splitOn sep).map String.ofList

section

variable {sep : Char} {text piece : String}

theorem not_mem_of_mem_splitOn {cs part : List Char} (h : part ∈ cs.splitOn sep) : sep ∉ part := by
  induction cs generalizing part with
  | nil =>
    rw [List.splitOn_nil, List.mem_singleton] at h
    rw [h]
    exact List.not_mem_nil
  | cons d cs ih =>
    obtain ⟨first, more, hsplit⟩ := List.exists_cons_of_ne_nil (List.splitOn_ne_nil sep cs)
    rw [List.splitOn_cons_eq_if_modifyHead, hsplit, List.modifyHead_cons] at h
    rw [hsplit] at ih
    split at h
    · rcases List.mem_cons.mp h with rfl | h
      · exact List.not_mem_nil
      · exact ih h
    · rename_i hd
      rcases List.mem_cons.mp h with rfl | h
      · rw [List.mem_cons, not_or]
        exact ⟨fun hsep => hd (beq_iff_eq.mpr hsep.symm), ih List.mem_cons_self⟩
      · exact ih (List.mem_cons_of_mem _ h)

theorem not_mem_of_mem_pieces (h : piece ∈ pieces sep text) : sep ∉ piece.toList := by
  obtain ⟨part, hpart, rfl⟩ := List.mem_map.mp h
  rw [String.toList_ofList]
  exact not_mem_of_mem_splitOn hpart

theorem intercalate_pieces (sep : Char) (text : String) :
    (String.singleton sep).intercalate (pieces sep text) = text := by
  have hparts : (pieces sep text).map String.toList = text.toList.splitOn sep := by
    rw [pieces, List.map_map]
    exact (List.map_congr_left fun _ _ => String.toList_ofList).trans (List.map_id _)
  rw [← String.toList_inj, String.toList_intercalate, hparts, String.toList_singleton,
    List.intercalate_splitOn]

theorem mem_of_mem_pieces (h : piece ∈ pieces sep text) {c : Char} (hc : c ∈ piece.toList) :
    c ∈ text.toList := by
  rw [← intercalate_pieces sep text]
  exact mem_intercalate h hc

theorem pieces_intercalate {texts : List String} (hne : texts ≠ [])
    (h : ∀ text ∈ texts, sep ∉ text.toList) :
    pieces sep ((String.singleton sep).intercalate texts) = texts := by
  have hparts : ∀ part ∈ texts.map String.toList, sep ∉ part := by
    intro part hpart
    obtain ⟨text, htext, rfl⟩ := List.mem_map.mp hpart
    exact h text htext
  rw [pieces, String.toList_intercalate, String.toList_singleton,
    List.splitOn_intercalate sep hparts (mt List.map_eq_nil_iff.mp hne), List.map_map]
  exact (List.map_congr_left fun _ _ => String.ofList_toList).trans (List.map_id texts)

end

/-! ## Lines and cells -/

/-- The lines of a text.  A line break at the end begins no other line. -/
def lines (text : String) : List String :=
  let all := pieces '\n' text
  if all.getLast? = some "" then all.dropLast else all

/-- The cells of a line. -/
def cells (line : String) : List String := pieces '\t' line

/-- The text has no sign in it that ends a cell or a line. -/
def IsCell (text : String) : Prop := '\t' ∉ text.toList ∧ '\n' ∉ text.toList

instance (text : String) : Decidable (IsCell text) := inferInstanceAs (Decidable (_ ∧ _))

theorem join_breaks (texts : List String) : String.join (texts.map fun text => text ++ "\n") =
    (String.singleton '\n').intercalate (texts ++ [""]) := by
  induction texts with
  | nil => rfl
  | cons text texts ih =>
    obtain ⟨next, more, hrest⟩ := List.exists_cons_of_ne_nil
      (List.append_ne_nil_of_right_ne_nil texts (List.cons_ne_nil "" []))
    rw [List.map_cons, String.join_cons, ih, List.cons_append, hrest, String.intercalate_cons_cons]
    rfl

theorem lines_join {texts : List String} (h : ∀ text ∈ texts, '\n' ∉ text.toList) :
    lines (String.join (texts.map fun text => text ++ "\n")) = texts := by
  have hall : pieces '\n' (String.join (texts.map fun text => text ++ "\n")) = texts ++ [""] := by
    rw [join_breaks]
    refine pieces_intercalate (List.append_ne_nil_of_right_ne_nil _ (List.cons_ne_nil _ _)) ?_
    rw [List.forall_mem_append, List.forall_mem_singleton]
    exact ⟨h, List.not_mem_nil⟩
  simp only [lines, hall, List.getLast?_append, List.getLast?_singleton, Option.some_or, if_true,
    List.dropLast_concat]

theorem not_mem_of_mem_lines {text line : String} (h : line ∈ lines text) : '\n' ∉ line.toList := by
  rw [lines] at h
  split at h
  · exact not_mem_of_mem_pieces (List.dropLast_subset _ h)
  · exact not_mem_of_mem_pieces h

/-- The cells of a text's lines have none of these signs. -/
theorem isCell_of_mem {text line cell : String} (hline : line ∈ lines text)
    (hcell : cell ∈ cells line) : IsCell cell :=
  ⟨not_mem_of_mem_pieces hcell, fun hmem =>
    not_mem_of_mem_lines hline (mem_of_mem_pieces hcell hmem)⟩

/-- Rows of cells come back from their print exactly if their cells have none of these signs. -/
theorem map_cells_lines_iff {rows : List (List String)} (hne : ∀ row ∈ rows, row ≠ []) :
    (lines (String.join (rows.map fun row => "\t".intercalate row ++ "\n"))).map cells = rows ↔
      ∀ row ∈ rows, ∀ cell ∈ row, IsCell cell := by
  constructor
  · intro heq row hrow cell hcell
    rw [← heq] at hrow
    obtain ⟨line, hline, rfl⟩ := List.mem_map.mp hrow
    exact isCell_of_mem hline hcell
  · intro hcells
    have hprint : rows.map (fun row => "\t".intercalate row ++ "\n") =
        (rows.map fun row => "\t".intercalate row).map fun text => text ++ "\n" := by
      rw [List.map_map]
      rfl
    have hbreaks : ∀ text ∈ rows.map fun row => "\t".intercalate row, '\n' ∉ text.toList := by
      intro text htext hmem
      obtain ⟨row, hrow, rfl⟩ := List.mem_map.mp htext
      refine forall_mem_intercalate (P := fun c => c ≠ '\n') (by simp) ?_ _ hmem rfl
      rintro cell hcell c hc rfl
      exact (hcells row hrow cell hcell).2 hc
    rw [hprint, lines_join hbreaks, List.map_map]
    refine (List.map_congr_left fun row hrow => ?_).trans (List.map_id rows)
    exact pieces_intercalate (hne row hrow) fun cell hcell => (hcells row hrow cell hcell).1

end Text
end SdkShelf
