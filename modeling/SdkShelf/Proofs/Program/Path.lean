import Mathlib
import SdkShelf.Program
import SdkShelf.Proofs.Disk.Frame

/-!
# Paths that texts name

A text that names a directory names the same one as long as no directory goes away.
-/

namespace SdkShelf
namespace Program

open Disk (Node Path)

section

variable {disk disk' : Node} {path : Path}

theorem list_isOk_iff : (∃ entries, disk.list path = .ok entries) ↔ disk.HasDirectory path := by
  rw [Node.HasDirectory, Node.list]
  cases disk.walk path with
  | error e => simp [bind, Except.bind]
  | ok n => cases n <;> simp [bind, Except.bind]

/-- Behind something that is no directory no text leads back to one. -/
theorem not_hasDirectory_append (h : ¬ disk.HasDirectory path) (part : String) :
    ¬ disk.HasDirectory (path ++ [part]) := by
  rintro ⟨inner, hinner⟩
  obtain ⟨entries, hwalk, _⟩ := Node.exists_entry_of_walk hinner
  exact h ⟨entries, hwalk⟩

theorem step_of_not_directory (h : ¬ disk.HasDirectory path) (part : String) :
    step disk path part = path ∨ step disk path part = path ++ [part] := by
  rw [step]
  by_cases hstay : part = "" ∨ part = "."
  · rw [if_pos hstay]
    exact Or.inl rfl
  · rw [if_neg hstay]
    by_cases hup : part = ".."
    · rw [if_pos hup]
      cases hlist : disk.list path with
      | ok entries => exact absurd (list_isOk_iff.mp ⟨entries, hlist⟩) h
      | error e => exact Or.inr rfl
    · rw [if_neg hup]
      exact Or.inr rfl

theorem not_hasDirectory_foldl (h : ¬ disk.HasDirectory path) (parts : List String) :
    ¬ disk.HasDirectory (parts.foldl (step disk) path) := by
  induction parts generalizing path with
  | nil => exact h
  | cons part parts ih =>
    rw [List.foldl_cons]
    rcases step_of_not_directory h part with hstep | hstep
    · rw [hstep]
      exact ih h
    · rw [hstep]
      exact ih (not_hasDirectory_append h part)

/-- A single point names the directory of the run. -/
theorem pathOf_point (disk : Node) (directory : Path) : pathOf disk directory "." = directory := by
  have hparts : ".".splitOn "/" = ["."] := by cbv
  have hrelative : ".".startsWith "/" = false := by cbv
  show (".".splitOn "/").foldl (step disk) (if ".".startsWith "/" then [] else directory) = _
  rw [hparts, hrelative]
  rfl

variable (hkeeps : disk.KeepsDirectories disk')

include hkeeps

theorem step_eq (part : String) (h : part = ".." → disk.HasDirectory path) :
    step disk' path part = step disk path part := by
  rw [step, step]
  by_cases hup : part = ".."
  · obtain ⟨entries, hlist⟩ := list_isOk_iff.mpr (h hup)
    obtain ⟨entries', hlist'⟩ := list_isOk_iff.mpr (hkeeps path (h hup))
    rw [hlist, hlist']
  · rw [if_neg hup, if_neg hup]

theorem foldl_step_eq {parts : List String}
    (h : disk.HasDirectory (parts.foldl (step disk) path)) :
    parts.foldl (step disk') path = parts.foldl (step disk) path := by
  induction parts generalizing path with
  | nil => rfl
  | cons part parts ih =>
    rw [List.foldl_cons] at h
    have hstep : step disk' path part = step disk path part := by
      -- Had the walk left the directories here, it could not end at one.
      refine step_eq hkeeps part fun _ => Classical.byContradiction fun hpath => ?_
      refine not_hasDirectory_foldl ?_ parts h
      rcases step_of_not_directory hpath part with hpart | hpart
      · rw [hpart]
        exact hpath
      · rw [hpart]
        exact not_hasDirectory_append hpath part
    rw [List.foldl_cons, List.foldl_cons, hstep]
    exact ih h

theorem pathOf_eq {directory : Path} {text : String}
    (h : disk.HasDirectory (pathOf disk directory text)) :
    pathOf disk' directory text = pathOf disk directory text :=
  foldl_step_eq hkeeps h

end

end Program
end SdkShelf
