import SdkShelf.Disk.Node
import SdkShelf.Proofs.Results

/-!
# Files on a disk

A change to one entry of a directory is seen where the entry is looked up, and nowhere else in the
directory.
-/

namespace SdkShelf
namespace Disk

theorem child?_insertEntry (name other : String) (n : Node) (entries : List (String × Node)) :
    child? other (insertEntry name n entries) =
      if name = other then some n else child? other entries := by
  rw [child?, Dictionary.find?_insertEntry]
  split
  · rfl
  · rfl

theorem child?_filter {name other : String} (h : name ≠ other) (entries : List (String × Node)) :
    child? other (entries.filter fun e => e.1 ≠ name) = child? other entries := by
  rw [child?, child?, List.find?_filter]
  congr 2
  funext e
  by_cases he : e.1 = other
  · simp [he, h.symm]
  · simp [he]

/-- The entries with another node under a name, or with none. -/
def changeEntry (name : String) (entries : List (String × Node)) :
    Option Node → List (String × Node)
  | some n => insertEntry name n entries
  | none => entries.filter fun e => e.1 ≠ name

namespace Node

theorem walk_append {disk n : Node} {dir : Path} (h : disk.walk dir = .ok n) (rest : Path) :
    disk.walk (dir ++ rest) = n.walk rest := by
  induction dir generalizing disk with
  | nil =>
    injection h with h
    rw [h, List.nil_append]
  | cons name dir ih =>
    cases disk with
    | file content => exact absurd h (by simp [walk])
    | directory entries =>
      rw [walk] at h
      rw [List.cons_append, walk]
      split at h
      · exact absurd h (by simp)
      · rename_i hname
        rw [if_neg hname]
        cases hchild : child? name entries with
        | none =>
          rw [hchild] at h
          exact absurd h (by simp)
        | some m =>
          rw [hchild] at h
          exact ih h

/-- What `change` makes of an entry is the only difference in the entry's directory. -/
theorem walk_of_update {change : Option Node → Except Error (Option Node)} {disk disk' : Node}
    {dir : Path} {name : String} (h : disk.update change (dir ++ [name]) = .ok disk') :
    ∃ entries n?, disk.walk dir = .ok (.directory entries) ∧ ¬ nameLimit < name.utf8ByteSize ∧
      change (child? name entries) = .ok n? ∧
      disk'.walk dir = .ok (.directory (changeEntry name entries n?)) := by
  induction dir generalizing disk disk' with
  | nil =>
    cases disk with
    | file content => exact absurd h (by simp [update])
    | directory entries =>
      rw [List.nil_append, update] at h
      split at h
      · exact absurd h (by simp)
      · rename_i hname
        obtain ⟨n?, hchange, rfl⟩ := exists_of_map_eq_ok h
        refine ⟨entries, n?, rfl, hname, hchange, ?_⟩
        cases n? <;> rfl
  | cons first dir ih =>
    cases disk with
    | file content => exact absurd h (by simp [update])
    | directory entries =>
      have hrest : dir ++ [name] ≠ [] := List.append_ne_nil_of_right_ne_nil _ (List.cons_ne_nil _ _)
      rw [List.cons_append] at h
      cases hchild : child? first entries with
      | none =>
        obtain ⟨second, rest, hcons⟩ := List.exists_cons_of_ne_nil hrest
        rw [hcons, update.eq_4 _ _ _ _ _ hchild] at h
        split at h <;> exact absurd h (by simp)
      | some n =>
        rw [update.eq_5 _ _ _ _ _ hrest hchild] at h
        split at h
        · exact absurd h (by simp)
        · rename_i hfirst
          obtain ⟨n', hupdate, rfl⟩ := exists_of_map_eq_ok h
          obtain ⟨inner, n?, hwalk, hname, hchange, hwalk'⟩ := ih hupdate
          refine ⟨inner, n?, ?_, hname, hchange, ?_⟩
          · rw [walk, if_neg hfirst, hchild]
            exact hwalk
          · rw [walk, if_neg hfirst, child?_insertEntry, if_pos rfl]
            exact hwalk'

theorem walk_child {entries : List (String × Node)} {name : String}
    (hname : ¬ nameLimit < name.utf8ByteSize) {n : Node} (h : child? name entries = some n) :
    (directory entries).walk [name] = .ok n := by
  rw [walk, if_neg hname, h]
  rfl

section

variable {disk disk' : Node} {dir : Path} {name : String} {content : ByteArray}

theorem readFile_writeFile (h : disk.writeFile (dir ++ [name]) content = .ok disk') :
    disk'.readFile (dir ++ [name]) = .ok content := by
  obtain ⟨entries, n?, _, hname, hchange, hwalk⟩ := walk_of_update h
  have hn : n? = some (file content) := by
    split at hchange
    · exact absurd hchange (by simp)
    · exact (Except.ok.inj hchange).symm
  rw [hn, changeEntry] at hwalk
  have hchild : child? name (insertEntry name (file content) entries) = some (file content) := by
    rw [child?_insertEntry, if_pos rfl]
  rw [readFile, walk_append hwalk, walk_child hname hchild]
  rfl

theorem walk_of_removeFile (h : disk.removeFile (dir ++ [name]) = .ok disk') :
    ∃ entries, disk.walk dir = .ok (.directory entries) ∧ ¬ nameLimit < name.utf8ByteSize ∧
      disk'.walk dir = .ok (.directory (entries.filter fun e => e.1 ≠ name)) := by
  obtain ⟨entries, n?, hwalk, hname, hchange, hwalk'⟩ := walk_of_update h
  have hn : n? = none := by
    split at hchange
    · exact absurd hchange (by simp)
    · exact absurd hchange (by simp)
    · exact (Except.ok.inj hchange).symm
  rw [hn, changeEntry] at hwalk'
  exact ⟨entries, hwalk, hname, hwalk'⟩

/-- Removing a file leaves the other entries of its directory. -/
theorem readFile_removeFile {other : String} (hother : name ≠ other)
    (h : disk.removeFile (dir ++ [name]) = .ok disk')
    (hread : disk.readFile (dir ++ [other]) = .ok content) :
    disk'.readFile (dir ++ [other]) = .ok content := by
  obtain ⟨entries, hwalk, _, hwalk'⟩ := walk_of_removeFile h
  rw [readFile, walk_append hwalk] at hread
  rw [readFile, walk_append hwalk']
  have hsame : (directory (entries.filter fun e => e.1 ≠ name)).walk [other] =
      (directory entries).walk [other] := by
    rw [walk, walk, child?_filter hother]
  rw [hsame]
  exact hread

/-- A moved file is read where it was moved to. -/
theorem readFile_rename {source target : String} (hne : source ≠ target)
    (hread : disk.readFile (dir ++ [source]) = .ok content)
    (h : disk.rename (dir ++ [source]) (dir ++ [target]) = .ok disk') :
    disk'.readFile (dir ++ [target]) = .ok content := by
  rw [rename, hread] at h
  simp only [bind, Except.bind] at h
  cases hwrite : disk.writeFile (dir ++ [target]) content with
  | error e =>
    rw [hwrite] at h
    exact absurd h (by simp)
  | ok moved =>
    rw [hwrite] at h
    exact readFile_removeFile hne h (readFile_writeFile hwrite)

theorem readText_of_readFile {path : Path} {text : String}
    (h : disk.readFile path = .ok text.toUTF8) : disk.readText path = .ok text := by
  have hdecode : String.fromUTF8? text.toUTF8 = some text := dif_pos text.isValidUTF8
  rw [readText, h]
  simp only [bind, Except.bind, hdecode]

end

end Node

end Disk
end SdkShelf
