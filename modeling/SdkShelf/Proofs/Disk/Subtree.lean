import SdkShelf.Proofs.Disk.Node

/-!
# Subtrees of a disk

What is done at a path below a directory is done to the subtree that stands there.  In a directory
it changes the entry that the path goes through, and no other.
-/

namespace SdkShelf
namespace Disk

/-- The entries of a directory before and after a change to what stands under one name. -/
structure AgreeBut (name : String) (entries entries' : List (String × Node)) : Prop where
  ascending : Ascending entries → Ascending entries'
  others : ∀ other, other ≠ name → child? other entries' = child? other entries

theorem AgreeBut.refl (name : String) (entries : List (String × Node)) :
    AgreeBut name entries entries := ⟨id, fun _ _ => rfl⟩

theorem agreeBut_insertEntry (name : String) (n : Node) (entries : List (String × Node)) :
    AgreeBut name entries (insertEntry name n entries) := by
  refine ⟨ascending_insertEntry name n, fun other h => ?_⟩
  rw [child?_insertEntry, if_neg h.symm]

theorem agreeBut_filter (name : String) (entries : List (String × Node)) :
    AgreeBut name entries (entries.filter fun e => e.1 ≠ name) := by
  refine ⟨fun h => ?_, fun other h => child?_filter h.symm entries⟩
  have hpairwise : entries.Pairwise fun a b => a.1 < b.1 := h
  exact hpairwise.filter _

theorem agreeBut_changeEntry (name : String) (entries : List (String × Node)) (n? : Option Node) :
    AgreeBut name entries (changeEntry name entries n?) := by
  cases n? with
  | none => exact agreeBut_filter name entries
  | some n => exact agreeBut_insertEntry name n entries

theorem child?_filter_self (name : String) (entries : List (String × Node)) :
    child? name (entries.filter fun e => e.1 ≠ name) = none := by
  have hnone : (entries.filter fun e => e.1 ≠ name).find? (fun e => e.1 = name) = none := by
    rw [List.find?_eq_none]
    intro e he hname
    have hne : e.1 ≠ name := by simpa using (List.mem_filter.mp he).2
    exact hne (of_decide_eq_true hname)
  rw [child?, hnone]
  rfl

namespace Node

/-! ## Paths that lead nowhere -/

theorem walk_append_of_error {disk : Node} {dir : Path} {e : Error} (h : disk.walk dir = .error e)
    (rest : Path) : disk.walk (dir ++ rest) = .error e := by
  induction dir generalizing disk with
  | nil => exact absurd h (by simp [walk])
  | cons name dir ih =>
    cases disk with
    | file content => exact h
    | directory entries =>
      rw [walk] at h
      rw [List.cons_append, walk]
      by_cases hname : nameLimit < name.utf8ByteSize
      · rw [if_pos hname] at h ⊢
        exact h
      · rw [if_neg hname] at h ⊢
        cases hchild : child? name entries with
        | none =>
          rw [hchild] at h
          exact h
        | some n =>
          rw [hchild] at h
          exact ih h

theorem update_append_of_error {disk : Node} {dir : Path} {e : Error}
    (h : disk.walk dir = .error e) (change : Option Node → Except Error (Option Node)) {rest : Path}
    (hrest : rest ≠ []) : disk.update change (dir ++ rest) = .error e := by
  induction dir generalizing disk with
  | nil => exact absurd h (by simp [walk])
  | cons name dir ih =>
    cases disk with
    | file content => exact h
    | directory entries =>
      have hne : dir ++ rest ≠ [] := List.append_ne_nil_of_right_ne_nil _ hrest
      rw [walk] at h
      rw [List.cons_append]
      cases hchild : child? name entries with
      | none =>
        rw [hchild] at h
        obtain ⟨second, others, hcons⟩ := List.exists_cons_of_ne_nil hne
        rw [hcons, update.eq_4 _ _ _ _ _ hchild]
        exact h
      | some n =>
        rw [hchild] at h
        rw [update.eq_5 _ _ _ _ _ hne hchild]
        by_cases hname : nameLimit < name.utf8ByteSize
        · rw [if_pos hname] at h ⊢
          exact h
        · rw [if_neg hname] at h ⊢
          rw [ih h]
          rfl

/-! ## Grafts -/

/-- The disk with a node in the place of the one that stands at a path. -/
def graft : Path → Node → Node → Node
  | [], n, _ => n
  | name :: rest, n, .directory entries =>
    match child? name entries with
    | some m => .directory (insertEntry name (graft rest n m) entries)
    | none => .directory entries
  | _ :: _, _, .file content => .file content

/-- A path is walked entry by entry. -/
theorem exists_child_of_walk {disk m : Node} {name : String} {rest : Path}
    (h : disk.walk (name :: rest) = .ok m) :
    ∃ entries n, disk = directory entries ∧ ¬ nameLimit < name.utf8ByteSize ∧
      child? name entries = some n ∧ n.walk rest = .ok m := by
  cases disk with
  | file content => exact absurd h (by simp [walk])
  | directory entries =>
    rw [walk] at h
    by_cases hname : nameLimit < name.utf8ByteSize
    · rw [if_pos hname] at h
      exact absurd h (by simp)
    · rw [if_neg hname] at h
      cases hchild : child? name entries with
      | none =>
        rw [hchild] at h
        exact absurd h (by simp)
      | some n =>
        rw [hchild] at h
        exact ⟨entries, n, rfl, hname, hchild, h⟩

theorem exists_entry_of_walk {disk n : Node} {dir : Path} {name : String}
    (h : disk.walk (dir ++ [name]) = .ok n) :
    ∃ entries, disk.walk dir = .ok (directory entries) ∧ child? name entries = some n := by
  induction dir generalizing disk with
  | nil =>
    obtain ⟨entries, m, rfl, _, hchild, hwalk⟩ := exists_child_of_walk h
    have hm : m = n := Except.ok.inj hwalk
    rw [hm] at hchild
    exact ⟨entries, rfl, hchild⟩
  | cons first dir ih =>
    obtain ⟨above, m, rfl, hfirst, hm, hwalk⟩ := exists_child_of_walk h
    obtain ⟨entries, hdir, hchild⟩ := ih hwalk
    refine ⟨entries, ?_, hchild⟩
    rw [walk, if_neg hfirst, hm]
    exact hdir

theorem graft_cons {entries : List (String × Node)} {name : String} {m : Node}
    (h : child? name entries = some m) (rest : Path) (n : Node) :
    graft (name :: rest) n (directory entries) =
      directory (insertEntry name (graft rest n m) entries) := by
  rw [graft, h]

section

variable {disk m : Node} {dir : Path} (h : disk.walk dir = .ok m)

include h

theorem walk_graft (n : Node) : (graft dir n disk).walk dir = .ok n := by
  induction dir generalizing disk with
  | nil => rfl
  | cons name dir ih =>
    obtain ⟨entries, c, rfl, hname, hchild, hwalk⟩ := exists_child_of_walk h
    rw [graft_cons hchild, walk, if_neg hname, child?_insertEntry, if_pos rfl]
    exact ih hwalk

/-- A change below a directory is a change of the subtree. -/
theorem update_append (change : Option Node → Except Error (Option Node)) {rest : Path}
    (hrest : rest ≠ []) :
    disk.update change (dir ++ rest) = (m.update change rest).map fun n => graft dir n disk := by
  induction dir generalizing disk with
  | nil =>
    have hm : disk = m := Except.ok.inj h
    rw [hm, List.nil_append]
    cases m.update change rest with
    | error e => rfl
    | ok n => rfl
  | cons name dir ih =>
    obtain ⟨entries, c, rfl, hname, hchild, hwalk⟩ := exists_child_of_walk h
    have hne : dir ++ rest ≠ [] := List.append_ne_nil_of_right_ne_nil _ hrest
    rw [List.cons_append, update.eq_5 _ _ _ _ _ hne hchild, if_neg hname, ih hwalk]
    cases m.update change rest with
    | error e => rfl
    | ok n =>
      show Except.ok (directory (insertEntry name (graft dir n c) entries)) =
        Except.ok (graft (name :: dir) n (directory entries))
      rw [graft_cons hchild]

/-- A change of one entry of a directory. -/
theorem update_entry {change : Option Node → Except Error (Option Node)}
    {entries : List (String × Node)} {name : String} (n? : Option Node)
    (hm : m = directory entries) (hname : ¬ nameLimit < name.utf8ByteSize)
    (hchange : change (child? name entries) = .ok n?) :
    disk.update change (dir ++ [name]) =
      .ok (graft dir (directory (changeEntry name entries n?)) disk) := by
  rw [update_append h change (List.cons_ne_nil _ _), hm, update, if_neg hname, hchange]
  cases n? with
  | none => rfl
  | some n => rfl

end

section

variable {disk : Node} {dir : Path} {entries : List (String × Node)} {name : String}
  (h : disk.walk dir = .ok (directory entries)) (hname : ¬ nameLimit < name.utf8ByteSize)

include h hname

theorem walk_entry {n : Node} (hchild : child? name entries = some n) :
    disk.walk (dir ++ [name]) = .ok n := by
  rw [walk_append h, walk_child hname hchild]

theorem walk_absent (hchild : child? name entries = none) :
    disk.walk (dir ++ [name]) = .error .notFound := by
  rw [walk_append h, walk, if_neg hname, hchild]

theorem writeFile_entry (content : ByteArray)
    (hfree : ∀ inner, child? name entries ≠ some (directory inner)) :
    disk.writeFile (dir ++ [name]) content =
      .ok (graft dir (directory (insertEntry name (file content) entries)) disk) := by
  refine update_entry h (some (file content)) rfl hname ?_
  cases hchild : child? name entries with
  | none => rfl
  | some n =>
    cases n with
    | file old => rfl
    | directory inner => exact absurd hchild (hfree inner)

theorem removeFile_entry {content : ByteArray} (hchild : child? name entries = some (file content)) :
    disk.removeFile (dir ++ [name]) =
      .ok (graft dir (directory (entries.filter fun e => e.1 ≠ name)) disk) := by
  refine update_entry h none rfl hname ?_
  rw [hchild]

theorem removeFile_absent (hchild : child? name entries = none) :
    disk.removeFile (dir ++ [name]) = .error .notFound := by
  rw [removeFile, update_append h _ (List.cons_ne_nil _ _), update, if_neg hname, hchild]
  rfl

end

/-- A file that is moved within a directory. -/
theorem exists_rename_entry {disk : Node} {dir : Path} {entries : List (String × Node)}
    {source target : String} {content : ByteArray} (h : disk.walk dir = .ok (directory entries))
    (hsource : ¬ nameLimit < source.utf8ByteSize) (htarget : ¬ nameLimit < target.utf8ByteSize)
    (hne : source ≠ target) (hchild : child? source entries = some (file content))
    (hfree : ∀ inner, child? target entries ≠ some (directory inner)) :
    ∃ disk', disk.rename (dir ++ [source]) (dir ++ [target]) = .ok disk' ∧
      disk'.walk dir = .ok (directory
        ((insertEntry target (file content) entries).filter fun e => e.1 ≠ source)) := by
  have hread : disk.readFile (dir ++ [source]) = .ok content := by
    rw [readFile, walk_entry h hsource hchild]
    rfl
  have hwrite := writeFile_entry h htarget content hfree
  have hwalk := walk_graft h (directory (insertEntry target (file content) entries))
  have hmoved : child? source (insertEntry target (file content) entries) = some (file content) := by
    rw [child?_insertEntry, if_neg hne.symm]
    exact hchild
  have hremove := removeFile_entry hwalk hsource hmoved
  refine ⟨_, ?_, walk_graft hwalk _⟩
  rw [rename, hread]
  show ((disk.writeFile (dir ++ [target]) content).bind fun moved =>
    moved.removeFile (dir ++ [source])) = _
  rw [hwrite]
  exact hremove

theorem makeDirectories_append {disk : Node} {dir : Path} {entries : List (String × Node)}
    (h : disk.walk dir = .ok (directory entries)) (rest : Path) :
    disk.makeDirectories (dir ++ rest) =
      ((directory entries).makeDirectories rest).map fun n => graft dir n disk := by
  induction dir generalizing disk with
  | nil =>
    have hdisk : disk = directory entries := Except.ok.inj h
    rw [hdisk, List.nil_append]
    cases (directory entries).makeDirectories rest with
    | error e => rfl
    | ok n => rfl
  | cons name dir ih =>
    obtain ⟨above, c, rfl, hname, hchild, hwalk⟩ := exists_child_of_walk h
    rw [List.cons_append, makeDirectories, if_neg hname, hchild, Option.getD_some, ih hwalk]
    cases (directory entries).makeDirectories rest with
    | error e => rfl
    | ok n =>
      show Except.ok (directory (insertEntry name (graft dir n c) above)) =
        Except.ok (graft (name :: dir) n (directory above))
      rw [graft_cons hchild]

/-! ## Changes in a directory -/

section

variable {entries : List (String × Node)} {name : String} {rest : Path} {n : Node}

theorem agreeBut_of_update {change : Option Node → Except Error (Option Node)}
    (h : (directory entries).update change (name :: rest) = .ok n) :
    ∃ entries', n = directory entries' ∧ AgreeBut name entries entries' := by
  cases rest with
  | nil =>
    rw [update] at h
    by_cases hname : nameLimit < name.utf8ByteSize
    · rw [if_pos hname] at h
      exact absurd h (by simp)
    · rw [if_neg hname] at h
      obtain ⟨n?, _, rfl⟩ := exists_of_map_eq_ok h
      refine ⟨changeEntry name entries n?, ?_, agreeBut_changeEntry name entries n?⟩
      cases n? with
      | none => rfl
      | some n => rfl
  | cons second rest =>
    cases hchild : child? name entries with
    | none =>
      rw [update.eq_4 _ _ _ _ _ hchild] at h
      split at h <;> exact absurd h (by simp)
    | some c =>
      rw [update.eq_5 _ _ _ _ _ (List.cons_ne_nil _ _) hchild] at h
      by_cases hname : nameLimit < name.utf8ByteSize
      · rw [if_pos hname] at h
        exact absurd h (by simp)
      · rw [if_neg hname] at h
        obtain ⟨c', _, rfl⟩ := exists_of_map_eq_ok h
        exact ⟨_, rfl, agreeBut_insertEntry name c' entries⟩

theorem agreeBut_of_makeDirectories
    (h : (directory entries).makeDirectories (name :: rest) = .ok n) :
    ∃ c, n = directory (insertEntry name c entries) ∧
      ((child? name entries).getD empty).makeDirectories rest = .ok c := by
  rw [makeDirectories] at h
  by_cases hname : nameLimit < name.utf8ByteSize
  · rw [if_pos hname] at h
    exact absurd h (by simp)
  · rw [if_neg hname] at h
    obtain ⟨c, hc, rfl⟩ := exists_of_map_eq_ok h
    exact ⟨c, rfl, hc⟩

end

end Node

end Disk
end SdkShelf
