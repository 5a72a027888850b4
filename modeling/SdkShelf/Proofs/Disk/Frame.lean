import SdkShelf.Proofs.Disk.Subtree

/-!
# What a change on a disk leaves alone

A change at a path is seen there and below, and no other file gains, loses or changes anything.  No
operation takes a directory away.
-/

namespace SdkShelf
namespace Disk
namespace Node

/-- The bytes of the file at a path, if there is one. -/
def content? (disk : Node) (path : Path) : Option ByteArray := (disk.readFile path).toOption

theorem content?_of_error {disk : Node} {path : Path} {e : Error} (h : disk.walk path = .error e) :
    disk.content? path = none := by
  rw [content?, readFile, h]
  rfl

theorem exists_file_of_readText {disk : Node} {path : Path} {text : String}
    (h : disk.readText path = .ok text) : ∃ content, disk.walk path = .ok (file content) := by
  obtain ⟨content, hread, _⟩ := exists_of_bind_eq_ok h
  obtain ⟨n, hwalk, hn⟩ := exists_of_bind_eq_ok hread
  cases n with
  | file content => exact ⟨content, hwalk⟩
  | directory entries => exact absurd hn (by simp)

theorem content?_empty (path : Path) : empty.content? path = none := by
  cases path with
  | nil => rfl
  | cons name rest =>
    rw [content?, readFile, empty, walk]
    split <;> rfl

section

variable {entries : List (String × Node)} {name : String}

theorem content?_cons (hname : ¬ nameLimit < name.utf8ByteSize) (rest : Path) :
    (directory entries).content? (name :: rest) =
      ((child? name entries).getD empty).content? rest := by
  rw [content?, readFile, walk, if_neg hname]
  cases child? name entries with
  | none => exact (content?_empty rest).symm
  | some n => rfl

theorem content?_of_long (hname : nameLimit < name.utf8ByteSize) (rest : Path) :
    (directory entries).content? (name :: rest) = none := by
  rw [content?, readFile, walk, if_pos hname]
  rfl

/-- Below a directory only what stands under the first name of a path matters. -/
theorem content?_congr {entries' : List (String × Node)} {rest : Path}
    (h : ((child? name entries').getD empty).content? rest =
      ((child? name entries).getD empty).content? rest) :
    (directory entries').content? (name :: rest) = (directory entries).content? (name :: rest) := by
  by_cases hname : nameLimit < name.utf8ByteSize
  · rw [content?_of_long hname, content?_of_long hname]
  · rw [content?_cons hname, content?_cons hname, h]

theorem content?_of_agreeBut {entries' : List (String × Node)} {other : String}
    (h : AgreeBut other entries entries') (hne : name ≠ other) (rest : Path) :
    (directory entries').content? (name :: rest) = (directory entries).content? (name :: rest) :=
  content?_congr (by rw [h.others name hne])

end

/-! ## Files -/

section

variable {change : Option Node → Except Error (Option Node)} {disk disk' : Node}
  {target path : Path}

theorem content?_update (h : disk.update change target = .ok disk') (hpath : ¬ target <+: path) :
    disk'.content? path = disk.content? path := by
  induction target generalizing disk disk' path with
  | nil => exact absurd (List.nil_prefix) hpath
  | cons name rest ih =>
    cases disk with
    | file content => exact absurd h (by simp [update])
    | directory entries =>
      obtain ⟨entries', rfl, hagree⟩ := agreeBut_of_update h
      cases path with
      | nil => rfl
      | cons first others =>
        by_cases hfirst : first = name
        · subst hfirst
          have hrest : rest ≠ [] := by
            rintro rfl
            exact hpath ⟨others, rfl⟩
          have hothers : ¬ rest <+: others := fun hprefix =>
            hpath ((List.prefix_cons_inj first).mpr hprefix)
          cases hchild : child? first entries with
          | none =>
            obtain ⟨second, more, rfl⟩ := List.exists_cons_of_ne_nil hrest
            rw [update.eq_4 _ _ _ _ _ hchild] at h
            split at h <;> exact absurd h (by simp)
          | some n =>
            rw [update.eq_5 _ _ _ _ _ hrest hchild] at h
            split at h
            · exact absurd h (by simp)
            · obtain ⟨n', hn', hdisk⟩ := exists_of_map_eq_ok h
              rw [← hdisk]
              refine content?_congr ?_
              rw [child?_insertEntry, if_pos rfl, hchild]
              exact ih hn' hothers
        · exact content?_of_agreeBut hagree hfirst others

theorem content?_makeDirectories (h : disk.makeDirectories target = .ok disk') (path : Path) :
    disk'.content? path = disk.content? path := by
  induction target generalizing disk disk' path with
  | nil =>
    cases disk with
    | file content => exact absurd h (by simp [makeDirectories])
    | directory entries => rw [Except.ok.inj h]
  | cons name rest ih =>
    cases disk with
    | file content => exact absurd h (by simp [makeDirectories])
    | directory entries =>
      obtain ⟨c, rfl, hc⟩ := agreeBut_of_makeDirectories h
      cases path with
      | nil => rfl
      | cons first others =>
        by_cases hfirst : first = name
        · subst hfirst
          refine content?_congr ?_
          rw [child?_insertEntry, if_pos rfl]
          exact ih hc others
        · exact content?_of_agreeBut (agreeBut_insertEntry name c entries) hfirst others

/-- A file is moved by writing it and removing the old one. -/
theorem exists_of_rename {source : Path} (h : disk.rename source target = .ok disk') :
    ∃ content moved, disk.writeFile target content = .ok moved ∧
      moved.removeFile source = .ok disk' := by
  obtain ⟨content, _, h⟩ := exists_of_bind_eq_ok h
  obtain ⟨moved, hwrite, hremove⟩ := exists_of_bind_eq_ok h
  exact ⟨content, moved, hwrite, hremove⟩

theorem content?_rename {source : Path} (h : disk.rename source target = .ok disk')
    (hsource : ¬ source <+: path) (htarget : ¬ target <+: path) :
    disk'.content? path = disk.content? path := by
  obtain ⟨content, moved, hwrite, hremove⟩ := exists_of_rename h
  rw [content?_update hremove hsource, content?_update hwrite htarget]

end

/-! ## Directories -/

def HasDirectory (disk : Node) (path : Path) : Prop :=
  ∃ entries, disk.walk path = .ok (directory entries)

/-- Files stand below directories only. -/
theorem content?_below {disk : Node} {path : Path} (h : ¬ disk.HasDirectory path) {rest : Path}
    (hrest : rest ≠ []) : disk.content? (path ++ rest) = none := by
  cases hwalk : disk.walk path with
  | error e => exact content?_of_error (walk_append_of_error hwalk rest)
  | ok n =>
    cases n with
    | directory entries => exact absurd ⟨entries, hwalk⟩ h
    | file content =>
      obtain ⟨name, more, rfl⟩ := List.exists_cons_of_ne_nil hrest
      have herror : disk.walk (path ++ name :: more) = .error .notDirectory := by
        rw [walk_append hwalk]
        rfl
      exact content?_of_error herror

/-- Where there was a directory there is one still. -/
def KeepsDirectories (disk disk' : Node) : Prop :=
  ∀ path, disk.HasDirectory path → disk'.HasDirectory path

theorem KeepsDirectories.refl (disk : Node) : disk.KeepsDirectories disk := fun _ h => h

theorem KeepsDirectories.trans {disk disk' disk'' : Node} (h : disk.KeepsDirectories disk')
    (h' : disk'.KeepsDirectories disk'') : disk.KeepsDirectories disk'' :=
  fun path hpath => h' path (h path hpath)

theorem hasDirectory_cons {entries : List (String × Node)} {name : String} {rest : Path} :
    (directory entries).HasDirectory (name :: rest) ↔
      ¬ nameLimit < name.utf8ByteSize ∧ ∃ n, child? name entries = some n ∧ n.HasDirectory rest := by
  constructor
  · rintro ⟨inner, h⟩
    obtain ⟨_, n, hdisk, hname, hchild, hwalk⟩ := exists_child_of_walk h
    obtain rfl := Node.directory.inj hdisk
    exact ⟨hname, n, hchild, inner, hwalk⟩
  · rintro ⟨hname, n, hchild, inner, hwalk⟩
    refine ⟨inner, ?_⟩
    rw [walk, if_neg hname, hchild]
    exact hwalk

theorem not_hasDirectory_file (content : ByteArray) (path : Path) :
    ¬ (file content).HasDirectory path := by
  rintro ⟨inner, h⟩
  cases path <;> exact absurd h (by simp [walk])

/-- Changes under one name keep the directories if they keep those that stand under the name. -/
theorem keepsDirectories_of_agreeBut {entries entries' : List (String × Node)} {name : String}
    (hagree : AgreeBut name entries entries')
    (hname : ∀ n rest, child? name entries = some n → n.HasDirectory rest →
      ∃ n', child? name entries' = some n' ∧ n'.HasDirectory rest) :
    (directory entries).KeepsDirectories (directory entries') := by
  intro path hpath
  cases path with
  | nil => exact ⟨entries', rfl⟩
  | cons first rest =>
    rw [hasDirectory_cons] at hpath ⊢
    obtain ⟨hshort, n, hchild, hn⟩ := hpath
    refine ⟨hshort, ?_⟩
    by_cases hfirst : first = name
    · subst hfirst
      exact hname n rest hchild hn
    · exact ⟨n, by rw [hagree.others first hfirst]; exact hchild, hn⟩

section

variable {change : Option Node → Except Error (Option Node)} {disk disk' : Node} {target : Path}

theorem keepsDirectories_update
    (hchange : ∀ entries n?, change (some (directory entries)) ≠ .ok n?)
    (h : disk.update change target = .ok disk') : disk.KeepsDirectories disk' := by
  induction target generalizing disk disk' with
  | nil =>
    cases disk with
    | file content => exact fun path hpath => absurd hpath (not_hasDirectory_file content path)
    | directory entries =>
      rw [update] at h
      obtain ⟨n?, hn, _⟩ := exists_of_map_eq_ok h
      exact absurd hn (hchange entries n?)
  | cons name rest ih =>
    cases disk with
    | file content => exact absurd h (by simp [update])
    | directory entries =>
      obtain ⟨entries', rfl, hagree⟩ := agreeBut_of_update h
      refine keepsDirectories_of_agreeBut hagree fun n others hchild hn => ?_
      cases rest with
      | nil =>
        rw [update] at h
        split at h
        · exact absurd h (by simp)
        · obtain ⟨n?, hn?, _⟩ := exists_of_map_eq_ok h
          rw [hchild] at hn?
          cases n with
          | file content => exact absurd hn (not_hasDirectory_file content others)
          | directory inner => exact absurd hn? (hchange inner n?)
      | cons second more =>
        rw [update.eq_5 _ _ _ _ _ (List.cons_ne_nil _ _) hchild] at h
        split at h
        · exact absurd h (by simp)
        · obtain ⟨n', hn', hdisk⟩ := exists_of_map_eq_ok h
          obtain rfl := Node.directory.inj hdisk
          exact ⟨n', by rw [child?_insertEntry, if_pos rfl], ih hn' others hn⟩

theorem keepsDirectories_writeFile {content : ByteArray}
    (h : disk.writeFile target content = .ok disk') : disk.KeepsDirectories disk' :=
  keepsDirectories_update (by simp) h

theorem keepsDirectories_removeFile (h : disk.removeFile target = .ok disk') :
    disk.KeepsDirectories disk' :=
  keepsDirectories_update (by simp) h

theorem keepsDirectories_rename {source : Path} (h : disk.rename source target = .ok disk') :
    disk.KeepsDirectories disk' := by
  obtain ⟨content, moved, hwrite, hremove⟩ := exists_of_rename h
  exact (keepsDirectories_writeFile hwrite).trans (keepsDirectories_removeFile hremove)

theorem keepsDirectories_makeDirectories (h : disk.makeDirectories target = .ok disk') :
    disk.KeepsDirectories disk' := by
  induction target generalizing disk disk' with
  | nil =>
    cases disk with
    | file content => exact absurd h (by simp [makeDirectories])
    | directory entries =>
      rw [← Except.ok.inj h]
      exact .refl _
  | cons name rest ih =>
    cases disk with
    | file content => exact absurd h (by simp [makeDirectories])
    | directory entries =>
      obtain ⟨c, rfl, hc⟩ := agreeBut_of_makeDirectories h
      refine keepsDirectories_of_agreeBut (agreeBut_insertEntry name c entries)
        fun n others hchild hn => ?_
      rw [hchild] at hc
      exact ⟨c, by rw [child?_insertEntry, if_pos rfl], ih hc others hn⟩

end

end Node
end Disk
end SdkShelf
