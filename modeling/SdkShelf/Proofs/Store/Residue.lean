import SdkShelf.Proofs.Store.Placement

/-!
# What a failed write leaves behind

A write that fails leaves every file as it was, but for one case: where a directory stands in the
place of the entry's file, the temporary file that cannot take that place stays on the disk.
-/

namespace SdkShelf

namespace Disk
namespace Node

instance (disk : Node) (path : Path) : Decidable (disk.HasDirectory path) :=
  match h : disk.walk path with
  | .ok (.directory entries) => isTrue ⟨entries, h⟩
  | .ok (.file _) => isFalse (by rw [HasDirectory, h]; simp)
  | .error _ => isFalse (by rw [HasDirectory, h]; simp)

section

variable {disk disk' : Node} {dir : Path} {files : List (String × Node)} {name : String}

theorem hasDirectory_entry (h : disk.walk dir = .ok (directory files))
    {inner : List (String × Node)} (hname : ¬ nameLimit < name.utf8ByteSize)
    (hchild : child? name files = some (directory inner)) : disk.HasDirectory (dir ++ [name]) :=
  ⟨inner, walk_entry h hname hchild⟩

theorem exists_child_of_hasDirectory (h : disk.HasDirectory (dir ++ [name])) :
    ∃ files inner, disk.walk dir = .ok (directory files) ∧
      child? name files = some (directory inner) := by
  obtain ⟨inner, hwalk⟩ := h
  obtain ⟨files, hdir, hchild⟩ := exists_entry_of_walk hwalk
  exact ⟨files, inner, hdir, hchild⟩

/-- A directory that is made was there before, or is empty. -/
theorem exists_walk_of_makeDirectories (h : disk.makeDirectories dir = .ok disk') :
    ∃ files, disk'.walk dir = .ok (directory files) ∧
      (disk.walk dir = .ok (directory files) ∨ files = []) := by
  induction dir generalizing disk disk' with
  | nil =>
    cases disk with
    | file content => exact absurd h (by simp [makeDirectories])
    | directory entries =>
      rw [← Except.ok.inj h]
      exact ⟨entries, rfl, .inl rfl⟩
  | cons name dir ih =>
    cases disk with
    | file content => exact absurd h (by simp [makeDirectories])
    | directory entries =>
      by_cases hname : nameLimit < name.utf8ByteSize
      · rw [makeDirectories, if_pos hname] at h
        exact absurd h (by simp)
      · obtain ⟨c, rfl, hc⟩ := agreeBut_of_makeDirectories h
        obtain ⟨files, hwalk, hbefore⟩ := ih hc
        refine ⟨files, ?_, ?_⟩
        · rw [walk, if_neg hname, child?_insertEntry, if_pos rfl]
          exact hwalk
        · rcases hbefore with hbefore | hnil
          · rw [walk, if_neg hname]
            cases hchild : child? name entries with
            | some n =>
              rw [hchild] at hbefore
              exact .inl hbefore
            | none =>
              -- The directory above was made as well, so nothing can stand in it.
              rw [hchild] at hbefore
              cases dir with
              | nil => exact .inr (directory.inj (Except.ok.inj hbefore)).symm
              | cons second rest =>
                obtain ⟨_, n, hempty, _, hsecond, _⟩ := exists_child_of_walk hbefore
                rw [← directory.inj hempty] at hsecond
                exact absurd hsecond (by simp [child?])
          · exact .inr hnil

/-- Making a directory puts nothing into it. -/
theorem child?_of_makeDirectories (h : disk.makeDirectories dir = .ok disk')
    (hwalk : disk'.walk dir = .ok (directory files)) {n : Node}
    (hchild : child? name files = some n) :
    disk.walk dir = .ok (directory files) := by
  obtain ⟨files', hwalk', hbefore⟩ := exists_walk_of_makeDirectories h
  obtain rfl := directory.inj (Except.ok.inj (hwalk.symm.trans hwalk'))
  rcases hbefore with hbefore | rfl
  · exact hbefore
  · exact absurd hchild (by simp [child?])

theorem writeFile_directory (h : disk.HasDirectory (dir ++ [name])) (content : ByteArray) :
    disk.writeFile (dir ++ [name]) content = .error .isDirectory := by
  obtain ⟨files, inner, hdir, hchild⟩ := exists_child_of_hasDirectory h
  have hname : ¬ nameLimit < name.utf8ByteSize := by
    intro hlong
    obtain ⟨_, hwalk⟩ := h
    rw [walk_append hdir, walk, if_pos hlong] at hwalk
    exact absurd hwalk (by simp)
  rw [writeFile, update_append hdir _ (List.cons_ne_nil _ _), update, if_neg hname, hchild]
  rfl

/-- No file takes the place of a directory. -/
theorem rename_directory {source : Path} {content : ByteArray}
    (hread : disk.readFile source = .ok content) (h : disk.HasDirectory (dir ++ [name])) :
    disk.rename source (dir ++ [name]) = .error .isDirectory := by
  rw [rename, hread]
  show ((disk.writeFile (dir ++ [name]) content).bind fun moved => moved.removeFile source) = _
  rw [writeFile_directory h]
  rfl

end

end Node
end Disk

namespace DirectoryStore

open Disk (Node Path)

/-- The text would be written, but for a directory in the place of the entry's file: the key is
valid, the text fits, and the temporary file gets a name that is short enough and not that of a
directory. -/
structure Strands (s : DirectoryStore) (key text : String) : Prop where
  valid : IsFileKey key
  fits : s.Fits key text
  place : s.disk.HasDirectory (s.pathOf key)
  mark : ¬ Disk.nameLimit < (key ++ ".tmp." ++ s.temporary s.drawn).utf8ByteSize
  free : ¬ s.disk.HasDirectory (s.temporaryOf key)

instance (s : DirectoryStore) (key text : String) : Decidable (s.Strands key text) :=
  decidable_of_iff (IsFileKey key ∧ s.Fits key text ∧ s.disk.HasDirectory (s.pathOf key) ∧
      ¬ Disk.nameLimit < (key ++ ".tmp." ++ s.temporary s.drawn).utf8ByteSize ∧
      ¬ s.disk.HasDirectory (s.temporaryOf key))
    ⟨fun ⟨hkey, hfits, hplace, hmark, hfree⟩ => ⟨hkey, hfits, hplace, hmark, hfree⟩,
      fun h => ⟨h.valid, h.fits, h.place, h.mark, h.free⟩⟩

section

variable {s s' : DirectoryStore} {key text : String}

/-- The temporary file's name is longer than that of the entry's file. -/
theorem ending_le_of_mark
    (h : ¬ Disk.nameLimit < (key ++ ".tmp." ++ s.temporary s.drawn).utf8ByteSize) :
    ¬ Disk.nameLimit < (key ++ ending).utf8ByteSize := by
  have hmiddle : ".tmp.".utf8ByteSize = 5 := rfl
  have hending : ending.utf8ByteSize = 4 := rfl
  rw [String.utf8ByteSize_append, String.utf8ByteSize_append, hmiddle] at h
  rw [String.utf8ByteSize_append, hending]
  omega

/-- Where a text is stranded its temporary file can be written. -/
theorem Strands.exists_writeFile {disk : Node} (h : s.Strands key text)
    (hmake : s.disk.makeDirectories s.directory = .ok disk) (content : ByteArray) :
    ∃ disk', disk.writeFile (s.temporaryOf key) content = .ok disk' := by
  obtain ⟨files, hwalk, -⟩ := Node.exists_walk_of_makeDirectories hmake
  refine ⟨_, Node.writeFile_entry hwalk h.mark content fun inner hinner => h.free ?_⟩
  exact Node.hasDirectory_entry (Node.child?_of_makeDirectories hmake hwalk hinner) h.mark hinner

theorem Strands.exists_makeDirectories (h : s.Strands key text) :
    ∃ disk, s.disk.makeDirectories s.directory = .ok disk := by
  obtain ⟨files, inner, hwalk, -⟩ := Node.exists_child_of_hasDirectory h.place
  have hmake := Node.makeDirectories_append hwalk []
  rw [List.append_nil] at hmake
  exact ⟨_, hmake⟩

/-- A temporary file that was written and cannot be moved has a directory in its way. -/
theorem strands_of_rename {disk disk' : Node} {e : Disk.Error} (hkey : IsFileKey key)
    (hfits : s.Fits key text) (hmake : s.disk.makeDirectories s.directory = .ok disk)
    (hwrite : disk.writeFile (s.temporaryOf key) text.toUTF8 = .ok disk')
    (hrename : disk'.rename (s.temporaryOf key) (s.pathOf key) = .error e) :
    s.Strands key text := by
  obtain ⟨files, n?, hwalk, hmark, hchange, hwalk'⟩ := Node.walk_of_update hwrite
  have hn : n? = some (.file text.toUTF8) := by
    split at hchange
    · exact absurd hchange (by simp)
    · exact (Except.ok.inj hchange).symm
  rw [hn, Disk.changeEntry] at hwalk'
  have hne := temporary_ne_entry (s.temporary s.drawn) hkey hkey
  have htemporary : Disk.child? (key ++ ".tmp." ++ s.temporary s.drawn)
      (insertEntry (key ++ ".tmp." ++ s.temporary s.drawn) (.file text.toUTF8) files) =
        some (.file text.toUTF8) := by
    rw [Disk.child?_insertEntry, if_pos rfl]
  have hplace : ∃ inner, Disk.child? (key ++ ending) files = some (.directory inner) := by
    by_contra hnone
    obtain ⟨moved, hmoved, -⟩ := Node.exists_rename_entry hwalk' hmark (ending_le_of_mark hmark) hne
      htemporary fun inner hinner => hnone ⟨inner, by
        rw [Disk.child?_insertEntry, if_neg hne] at hinner
        exact hinner⟩
    exact absurd (hrename.symm.trans hmoved) (by simp)
  obtain ⟨inner, hinner⟩ := hplace
  have hbefore := Node.child?_of_makeDirectories hmake hwalk hinner
  refine ⟨hkey, hfits, Node.hasDirectory_entry hbefore (ending_le_of_mark hmark) hinner, hmark, ?_⟩
  intro hdirectory
  obtain ⟨files', other, hwalk₁, hother⟩ := Node.exists_child_of_hasDirectory hdirectory
  obtain rfl := Node.directory.inj (Except.ok.inj (hbefore.symm.trans hwalk₁))
  rw [hother] at hchange
  exact absurd hchange (by simp)

/-- A file that is written where no directory stands is the only one that changes. -/
theorem content?_writeFile {disk disk' : Node} {dir : Path} {name : String} {content : ByteArray}
    (h : disk.writeFile (dir ++ [name]) content = .ok disk') (path : Path) :
    disk'.content? path = if path = dir ++ [name] then some content else disk.content? path := by
  have hread := Node.readFile_writeFile h
  split
  · rename_i hpath
    rw [hpath, Node.content?, hread]
    rfl
  · rename_i hpath
    by_cases hbelow : dir ++ [name] <+: path
    · obtain ⟨rest, rfl⟩ := hbelow
      have hrest : rest ≠ [] := fun hnil => hpath (by rw [hnil, List.append_nil])
      have hafter : ¬ disk'.HasDirectory (dir ++ [name]) := by
        rintro ⟨inner, hinner⟩
        rw [Node.readFile, hinner] at hread
        exact absurd hread (by simp [bind, Except.bind])
      have hbefore : ¬ disk.HasDirectory (dir ++ [name]) := by
        intro hdirectory
        obtain ⟨files, inner, hwalk, hinner⟩ := Node.exists_child_of_hasDirectory hdirectory
        obtain ⟨files', n?, hwalk', -, hchange, -⟩ := Node.walk_of_update h
        obtain rfl := Node.directory.inj (Except.ok.inj (hwalk.symm.trans hwalk'))
        rw [hinner] at hchange
        exact absurd hchange (by simp)
      rw [Node.content?_below hafter hrest, Node.content?_below hbefore hrest]
    · exact Node.content?_update h hbelow

/-- What is on the disk after a placement that failed. -/
theorem content?_of_failed_place {e : Disk.Error} (hkey : IsFileKey key) (hfits : s.Fits key text)
    (h : s.place key text = (.error e, s')) (path : Path) :
    s'.disk.content? path =
      if path = s.temporaryOf key ∧ s.Strands key text then some text.toUTF8
      else s.disk.content? path := by
  rw [place] at h
  split at h
  · rename_i hmake
    obtain ⟨-, rfl⟩ := Prod.mk.inj h
    refine (if_neg fun hstrands => ?_).symm
    obtain ⟨disk, hmade⟩ := hstrands.2.exists_makeDirectories
    exact absurd (hmake.symm.trans hmade) (by simp)
  · rename_i disk hmake
    split at h
    · rename_i hwrite
      obtain ⟨-, rfl⟩ := Prod.mk.inj h
      rw [if_neg]
      · exact Node.content?_makeDirectories hmake path
      · intro hstrands
        obtain ⟨disk', hwritten⟩ := hstrands.2.exists_writeFile hmake text.toUTF8
        exact absurd (hwrite.symm.trans hwritten) (by simp)
    · rename_i disk' hwrite
      split at h
      · rename_i hrename
        obtain ⟨-, rfl⟩ := Prod.mk.inj h
        have hstrands := strands_of_rename hkey hfits hmake hwrite hrename
        have hcontent := content?_writeFile hwrite path
        rw [Node.content?_makeDirectories hmake] at hcontent
        simp only [hstrands, and_true]
        exact hcontent
      · exact absurd (Prod.mk.inj h).1 (by simp)

/-- A stranded text is refused. -/
theorem Strands.exists_write (h : s.Strands key text) :
    ∃ s', Store.write s key text = (.error (.disk .isDirectory), s') := by
  obtain ⟨disk, hmake⟩ := h.exists_makeDirectories
  obtain ⟨disk', hwrite⟩ := h.exists_writeFile hmake text.toUTF8
  have hplace : disk'.HasDirectory (s.pathOf key) :=
    Node.keepsDirectories_writeFile hwrite _ (Node.keepsDirectories_makeDirectories hmake _ h.place)
  have hrename : disk'.rename (s.temporaryOf key) (s.pathOf key) = .error .isDirectory :=
    Node.rename_directory (Node.readFile_writeFile hwrite) hplace
  have heq : s.place key text =
      (.error .isDirectory, { s with disk := disk', drawn := s.drawn + 1 }) := by
    simp only [DirectoryStore.place, hmake, hwrite, hrename]
  exact ⟨_, by rw [write_eq_place h.valid h.fits, heq]; rfl⟩

/-- A write that fails changes no file, but for the temporary file of a text that is stranded. -/
theorem content?_of_failed_write {e : StoreError}
    (h : Store.write s key text = (.error e, s')) (path : Path) :
    s'.disk.content? path =
      if path = s.temporaryOf key ∧ s.Strands key text then some text.toUTF8
      else s.disk.content? path := by
  by_cases hfits : s.Fits key text
  · by_cases hkey : IsFileKey key
    · rw [write_eq_place hkey hfits] at h
      obtain ⟨hresult, rfl⟩ := Prod.mk.inj h
      cases hplaced : (s.place key text).1 with
      | ok _ =>
        rw [hplaced] at hresult
        exact absurd hresult nofun
      | error e => exact content?_of_failed_place hkey hfits (Prod.ext hplaced rfl) path
    · replace h : s.write key text = (.error e, s') := h
      rw [write, checkKey, if_neg hkey] at h
      obtain ⟨-, rfl⟩ := Prod.mk.inj h
      exact (if_neg fun hstrands => hkey hstrands.2.valid).symm
  · obtain ⟨e', hrefused⟩ := write_of_not_fits hfits
    obtain ⟨-, rfl⟩ := Prod.mk.inj (hrefused.symm.trans h)
    exact (if_neg fun hstrands => hfits hstrands.2.fits).symm

theorem content?_of_blocked_write :
    let s : DirectoryStore :=
      ⟨[], 100, .directory [("storage", .directory [("m.txt", .file "kept".toUTF8),
        ("k.txt", .directory [])])], fun _ => "f1", 0⟩
    ∃ s', Store.write s "k" "text" = (.error (.disk .isDirectory), s') ∧
      s'.disk.content? ["storage", "m.txt"] = some "kept".toUTF8 ∧
      s'.disk.content? ["storage", "k.tmp.f1"] = some "text".toUTF8 := by
  intro s
  have hstrands : s.Strands "k" "text" := by decide
  obtain ⟨s', h⟩ := hstrands.exists_write
  refine ⟨s', h, ?_, ?_⟩
  · rw [content?_of_failed_write h]
    rfl
  · rw [content?_of_failed_write h]
    exact if_pos ⟨rfl, hstrands⟩

theorem failed_write_leaves_file :
    ¬ ∀ (s s' : DirectoryStore) (key text : String) (e : StoreError),
      Store.write s key text = (.error e, s') →
        ∀ path, s'.disk.content? path = s.disk.content? path := by
  intro hkept
  have h := hkept ⟨[], 100, .directory [("storage", .directory [("k.txt", .directory [])])],
    fun _ => "f1", 0⟩ _ "k" "text" _ rfl ["storage", "k.tmp.f1"]
  exact Option.some_ne_none "text".toUTF8 h

end

end DirectoryStore
end SdkShelf
