import SdkShelf.Proofs.Disk.Frame
import SdkShelf.Proofs.Store.EntryFiles

/-!
# What a write does to a disk

Whatever else is kept below a store's directory, a write that fits changes the file of its entry and
no other, and one that does not fit changes nothing.
-/

namespace SdkShelf
namespace DirectoryStore

open Disk (Node Path)

section

variable {s : DirectoryStore} {key : String}

/-- A text is put in the place of an entry by way of a temporary file: the entry's directory gains
the temporary file, then the entry's, and loses the temporary one again.  No other file changes. -/
theorem exists_place {disk : Node} {files : List (String × Node)} (hkey : IsFileKey key)
    (hlimit : key.utf8ByteSize ≤ keyLimit)
    (hmark : (s.temporary s.drawn).utf8ByteSize ≤ markLimit)
    (hmake : s.disk.makeDirectories s.directory = .ok disk)
    (hwalk : disk.walk s.directory = .ok (.directory files))
    (hfresh : Disk.child? (key ++ ".tmp." ++ s.temporary s.drawn) files = none)
    (hfree : ∀ inner, Disk.child? (key ++ ending) files ≠ some (.directory inner)) (text : String) :
    ∃ disk' files', s.place key text = (.ok (), { s with disk := disk', drawn := s.drawn + 1 }) ∧
      disk'.walk s.directory = .ok (.directory files') ∧
      Disk.AgreeBut (key ++ ending) files files' ∧
      Disk.child? (key ++ ending) files' = some (fileOf text) ∧
      ∀ path, ¬ s.temporaryOf key <+: path → ¬ s.pathOf key <+: path →
        disk'.content? path = s.disk.content? path := by
  have hname := name_le hlimit
  have htemporary := temporary_le hlimit hmark
  have hne := temporary_ne_entry (s.temporary s.drawn) hkey hkey
  have hwrite := Node.writeFile_entry hwalk htemporary text.toUTF8
    fun inner hinner => by rw [hfresh] at hinner; exact absurd hinner (by simp)
  have hwalk' := Node.walk_graft hwalk (.directory
    (insertEntry (key ++ ".tmp." ++ s.temporary s.drawn) (.file text.toUTF8) files))
  obtain ⟨disk', hrename, hafter⟩ := Node.exists_rename_entry hwalk' htemporary hname hne
    (by rw [Disk.child?_insertEntry, if_pos rfl])
    (by rw [Disk.child?_insertEntry, if_neg hne]; exact hfree)
  refine ⟨disk', _, ?_, hafter, ⟨fun hascending => ?_, fun other hother => ?_⟩, ?_,
    fun path hpath hpath' => ?_⟩
  · simp only [place, temporaryOf, pathOf, directory] at hmake hwrite hrename ⊢
    simp only [hmake, hwrite, hrename]
  · exact (Disk.agreeBut_filter _ _).ascending
      (ascending_insertEntry _ _ (ascending_insertEntry _ _ hascending))
  · by_cases hother' : other = key ++ ".tmp." ++ s.temporary s.drawn
    · rw [hother', Disk.child?_filter_self, hfresh]
    · rw [Disk.child?_filter (Ne.symm hother'), Disk.child?_insertEntry, if_neg (Ne.symm hother),
        Disk.child?_insertEntry, if_neg (Ne.symm hother')]
  · rw [Disk.child?_filter hne, Disk.child?_insertEntry, if_pos rfl]
    rfl
  · rw [Node.content?_rename hrename hpath hpath', Node.content?_update hwrite hpath,
      Node.content?_makeDirectories hmake]

end

theorem pathOf_ne {s : DirectoryStore} {key other : String} (h : key ≠ other) :
    s.pathOf key ≠ s.pathOf other :=
  fun hpath => entry_ne h (List.cons.inj (List.append_cancel_left hpath)).1

/-! ## Writes that fit and writes that do not -/

/-- There is room for the text under the key, once what it replaces is gone. -/
def Fits (s : DirectoryStore) (key text : String) : Prop :=
  ∃ entries, s.stored = .ok entries ∧ sizeOf (entries.erase key) + entrySize key text ≤ s.capacity

instance (s : DirectoryStore) (key text : String) : Decidable (s.Fits key text) :=
  match hstored : s.stored with
  | .error e => isFalse (by rw [Fits, hstored]; simp)
  | .ok entries =>
    decidable_of_iff (sizeOf (entries.erase key) + entrySize key text ≤ s.capacity)
      (by rw [Fits, hstored]; simp)

/-- The way to the key's file is free: there is no directory in its place, and the temporary file
gets a name that is short enough and not in use. -/
structure IsFree (s : DirectoryStore) (key : String) : Prop where
  place : ¬ s.disk.HasDirectory (s.pathOf key)
  mark : (s.temporary s.drawn).utf8ByteSize ≤ markLimit
  fresh : (s.disk.walk (s.temporaryOf key)).isOk = false

section

variable {s : DirectoryStore} {key text : String}

theorem exists_file_of_read (h : s.read key = .ok (some text)) :
    ∃ content, s.disk.walk (s.pathOf key) = .ok (.file content) := by
  obtain ⟨_, _, h⟩ := exists_of_bind_eq_ok h
  split at h
  · rename_i hread
    exact Node.exists_file_of_readText hread
  · exact absurd h (by simp)
  · exact absurd h (by simp)

theorem write_of_not_fits (h : ¬ s.Fits key text) :
    ∃ e, Store.write s key text = (.error e, s) := by
  show ∃ e, s.write key text = (.error e, s)
  rw [write]
  cases checkKey key with
  | error e => exact ⟨e, rfl⟩
  | ok _ =>
    cases hstored : s.stored with
    | error e => exact ⟨e, rfl⟩
    | ok entries =>
      have hroom : s.capacity < sizeOf (entries.erase key) + entrySize key text :=
        Nat.not_le.mp fun hle => h ⟨entries, hstored, hle⟩
      exact ⟨_, if_pos hroom⟩

theorem write_eq_place (hkey : IsFileKey key) (h : s.Fits key text) :
    Store.write s key text = ((s.place key text).1.mapError .disk, (s.place key text).2) := by
  obtain ⟨entries, hstored, hle⟩ := h
  show s.write key text = _
  rw [write, checkKey, if_pos hkey, hstored]
  exact if_neg (Nat.not_lt.mpr hle)

/-- In a directory that is there, a text that fits is put in the place of its entry if the way is
free, and nothing else on the disk changes. -/
theorem write_of_fits {files : List (String × Node)}
    (hwalk : s.disk.walk s.directory = .ok (.directory files)) (hkey : IsFileKey key)
    (hlimit : key.utf8ByteSize ≤ keyLimit) (hfree : s.IsFree key) (h : s.Fits key text) :
    ∃ disk', Store.write s key text = (.ok (), { s with disk := disk', drawn := s.drawn + 1 }) ∧
      ∀ path, path ≠ s.pathOf key → disk'.content? path = s.disk.content? path := by
  have htemporary := temporary_le hlimit hfree.mark
  have hfresh : Disk.child? (key ++ ".tmp." ++ s.temporary s.drawn) files = none := by
    refine Option.eq_none_iff_forall_ne_some.mpr fun n hchild => ?_
    have hwalk' := hfree.fresh
    rw [temporaryOf, Node.walk_entry hwalk htemporary hchild] at hwalk'
    exact absurd hwalk' (by simp [Except.isOk, Except.toBool])
  have hplace : ∀ inner, Disk.child? (key ++ ending) files ≠ some (.directory inner) :=
    fun inner hchild => hfree.place ⟨inner, Node.walk_entry hwalk (name_le hlimit) hchild⟩
  have hmake : s.disk.makeDirectories s.directory =
      .ok (Node.graft s.directory (.directory files) s.disk) := by
    have happend := Node.makeDirectories_append hwalk []
    rw [List.append_nil] at happend
    rw [happend, Node.makeDirectories]
    rfl
  obtain ⟨disk', files', heq, hwalk', hagree, hfile, hothers⟩ := exists_place hkey hlimit hfree.mark
    hmake (Node.walk_graft hwalk _) hfresh hplace text
  refine ⟨disk', ?_, fun path hpath => ?_⟩
  · rw [write_eq_place hkey h, heq]
    rfl
  · -- Nothing stood where the temporary file was, and nothing stands there any more.
    by_cases hbelow : s.temporaryOf key <+: path
    · obtain ⟨rest, rfl⟩ := hbelow
      have hgone : Disk.child? (key ++ ".tmp." ++ s.temporary s.drawn) files' = none := by
        rw [hagree.others _ (temporary_ne_entry _ hkey hkey), hfresh]
      have hbefore : s.disk.walk (s.temporaryOf key ++ rest) = .error .notFound :=
        Node.walk_append_of_error (Node.walk_absent hwalk htemporary hfresh) rest
      have hafter : disk'.walk (s.temporaryOf key ++ rest) = .error .notFound :=
        Node.walk_append_of_error (Node.walk_absent hwalk' htemporary hgone) rest
      rw [Node.content?_of_error hbefore, Node.content?_of_error hafter]
    · by_cases hbelow' : s.pathOf key <+: path
      · obtain ⟨rest, rfl⟩ := hbelow'
        have hrest : rest ≠ [] := fun hnil => hpath (by rw [hnil, List.append_nil])
        have hplace' : ¬ disk'.HasDirectory (s.pathOf key) := by
          rintro ⟨inner, hinner⟩
          rw [pathOf, Node.walk_entry hwalk' (name_le hlimit) hfile] at hinner
          exact absurd hinner (by simp [fileOf])
        rw [Node.content?_below hplace' hrest, Node.content?_below hfree.place hrest]
      · exact hothers path hbelow hbelow'

end

/-! ## Directories stay -/

/-- The operations of a store change its disk and what it draws names from, and take no directory
away. -/
structure Follows (s s' : DirectoryStore) : Prop where
  base : s'.base = s.base
  capacity : s'.capacity = s.capacity
  temporary : s'.temporary = s.temporary
  directories : s.disk.KeepsDirectories s'.disk

theorem Follows.refl (s : DirectoryStore) : s.Follows s := ⟨rfl, rfl, rfl, .refl _⟩

theorem Follows.trans {s s' s'' : DirectoryStore} (h : s.Follows s') (h' : s'.Follows s'') :
    s.Follows s'' :=
  ⟨h'.base.trans h.base, h'.capacity.trans h.capacity, h'.temporary.trans h.temporary,
    h.directories.trans h'.directories⟩

theorem follows_place (s : DirectoryStore) (key text : String) :
    s.Follows (s.place key text).2 := by
  rw [place]
  split
  · exact .refl s
  · rename_i hmake
    have hmade := Node.keepsDirectories_makeDirectories hmake
    split
    · exact ⟨rfl, rfl, rfl, hmade⟩
    · rename_i hwrite
      have hwritten := hmade.trans (Node.keepsDirectories_writeFile hwrite)
      split
      · exact ⟨rfl, rfl, rfl, hwritten⟩
      · rename_i hrename
        exact ⟨rfl, rfl, rfl, hwritten.trans (Node.keepsDirectories_rename hrename)⟩

theorem follows_write (s : DirectoryStore) (key text : String) :
    s.Follows (Store.write s key text).2 := by
  by_cases h : s.Fits key text
  · by_cases hkey : IsFileKey key
    · rw [write_eq_place hkey h]
      exact follows_place s key text
    · show s.Follows (s.write key text).2
      rw [write, checkKey, if_neg hkey]
      exact .refl s
  · obtain ⟨e, hrefused⟩ := write_of_not_fits h
    rw [hrefused]
    exact .refl s

theorem follows_remove (s : DirectoryStore) (key : String) :
    s.Follows (Store.remove s key).2 := by
  show s.Follows (s.remove key).2
  rw [remove]
  split
  · exact .refl s
  · split
    · rename_i hremove
      exact ⟨rfl, rfl, rfl, Node.keepsDirectories_removeFile hremove⟩
    · exact .refl s
    · exact .refl s

end DirectoryStore
end SdkShelf
