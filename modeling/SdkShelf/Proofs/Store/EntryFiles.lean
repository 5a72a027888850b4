import Mathlib.Data.List.Nodup
import SdkShelf.Proofs.Disk.Subtree
import SdkShelf.Proofs.Store.ReadBack

/-!
# The files of entries

Only the files with the names of entries say what a store on disk holds.  Whatever else stands in
their directory or around it may come and go.
-/

namespace SdkShelf

theorem IsFileKey.ne_dot {key : String} (h : IsFileKey key) : ∀ c ∈ key.toList, c ≠ '.' := by
  intro c hc hdot
  have hvalid := List.all_eq_true.mp h.2 c hc
  rw [hdot] at hvalid
  exact absurd hvalid (by decide)

namespace DirectoryStore

/-! ## Names -/

/-- The longest key, in bytes, beside which a name has room for a temporary file's mark. -/
def keyLimit : Nat := 218

/-- The longest mark of a temporary file, in bytes. -/
def markLimit : Nat := 32

theorem keyOf?_eq_some_iff {name key : String} :
    keyOf? name = some key ↔ name = key ++ ending ∧ IsFileKey key := by
  have hkeyOf : keyOf? name =
      if String.ofList (name.toList.take (name.length - ending.length)) ++ ending = name ∧
          IsFileKey (String.ofList (name.toList.take (name.length - ending.length))) then
        some (String.ofList (name.toList.take (name.length - ending.length)))
      else none := rfl
  constructor
  · intro h
    rw [hkeyOf] at h
    split at h
    · rename_i hname
      obtain rfl := Option.some.inj h
      exact ⟨hname.1.symm, hname.2⟩
    · exact absurd h (by simp)
  · rintro ⟨rfl, hkey⟩
    have htake : String.ofList ((key ++ ending).toList.take
        ((key ++ ending).length - ending.length)) = key := by
      rw [String.length_append, Nat.add_sub_cancel, String.toList_append, ← String.length_toList,
        List.take_left, String.ofList_toList]
    rw [hkeyOf, htake, if_pos ⟨rfl, hkey⟩]

/-- The entries by key, as they are found in a directory. -/
def entriesOf (files : List (String × Disk.Node)) : List (String × Disk.Node) :=
  files.filterMap fun e => (keyOf? e.1).map fun key => (key, e.2)

theorem mem_entriesOf {files : List (String × Disk.Node)} {key : String} {n : Disk.Node} :
    (key, n) ∈ entriesOf files ↔ IsFileKey key ∧ (key ++ ending, n) ∈ files := by
  rw [entriesOf, List.mem_filterMap]
  constructor
  · rintro ⟨e, he, hmap⟩
    obtain ⟨k, hk, hpair⟩ := Option.map_eq_some_iff.mp hmap
    obtain ⟨rfl, rfl⟩ := Prod.mk.inj hpair
    obtain ⟨hname, hkey⟩ := keyOf?_eq_some_iff.mp hk
    refine ⟨hkey, ?_⟩
    rw [← hname]
    exact he
  · rintro ⟨hkey, he⟩
    refine ⟨(key ++ ending, n), he, ?_⟩
    rw [keyOf?_eq_some_iff.mpr ⟨rfl, hkey⟩]
    rfl

/-- No two files have one key. -/
theorem nodup_keys_entriesOf {files : List (String × Disk.Node)}
    (h : (files.map Prod.fst).Nodup) : ((entriesOf files).map Prod.fst).Nodup := by
  refine List.pairwise_map.mpr (List.Pairwise.filterMap _ ?_ (List.pairwise_map.mp h))
  intro a b hab x hx y hy hxy
  obtain ⟨k, hk, rfl⟩ := Option.map_eq_some_iff.mp hx
  obtain ⟨l, hl, rfl⟩ := Option.map_eq_some_iff.mp hy
  obtain rfl : k = l := hxy
  exact hab ((keyOf?_eq_some_iff.mp hk).1.trans (keyOf?_eq_some_iff.mp hl).1.symm)

/-- What comes before the first dot tells the names of two keys' files apart. -/
theorem eq_of_dot {key other : String} (hkey : IsFileKey key) (hother : IsFileKey other)
    {rest rest' : List Char} (h : key.toList ++ '.' :: rest = other.toList ++ '.' :: rest') :
    key = other := by
  have hbefore : ∀ {k : String}, IsFileKey k → ∀ rest : List Char,
      (k.toList ++ '.' :: rest).takeWhile (· ≠ '.') = k.toList := by
    intro k hk rest
    rw [List.takeWhile_append_of_pos (fun c hc => by simpa using hk.ne_dot c hc),
      List.takeWhile_cons_of_neg (by simp), List.append_nil]
  have heq := congrArg (List.takeWhile (· ≠ '.')) h
  rw [hbefore hkey, hbefore hother] at heq
  exact String.toList_injective heq

theorem entry_ne {key other : String} (h : key ≠ other) : key ++ ending ≠ other ++ ending :=
  fun he => h ((String.append_left_inj ending).mp he)

/-- No entry has the name of a temporary file. -/
theorem temporary_ne_entry {key other : String} (mark : String) (hkey : IsFileKey key)
    (hother : IsFileKey other) : key ++ ".tmp." ++ mark ≠ other ++ ending := by
  intro h
  have hlist := congrArg String.toList h
  simp only [String.append_assoc, String.toList_append] at hlist
  have heq : key = other := eq_of_dot hkey hother hlist
  rw [heq] at h
  exact temporary_ne other mark h

theorem name_le {key : String} (h : key.utf8ByteSize ≤ keyLimit) :
    ¬ Disk.nameLimit < (key ++ ending).utf8ByteSize := by
  have hending : ending.utf8ByteSize = 4 := rfl
  rw [String.utf8ByteSize_append, hending, Disk.nameLimit]
  rw [keyLimit] at h
  omega

theorem temporary_le {key mark : String} (h : key.utf8ByteSize ≤ keyLimit)
    (hmark : mark.utf8ByteSize ≤ markLimit) :
    ¬ Disk.nameLimit < (key ++ ".tmp." ++ mark).utf8ByteSize := by
  have hmiddle : ".tmp.".utf8ByteSize = 5 := rfl
  rw [String.utf8ByteSize_append, String.utf8ByteSize_append, hmiddle, Disk.nameLimit]
  rw [keyLimit] at h
  rw [markLimit] at hmark
  omega

/-! ## Texts that a directory's files stand for -/

/-- The file of an entry with a text. -/
def fileOf (text : String) : Disk.Node := .file text.toUTF8

/-- The files are those of some texts, among others with names of no entry. -/
structure Shows (files : List (String × Disk.Node)) (texts : Dictionary String) : Prop where
  ascending : Ascending files
  valid : ∀ {key text : String}, texts.get? key = some text → IsFileKey key
  child? : ∀ {key : String}, IsFileKey key →
    Disk.child? (key ++ ending) files = (texts.get? key).map fileOf

theorem shows_nil : Shows [] Dictionary.empty :=
  ⟨List.Pairwise.nil, fun h => absurd h (by simp), fun _ => rfl⟩

namespace Shows

variable {files files' : List (String × Disk.Node)} {texts : Dictionary String} {name key : String}

theorem not_directory (h : Shows files texts) (hkey : IsFileKey key)
    (inner : List (String × Disk.Node)) :
    Disk.child? (key ++ ending) files ≠ some (.directory inner) := by
  rw [h.child? hkey]
  cases texts.get? key with
  | none => simp
  | some text => simp [fileOf]

/-- What changes under another name than an entry's is not seen. -/
theorem of_agreeBut (h : Shows files texts) (hagree : Disk.AgreeBut name files files')
    (hname : ∀ key, IsFileKey key → name ≠ key ++ ending) : Shows files' texts := by
  refine ⟨hagree.ascending h.ascending, h.valid, fun {key} hkey => ?_⟩
  rw [hagree.others _ (hname key hkey).symm]
  exact h.child? hkey

/-- The file of an entry is put among the others, or in the place of its old one. -/
theorem insert (h : Shows files texts) (hkey : IsFileKey key) {text : String}
    (hagree : Disk.AgreeBut (key ++ ending) files files')
    (hfile : Disk.child? (key ++ ending) files' = some (fileOf text)) :
    Shows files' (texts.insert key text) := by
  refine ⟨hagree.ascending h.ascending, fun {other _} hget => ?_, fun {other} hother => ?_⟩
  · rw [Dictionary.get?_insert] at hget
    by_cases heq : key = other
    · rw [← heq]
      exact hkey
    · rw [if_neg heq] at hget
      exact h.valid hget
  · rw [Dictionary.get?_insert]
    by_cases heq : key = other
    · rw [if_pos heq, ← heq, hfile]
      rfl
    · rw [if_neg heq, hagree.others _ (entry_ne (Ne.symm heq))]
      exact h.child? hother

theorem erase (h : Shows files texts) (key : String) :
    Shows (files.filter fun e => e.1 ≠ key ++ ending) (texts.erase key) := by
  refine ⟨(Disk.agreeBut_filter _ _).ascending h.ascending, fun {other _} hget => ?_,
    fun {other} hother => ?_⟩
  · rw [Dictionary.get?_erase] at hget
    by_cases heq : key = other
    · rw [if_pos heq] at hget
      exact absurd hget (by simp)
    · rw [if_neg heq] at hget
      exact h.valid hget
  · rw [Dictionary.get?_erase]
    by_cases heq : key = other
    · rw [if_pos heq, ← heq, Disk.child?_filter_self]
      rfl
    · rw [if_neg heq, Disk.child?_filter (entry_ne heq)]
      exact h.child? hother

theorem erase_absent (h : Shows files texts) (hkey : IsFileKey key)
    (hchild : Disk.child? (key ++ ending) files = none) : texts.erase key = texts := by
  have habsent : texts.get? key = none := by
    rw [h.child? hkey] at hchild
    simpa using hchild
  exact Dictionary.erase_of_absent habsent

/-- The entries that are found among the files are those of the texts. -/
theorem ofList_eq (h : Shows files texts) :
    Dictionary.ofList (files.filterMap fun e => (keyOf? e.1).map fun key => (key, e.2)) =
      texts.map fileOf := by
  have hmem : ∀ key n, (IsFileKey key ∧ (key ++ ending, n) ∈ files) ↔
      (key, n) ∈ (texts.map fileOf).entries := by
    intro key n
    rw [← find?_eq_some_iff_mem h.ascending, ← Dictionary.get?_eq_some_iff, Dictionary.get?_map]
    constructor
    · rintro ⟨hkey, hchild⟩
      rw [← h.child? hkey]
      exact hchild
    · intro hget
      obtain ⟨text, htext, -⟩ := Option.map_eq_some_iff.mp hget
      have hkey := h.valid htext
      refine ⟨hkey, ?_⟩
      rw [← hget, ← h.child? hkey]
      rfl
  have hnodup : (entriesOf files).Nodup :=
    List.Nodup.of_map _ (nodup_keys_entriesOf (Dictionary.mk files h.ascending).nodup_keys)
  have hnodup' : (texts.map fileOf).entries.Nodup := List.Nodup.of_map _ (texts.map fileOf).nodup_keys
  refine Dictionary.ofList_of_perm ((List.perm_ext_iff_of_nodup hnodup hnodup').mpr ?_)
  intro e
  exact mem_entriesOf.trans (hmem e.1 e.2)

end Shows

theorem sizeOf_map_fileOf (texts : Dictionary String) :
    sizeOf (texts.map fileOf) = MemoryStore.sizeOf texts.entries := by
  obtain ⟨entries, hentries⟩ := texts
  show (entries.map fun e => (e.1, fileOf e.2)).foldr _ 0 = MemoryStore.sizeOf entries
  clear hentries
  induction entries with
  | nil => rfl
  | cons e rest ih =>
    show e.1.utf8ByteSize + e.2.utf8ByteSize + _ = entrySize e.1 e.2 + MemoryStore.sizeOf rest
    rw [ih]
    rfl

/-! ## The directory of the files -/

/-- Below `base` the files stand in their directory; there need not be one if there are none. -/
def Keeps (base : Disk.Path) (disk : Disk.Node) (files : List (String × Disk.Node)) : Prop :=
  ∃ above, disk.walk base = .ok (.directory above) ∧
    (Disk.child? "storage" above).getD .empty = .directory files

theorem keeps_of_walk {base : Disk.Path} {disk : Disk.Node} {files : List (String × Disk.Node)}
    (h : disk.walk (base ++ ["storage"]) = .ok (.directory files)) : Keeps base disk files := by
  obtain ⟨above, hwalk, hchild⟩ := Disk.Node.exists_entry_of_walk h
  refine ⟨above, hwalk, ?_⟩
  rw [hchild]
  rfl

namespace Keeps

variable {base : Disk.Path} {disk : Disk.Node} {files : List (String × Disk.Node)} {name : String}
  (h : Keeps base disk files)

include h

theorem stands_or_absent : disk.walk (base ++ ["storage"]) = .ok (.directory files) ∨
    disk.walk (base ++ ["storage"]) = .error .notFound ∧ files = [] := by
  obtain ⟨above, hwalk, hchild⟩ := h
  have hname : ¬ Disk.nameLimit < "storage".utf8ByteSize := by decide
  cases hstorage : Disk.child? "storage" above with
  | none =>
    rw [hstorage] at hchild
    exact Or.inr ⟨Disk.Node.walk_absent hwalk hname hstorage,
      (Disk.Node.directory.inj hchild).symm⟩
  | some n =>
    rw [hstorage] at hchild
    have hn : n = .directory files := hchild
    rw [hn] at hstorage
    exact Or.inl (Disk.Node.walk_entry hwalk hname hstorage)

theorem stands_of_child {n : Disk.Node} (hchild : Disk.child? name files = some n) :
    disk.walk (base ++ ["storage"]) = .ok (.directory files) := by
  rcases h.stands_or_absent with hwalk | ⟨_, hnil⟩
  · exact hwalk
  · rw [hnil] at hchild
    exact absurd hchild (by simp [Disk.child?])

theorem walk_child {n : Disk.Node} (hname : ¬ Disk.nameLimit < name.utf8ByteSize)
    (hchild : Disk.child? name files = some n) :
    disk.walk (base ++ ["storage"] ++ [name]) = .ok n :=
  Disk.Node.walk_entry (h.stands_of_child hchild) hname hchild

theorem walk_absent (hname : ¬ Disk.nameLimit < name.utf8ByteSize)
    (hchild : Disk.child? name files = none) :
    disk.walk (base ++ ["storage"] ++ [name]) = .error .notFound := by
  rcases h.stands_or_absent with hwalk | ⟨habsent, _⟩
  · exact Disk.Node.walk_absent hwalk hname hchild
  · exact Disk.Node.walk_append_of_error habsent [name]

theorem removeFile_absent (hname : ¬ Disk.nameLimit < name.utf8ByteSize)
    (hchild : Disk.child? name files = none) :
    disk.removeFile (base ++ ["storage"] ++ [name]) = .error .notFound := by
  rcases h.stands_or_absent with hwalk | ⟨habsent, _⟩
  · exact Disk.Node.removeFile_absent hwalk hname hchild
  · exact Disk.Node.update_append_of_error habsent _ (List.cons_ne_nil _ _)

theorem makeDirectories : ∃ disk', disk.makeDirectories (base ++ ["storage"]) = .ok disk' ∧
    disk'.walk (base ++ ["storage"]) = .ok (.directory files) := by
  obtain ⟨above, hwalk, hchild⟩ := h
  have hname : ¬ Disk.nameLimit < "storage".utf8ByteSize := by decide
  have hmake : (Disk.Node.directory above).makeDirectories ["storage"] =
      .ok (.directory (insertEntry "storage" (.directory files) above)) := by
    rw [Disk.Node.makeDirectories, if_neg hname, hchild]
    rfl
  have hstorage : Disk.child? "storage" (insertEntry "storage" (.directory files) above) =
      some (.directory files) := by
    rw [Disk.child?_insertEntry, if_pos rfl]
  refine ⟨Disk.Node.graft base (.directory (insertEntry "storage" (.directory files) above)) disk,
    ?_, Disk.Node.walk_entry (Disk.Node.walk_graft hwalk _) hname hstorage⟩
  rw [Disk.Node.makeDirectories_append hwalk, hmake]
  rfl

end Keeps

/-! ## Foreign files and directories -/

/-- The path, from `base` on, leads to the place of an entry's file or through it. -/
def AtEntry (path : Disk.Path) : Prop :=
  ∃ key rest, IsFileKey key ∧ path = "storage" :: (key ++ ending) :: rest

theorem atEntry_cons {first name : String} {rest : Disk.Path} :
    AtEntry (first :: name :: rest) ↔ first = "storage" ∧ (keyOf? name).isSome = true := by
  constructor
  · rintro ⟨key, others, hkey, hpath⟩
    obtain ⟨hfirst, hname, -⟩ : first = "storage" ∧ name = key ++ ending ∧ rest = others := by
      simpa using hpath
    rw [keyOf?_eq_some_iff.mpr ⟨hname, hkey⟩]
    exact ⟨hfirst, rfl⟩
  · rintro ⟨hfirst, hname⟩
    obtain ⟨key, hkey⟩ := Option.isSome_iff_exists.mp hname
    obtain ⟨rfl, hvalid⟩ := keyOf?_eq_some_iff.mp hkey
    exact ⟨key, rest, hvalid, by rw [hfirst]⟩

instance : (path : Disk.Path) → Decidable (AtEntry path)
  | [] => isFalse (by rintro ⟨key, rest, -, hpath⟩; exact absurd hpath (by simp))
  | [name] => isFalse (by rintro ⟨key, rest, -, hpath⟩; exact absurd hpath (by simp))
  | _ :: _ :: _ => decidable_of_iff _ atEntry_cons.symm

theorem not_atEntry_dropLast {path : Disk.Path} (h : ¬ AtEntry path) : ¬ AtEntry path.dropLast := by
  rintro ⟨key, rest, hkey, hpath⟩
  have hne : path ≠ [] := fun hnil => by
    rw [hnil] at hpath
    exact absurd hpath (by simp)
  have hlast := List.dropLast_append_getLast hne
  rw [hpath] at hlast
  exact h ⟨key, rest ++ [path.getLast hne], hkey, hlast.symm⟩

/-- What someone else puts below the base directory of a store, with the directories above it. -/
inductive Planting where
  | file (path : Disk.Path) (content : ByteArray)
  | directory (path : Disk.Path)

namespace Planting

/-- It leaves the places of entries alone, and puts no file in the place of their directory. -/
def IsForeign : Planting → Prop
  | file path _ => path ≠ [] ∧ path ≠ ["storage"] ∧ ¬ AtEntry path
  | directory path => ¬ AtEntry path

instance : (p : Planting) → Decidable p.IsForeign
  | file _ _ => inferInstanceAs (Decidable (_ ∧ _ ∧ _))
  | directory _ => inferInstanceAs (Decidable (¬ _))

def apply (base : Disk.Path) (disk : Disk.Node) : Planting → Except Disk.Error Disk.Node
  | file path content =>
    (disk.makeDirectories (base ++ path.dropLast)).bind fun disk =>
      disk.writeFile (base ++ path) content
  | directory path => disk.makeDirectories (base ++ path)

section

variable {base path : Disk.Path} {disk disk' : Disk.Node} {files : List (String × Disk.Node)}
  {texts : Dictionary String} (hkeeps : Keeps base disk files) (hshows : Shows files texts)
  (hpath : ¬ AtEntry path)

include hkeeps hshows hpath

theorem shows_makeDirectories (h : disk.makeDirectories (base ++ path) = .ok disk') :
    ∃ files', Keeps base disk' files' ∧ Shows files' texts := by
  obtain ⟨above, hwalk, hstorage⟩ := hkeeps
  rw [Disk.Node.makeDirectories_append hwalk] at h
  obtain ⟨n, hn, rfl⟩ := exists_of_map_eq_ok h
  have hgraft := Disk.Node.walk_graft hwalk n
  cases path with
  | nil =>
    obtain rfl := Except.ok.inj hn
    exact ⟨files, ⟨above, hgraft, hstorage⟩, hshows⟩
  | cons name rest =>
    obtain ⟨c, rfl, hc⟩ := Disk.Node.agreeBut_of_makeDirectories hn
    by_cases hname : name = "storage"
    · subst hname
      rw [hstorage] at hc
      have hinner : ∃ files', c = .directory files' ∧ Shows files' texts := by
        cases rest with
        | nil =>
          obtain rfl := Except.ok.inj hc
          exact ⟨files, rfl, hshows⟩
        | cons second rest =>
          obtain ⟨c', rfl, -⟩ := Disk.Node.agreeBut_of_makeDirectories hc
          exact ⟨_, rfl, hshows.of_agreeBut (Disk.agreeBut_insertEntry second c' files)
            fun key hkey heq => hpath ⟨key, rest, hkey, by rw [heq]⟩⟩
      obtain ⟨files', rfl, hshows'⟩ := hinner
      refine ⟨files', ⟨_, hgraft, ?_⟩, hshows'⟩
      rw [Disk.child?_insertEntry, if_pos rfl]
      rfl
    · refine ⟨files, ⟨_, hgraft, ?_⟩, hshows⟩
      rw [Disk.child?_insertEntry, if_neg hname]
      exact hstorage

theorem shows_writeFile {content : ByteArray} (hbase : path ≠ []) (hdirectory : path ≠ ["storage"])
    (h : disk.writeFile (base ++ path) content = .ok disk') :
    ∃ files', Keeps base disk' files' ∧ Shows files' texts := by
  obtain ⟨above, hwalk, hstorage⟩ := hkeeps
  rw [Disk.Node.writeFile, Disk.Node.update_append hwalk _ hbase] at h
  obtain ⟨n, hn, rfl⟩ := exists_of_map_eq_ok h
  have hgraft := Disk.Node.walk_graft hwalk n
  obtain ⟨name, rest, rfl⟩ := List.exists_cons_of_ne_nil hbase
  by_cases hname : name = "storage"
  · subst hname
    have hrest : rest ≠ [] := fun hnil => hdirectory (by rw [hnil])
    obtain ⟨second, others, rfl⟩ := List.exists_cons_of_ne_nil hrest
    cases hchild : Disk.child? "storage" above with
    | none =>
      rw [Disk.Node.update.eq_4 _ _ _ _ _ hchild, if_neg (by decide)] at hn
      exact absurd hn (by simp)
    | some c =>
      rw [hchild] at hstorage
      have hc : c = .directory files := hstorage
      subst hc
      rw [Disk.Node.update.eq_5 _ _ _ _ _ hrest hchild, if_neg (by decide)] at hn
      obtain ⟨n', hn', rfl⟩ := exists_of_map_eq_ok hn
      obtain ⟨files', rfl, hagree⟩ := Disk.Node.agreeBut_of_update hn'
      refine ⟨files', ⟨_, hgraft, ?_⟩, hshows.of_agreeBut hagree
        fun key hkey heq => hpath ⟨key, others, hkey, by rw [heq]⟩⟩
      rw [Disk.child?_insertEntry, if_pos rfl]
      rfl
  · obtain ⟨above', rfl, hagree⟩ := Disk.Node.agreeBut_of_update hn
    refine ⟨files, ⟨above', hgraft, ?_⟩, hshows⟩
    rw [hagree.others _ (Ne.symm hname)]
    exact hstorage

end

/-- A store's files are among those that stand after a foreign planting as they were before. -/
theorem shows_apply {base : Disk.Path} {disk disk' : Disk.Node} {files : List (String × Disk.Node)}
    {texts : Dictionary String} {p : Planting} (hkeeps : Keeps base disk files)
    (hshows : Shows files texts) (hp : p.IsForeign) (h : p.apply base disk = .ok disk') :
    ∃ files', Keeps base disk' files' ∧ Shows files' texts := by
  cases p with
  | directory path => exact shows_makeDirectories hkeeps hshows hp h
  | file path content =>
    obtain ⟨hbase, hdirectory, hpath⟩ := hp
    cases hparents : disk.makeDirectories (base ++ path.dropLast) with
    | error e =>
      rw [apply, hparents] at h
      exact absurd h (by simp [Except.bind])
    | ok disk₁ =>
      rw [apply, hparents] at h
      obtain ⟨files₁, hkeeps₁, hshows₁⟩ :=
        shows_makeDirectories hkeeps hshows (not_atEntry_dropLast hpath) hparents
      exact shows_writeFile hkeeps₁ hshows₁ hpath hbase hdirectory h

end Planting

end DirectoryStore
end SdkShelf
