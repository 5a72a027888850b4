import Mathlib.Algebra.GroupWithZero.Nat
import SdkShelf.Proofs.Store.Placement

/-!
# What a store on disk lists and what it reads

A key is listed for its file's name alone, whatever stands under that name, and all that is listed
counts.  So a key is listed that cannot be read where a directory has the name of an entry's file, or
a file whose bytes are no text.
-/

namespace SdkShelf
namespace DirectoryStore

open Disk (Node Path)

/-- The entries' directory holds these files and directories; it need not be there if it holds
nothing. -/
def Contains (s : DirectoryStore) (files : List (String × Node)) : Prop :=
  s.disk.walk s.directory = .ok (.directory files) ∨
    s.disk.walk s.directory = .error .notFound ∧ files = []

/-- What stands in the place of a key's file. -/
def standing (files : List (String × Node)) (key : String) : Option Node :=
  Disk.child? (key ++ ending) files

/-- What reading gives where this stands in the place of a key's file. -/
def reading : Option Node → Except StoreError (Option String)
  | none => .ok none
  | some (.directory _) => .error (.disk .isDirectory)
  | some (.file content) =>
    match String.fromUTF8? content with
    | some text => .ok (some text)
    | none => .error (.disk .notText)

/-- The bytes of the listed entries beside that of a key. -/
def listedBeside (files : List (String × Node)) (keys : List String) (key : String) : Nat :=
  ((keys.filter fun other => other ≠ key).map fun other =>
    other.utf8ByteSize + (standing files other).elim 0 Node.size).sum

theorem fromUTF8?_eq_some_iff {content : ByteArray} {text : String} :
    String.fromUTF8? content = some text ↔ content = text.toUTF8 := by
  constructor
  · intro h
    rw [String.fromUTF8?] at h
    split at h
    · exact congrArg String.toUTF8 (Option.some.inj h)
    · exact absurd h nofun
  · rintro rfl
    exact dif_pos text.isValidUTF8

theorem reading_eq_text_iff {n : Node} {text : String} :
    reading (some n) = .ok (some text) ↔ n = fileOf text := by
  constructor
  · intro h
    cases n with
    | directory inner => exact absurd h nofun
    | file content =>
      rw [reading] at h
      split at h
      · rename_i text' hdecode
        obtain rfl := Option.some.inj (Except.ok.inj h)
        exact congrArg Node.file (fromUTF8?_eq_some_iff.mp hdecode)
      · exact absurd h nofun
  · rintro rfl
    rw [fileOf, reading, fromUTF8?_eq_some_iff.mpr rfl]

variable {s : DirectoryStore} {files : List (String × Node)}

/-! ## Listing -/

theorem Contains.stored_eq (h : s.Contains files) :
    s.stored = .ok (Dictionary.ofList (entriesOf files)) := by
  rcases h with hwalk | ⟨habsent, rfl⟩
  · rw [stored, Node.list, hwalk]
    rfl
  · rw [stored, Node.list, habsent]
    rfl

/-- An entry is found for each key in whose file's place something stands. -/
theorem mem_entries_iff (h : Ascending files) {key : String} {n : Node} :
    (key, n) ∈ (Dictionary.ofList (entriesOf files)).entries ↔
      IsFileKey key ∧ standing files key = some n := by
  have hperm := Dictionary.entries_ofList_perm
    (nodup_keys_entriesOf (Dictionary.mk files h).nodup_keys)
  rw [hperm.mem_iff, mem_entriesOf, standing, Disk.child?, find?_eq_some_iff_mem h]

theorem mem_keys_iff_standing (h : Ascending files) {key : String} :
    key ∈ (Dictionary.ofList (entriesOf files)).keys ↔
      IsFileKey key ∧ (standing files key).isSome = true := by
  rw [Dictionary.keys, List.mem_map]
  constructor
  · rintro ⟨⟨_, n⟩, he, rfl⟩
    obtain ⟨hkey, hn⟩ := (mem_entries_iff h).mp he
    exact ⟨hkey, Option.isSome_of_eq_some hn⟩
  · rintro ⟨hkey, hsome⟩
    obtain ⟨n, hn⟩ := Option.isSome_iff_exists.mp hsome
    exact ⟨(key, n), (mem_entries_iff h).mpr ⟨hkey, hn⟩, rfl⟩

/-- What the listed entries count, whether they can be read or not. -/
theorem sizeOf_erase_eq (h : Ascending files) (key : String) :
    sizeOf ((Dictionary.ofList (entriesOf files)).erase key) =
      listedBeside files (Dictionary.ofList (entriesOf files)).keys key := by
  have hsize : ∀ entries : List (String × Node),
      (∀ e ∈ entries, standing files e.1 = some e.2) →
      entries.foldr (fun e n => e.1.utf8ByteSize + e.2.size + n) 0 =
        (entries.map fun e => e.1.utf8ByteSize + (standing files e.1).elim 0 Node.size).sum := by
    intro entries hentries
    induction entries with
    | nil => rfl
    | cons e rest ih =>
      rw [List.foldr_cons, List.map_cons, List.sum_cons, hentries e List.mem_cons_self,
        ih fun e' he' => hentries e' (List.mem_cons_of_mem _ he')]
      rfl
  rw [sizeOf, hsize, listedBeside, Dictionary.keys, List.filter_map, List.map_map]
  · rfl
  · intro e he
    exact ((mem_entries_iff h).mp (List.mem_of_mem_filter he)).2

/-! ## Reading -/

theorem Contains.readText_eq (h : s.Contains files) {name : String}
    (hname : ¬ Disk.nameLimit < name.utf8ByteSize) :
    s.disk.readText (s.directory ++ [name]) =
      match Disk.child? name files with
      | none => .error .notFound
      | some n => Node.readText n [] := by
  rcases h with hwalk | ⟨habsent, rfl⟩
  · cases hchild : Disk.child? name files with
    | none =>
      rw [Node.readText, Node.readFile, Node.walk_absent hwalk hname hchild]
      rfl
    | some n =>
      rw [Node.readText, Node.readFile, Node.walk_entry hwalk hname hchild]
      rfl
  · rw [Node.readText, Node.readFile, Node.walk_append_of_error habsent]
    rfl

/-- A key is read by opening what stands in its file's place. -/
theorem Contains.read_eq (h : s.Contains files) {key : String} (hkey : IsFileKey key)
    (hlimit : key.utf8ByteSize ≤ 251) : Store.read s key = reading (standing files key) := by
  have hname : ¬ Disk.nameLimit < (key ++ ending).utf8ByteSize := by
    have hending : ending.utf8ByteSize = 4 := rfl
    rw [String.utf8ByteSize_append, hending, Disk.nameLimit]
    omega
  have hcheck : checkKey key = .ok () := if_pos hkey
  have hreadText := h.readText_eq hname
  show s.read key = _
  simp only [read, hcheck, pathOf, hreadText, standing, bind, Except.bind]
  cases Disk.child? (key ++ ending) files with
  | none => rfl
  | some n =>
    cases n with
    | directory inner => rfl
    | file content =>
      have hdecode : Node.readText (.file content) [] =
          match String.fromUTF8? content with
          | some text => .ok text
          | none => .error .notText := rfl
      simp only [hdecode, reading]
      cases String.fromUTF8? content <;> rfl

/-! ## Agreement of the two -/

/-- A write is refused for want of room exactly if what is listed beside its entry leaves none. -/
theorem Contains.write_refused_iff (h : s.Contains files) (hascending : Ascending files)
    {key : String} (hkey : IsFileKey key) (text : String) :
    let required :=
      listedBeside files (Dictionary.ofList (entriesOf files)).keys key + entrySize key text
    Store.write s key text = (.error (.quotaExceeded key required s.capacity), s) ↔
      s.capacity < required := by
  intro required
  have hwrite : Store.write s key text =
      if s.capacity < required then (.error (.quotaExceeded key required s.capacity), s)
      else ((s.place key text).1.mapError .disk, (s.place key text).2) := by
    show s.write key text = _
    rw [write, checkKey, if_pos hkey, h.stored_eq]
    simp only [sizeOf_erase_eq hascending]
    rfl
  rw [hwrite]
  constructor
  · intro hrefused
    by_contra hroom
    rw [if_neg hroom] at hrefused
    cases hplaced : (s.place key text).1 with
    | ok _ =>
      rw [hplaced] at hrefused
      exact absurd (Prod.mk.inj hrefused).1 (by simp [Except.mapError])
    | error e =>
      rw [hplaced] at hrefused
      exact absurd (Except.error.inj (Prod.mk.inj hrefused).1) (by simp)
  · exact fun hroom => if_pos hroom

/-- The keys that a store lists are the valid ones in whose files' places something stands, and all
that stands there counts.  Reading a key finds what stands there too: for a key, to be listed and to
have a text is the same exactly if nothing stands in its file's place but the file of a text. -/
theorem listing_agrees_iff (h : s.Contains files) (hascending : Ascending files) :
    ∃ keys, Store.keys s = .ok keys ∧ keys.Pairwise (· < ·) ∧
      (∀ key, key ∈ keys ↔ IsFileKey key ∧ (standing files key).isSome = true) ∧
      (∀ key, IsFileKey key → key.utf8ByteSize ≤ 251 →
        Store.read s key = reading (standing files key) ∧
        ((key ∈ keys ↔ ∃ text, Store.read s key = .ok (some text)) ↔
          ∀ n, standing files key = some n → ∃ text, n = fileOf text)) ∧
      ∀ key text, IsFileKey key →
        let required := listedBeside files keys key + entrySize key text
        Store.write s key text = (.error (.quotaExceeded key required s.capacity), s) ↔
          s.capacity < required := by
  refine ⟨(Dictionary.ofList (entriesOf files)).keys, ?_,
    List.pairwise_map.mpr (Dictionary.ofList (entriesOf files)).ascending,
    fun key => mem_keys_iff_standing hascending, fun key hkey hlimit => ?_,
    fun key text hkey => h.write_refused_iff hascending hkey text⟩
  · show s.stored.map Dictionary.keys = _
    rw [h.stored_eq]
    rfl
  · have hread := h.read_eq hkey hlimit
    refine ⟨hread, ?_⟩
    rw [hread, mem_keys_iff_standing hascending]
    cases standing files key with
    | none =>
      refine iff_of_true (iff_of_false (fun hlisted => absurd hlisted.2 nofun) ?_) nofun
      rintro ⟨text, htext⟩
      exact absurd (Except.ok.inj htext) nofun
    | some n =>
      have hlisted : IsFileKey key ∧ (some n).isSome = true := ⟨hkey, rfl⟩
      rw [iff_true_left hlisted]
      simp only [reading_eq_text_iff, Option.some.injEq, forall_eq']

theorem listing_agrees_iff_beside_directory :
    let files : List (String × Node) :=
      [("k.txt", .directory []), ("m.txt", fileOf "kept"), ("n.dat", fileOf "other")]
    let s : DirectoryStore :=
      ⟨[], 5000, .directory [("storage", .directory files)], fun _ => "f1", 0⟩
    Store.keys s = .ok ["k", "m"] ∧
      ∃ keys, Store.keys s = .ok keys ∧
        Store.read s "k" = .error (.disk .isDirectory) ∧
        ¬ ("k" ∈ keys ↔ ∃ text, Store.read s "k" = .ok (some text)) ∧
        ("m" ∈ keys ↔ ∃ text, Store.read s "m" = .ok (some text)) := by
  intro files s
  have hascending : Ascending files := (Dictionary.ofList files).ascending
  have hcontains : s.Contains files := Or.inl rfl
  obtain ⟨keys, hkeys, -, -, hread, -⟩ := listing_agrees_iff hcontains hascending
  refine ⟨rfl, keys, hkeys, (hread "k" (by decide) (by decide)).1, ?_, ?_⟩
  · rw [(hread "k" (by decide) (by decide)).2]
    intro hfile
    obtain ⟨text, htext⟩ := hfile _ rfl
    exact absurd htext nofun
  · rw [(hread "m" (by decide) (by decide)).2]
    rintro n hn
    obtain rfl := Option.some.inj hn
    exact ⟨"kept", rfl⟩

theorem listing_has_unreadable_key :
    ¬ ∀ (s : DirectoryStore) (files : List (String × Node)), s.Contains files → Ascending files →
      ∃ keys, Store.keys s = .ok keys ∧ ∀ key, IsFileKey key → key.utf8ByteSize ≤ 251 →
        (key ∈ keys ↔ ∃ text, Store.read s key = .ok (some text)) := by
  intro hagree
  obtain ⟨keys, hkeys, hread⟩ := hagree
    ⟨[], 5000, .directory [("storage", .directory [("k.txt", .directory [])])], fun _ => "f1", 0⟩
    [("k.txt", .directory [])] (Or.inl rfl) (List.pairwise_singleton _ _)
  obtain rfl : ["k"] = keys := Except.ok.inj hkeys
  obtain ⟨text, htext⟩ := (hread "k" (by decide) (by decide)).mp List.mem_cons_self
  exact absurd htext nofun

end DirectoryStore
end SdkShelf
