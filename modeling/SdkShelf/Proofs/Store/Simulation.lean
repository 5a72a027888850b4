import SdkShelf.Proofs.Store.Placement

/-!
# Stores on disk answer as stores in memory

A store on disk and a store in memory of one capacity that start out empty give the same answers to
the same operations, and that whatever foreign files and directories turn up meanwhile.
-/

namespace SdkShelf

/-! ## Operations -/

namespace Store

inductive Operation where
  | read (key : String)
  | write (key value : String)
  | remove (key : String)
  | keys
  deriving DecidableEq, Repr

/-- The results of the operations. -/
inductive Answer where
  | text (result : Except StoreError (Option String))
  | done (result : Except StoreError Unit)
  | keys (result : Except StoreError (List String))

def perform {σ : Type} [Store σ] (s : σ) : Operation → Answer × σ
  | .read key => (.text (Store.read s key), s)
  | .write key value => (.done (Store.write s key value).1, (Store.write s key value).2)
  | .remove key => (.done (Store.remove s key).1, (Store.remove s key).2)
  | .keys => (.keys (Store.keys s), s)

/-- The answers to operations that are performed one after another. -/
def answers {σ : Type} [Store σ] (s : σ) : List Operation → List Answer
  | [] => []
  | o :: rest => (perform s o).1 :: answers (perform s o).2 rest

end Store

namespace DirectoryStore

open Disk (Node Path)

/-! ## What the files say -/

section

variable {s : DirectoryStore} {files : List (String × Node)} {texts : Dictionary String}
  {key : String} (hkeeps : Keeps s.base s.disk files) (hshows : Shows files texts)

include hkeeps hshows

theorem stored_eq : s.stored = .ok (texts.map fileOf) := by
  rw [← hshows.ofList_eq, stored, directory, Node.list]
  rcases hkeeps.stands_or_absent with hwalk | ⟨habsent, hnil⟩
  · rw [hwalk]
    rfl
  · rw [habsent, hnil]
    rfl

variable (hkey : IsFileKey key) (hlimit : key.utf8ByteSize ≤ keyLimit)

include hkey hlimit

theorem read_eq : s.read key = .ok (texts.get? key) := by
  have hchild := hshows.child? hkey
  have hpath : s.pathOf key = s.base ++ ["storage"] ++ [key ++ ending] := rfl
  rw [read, checkKey, if_pos hkey]
  simp only [bind, Except.bind]
  cases htext : texts.get? key with
  | none =>
    rw [htext] at hchild
    have hread : s.disk.readText (s.pathOf key) = .error .notFound := by
      rw [Node.readText, Node.readFile, hpath, hkeeps.walk_absent (name_le hlimit) hchild]
      rfl
    rw [hread]
  | some text =>
    rw [htext] at hchild
    have hfile : s.disk.readFile (s.pathOf key) = .ok text.toUTF8 := by
      rw [Node.readFile, hpath, hkeeps.walk_child (name_le hlimit) hchild]
      rfl
    rw [Node.readText_of_readFile hfile]

theorem exists_remove_eq : ∃ disk' files', s.remove key = (.ok (), { s with disk := disk' }) ∧
    Keeps s.base disk' files' ∧ Shows files' (texts.erase key) ∧
    Disk.AgreeBut (key ++ ending) files files' := by
  have hchild := hshows.child? hkey
  have hpath : s.pathOf key = s.base ++ ["storage"] ++ [key ++ ending] := rfl
  rw [remove, checkKey, if_pos hkey]
  cases htext : texts.get? key with
  | none =>
    rw [htext] at hchild
    have hremove := hkeeps.removeFile_absent (name_le hlimit) hchild
    refine ⟨s.disk, files, ?_, hkeeps, ?_, .refl _ _⟩
    · simp only [hpath, hremove]
    · rw [hshows.erase_absent hkey hchild]
      exact hshows
  | some text =>
    rw [htext] at hchild
    have hwalk := hkeeps.stands_of_child hchild
    have hremove := Node.removeFile_entry hwalk (name_le hlimit) hchild
    refine ⟨_, _, ?_, keeps_of_walk (Node.walk_graft hwalk _), hshows.erase key,
      Disk.agreeBut_filter _ _⟩
    simp only [hpath, hremove]

/-- A text is put in the place of an entry by way of a temporary file that nothing else uses. -/
theorem exists_place_eq (hmark : (s.temporary s.drawn).utf8ByteSize ≤ markLimit)
    (hfresh : (s.disk.walk (s.temporaryOf key)).isOk = false) (text : String) :
    ∃ disk' files', s.place key text = (.ok (), { s with disk := disk', drawn := s.drawn + 1 }) ∧
      Keeps s.base disk' files' ∧ Shows files' (texts.insert key text) ∧
      Disk.AgreeBut (key ++ ending) files files' := by
  have htemporary : Disk.child? (key ++ ".tmp." ++ s.temporary s.drawn) files = none := by
    refine Option.eq_none_iff_forall_ne_some.mpr fun n hchild => ?_
    rw [temporaryOf, directory, hkeeps.walk_child (temporary_le hlimit hmark) hchild] at hfresh
    exact absurd hfresh (by simp [Except.isOk, Except.toBool])
  obtain ⟨disk₁, hmake, hwalk₁⟩ := hkeeps.makeDirectories
  obtain ⟨disk', files', hplace, hwalk', hagree, hfile, _⟩ := exists_place hkey hlimit hmark hmake
    hwalk₁ htemporary (hshows.not_directory hkey) text
  exact ⟨disk', files', hplace, keeps_of_walk hwalk', hshows.insert hkey hagree hfile, hagree⟩

end

/-! ## One operation -/

/-- The store in memory holds the texts that the files show. -/
structure Mirrors (s : DirectoryStore) (m : MemoryStore) : Prop where
  capacity : s.capacity = m.capacity
  marks : ∀ n, (s.temporary n).utf8ByteSize ≤ markLimit
  files : ∃ files, Keeps s.base s.disk files ∧ Shows files m.entries

/-- A key that files can be named for, that of an entry and that of a temporary file. -/
def IsShortKey (key : String) : Prop := IsFileKey key ∧ key.utf8ByteSize ≤ keyLimit

instance (key : String) : Decidable (IsShortKey key) := inferInstanceAs (Decidable (_ ∧ _))

def HasShortKey : Store.Operation → Prop
  | .read key => IsShortKey key
  | .write key _ => IsShortKey key
  | .remove key => IsShortKey key
  | .keys => True

instance : (o : Store.Operation) → Decidable (HasShortKey o)
  | .read key => inferInstanceAs (Decidable (IsShortKey key))
  | .write key _ => inferInstanceAs (Decidable (IsShortKey key))
  | .remove key => inferInstanceAs (Decidable (IsShortKey key))
  | .keys => isTrue trivial

/-- The temporary file that the operation uses, if any, gets a name that is not in use. -/
def DrawsFresh (s : DirectoryStore) : Store.Operation → Prop
  | .write key _ => (s.disk.walk (s.temporaryOf key)).isOk = false
  | _ => True

instance (s : DirectoryStore) : (o : Store.Operation) → Decidable (s.DrawsFresh o)
  | .write _ _ => inferInstanceAs (Decidable (_ = false))
  | .read _ => isTrue trivial
  | .remove _ => isTrue trivial
  | .keys => isTrue trivial

namespace Mirrors

variable {s : DirectoryStore} {m : MemoryStore} {key : String}

theorem of_disk (h : Mirrors s m) {disk : Node} {drawn : Nat} {texts : Dictionary String}
    {files : List (String × Node)} (hkeeps : Keeps s.base disk files) (hshows : Shows files texts) :
    Mirrors { s with disk, drawn } { m with entries := texts } :=
  ⟨h.capacity, h.marks, files, hkeeps, hshows⟩

theorem read (h : Mirrors s m) (hkey : IsShortKey key) : Store.read s key = Store.read m key := by
  obtain ⟨files, hkeeps, hshows⟩ := h.files
  exact read_eq hkeeps hshows hkey.1 hkey.2

theorem keys (h : Mirrors s m) : Store.keys s = Store.keys m := by
  obtain ⟨files, hkeeps, hshows⟩ := h.files
  show s.stored.map Dictionary.keys = .ok m.entries.keys
  rw [stored_eq hkeeps hshows]
  show Except.ok ((m.entries.entries.map fun e => (e.1, fileOf e.2)).map Prod.fst) =
    Except.ok (m.entries.entries.map Prod.fst)
  rw [List.map_map]
  rfl

theorem remove (h : Mirrors s m) (hkey : IsShortKey key) :
    (Store.remove s key).1 = (Store.remove m key).1 ∧
      Mirrors (Store.remove s key).2 (Store.remove m key).2 := by
  obtain ⟨files, hkeeps, hshows⟩ := h.files
  obtain ⟨disk', files', hremove, hkeeps', hshows', _⟩ :=
    exists_remove_eq hkeeps hshows hkey.1 hkey.2
  show (s.remove key).1 = .ok () ∧ Mirrors (s.remove key).2 { m with entries := m.entries.erase key }
  rw [hremove]
  exact ⟨rfl, h.of_disk hkeeps' hshows'⟩

theorem write (h : Mirrors s m) (hkey : IsShortKey key)
    (hfresh : (s.disk.walk (s.temporaryOf key)).isOk = false) (text : String) :
    (Store.write s key text).1 = (Store.write m key text).1 ∧
      Mirrors (Store.write s key text).2 (Store.write m key text).2 := by
  obtain ⟨files, hkeeps, hshows⟩ := h.files
  have hsize : sizeOf ((m.entries.map fileOf).erase key) = m.usedBeside key := by
    rw [Dictionary.map_erase, sizeOf_map_fileOf]
    rfl
  show (s.write key text).1 = (m.write key text).1 ∧ Mirrors (s.write key text).2 (m.write key text).2
  rw [DirectoryStore.write, checkKey, if_pos hkey.1, stored_eq hkeeps hshows, MemoryStore.write]
  simp only
  rw [hsize, h.capacity]
  by_cases hroom : m.capacity < m.usedBeside key + entrySize key text
  · rw [if_pos hroom, if_pos hroom]
    exact ⟨rfl, h⟩
  · obtain ⟨disk', files', hplace, hkeeps', hshows', _⟩ :=
      exists_place_eq hkeeps hshows hkey.1 hkey.2 (h.marks s.drawn) hfresh text
    rw [if_neg hroom, if_neg hroom, hplace]
    exact ⟨rfl, h.of_disk hkeeps' hshows'⟩

/-- An operation has the same answer, and leaves the stores the same as each other. -/
theorem perform (h : Mirrors s m) {o : Store.Operation} (ho : HasShortKey o)
    (hfresh : s.DrawsFresh o) : (Store.perform s o).1 = (Store.perform m o).1 ∧
      Mirrors (Store.perform s o).2 (Store.perform m o).2 := by
  cases o with
  | read key => exact ⟨congrArg Store.Answer.text (h.read ho), h⟩
  | write key value =>
    obtain ⟨hanswer, hafter⟩ := h.write ho hfresh value
    exact ⟨congrArg Store.Answer.done hanswer, hafter⟩
  | remove key =>
    obtain ⟨hanswer, hafter⟩ := h.remove ho
    exact ⟨congrArg Store.Answer.done hanswer, hafter⟩
  | keys => exact ⟨congrArg Store.Answer.keys h.keys, h⟩

end Mirrors

/-! ## Runs -/

/-- What happens to a store on disk: an operation, or that someone else plants something. -/
inductive Event where
  | call (o : Store.Operation)
  | plant (p : Planting)

def Event.operation? : Event → Option Store.Operation
  | call o => some o
  | plant _ => none

/-- The store after a planting; if that fails, nothing was planted. -/
def plant (s : DirectoryStore) (p : Planting) : DirectoryStore :=
  match p.apply s.base s.disk with
  | .ok disk => { s with disk }
  | .error _ => s

/-- The answers to the operations among some events. -/
def answers (s : DirectoryStore) : List Event → List Store.Answer
  | [] => []
  | .call o :: rest => (Store.perform s o).1 :: answers (Store.perform s o).2 rest
  | .plant p :: rest => (s.plant p).answers rest

/-- The operations have short keys and draw fresh names, and what is planted is foreign. -/
def Admits (s : DirectoryStore) : List Event → Prop
  | [] => True
  | .call o :: rest => HasShortKey o ∧ s.DrawsFresh o ∧ Admits (Store.perform s o).2 rest
  | .plant p :: rest => p.IsForeign ∧ (s.plant p).Admits rest

instance decidableAdmits (s : DirectoryStore) : (events : List Event) → Decidable (s.Admits events)
  | [] => isTrue trivial
  | .call o :: rest =>
    have := decidableAdmits (Store.perform s o).2 rest
    inferInstanceAs (Decidable (_ ∧ _ ∧ _))
  | .plant p :: rest =>
    have := decidableAdmits (s.plant p) rest
    inferInstanceAs (Decidable (_ ∧ _))

theorem Mirrors.plant {s : DirectoryStore} {m : MemoryStore} (h : Mirrors s m) {p : Planting}
    (hp : p.IsForeign) : Mirrors (s.plant p) m := by
  obtain ⟨files, hkeeps, hshows⟩ := h.files
  rw [DirectoryStore.plant]
  cases happly : p.apply s.base s.disk with
  | error e => exact h
  | ok disk' =>
    obtain ⟨files', hkeeps', hshows'⟩ := Planting.shows_apply hkeeps hshows hp happly
    exact h.of_disk hkeeps' hshows'

theorem Mirrors.answers {s : DirectoryStore} {m : MemoryStore} (h : Mirrors s m)
    {events : List Event} (hevents : s.Admits events) :
    s.answers events = Store.answers m (events.filterMap Event.operation?) := by
  induction events generalizing s m with
  | nil => rfl
  | cons e rest ih =>
    cases e with
    | plant p =>
      obtain ⟨hp, hrest⟩ := hevents
      exact ih (h.plant hp) hrest
    | call o =>
      obtain ⟨ho, hfresh, hrest⟩ := hevents
      obtain ⟨hanswer, hafter⟩ := h.perform ho hfresh
      show (Store.perform s o).1 :: (Store.perform s o).2.answers rest = (Store.perform m o).1 :: _
      rw [hanswer, ih hafter hrest]

/-- An empty directory mirrors a store in memory without entries. -/
theorem mirrors_empty {s : DirectoryStore} (hbase : s.disk.walk s.base = .ok (.directory []))
    (hmarks : ∀ n, (s.temporary n).utf8ByteSize ≤ markLimit) :
    Mirrors s (MemoryStore.empty s.capacity) :=
  ⟨rfl, hmarks, [], ⟨[], hbase, rfl⟩, shows_nil⟩

theorem checkKey_of_not_fileKey {key : String} (h : ¬ IsFileKey key) :
    checkKey key = .error (.unavailable ("unsupported storage key: " ++ Text.quote key)) := by
  rw [checkKey, if_neg h]

/-- On disk, in a directory that starts out empty and wherever foreign things turn up, operations
have the answers that they have in memory.  What cannot be a key is refused and changes nothing. -/
theorem answers_eq_memory {s : DirectoryStore} {events : List Event}
    (hbase : s.disk.walk s.base = .ok (.directory []))
    (hmarks : ∀ n, (s.temporary n).utf8ByteSize ≤ markLimit) (hevents : s.Admits events) :
    s.answers events =
        Store.answers (MemoryStore.empty s.capacity) (events.filterMap Event.operation?) ∧
      ∀ (t : DirectoryStore) (key : String), ¬ IsFileKey key →
        ∃ reason, Store.read t key = .error (.unavailable reason) ∧
          (∀ value, Store.write t key value = (.error (.unavailable reason), t)) ∧
          Store.remove t key = (.error (.unavailable reason), t) := by
  refine ⟨(mirrors_empty hbase hmarks).answers hevents, fun t key hkey => ?_⟩
  have hcheck := checkKey_of_not_fileKey hkey
  refine ⟨"unsupported storage key: " ++ Text.quote key, ?_, fun value => ?_, ?_⟩
  · show t.read key = _
    rw [read, hcheck]
    rfl
  · show t.write key value = _
    rw [write, hcheck]
  · show t.remove key = _
    rw [remove, hcheck]

theorem answers_eq_memory_amid_foreign :
    let s : DirectoryStore :=
      ⟨["data"], 10, .directory [("data", .directory [])], fun _ => "f1", 0⟩
    let events : List Event := [
      .plant (.file ["storage", "k.tmp.00"] "half".toUTF8), .call (.write "k" "abc"),
      .plant (.directory ["storage", "notes"]), .call (.write "m" "a longer text"),
      .call (.read "k"), .call .keys, .plant (.file ["readme"] "a".toUTF8),
      .call (.remove "k"), .call (.write "m" "short"), .call .keys]
    s.answers events = [
      .done (.ok ()), .done (.error (.quotaExceeded "m" 18 10)), .text (.ok (some "abc")),
      .keys (.ok ["k"]), .done (.ok ()), .done (.ok ()), .keys (.ok ["m"])] := by
  intro s events
  have hevents : s.Admits events := by decide
  have hmarks : ∀ n, (s.temporary n).utf8ByteSize ≤ markLimit := by
    intro n
    show "f1".utf8ByteSize ≤ markLimit
    decide
  have hbase : s.disk.walk s.base = .ok (.directory []) := rfl
  rw [(answers_eq_memory hbase hmarks hevents).1]
  rfl

end DirectoryStore
end SdkShelf
