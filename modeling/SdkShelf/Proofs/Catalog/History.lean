import SdkShelf.Proofs.Catalog.Contents
import SdkShelf.Proofs.Shelf.Quota

/-!
# The history of a catalog

However a catalog is used, its list is made from the projects that were saved since it was last
cleared: the newest ones as they were created, then some in their shrunk form, and the oldest ones
given up.  What was shrunk or given up once stays so.
-/

namespace SdkShelf

namespace Shelf

theorem loadText_write {s : Shelf MemoryStore} {key text other : String} (h : key ≠ other) :
    (s.write key text).2.loadText other = s.loadText other :=
  MemoryStore.get?_write h

theorem loadText_clear (s : Shelf MemoryStore) (key other : String) :
    (s.clear key).loadText other = if key = other then none else s.loadText other :=
  s.store.entries.get?_erase key other

end Shelf

namespace Catalog

/-- The list is made of the history's first `k` projects, the first `j` of them as they were
created and the others shrunk.  At least one project stays. -/
structure Layered (j k : Nat) (history listed : List Project) : Prop where
  ordered : j ≤ k
  within : k ≤ history.length
  kept : history ≠ [] → 1 ≤ k
  eq : listed = history.take j ++ ((history.drop j).take (k - j)).map Project.shrink

namespace Layered

variable {j k : Nat} {history listed : List Project}

theorem empty : Layered 0 0 [] [] := ⟨Nat.le_refl 0, Nat.le_refl 0, fun h => absurd rfl h, rfl⟩

theorem length_eq (h : Layered j k history listed) : listed.length = k := by
  have hwithin := h.within
  have hordered := h.ordered
  rw [h.eq, List.length_append, List.length_map, List.length_take, List.length_take,
    List.length_drop]
  omega

theorem map_shrink (h : Layered j k history listed) :
    listed.map Project.shrink = (history.take k).map Project.shrink := by
  have hsplit : history.take k = history.take j ++ (history.drop j).take (k - j) := by
    rw [← List.take_add, Nat.add_sub_cancel' h.ordered]
  rw [h.eq, hsplit, List.map_append, List.map_append, Project.map_shrink_map_shrink]

/-- A project is put in front of a list that is kept whole. -/
theorem cons (h : Layered j k history listed) (p : Project) :
    Layered (j + 1) (k + 1) (p :: history) (p :: listed) := by
  refine ⟨Nat.succ_le_succ h.ordered, Nat.succ_le_succ h.within, fun _ => Nat.le_add_left 1 k, ?_⟩
  rw [h.eq, List.take_succ_cons, List.drop_succ_cons, Nat.add_sub_add_right, List.cons_append]

/-- A project is put in front of a list of which some shrunk projects are kept. -/
theorem reduce (h : Layered j k history listed) (p : Project) {m : Nat} (hm : 1 ≤ m)
    (hmk : m ≤ k + 1) :
    Layered 0 m (p :: history) (((p :: listed).map Project.shrink).take m) := by
  refine ⟨Nat.zero_le m, ?_, fun _ => hm, ?_⟩
  · rw [List.length_cons]
    exact Nat.le_trans hmk (Nat.succ_le_succ h.within)
  · obtain ⟨i, rfl⟩ := Nat.exists_eq_add_of_le' hm
    have hik : i ≤ k := by omega
    rw [List.map_cons, h.map_shrink, ← List.map_cons, List.take_zero, List.drop_zero,
      List.nil_append, Nat.sub_zero, ← List.map_take, List.take_succ_cons, List.take_succ_cons,
      List.take_take, Nat.min_eq_left hik]

end Layered

/-! ## Single operations -/

section

variable {c : Catalog MemoryStore}

theorem list_put {text : String} {ps : List Project}
    (h : Shelf.valueOf? Project.listSchema text = some ps) :
    (⟨c.shelf.put text⟩ : Catalog MemoryStore).list = ps :=
  Shelf.load_put h []

/-- A new project is saved in front of the whole list, or in front of a shrunk part of it, or not at
all. -/
theorem create_cases (c : Catalog MemoryStore) (id : String) (now : Timestamp)
    (name : Option String) (sourceUrl : String) (g : Backend.Generation) :
    let p := projectOf id now name sourceUrl g
    (∃ text, c.create id now name sourceUrl g = (p, true, ⟨c.shelf.put text⟩) ∧
      ((⟨c.shelf.put text⟩ : Catalog MemoryStore).list = p :: c.list ∨
        ∃ m, 1 ≤ m ∧ m ≤ c.list.length + 1 ∧ (⟨c.shelf.put text⟩ : Catalog MemoryStore).list =
          ((p :: c.list).map Project.shrink).take m)) ∨
    c.create id now name sourceUrl g = (p, false, c) := by
  intro p
  rcases Shelf.saveAs_cases c.shelf (p :: c.list) with ⟨_, hsave⟩ | ⟨_, m, hbest, hsave⟩ |
    ⟨_, _, hsave⟩
  · refine Or.inl ⟨Shelf.plainText (p :: c.list), ?_,
      Or.inl (list_put (Shelf.valueOf?_plainText _))⟩
    rw [create, hsave]
  · refine Or.inl ⟨Shelf.reducedText (p :: c.list) m, ?_,
      Or.inr ⟨m, hbest.pos, hbest.le, list_put (Shelf.valueOf?_reducedText _ m)⟩⟩
    rw [create, hsave]
  · refine Or.inr ?_
    rw [create, hsave]

theorem create_unsaved {id : String} {now : Timestamp} {name : Option String} {sourceUrl : String}
    {g : Backend.Generation} (h : (c.create id now name sourceUrl g).2.1 = false) :
    (c.create id now name sourceUrl g).2.2 = c := by
  rcases create_cases c id now name sourceUrl g with ⟨text, hcreate, _⟩ | hcreate
  · rw [hcreate] at h
    exact Bool.noConfusion h
  · rw [hcreate]

end

/-! ## Runs -/

/-- What may be done with a catalog, and with the other keys of its store. -/
inductive Action where
  | create (id : String) (now : Timestamp) (name : Option String) (sourceUrl : String)
    (g : Backend.Generation)
  | clearAll
  | recordApiCall
  /-- Any of the operations that only read. -/
  | look
  | write (key text : String) (other : key ≠ Shelf.projectsKey)
  | remove (key : String) (other : key ≠ Shelf.projectsKey)

/-- A catalog and the projects that were saved since it was last cleared, the newest first. -/
structure Chronicle where
  catalog : Catalog MemoryStore
  history : List Project

namespace Chronicle

/-- The catalog of a store under the usual key, before anything was saved. -/
def start (store : MemoryStore) : Chronicle := ⟨⟨⟨store, Shelf.projectsKey⟩⟩, []⟩

def step (t : Chronicle) : Action → Chronicle
  | .create id now name sourceUrl g =>
    let (project, saved, catalog) := t.catalog.create id now name sourceUrl g
    ⟨catalog, if saved then project :: t.history else t.history⟩
  | .clearAll => ⟨t.catalog.clearAll, []⟩
  | .recordApiCall => ⟨t.catalog.recordApiCall.2, t.history⟩
  | .look => t
  | .write key text _ => ⟨⟨(t.catalog.shelf.write key text).2⟩, t.history⟩
  | .remove key _ => ⟨⟨t.catalog.shelf.clear key⟩, t.history⟩

def run (t : Chronicle) (actions : List Action) : Chronicle := actions.foldl step t

/-- The catalog has the usual key, and its list is made from the history with the bounds. -/
structure Holds (t : Chronicle) (j k : Nat) : Prop where
  key : t.catalog.shelf.collectionKey = Shelf.projectsKey
  layered : Layered j k t.history t.catalog.list

variable {t : Chronicle} {j k : Nat}

theorem holds_start {store : MemoryStore} (h : store.entries.get? Shelf.projectsKey = none) :
    (start store).Holds 0 0 := by
  have hlist : (start store).catalog.list = [] := list_of_absent h
  refine ⟨rfl, ?_⟩
  rw [hlist]
  exact Layered.empty

/-- What touches neither the key nor its text leaves the list as it is. -/
theorem Holds.congr (h : t.Holds j k) {shelf : Shelf MemoryStore}
    (hkey : shelf.collectionKey = t.catalog.shelf.collectionKey)
    (htext : shelf.loadText Shelf.projectsKey = t.catalog.shelf.loadText Shelf.projectsKey) :
    (⟨⟨shelf⟩, t.history⟩ : Chronicle).Holds j k := by
  refine ⟨hkey.trans h.key, ?_⟩
  have hlist : (⟨shelf⟩ : Catalog MemoryStore).list = t.catalog.list := by
    refine list_congr ?_
    rw [h.key, hkey, h.key]
    exact htext
  show Layered j k t.history (⟨shelf⟩ : Catalog MemoryStore).list
  rw [hlist]
  exact h.layered

theorem holds_clearAll (h : t.Holds j k) : (t.step .clearAll).Holds 0 0 := by
  have hlist : t.catalog.clearAll.list = [] := by
    refine list_of_absent ?_
    show (t.catalog.shelf.clear _).loadText _ = none
    rw [Shelf.loadText_clear]
    exact if_pos rfl
  refine ⟨h.key, ?_⟩
  show Layered 0 0 [] t.catalog.clearAll.list
  rw [hlist]
  exact Layered.empty

/-- From `t` to `u` some projects were saved, and neither bound rose by more than their number. -/
def Extends (t : Chronicle) (j k : Nat) (u : Chronicle) : Prop :=
  ∃ new i m, u.history = new ++ t.history ∧ i ≤ new.length + j ∧ m ≤ new.length + k ∧ u.Holds i m

theorem Extends.of_same {u : Chronicle} (hhistory : u.history = t.history) (hu : u.Holds j k) :
    t.Extends j k u :=
  ⟨[], j, k, hhistory, Nat.le_add_left j 0, Nat.le_add_left k 0, hu⟩

theorem Extends.of_saved {u : Chronicle} {p : Project} {i m : Nat}
    (hhistory : u.history = p :: t.history) (hi : i ≤ j + 1) (hm : m ≤ k + 1) (hu : u.Holds i m) :
    t.Extends j k u := by
  refine ⟨[p], i, m, hhistory, ?_, ?_, hu⟩
  · rw [List.length_singleton, Nat.add_comm]
    exact hi
  · rw [List.length_singleton, Nat.add_comm]
    exact hm

theorem Extends.trans {u w : Chronicle} (h : t.Extends j k u)
    (hw : ∀ i m, u.Holds i m → u.Extends i m w) : t.Extends j k w := by
  obtain ⟨new, i, m, hnew, hi, hm, hu⟩ := h
  obtain ⟨newer, i', m', hnewer, hi', hm', hend⟩ := hw i m hu
  refine ⟨newer ++ new, i', m', ?_, ?_, ?_, hend⟩
  · rw [hnewer, hnew, List.append_assoc]
  · rw [List.length_append]
    omega
  · rw [List.length_append]
    omega

theorem extends_create (h : t.Holds j k) (id : String) (now : Timestamp) (name : Option String)
    (sourceUrl : String) (g : Backend.Generation) :
    t.Extends j k (t.step (.create id now name sourceUrl g)) := by
  have hput : ∀ {text : String} {p : Project} {listed : List Project} {i m : Nat},
      (⟨t.catalog.shelf.put text⟩ : Catalog MemoryStore).list = listed →
      Layered i m (p :: t.history) listed →
      (⟨⟨t.catalog.shelf.put text⟩, p :: t.history⟩ : Chronicle).Holds i m := by
    intro text p listed i m hlist hlayered
    exact ⟨h.key, hlist ▸ hlayered⟩
  rcases create_cases t.catalog id now name sourceUrl g with
    ⟨text, hcreate, hlist | ⟨m, hm, hmk, hlist⟩⟩ | hcreate
  · rw [step, hcreate]
    exact .of_saved rfl (Nat.le_refl _) (Nat.le_refl _) (hput hlist (h.layered.cons _))
  · rw [h.layered.length_eq] at hmk
    rw [step, hcreate]
    exact .of_saved rfl (Nat.zero_le _) hmk (hput hlist (h.layered.reduce _ hm hmk))
  · rw [step, hcreate]
    exact .of_same rfl h

/-- A step that clears nothing moves both bounds up by no more than the projects that it saves. -/
theorem extends_step (h : t.Holds j k) {a : Action} (ha : a ≠ .clearAll) :
    t.Extends j k (t.step a) := by
  cases a with
  | clearAll => exact absurd rfl ha
  | create id now name sourceUrl g => exact extends_create h id now name sourceUrl g
  | recordApiCall =>
    have hother : Shelf.callsKey ≠ Shelf.projectsKey := by decide
    rw [step, recordApiCall_eq]
    exact .of_same rfl (h.congr rfl (Shelf.loadText_write hother))
  | look => exact .of_same rfl h
  | write key text hother => exact .of_same rfl (h.congr rfl (Shelf.loadText_write hother))
  | remove key hother =>
    refine .of_same rfl (h.congr rfl ?_)
    rw [Shelf.loadText_clear, if_neg hother]

/-- So does a run that clears nothing. -/
theorem extends_run (h : t.Holds j k) {actions : List Action} (hactions : .clearAll ∉ actions) :
    t.Extends j k (t.run actions) := by
  induction actions generalizing t j k with
  | nil => exact .of_same rfl h
  | cons a actions ih =>
    rw [List.mem_cons, not_or] at hactions
    exact (extends_step h (Ne.symm hactions.1)).trans fun i m hstep => ih hstep hactions.2

/-- Every run keeps the list layered, whether it clears anything or not. -/
theorem exists_holds_run (h : t.Holds j k) (actions : List Action) :
    ∃ i m, (t.run actions).Holds i m := by
  induction actions generalizing t j k with
  | nil => exact ⟨j, k, h⟩
  | cons a actions ih =>
    by_cases ha : a = .clearAll
    · rw [ha]
      exact ih (holds_clearAll h)
    · obtain ⟨_, _, _, _, _, _, hstep⟩ := extends_step h ha
      exact ih hstep

/-- In every state of a catalog that began without a collection the list is made of the history's
newest projects, some of them shrunk.  A project that could not be saved changes nothing, and what
was shrunk or given up before stays so as long as nothing is cleared; clearing ends the history. -/
theorem layered_run {store : MemoryStore} (hstore : store.entries.get? Shelf.projectsKey = none)
    (actions : List Action) :
    let t := (start store).run actions
    (∃ j k, Layered j k t.history t.catalog.list) ∧
    (∀ id now name sourceUrl g, (t.catalog.create id now name sourceUrl g).2.1 = false →
      (t.catalog.create id now name sourceUrl g).2.2.list = t.catalog.list) ∧
    (∀ j k, Layered j k t.history t.catalog.list → ∀ later, .clearAll ∉ later →
      ∃ new i m, (t.run later).history = new ++ t.history ∧ i ≤ new.length + j ∧
        m ≤ new.length + k ∧ Layered i m (t.run later).history (t.run later).catalog.list) := by
  intro t
  obtain ⟨j, k, ht⟩ := exists_holds_run (holds_start hstore) actions
  refine ⟨⟨j, k, ht.layered⟩, fun id now name sourceUrl g h => ?_, fun i m him later hlater => ?_⟩
  · rw [create_unsaved h]
  · have hbounds : t.Holds i m := ⟨ht.key, him⟩
    obtain ⟨new, i', m', hnew, hi, hm, hrun⟩ := extends_run hbounds hlater
    exact ⟨new, i', m', hnew, hi, hm, hrun.layered⟩

/-- A run in a store that holds something else. -/
theorem layered_run_beside_other_key :
    let store := (MemoryStore.empty 4096).put "theme" "dark"
    let now : Timestamp := ⟨⟨2024, 2, 29, by decide⟩, 12, 0, 0, 0, by decide⟩
    let g : Backend.Generation := ⟨"Pets", none, Api.Spec.empty, "code", false, none⟩
    let t := (start store).run
      [.create "a" now none "docs" g, .recordApiCall, .remove "theme" (by decide), .look]
    store.entries.get? Shelf.projectsKey = none ∧ ∃ j k, Layered j k t.history t.catalog.list :=
  ⟨by decide, (layered_run (by decide) _).1⟩

end Chronicle

end Catalog
end SdkShelf
