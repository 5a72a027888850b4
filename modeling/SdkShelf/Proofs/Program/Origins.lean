import SdkShelf.Proofs.Catalog.Succession
import SdkShelf.Proofs.Program.Agreement

/-!
# Where projects come from

Each run finds what the runs before it left, whatever else is on the disk and however its writes
fail.  So the projects in a directory were created one after the other, each under an id that was
drawn for it and for an address on the web, and the newest one is the first.
-/

namespace SdkShelf

open CommandLine
open Disk (Path)

/-! ## Origins -/

/-- Where a project comes from: the number of the id that was drawn for it, and the address of the
documentation. -/
structure Origin where
  number : Nat
  url : Url

/-- What is kept of a project's origin, however it is cut down. -/
def Project.traces (p : Project) : String × String := (p.id, p.sourceUrl)

namespace Origin

def traces (ids : Nat → String) (o : Origin) : String × String := (ids o.number, o.url.text)

/-- The projects were created one after the other with some of the first `n` ids, for addresses on
the web.  The newest one is the first. -/
structure Chain (n : Nat) (origins : List Origin) : Prop where
  newestFirst : origins.Pairwise fun newer older => older.number < newer.number
  drawn : ∀ o ∈ origins, o.number < n
  onWeb : ∀ o ∈ origins, ∃ address, Session.webAddress address = .ok o.url

namespace Chain

variable {n : Nat} {origins kept : List Origin}

theorem nil (n : Nat) : Chain n [] :=
  ⟨.nil, List.forall_mem_nil _, List.forall_mem_nil _⟩

theorem sublist (h : Chain n origins) (hkept : kept.Sublist origins) : Chain n kept :=
  ⟨h.newestFirst.sublist hkept, fun o ho => h.drawn o (hkept.subset ho),
    fun o ho => h.onWeb o (hkept.subset ho)⟩

theorem mono (h : Chain n origins) {n' : Nat} (hn : n ≤ n') : Chain n' origins :=
  ⟨h.newestFirst, fun o ho => Nat.lt_of_lt_of_le (h.drawn o ho) hn, h.onWeb⟩

/-- The next id is greater than all that were drawn. -/
theorem cons (h : Chain n origins) {address : String} {url : Url}
    (hurl : Session.webAddress address = .ok url) : Chain (n + 1) (⟨n, url⟩ :: origins) :=
  ⟨.cons h.drawn h.newestFirst,
    List.forall_mem_cons.mpr ⟨Nat.lt_succ_self n, (h.mono (Nat.le_succ n)).drawn⟩,
    List.forall_mem_cons.mpr ⟨⟨address, hurl⟩, h.onWeb⟩⟩

end Chain
end Origin

/-! ## Sessions -/

namespace Session

variable {s : Session}

theorem execute_catalog_cases (args : ExecuteArgs) :
    (s.execute args).2.catalog = s.catalog ∨
      (s.execute args).2.catalog = s.catalog.recordApiCall.2 := by
  rw [execute]
  refine withProject_cases
    (P := fun t => t.catalog = s.catalog ∨ t.catalog = s.catalog.recordApiCall.2) (Or.inl rfl) ?_
  intro p _
  split
  · exact Or.inl rfl
  · exact (ite_eq_or_eq _ _ _).symm

/-- The catalog stays as it is, is cleared, counts a call or gains a project. -/
theorem catalog_cases (s : Session) (command : Command) :
    (s.run command).2.catalog = s.catalog ∨ (s.run command).2.catalog = s.catalog.clearAll ∨
      (s.run command).2.catalog = s.catalog.recordApiCall.2 ∨
      ∃ address url name g, webAddress address = .ok url ∧
        (s.run command).2.catalog = (s.catalog.create s.newId s.now name url.text g).2.2 ∧
        Program.usesId command (s.run command).1 = true := by
  by_cases hcommand : ∃ args, command = .execute args
  · obtain ⟨args, rfl⟩ := hcommand
    rcases s.execute_catalog_cases args with hsame | hcounted
    · exact Or.inl hsame
    · exact Or.inr (Or.inr (Or.inl hcounted))
  · rcases s.run_catalog_cases fun args hargs => hcommand ⟨args, hargs⟩ with
      hsame | hcleared | hcreated
    · exact Or.inl hsame
    · exact Or.inr (Or.inl hcleared)
    · exact Or.inr (Or.inr (Or.inr hcreated))

/-- No command leaves the directory of the catalog. -/
theorem continues_run (s : Session) (command : Command) :
    s.catalog.shelf.Continues (s.run command).2.catalog.shelf := by
  rcases s.catalog_cases command with hsame | hcleared | hcounted |
    ⟨_, _, _, _, _, hcreated, _⟩
  · rw [hsame]
    exact .refl _
  · rw [hcleared]
    exact Catalog.continues_clearAll
  · rw [hcounted]
    exact Catalog.continues_recordApiCall
  · rw [hcreated]
    exact Catalog.continues_create

theorem isWeb_of_webAddress {address : String} {url : Url} (h : webAddress address = .ok url) :
    Url.parse address = .ok url ∧ url.isWeb = true := by
  rw [webAddress] at h
  split at h
  · exact absurd h (by simp)
  · rename_i hparse
    split at h
    · rename_i hweb
      obtain rfl := Except.ok.inj h
      exact ⟨hparse, hweb⟩
    · exact absurd h (by simp)

/-- A command leaves the projects as they are, gives some up, or creates one more. -/
theorem sublist_run (s : Session) (command : Command)
    (h : s.catalog.shelf.collectionKey = Shelf.projectsKey) :
    let listed := s.catalog.list.map Project.traces
    let after := (s.run command).2.catalog.list.map Project.traces
    after.Sublist listed ∨ ∃ address url, webAddress address = .ok url ∧
      Program.usesId command (s.run command).1 = true ∧
      after.Sublist ((s.newId, url.text) :: listed) := by
  intro listed after
  have hkey : IsFileKey s.catalog.shelf.collectionKey := by
    rw [h]
    decide
  have hother : Shelf.callsKey ≠ s.catalog.shelf.collectionKey := by
    rw [h]
    decide
  rcases s.catalog_cases command with hsame | hcleared | hcounted |
    ⟨address, url, name, g, hurl, hcreated, huses⟩
  · refine Or.inl ?_
    simp only [after, hsame]
    exact .refl _
  · refine Or.inl ?_
    simp only [after, hcleared]
    rcases Catalog.list_clearAll_cases hkey with hnone | hall
    · rw [hnone]
      exact List.nil_sublist _
    · rw [hall]
  · refine Or.inl ?_
    simp only [after, hcounted, Catalog.list_recordApiCall_of_ne hkey hother]
    exact .refl _
  · refine Or.inr ⟨address, url, hurl, huses, ?_⟩
    simp only [after, hcreated]
    exact Catalog.sublist_create (fun _ => rfl) hkey _ _ _ _ _

end Session

/-! ## Runs -/

/-- Wherever the run looks for settings, it is told to keep its entries below `base`. -/
def Start.KeepsTo (s : Start) (m : Machine) (base : Path) : Prop :=
  ∀ i, CommandLine.read s.args = .ok i →
    Program.pathOf m.disk s.directory (Config.selectDataDir i.flags s.env) = base

/-- Each of the runs is told so when its turn comes. -/
def Machine.KeepsTo (base : Path) : Machine → List Start → Prop
  | _, [] => True
  | m, s :: rest => s.KeepsTo m base ∧ KeepsTo base (s.run m).2 rest

namespace Start.KeepsTo

variable {s : Start} {m : Machine} {base : Path} {i : Invocation} {c : Config}
  (hs : s.KeepsTo m base) (hread : CommandLine.read s.args = .ok i)
  (hconfig : Config.resolve i.flags s.env = .ok c)

include hs hread hconfig

theorem catalog_eq : (Program.openSession (s.on m) c).catalog =
    Program.catalogAt (s.on m) base c.quotaBytes := by
  show Program.catalogAt (s.on m) (Program.pathOf m.disk s.directory c.dataDir) c.quotaBytes = _
  rw [← (Program.selected_of_resolve hconfig).1, hs i hread]

theorem list_eq : (Program.openSession (s.on m) c).catalog.list = m.projects base := by
  rw [hs.catalog_eq hread hconfig, m.projects_eq base c.quotaBytes]
  rfl

theorem projects_run : (s.run m).2.projects base =
    ((Program.openSession (s.on m) c).run i.command).2.catalog.list := by
  have hcontinues := (Program.openSession (s.on m) c).continues_run i.command
  rw [hs.catalog_eq hread hconfig] at hcontinues
  rw [Start.run_snd hread hconfig, Machine.projects_eq _ base c.quotaBytes,
    Program.catalogAt_close hcontinues]

end Start.KeepsTo

namespace Program

/-- The projects below the directory come from a chain of creations, and ids are drawn from the same
source as ever. -/
structure Traced (ids : Nat → String) (base : Path) (m : Machine) : Prop where
  source : m.ids = ids
  origins : ∃ origins, Origin.Chain m.idsUsed origins ∧
    (m.projects base).map Project.traces = origins.map (Origin.traces ids)

namespace Traced

variable {ids : Nat → String} {base : Path} {m m' : Machine} {s : Start}

theorem of_empty (h : m.projects base = []) : Traced m.ids base m :=
  ⟨rfl, [], .nil _, by rw [h]; rfl⟩

theorem of_sublist (h : Traced ids base m) (hids : m'.ids = m.ids) (hused : m.idsUsed ≤ m'.idsUsed)
    (hlist : ((m'.projects base).map Project.traces).Sublist
      ((m.projects base).map Project.traces)) : Traced ids base m' := by
  obtain ⟨origins, hchain, htraces⟩ := h.origins
  rw [htraces] at hlist
  obtain ⟨kept, hkept, hmap⟩ := List.sublist_map_iff.mp hlist
  exact ⟨hids.trans h.source, kept, (hchain.sublist hkept).mono hused, hmap⟩

theorem of_created (h : Traced ids base m) (hids : m'.ids = m.ids)
    (hused : m'.idsUsed = m.idsUsed + 1) {address : String} {url : Url}
    (hurl : Session.webAddress address = .ok url)
    (hlist : ((m'.projects base).map Project.traces).Sublist
      ((m.ids m.idsUsed, url.text) :: (m.projects base).map Project.traces)) :
    Traced ids base m' := by
  obtain ⟨origins, hchain, htraces⟩ := h.origins
  have hnew : (m.ids m.idsUsed, url.text) :: (m.projects base).map Project.traces =
      (⟨m.idsUsed, url⟩ :: origins).map (Origin.traces ids) := by
    rw [htraces, h.source]
    rfl
  rw [hnew] at hlist
  obtain ⟨kept, hkept, hmap⟩ := List.sublist_map_iff.mp hlist
  refine ⟨hids.trans h.source, kept, ?_, hmap⟩
  rw [hused]
  exact (hchain.cons hurl).sublist hkept

theorem run (h : Traced ids base m) (hs : s.KeepsTo m base) : Traced ids base (s.run m).2 := by
  -- Where a run is started, what its network is and what time it is makes no difference.
  have hon : Traced ids base (s.on m) := ⟨h.source, h.origins⟩
  cases hread : CommandLine.read s.args with
  | error e =>
    have hrun : (s.run m).2 = s.on m := by rw [Start.run, Program.run, hread]
    rw [hrun]
    exact hon
  | ok i =>
    cases hconfig : Config.resolve i.flags s.env with
    | error e =>
      have hrun : (s.run m).2 = s.on m := by
        rw [Start.run, run_of_read hread, perform_of_misconfigured hconfig]
      rw [hrun]
      exact hon
    | ok c =>
      have hafter := Start.run_snd (m := m) hread hconfig
      have hids : (s.run m).2.ids = m.ids := by
        rw [hafter]
        rfl
      rcases (openSession (s.on m) c).sublist_run i.command rfl with
        hlist | ⟨address, url, hurl, huses, hlist⟩
      · rw [← hs.projects_run hread hconfig, hs.list_eq hread hconfig] at hlist
        refine h.of_sublist hids ?_ hlist
        rw [hafter, Program.close]
        dsimp only
        split
        · exact Nat.le_succ _
        · exact Nat.le_refl _
      · rw [← hs.projects_run hread hconfig, hs.list_eq hread hconfig] at hlist
        refine h.of_created hids ?_ hurl hlist
        rw [hafter, Program.close, huses]
        rfl

theorem after (h : Traced ids base m) {starts : List Start} (hstarts : m.KeepsTo base starts) :
    Traced ids base (m.after starts) := by
  induction starts generalizing m with
  | nil => exact h
  | cons s rest ih => exact ih (h.run hstarts.1) hstarts.2

theorem exists_numbers (h : Traced ids base m) :
    ∃ numbers : List Nat, numbers.Pairwise (fun newer older => older < newer) ∧
      (m.projects base).map Project.id = numbers.map ids := by
  obtain ⟨origins, hchain, htraces⟩ := h.origins
  refine ⟨origins.map Origin.number, List.pairwise_map.mpr hchain.newestFirst, ?_⟩
  have hfirst := congrArg (List.map Prod.fst) htraces
  rw [List.map_map, List.map_map] at hfirst
  rw [List.map_map]
  exact hfirst

theorem distinct (h : Traced ids base m) (hids : Function.Injective ids) :
    ((m.projects base).map Project.id).Nodup := by
  obtain ⟨numbers, hnumbers, hlist⟩ := h.exists_numbers
  have hnodup : numbers.Nodup := hnumbers.imp Nat.ne_of_gt
  rw [hlist]
  exact hnodup.map hids

theorem exists_origin (h : Traced ids base m) {p : Project} (hp : p ∈ m.projects base) :
    ∃ k address url, Session.webAddress address = .ok url ∧ p.id = ids k ∧
      p.sourceUrl = url.text := by
  obtain ⟨origins, hchain, htraces⟩ := h.origins
  have hmem : p.traces ∈ origins.map (Origin.traces ids) := by
    rw [← htraces]
    exact List.mem_map_of_mem hp
  obtain ⟨o, ho, htrace⟩ := List.mem_map.mp hmem
  obtain ⟨address, haddress⟩ := hchain.onWeb o ho
  obtain ⟨hid, hurl⟩ := Prod.mk.inj htrace
  exact ⟨o.number, address, o.url, haddress, hid.symm, hurl.symm⟩

end Traced
end Program
end SdkShelf
