import SdkShelf.Proofs.Program.Execution

/-!
# Runs one after another

Every run is a process of its own and finds on disk what the runs before it left there.  As long as
they all keep to one directory that was empty, no two of the projects in it have the same id, and
the calls that were counted are those that were made.
-/

namespace SdkShelf

open CommandLine
open Disk (Path)

/-! ## Sequences -/

/-- A run to come: its arguments and its environment, the directory in which it is started, and the
network and the time that it finds. -/
structure Start where
  args : List String
  env : String → Option String
  directory : Path
  network : Http.Network
  now : Timestamp

/-- What was printed is the outcome of a call that was answered. -/
def Report.showsSuccess (r : Report) : Bool :=
  match Call.Outcome.tagged.ofText r.out with
  | .ok outcome => outcome.isSuccess
  | .error _ => false

namespace Start

def on (s : Start) (m : Machine) : Machine :=
  { m with directory := s.directory, network := s.network, now := s.now }

def run (s : Start) (m : Machine) : Except UsageError Report × Machine :=
  Program.run (s.on m) s.env s.args

/-- Wherever the run looks for settings, it is told to keep its entries below `base`, with room for
`quota` bytes. -/
def Uses (s : Start) (disk : Disk.Node) (base : Path) (quota : Nat) : Prop :=
  ∀ i, CommandLine.read s.args = .ok i →
    Program.pathOf disk s.directory (Config.selectDataDir i.flags s.env) = base ∧
      Config.selectQuota i.flags s.env = quota

/-- The run executes an endpoint and prints a success, and there was room for one more count. -/
def counts (s : Start) (m : Machine) : Bool :=
  match CommandLine.read s.args with
  | .error _ => false
  | .ok i =>
    match i.command, Config.resolve i.flags s.env, (s.run m).1 with
    | .execute _, .ok c, .ok report =>
      report.showsSuccess && decide (Program.catalogOf (s.on m) c).HasRoom
    | _, _, _ => false

end Start

namespace Start

variable {s : Start} {m : Machine} {i : Invocation}

/-- What a run leaves is what its session leaves. -/
theorem run_snd {c : Config} (hread : CommandLine.read s.args = .ok i)
    (hconfig : Config.resolve i.flags s.env = .ok c) :
    (s.run m).2 = Program.close (s.on m) ((Program.openSession (s.on m) c).run i.command).2
      (Program.usesId i.command ((Program.openSession (s.on m) c).run i.command).1) := by
  rw [run, Program.run_of_read hread]
  rcases hrun : (Program.openSession (s.on m) c).run i.command with ⟨f | printed, t⟩
  · rw [Program.perform_of_error hconfig hrun]
  · rw [Program.perform_of_ok hconfig hrun]

theorem counts_of_unread {e : UsageError} (h : CommandLine.read s.args = .error e) :
    s.counts m = false := by
  rw [counts, h]

theorem counts_of_misconfigured {e : Config.Error} (hread : CommandLine.read s.args = .ok i)
    (hconfig : Config.resolve i.flags s.env = .error e) : s.counts m = false := by
  simp only [counts, hread, hconfig]
  cases i.command <;> rfl

theorem counts_of_other (hread : CommandLine.read s.args = .ok i)
    (h : ∀ a, i.command ≠ .execute a) : s.counts m = false := by
  simp only [counts, hread]
  split
  · rename_i hcommand _ _
    exact absurd hcommand (h _)
  · rfl

theorem counts_of_execute {a : ExecuteArgs} {c : Config} {report : Report}
    (hread : CommandLine.read s.args = .ok i) (hcommand : i.command = .execute a)
    (hconfig : Config.resolve i.flags s.env = .ok c) (hreport : (s.run m).1 = .ok report) :
    s.counts m = (report.showsSuccess && decide (Program.catalogOf (s.on m) c).HasRoom) := by
  simp only [counts, hread, hcommand, hconfig, hreport]

end Start

namespace Machine

def after (m : Machine) (starts : List Start) : Machine := starts.foldl (fun m s => (s.run m).2) m

/-- How many of the runs have a call to count. -/
def counted (m : Machine) : List Start → Nat
  | [] => 0
  | s :: rest => (if s.counts m then 1 else 0) + counted (s.run m).2 rest

end Machine

/-! ## Ids -/

/-- The ids differ from each other and are among the first `n` that were drawn. -/
structure Drawn (ids : Nat → String) (n : Nat) (used : List String) : Prop where
  distinct : used.Nodup
  among : ∀ id ∈ used, ∃ k, k < n ∧ id = ids k

namespace Drawn

variable {ids : Nat → String} {n : Nat} {used kept : List String}

theorem nil (ids : Nat → String) (n : Nat) : Drawn ids n [] :=
  ⟨List.nodup_nil, fun _ h => absurd h List.not_mem_nil⟩

theorem mono (h : Drawn ids n used) {n' : Nat} (hn : n ≤ n') : Drawn ids n' used := by
  refine ⟨h.distinct, fun id hid => ?_⟩
  obtain ⟨k, hk, hidk⟩ := h.among id hid
  exact ⟨k, Nat.lt_of_lt_of_le hk hn, hidk⟩

/-- The next id was never used. -/
theorem draw (h : Drawn ids n used) (hids : Function.Injective ids)
    (hkept : kept.Sublist (ids n :: used)) : Drawn ids (n + 1) kept := by
  have hfresh : ids n ∉ used := by
    intro hmem
    obtain ⟨k, hk, hidk⟩ := h.among _ hmem
    have hnk : n = k := hids hidk
    omega
  refine ⟨(List.nodup_cons.mpr ⟨hfresh, h.distinct⟩).sublist hkept, fun id hid => ?_⟩
  rcases List.mem_cons.mp (hkept.subset hid) with rfl | hmem
  · exact ⟨n, Nat.lt_succ_self n, rfl⟩
  · obtain ⟨k, hk, hidk⟩ := h.among id hmem
    exact ⟨k, Nat.lt_succ_of_lt hk, hidk⟩

end Drawn

/-! ## What a command does to the catalog -/

namespace Session

variable {s : Session} {command : Command}

/-- But for executions, the catalog stays as it is, is cleared, or gains a project from a generation
that succeeds for an address on the web. -/
theorem run_catalog_cases (h : ∀ a, command ≠ .execute a) :
    (s.run command).2.catalog = s.catalog ∨ (s.run command).2.catalog = s.catalog.clearAll ∨
      ∃ address url name g, webAddress address = .ok url ∧
        (s.run command).2.catalog = (s.catalog.create s.newId s.now name url.text g).2.2 ∧
        Program.usesId command (s.run command).1 = true := by
  cases command with
  | clear => exact Or.inr (Or.inl rfl)
  | execute a => exact absurd rfl (h a)
  | list => exact Or.inl (run_catalog_of_looks trivial)
  | stats => exact Or.inl (run_catalog_of_looks trivial)
  | describe id => exact Or.inl (run_catalog_of_looks trivial)
  | endpoints id => exact Or.inl (run_catalog_of_looks trivial)
  | remote command => exact Or.inl (run_catalog_of_looks trivial)
  | generate address name =>
    rw [run, within_snd, generate]
    cases hweb : webAddress address with
    | error f => exact Or.inl rfl
    | ok url =>
      rcases hcall : s.backend.generate url.text s.network with ⟨e | g, network⟩
      · simp only [hcall]
        exact Or.inl rfl
      · simp only [hcall]
        exact Or.inr (Or.inr ⟨address, url, name, g, hweb, rfl, rfl⟩)

end Session

/-! ## What stays true -/

namespace Program

section

variable {flags : Flags} {env : String → Option String} {c : Config}

theorem selected_of_resolve (h : Config.resolve flags env = .ok c) :
    Config.selectDataDir flags env = c.dataDir ∧ Config.selectQuota flags env = c.quotaBytes := by
  rw [Config.resolve] at h
  split at h
  · exact absurd h (by simp)
  · split at h
    · exact absurd h (by simp)
    · split at h
      · rw [← Except.ok.inj h]
        exact ⟨rfl, rfl⟩
      · exact absurd h (by simp)

end

/-- After some runs from `start` on, the directory holds a catalog with ids that were drawn, and with
the number of calls, as far as it goes. -/
structure Kept (start : Machine) (base : Path) (quota calls : Nat) (m : Machine) : Prop where
  stands : start.disk.HasDirectory base
  directories : start.disk.KeepsDirectories m.disk
  ids : m.ids = start.ids
  tidy : (catalogAt m base quota).Tidy
  drawn : Drawn m.ids m.idsUsed ((catalogAt m base quota).list.map Project.id)
  count : (catalogAt m base quota).apiCallCount = min calls Catalog.callLimit

namespace Kept

variable {start m : Machine} {base : Path} {quota calls : Nat} {s : Start}

theorem of_empty (hempty : m.disk.walk base = .ok (.directory []))
    (hmarks : ∀ n, (m.temporary n).utf8ByteSize ≤ DirectoryStore.markLimit) :
    Kept m base quota 0 m := by
  have hstore : (catalogAt m base quota).shelf.store.Tidy Dictionary.empty :=
    DirectoryStore.tidy_empty hempty hmarks
  have habsent : ∀ {key : String}, DirectoryStore.IsShortKey key →
      (catalogAt m base quota).shelf.loadText key = none := by
    intro key hkey
    rw [Shelf.loadText_of_tidy hstore hkey, Dictionary.get?_empty]
  have hlist : (catalogAt m base quota).list = [] :=
    Catalog.list_of_absent (habsent Catalog.isShortKey_projectsKey)
  refine ⟨⟨[], hempty⟩, .refl _, rfl, ⟨rfl, _, hstore⟩, ?_, ?_⟩
  · rw [hlist]
    exact .nil _ _
  · rw [Catalog.apiCallCount, habsent Catalog.isShortKey_callsKey, Nat.zero_min]

section

variable (h : Kept start base quota calls m)

include h

/-- Where a run is started, what its network is and what time it is makes no difference. -/
theorem on (s : Start) : Kept start base quota calls (s.on m) :=
  ⟨h.stands, h.directories, h.ids, h.tidy, h.drawn, h.count⟩

theorem catalogOf_eq {i : Invocation} {c : Config} (hs : s.Uses start.disk base quota)
    (hread : CommandLine.read s.args = .ok i) (hconfig : Config.resolve i.flags s.env = .ok c) :
    catalogOf (s.on m) c = catalogAt (s.on m) base quota := by
  obtain ⟨hbase, hquota⟩ := hs i hread
  obtain ⟨hdir, hbytes⟩ := selected_of_resolve hconfig
  -- Every run looks for its directory anew; as none is gone, it finds the same one.
  have hpath : pathOf m.disk s.directory (Config.selectDataDir i.flags s.env) = base := by
    rw [pathOf_eq h.directories (by rw [hbase]; exact h.stands), hbase]
  show catalogAt (s.on m) (pathOf m.disk s.directory c.dataDir) c.quotaBytes = _
  rw [← hdir, hpath, ← hbytes, hquota]

/-- It is true of what a session leaves if it is true of the session's catalog. -/
theorem close {d : Catalog DirectoryStore} {t : Session} {created : Bool} {calls' : Nat}
    (ht : t.catalog = d) (hcontinues : (catalogAt m base quota).shelf.Continues d.shelf)
    (htidy : d.Tidy)
    (hdrawn : Drawn m.ids (if created then m.idsUsed + 1 else m.idsUsed) (d.list.map Project.id))
    (hcount : d.apiCallCount = min calls' Catalog.callLimit) :
    Kept start base quota calls' (Program.close m t created) := by
  subst ht
  have hcatalog : catalogAt (Program.close m t created) base quota = t.catalog :=
    catalogAt_close hcontinues
  refine ⟨h.stands, h.directories.trans hcontinues.store.directories, h.ids, ?_, ?_, ?_⟩
  · rw [hcatalog]
    exact htidy
  · rw [hcatalog]
    exact hdrawn
  · rw [hcatalog]
    exact hcount

theorem close_of_same {t : Session} {created : Bool} (ht : t.catalog = catalogAt m base quota) :
    Kept start base quota calls (Program.close m t created) := by
  refine h.close ht (.refl _) h.tidy ?_ h.count
  cases created with
  | false => exact h.drawn
  | true => exact h.drawn.mono (Nat.le_succ _)

theorem close_of_cleared {t : Session} {created : Bool}
    (ht : t.catalog = (catalogAt m base quota).clearAll) :
    Kept start base quota calls (Program.close m t created) := by
  obtain ⟨htidy, hlist, hcount⟩ := h.tidy.clearAll
  refine h.close ht Catalog.continues_clearAll htidy ?_ (hcount.trans h.count)
  rw [hlist]
  exact .nil _ _

theorem close_of_created (hids : Function.Injective start.ids) {t : Session} {now : Timestamp}
    {name : Option String} {url : String} {g : Backend.Generation}
    (ht : t.catalog =
      ((catalogAt m base quota).create (m.ids m.idsUsed) now name url g).2.2) :
    Kept start base quota calls (Program.close m t true) := by
  obtain ⟨htidy, hsublist, hcount⟩ := h.tidy.create (m.ids m.idsUsed) now name url g
  rw [← h.ids] at hids
  exact h.close ht Catalog.continues_create htidy (h.drawn.draw hids hsublist)
    (hcount.trans h.count)

theorem close_of_counted {t : Session} (hroom : (catalogAt m base quota).HasRoom)
    (ht : t.catalog = (catalogAt m base quota).recordApiCall.2) :
    Kept start base quota (calls + 1) (Program.close m t false) := by
  obtain ⟨htidy, hlist, hcount⟩ := h.tidy.recordApiCall hroom
  refine h.close ht Catalog.continues_recordApiCall htidy ?_ ?_
  · rw [hlist]
    exact h.drawn
  · -- A count at its limit stays there, so one more call makes no difference.
    rw [hcount, h.count]
    omega

/-- An execution is counted if it prints a success and there is room. -/
theorem run_execution {i : Invocation} {a : ExecuteArgs} {c : Config}
    (hs : s.Uses start.disk base quota) (hread : CommandLine.read s.args = .ok i)
    (hcommand : i.command = .execute a) (hconfig : Config.resolve i.flags s.env = .ok c) :
    Kept start base quota (if s.counts m then calls + 1 else calls) (s.run m).2 := by
  have hcatalog := h.catalogOf_eq hs hread hconfig
  by_cases hfound : ∃ p e, (catalogOf (s.on m) c).get? a.id = some p ∧
      p.spec.endpoints[a.endpoint]? = some e
  · obtain ⟨p, e, hp, he⟩ := hfound
    have hrun : s.run m = _ := run_execute_of_found hread hcommand hconfig hp he
    have hcounts := Start.counts_of_execute hread hcommand hconfig (congrArg Prod.fst hrun)
    have hshows : Report.showsSuccess
        ⟨0, Session.jsonLines ((openSession (s.on m) c).call a p e).1.json, ""⟩ =
          ((openSession (s.on m) c).call a p e).1.isSuccess := by
      rw [Report.showsSuccess, Session.jsonLines, Call.Outcome.ofText_pretty]
    rw [hshows] at hcounts
    rw [hcounts, hrun]
    by_cases hcounted : ((openSession (s.on m) c).call a p e).1.isSuccess = true ∧
        (catalogOf (s.on m) c).HasRoom
    · obtain ⟨hsuccess, hroom⟩ := hcounted
      have hafter := Session.executed_of_success hsuccess
      rw [if_pos (by rw [hsuccess, decide_eq_true hroom]; rfl)]
      refine (h.on s).close_of_counted ?_ (hafter.trans ?_)
      · rw [← hcatalog]
        exact hroom
      · rw [← hcatalog]
        rfl
    · rw [if_neg (by rw [Bool.and_eq_true, decide_eq_true_iff]; exact hcounted)]
      exact (h.on s).close_of_same ((Session.executed_of_uncounted hcounted).trans hcatalog)
  · obtain ⟨f, hrun⟩ := Program.run_execute_of_absent (m := s.on m) hread hcommand hconfig
      fun p hp => Nat.le_of_not_lt fun hlt =>
        hfound ⟨p, _, hp, List.getElem?_eq_getElem hlt⟩
    replace hrun : s.run m = (.ok (failed f), s.on m) := hrun
    have hcounts := Start.counts_of_execute hread hcommand hconfig (congrArg Prod.fst hrun)
    have hshows : (failed f).showsSuccess = false := rfl
    rw [hcounts, hshows, Bool.false_and, if_neg Bool.false_ne_true, hrun]
    exact h.on s

theorem run_other {i : Invocation} {c : Config} (hids : Function.Injective start.ids)
    (hs : s.Uses start.disk base quota) (hread : CommandLine.read s.args = .ok i)
    (hcommand : ∀ a, i.command ≠ .execute a) (hconfig : Config.resolve i.flags s.env = .ok c) :
    Kept start base quota calls (s.run m).2 := by
  have hcatalog : (openSession (s.on m) c).catalog = catalogAt (s.on m) base quota :=
    h.catalogOf_eq hs hread hconfig
  have hcases := Session.run_catalog_cases (s := openSession (s.on m) c) hcommand
  rw [hcatalog] at hcases
  rw [Start.run_snd hread hconfig]
  rcases hcases with hsame | hcleared | ⟨_, url, name, g, -, hcreated, huses⟩
  · exact (h.on s).close_of_same hsame
  · exact (h.on s).close_of_cleared hcleared
  · rw [huses]
    exact (h.on s).close_of_created hids hcreated

theorem run (hids : Function.Injective start.ids) (hs : s.Uses start.disk base quota) :
    Kept start base quota (if s.counts m then calls + 1 else calls) (s.run m).2 := by
  cases hread : CommandLine.read s.args with
  | error e =>
    have hrun : s.run m = (.error e, s.on m) := by rw [Start.run, Program.run, hread]
    rw [Start.counts_of_unread hread, if_neg Bool.false_ne_true, hrun]
    exact h.on s
  | ok i =>
    cases hconfig : Config.resolve i.flags s.env with
    | error e =>
      have hrun : (s.run m).2 = s.on m := by
        rw [Start.run, run_of_read hread, perform_of_misconfigured hconfig]
      rw [Start.counts_of_misconfigured hread hconfig, if_neg Bool.false_ne_true, hrun]
      exact h.on s
    | ok c =>
      by_cases hcommand : ∃ a, i.command = .execute a
      · obtain ⟨a, ha⟩ := hcommand
        exact h.run_execution hs hread ha hconfig
      · have hother : ∀ a, i.command ≠ .execute a := fun a ha => hcommand ⟨a, ha⟩
        rw [Start.counts_of_other hread hother, if_neg Bool.false_ne_true]
        exact h.run_other hids hs hread hother hconfig

/-- What stays true of every run stays true of all of them. -/
theorem after (hids : Function.Injective start.ids) {starts : List Start}
    (hstarts : ∀ s ∈ starts, s.Uses start.disk base quota) :
    Kept start base quota (calls + m.counted starts) (m.after starts) := by
  -- Along the runs both the machine and the number of calls so far change.
  induction starts generalizing m calls with
  | nil => exact h
  | cons s rest ih =>
    have hrun := h.run hids (hstarts s List.mem_cons_self)
    have hrest := ih hrun fun t ht => hstarts t (List.mem_cons_of_mem s ht)
    have hcalls : (if s.counts m then calls + 1 else calls) + (s.run m).2.counted rest =
        calls + m.counted (s :: rest) := by
      rw [Machine.counted]
      split <;> omega
    rw [hcalls] at hrest
    exact hrest

end

end Kept

end Program
end SdkShelf
