import SdkShelf.Proofs.Call.Dispatch
import SdkShelf.Proofs.Catalog.Directory
import SdkShelf.Proofs.Program.Frame
import SdkShelf.Proofs.Program.Path
import SdkShelf.Proofs.Records

/-!
# Running a stored endpoint

A run that executes an endpoint sends what was asked for, counts the call if it was answered and the
new count fits, and does nothing else to the disk.
-/

namespace SdkShelf

open CommandLine

namespace Session

variable {s : Session} {args : ExecuteArgs} {p : Project} {e : Api.Endpoint}

/-- How the arguments want the request sent. -/
def transportOf (s : Session) (args : ExecuteArgs) : Call.Transport Http.Network :=
  if args.viaBackend then .relayed s.backend else .direct s.client

/-- The call that the arguments ask for, for an endpoint of a project. -/
def call (s : Session) (args : ExecuteArgs) (p : Project) (e : Api.Endpoint) :
    Call.Outcome × Http.Network :=
  Call.execute (s.transportOf args) p.spec.baseUrl e (Dictionary.ofList args.params) args.body
    s.network

/-- The session behind that call, which is counted if it was answered. -/
def executed (s : Session) (args : ExecuteArgs) (p : Project) (e : Api.Endpoint) : Session :=
  { s with
    catalog := if (s.call args p e).1.isSuccess then s.catalog.recordApiCall.2 else s.catalog
    network := (s.call args p e).2 }

theorem executed_of_success (h : (s.call args p e).1.isSuccess = true) :
    (s.executed args p e).catalog = s.catalog.recordApiCall.2 := if_pos h

/-- A call that is not answered is not recorded, and one without room leaves nothing behind. -/
theorem executed_of_uncounted (h : ¬ ((s.call args p e).1.isSuccess = true ∧ s.catalog.HasRoom)) :
    (s.executed args p e).catalog = s.catalog := by
  by_cases hsuccess : (s.call args p e).1.isSuccess = true
  · have hfull : ¬ s.catalog.HasRoom := fun hroom => h ⟨hsuccess, hroom⟩
    rw [executed_of_success hsuccess, Catalog.recordApiCall_of_full hfull]
  · exact if_neg hsuccess

/-- What goes out of a prepared request: it is sent straight to its API, or posted to the
backend. -/
def Dispatches (s : Session) (args : ExecuteArgs) (q : Call.Request) (after : Http.Network) :
    Prop :=
  if args.viaBackend then s.backend.http.Sends (Call.relayDraft s.backend q) s.network after
  else s.client.Sends (Call.directDraft q) s.network after

theorem call_of_unprepared {cause : Call.Request.Error}
    (h : Call.Request.prepare p.spec.baseUrl e (Dictionary.ofList args.params) args.body =
      .error cause) : s.call args p e = (.failure (Text.chainText cause.chain), s.network) :=
  Call.execute_of_unprepared h

theorem dispatches_call {q : Call.Request}
    (h : Call.Request.prepare p.spec.baseUrl e (Dictionary.ofList args.params) args.body = .ok q) :
    s.Dispatches args q (s.call args p e).2 := by
  rw [call, Call.state_of_prepared h, Dispatches, transportOf]
  by_cases hvia : args.viaBackend = true
  · rw [if_pos hvia, if_pos hvia]
    exact Call.sends_relayed s.backend q s.network
  · rw [if_neg hvia, if_neg hvia]
    exact Call.sends_direct s.client q s.network

/-- No more messages go out than one, and one for each reply in a row that refers to another
address. -/
theorem exists_sent_call : ∃ sent, (s.call args p e).2.sent = s.network.sent ++ sent ∧
    sent.length ≤ 1 + s.network.referrals 10 := by
  cases hprepare : Call.Request.prepare p.spec.baseUrl e (Dictionary.ofList args.params)
      args.body with
  | error cause =>
    rw [call_of_unprepared hprepare]
    exact ⟨[], (List.append_nil _).symm, Nat.zero_le _⟩
  | ok q =>
    have hdispatches := s.dispatches_call hprepare
    rw [Dispatches] at hdispatches
    split at hdispatches
    · exact hdispatches.exists_sent
    · exact hdispatches.exists_sent

theorem execute_of_absent
    (h : ∀ p, s.catalog.get? args.id = some p → p.spec.endpoints.length ≤ args.endpoint) :
    ∃ f, s.execute args = (.error f, s) := by
  rw [execute, withProject]
  cases hp : s.catalog.get? args.id with
  | none => exact ⟨_, rfl⟩
  | some p =>
    simp only [List.getElem?_eq_none (h p hp)]
    exact ⟨_, rfl⟩

theorem execute_of_found (hp : s.catalog.get? args.id = some p)
    (he : p.spec.endpoints[args.endpoint]? = some e) :
    s.execute args = (.ok ⟨jsonLines (s.call args p e).1.json, ""⟩, s.executed args p e) := by
  rw [execute, withProject]
  simp only [hp, he]
  rfl

end Session

namespace Program

variable {m : Machine} {env : String → Option String} {args : List String} {i : Invocation}
  {c : Config} {a : ExecuteArgs}

def catalogOf (m : Machine) (c : Config) : Catalog DirectoryStore := (openSession m c).catalog

/-- The projects that are stored below a directory, with room for so many bytes. -/
def catalogAt (m : Machine) (base : Disk.Path) (quota : Nat) : Catalog DirectoryStore :=
  ⟨⟨⟨base, quota, m.disk, m.temporary, m.temporaryUsed⟩, Shelf.projectsKey⟩⟩

theorem catalogAt_close {base : Disk.Path} {quota : Nat} {s : Session} {created : Bool}
    (h : (catalogAt m base quota).shelf.Continues s.catalog.shelf) :
    catalogAt (close m s created) base quota = s.catalog := by
  obtain ⟨⟨⟨base', capacity, disk, temporary, drawn⟩, key⟩, client, backend, network, newId, now⟩ :=
    s
  obtain ⟨⟨hbase, hcapacity, htemporary, _⟩, hkey⟩ := h
  obtain rfl : key = Shelf.projectsKey := hkey
  obtain rfl : base' = base := hbase
  obtain rfl : capacity = quota := hcapacity
  obtain rfl : temporary = m.temporary := htemporary
  rfl

/-- The next run finds what a run left, as long as the directory of both is there. -/
theorem catalogOf_close {s : Session} {created : Bool}
    (h : (catalogOf m c).shelf.Continues s.catalog.shelf)
    (hbase : m.disk.HasDirectory (pathOf m.disk m.directory c.dataDir)) :
    catalogOf (close m s created) c = s.catalog := by
  have hpath : pathOf (close m s created).disk m.directory c.dataDir =
      pathOf m.disk m.directory c.dataDir := pathOf_eq h.store.directories hbase
  show catalogAt (close m s created) (pathOf (close m s created).disk m.directory c.dataDir)
    c.quotaBytes = s.catalog
  rw [hpath]
  exact catalogAt_close h

/-- A project can only be found in a directory that is there. -/
theorem exists_files_of_get? {id : String} {p : Project}
    (h : (catalogOf m c).get? id = some p) :
    ∃ files, m.disk.walk (catalogOf m c).shelf.store.directory = .ok (.directory files) := by
  have hmem : p ∈ (catalogOf m c).list := List.mem_of_find?_eq_some h
  cases htext : (catalogOf m c).shelf.loadText Shelf.projectsKey with
  | none =>
    rw [Catalog.list_of_absent htext] at hmem
    exact absurd hmem List.not_mem_nil
  | some text =>
    have hread : (catalogOf m c).shelf.store.read Shelf.projectsKey = .ok (some text) := by
      rw [Shelf.loadText] at htext
      split at htext
      · rename_i hread
        rw [← htext]
        exact hread
      · exact absurd htext (by simp)
    obtain ⟨content, hwalk⟩ := DirectoryStore.exists_file_of_read hread
    obtain ⟨files, hfiles, _⟩ := Disk.Node.exists_entry_of_walk hwalk
    exact ⟨files, hfiles⟩

theorem hasDirectory_of_files {files : List (String × Disk.Node)}
    (h : m.disk.walk (catalogOf m c).shelf.store.directory = .ok (.directory files)) :
    m.disk.HasDirectory (pathOf m.disk m.directory c.dataDir) := by
  obtain ⟨above, habove, _⟩ := Disk.Node.exists_entry_of_walk h
  exact ⟨above, habove⟩

section

variable (hread : CommandLine.read args = .ok i) (hcommand : i.command = .execute a)
  (hconfig : Config.resolve i.flags env = .ok c)

include hread hcommand hconfig

theorem run_execute_of_absent
    (h : ∀ p, (catalogOf m c).get? a.id = some p → p.spec.endpoints.length ≤ a.endpoint) :
    ∃ f, run m env args = (.ok (failed f), m) := by
  obtain ⟨f, hf⟩ := Session.execute_of_absent (s := openSession m c) h
  have hrun : (openSession m c).run i.command = (.error (.during "execute" f), openSession m c) := by
    rw [hcommand, Session.run, hf]
    rfl
  rw [run_of_read hread, perform_of_error hconfig hrun, hcommand]
  exact ⟨_, rfl⟩

theorem run_execute_of_found {p : Project} {e : Api.Endpoint}
    (hp : (catalogOf m c).get? a.id = some p) (he : p.spec.endpoints[a.endpoint]? = some e) :
    run m env args =
      (.ok ⟨0, Session.jsonLines ((openSession m c).call a p e).1.json, ""⟩,
        close m ((openSession m c).executed a p e) false) := by
  have hrun : (openSession m c).run i.command =
      (.ok ⟨Session.jsonLines ((openSession m c).call a p e).1.json, ""⟩,
        (openSession m c).executed a p e) := by
    rw [hcommand, Session.run, Session.execute_of_found (s := openSession m c) hp he]
    rfl
  rw [run_of_read hread, perform_of_ok hconfig hrun, hcommand]
  rfl

end

/-- A run that executes an endpoint of a stored project exits with zero and shows the outcome of one
call.  If the request of that can be prepared, it is dispatched as the arguments want it, and only
answers that are followed have further messages sent.  The call is counted if it was answered and
the count has room, and then the count's file is the only one that changes; otherwise no file does.
For a project or an endpoint that is not there the run fails and does nothing. -/
theorem run_execute (hread : CommandLine.read args = .ok i) (hcommand : i.command = .execute a)
    (hconfig : Config.resolve i.flags env = .ok c)
    (hfree : (catalogOf m c).shelf.store.IsFree Shelf.callsKey) :
    let store := (catalogOf m c).shelf.store
    let after := (run m env args).2
    ((∀ p, (catalogOf m c).get? a.id = some p → p.spec.endpoints.length ≤ a.endpoint) →
      exitCode (run m env args).1 ≠ 0 ∧ after.network = m.network ∧ after.disk = m.disk) ∧
    ∀ p, (catalogOf m c).get? a.id = some p → ∀ h : a.endpoint < p.spec.endpoints.length,
      let e := p.spec.endpoints[a.endpoint]
      let outcome := ((openSession m c).call a p e).1
      let prepared := Call.Request.prepare p.spec.baseUrl e (Dictionary.ofList a.params) a.body
      (run m env args).1 = .ok ⟨0, Session.jsonLines outcome.json, ""⟩ ∧
      Call.Outcome.tagged.ofText (Session.jsonLines outcome.json) = .ok outcome ∧
      (∀ cause, prepared = .error cause → after.network = m.network) ∧
      (∀ q, prepared = .ok q → (openSession m c).Dispatches a q after.network) ∧
      (∃ sent, after.network.sent = m.network.sent ++ sent ∧
        sent.length ≤ 1 + m.network.referrals 10) ∧
      (∀ path, path ≠ store.pathOf Shelf.callsKey →
        after.disk.content? path = m.disk.content? path) ∧
      after.disk.content? (store.pathOf Shelf.projectsKey) =
        m.disk.content? (store.pathOf Shelf.projectsKey) ∧
      (outcome.isSuccess = true ∧ (catalogOf m c).HasRoom →
        (catalogOf after c).apiCallCount =
          min ((catalogOf m c).apiCallCount + 1) Catalog.callLimit) ∧
      (¬ (outcome.isSuccess = true ∧ (catalogOf m c).HasRoom) → after.disk = m.disk) := by
  intro store after
  refine ⟨fun habsent => ?_, fun p hp h => ?_⟩
  · obtain ⟨f, hrun⟩ := run_execute_of_absent hread hcommand hconfig habsent
    have hafter : after = m := congrArg Prod.snd hrun
    rw [hafter, hrun]
    exact ⟨Nat.one_ne_zero, rfl, rfl⟩
  · intro e outcome prepared
    have hrun := run_execute_of_found hread hcommand hconfig hp (List.getElem?_eq_getElem h)
    have hafter : after = close m ((openSession m c).executed a p e) false :=
      congrArg Prod.snd hrun
    have hnetwork : after.network = ((openSession m c).call a p e).2 :=
      congrArg Machine.network hafter
    obtain ⟨files, hfiles⟩ := exists_files_of_get? hp
    refine ⟨congrArg Prod.fst hrun, outcome.ofText_pretty, fun cause hcause => ?_, fun q hq => ?_,
      ?_, ?_⟩
    · rw [hnetwork, Session.call_of_unprepared hcause]
      rfl
    · rw [hnetwork]
      exact Session.dispatches_call hq
    · rw [hnetwork]
      exact Session.exists_sent_call (s := openSession m c)
    · by_cases hcounts : outcome.isSuccess = true ∧ (catalogOf m c).HasRoom
      · obtain ⟨hsuccess, hroom⟩ := hcounts
        obtain ⟨hcount, hothers⟩ := Catalog.recordApiCall_of_room hroom hfiles hfree
        have hcatalog : ((openSession m c).executed a p e).catalog =
            (catalogOf m c).recordApiCall.2 := Session.executed_of_success hsuccess
        have hfound : catalogOf after c = (catalogOf m c).recordApiCall.2 := by
          rw [hafter, ← hcatalog]
          refine catalogOf_close ?_ (hasDirectory_of_files hfiles)
          rw [hcatalog]
          exact Catalog.continues_recordApiCall
        have hdisk : after.disk = (catalogOf m c).recordApiCall.2.shelf.store.disk := by
          rw [← hcatalog, hafter]
          rfl
        rw [hfound, hdisk]
        exact ⟨hothers, hothers _ (DirectoryStore.pathOf_ne (by decide)), fun _ => hcount,
          fun hnot => absurd ⟨hsuccess, hroom⟩ hnot⟩
      · have hdisk : after.disk = m.disk := by
          rw [hafter, close_disk (Session.executed_of_uncounted hcounts)]
        rw [hdisk]
        exact ⟨fun _ _ => rfl, rfl, fun hdo => absurd hdo hcounts, fun _ => rfl⟩

/-! ## A page that is missing, and one that has moved -/

def pageEndpoint : Api.Endpoint := ⟨.get, "/x", none, none, .empty⟩

def pageProject : Project :=
  ⟨"p1", "A", "u", ⟨none, none, "http://[::1]", [pageEndpoint], false⟩, "",
    ⟨⟨2025, 1, 1, by decide⟩, 0, 0, 0, 0, by decide⟩, none, false, none⟩

/-- A disk with a collection in the directory `data`. -/
def diskWith (text : String) : Disk.Node :=
  .directory [("data", .directory
    [("storage", .directory [("ag_projects.txt", DirectoryStore.fileOf text)])])]

def pageDisk : Disk.Node := diskWith (Project.listSchema.text [pageProject])

def pageStore : DirectoryStore := ⟨["data"], 5242880, pageDisk, fun _ => "f1", 0⟩

/-- The project is stored, and the replies of its API are known. -/
def pageMachine (replies : List Http.Reply) : Machine where
  disk := pageDisk
  directory := ["data"]
  network := ⟨true, replies, []⟩
  now := ⟨⟨2025, 2, 1, by decide⟩, 12, 0, 0, 0, by decide⟩
  ids := fun _ => "p2"
  idsUsed := 0
  temporary := fun _ => "f1"
  temporaryUsed := 0

def pageArgs : List String :=
  ["execute", "p1", "--endpoint", "0", "--data-dir", ".", "--api-url", "http://[::1]"]

def pageInvocation : Invocation :=
  ⟨⟨some ".", none, some "http://[::1]"⟩, .execute ⟨"p1", 0, [], none, false⟩⟩

def pageConfig : Config := ⟨".", 5242880, "http://[::1]"⟩

theorem read_pageArgs : CommandLine.read pageArgs = .ok pageInvocation := by
  decide +kernel

theorem resolve_pageInvocation :
    Config.resolve pageInvocation.flags (fun _ => none) = .ok pageConfig := by
  decide +kernel

section

variable (replies : List Http.Reply)

theorem catalogOf_pageMachine :
    catalogOf (pageMachine replies) pageConfig = ⟨⟨pageStore, Shelf.projectsKey⟩⟩ := by
  have hpath : pathOf (pageMachine replies).disk (pageMachine replies).directory
      pageConfig.dataDir = ["data"] := pathOf_point _ _
  rw [catalogOf, openSession, hpath]
  rfl

theorem get?_pageMachine :
    (catalogOf (pageMachine replies) pageConfig).get? "p1" = some pageProject := by
  have hpath : pageStore.pathOf Shelf.projectsKey = ["data", "storage", "ag_projects.txt"] := by
    decide
  have hfile : ∀ text, (diskWith text).readFile ["data", "storage", "ag_projects.txt"] =
      .ok text.toUTF8 := fun _ => rfl
  have hread : Store.read pageStore Shelf.projectsKey =
      .ok (some (Project.listSchema.text [pageProject])) := by
    refine DirectoryStore.read_of_readText (by decide) ?_
    rw [hpath]
    exact Disk.Node.readText_of_readFile (hfile _)
  have htext : (catalogOf (pageMachine replies) pageConfig).shelf.loadText Shelf.projectsKey =
      some (Project.listSchema.text [pageProject]) := by
    rw [catalogOf_pageMachine]
    exact Shelf.loadText_of_read hread
  have hlist : (catalogOf (pageMachine replies) pageConfig).list = [pageProject] :=
    Shelf.load_of_loadText htext (Shelf.valueOf?_text [pageProject]) []
  rw [Catalog.get?, hlist]
  rfl

theorem isFree_pageMachine :
    (catalogOf (pageMachine replies) pageConfig).shelf.store.IsFree Shelf.callsKey := by
  rw [catalogOf_pageMachine]
  refine ⟨?_, by decide, by decide⟩
  rintro ⟨entries, hentries⟩
  have habsent : pageDisk.walk ["data", "storage", "ag_api_calls.txt"] = .error .notFound := rfl
  exact absurd (habsent.symm.trans hentries) (by simp)

end

/-- A call that is answered with status 404 is counted as well. -/
theorem run_execute_of_missing_page :
    let m := pageMachine [.plain 404 []]
    (CommandLine.read pageArgs = .ok pageInvocation ∧
      Config.resolve pageInvocation.flags (fun _ => none) = .ok pageConfig ∧
      (catalogOf m pageConfig).shelf.store.IsFree Shelf.callsKey) ∧
    (run m (fun _ => none) pageArgs).1 =
      .ok ⟨0, Session.jsonLines (Call.Outcome.success 404 "").json, ""⟩ ∧
    (catalogOf m pageConfig).apiCallCount = 0 ∧
    (catalogOf (run m (fun _ => none) pageArgs).2 pageConfig).apiCallCount = 1 := by
  intro m
  have hcount : (catalogOf m pageConfig).apiCallCount = 0 := by
    rw [catalogOf_pageMachine]
    decide +kernel
  have hroom : (catalogOf m pageConfig).HasRoom := by
    rw [catalogOf_pageMachine]
    decide +kernel
  have houtcome : ((openSession m pageConfig).call ⟨"p1", 0, [], none, false⟩ pageProject
      pageEndpoint).1 = .success 404 "" := by
    decide +kernel
  obtain ⟨hshown, _, _, _, _, _, _, hcounted, _⟩ :=
    (run_execute read_pageArgs rfl resolve_pageInvocation (isFree_pageMachine _)).2 pageProject
      (get?_pageMachine _) (by decide)
  replace houtcome : ((openSession m pageConfig).call ⟨"p1", 0, [], none, false⟩ pageProject
      pageProject.spec.endpoints[0]).1 = .success 404 "" := houtcome
  rw [houtcome] at hshown hcounted
  refine ⟨⟨read_pageArgs, resolve_pageInvocation, isFree_pageMachine _⟩, hshown, hcount, ?_⟩
  rw [hcounted ⟨rfl, hroom⟩, hcount]
  rfl

/-- For a page that has moved two messages go out.  A body that begins like an option is not read
as one. -/
theorem run_execute_of_moved_page :
    let m := pageMachine [.answer ⟨302, some "/y", some []⟩, .plain 404 []]
    (exitCode (run m (fun _ => none) pageArgs).1 = 0 ∧
      (run m (fun _ => none) pageArgs).2.network.sent.map (fun m => (m.method, m.url)) =
        [(.get, "http://[::1]/x"), (.get, "http://[::1]/y")]) ∧
    exitCode (run m (fun _ => none) (pageArgs ++ ["--body", "-1"])).1 = 2 := by
  intro m
  have hrun := run_execute_of_found read_pageArgs rfl resolve_pageInvocation
    (get?_pageMachine [.answer ⟨302, some "/y", some []⟩, .plain 404 []])
    (e := pageEndpoint) rfl
  refine ⟨⟨congrArg (fun r => exitCode r.1) hrun, ?_⟩, ?_⟩
  · rw [hrun]
    decide +kernel
  · have hrefused : CommandLine.read (pageArgs ++ ["--body", "-1"]) = .error .unknownArgument := by
      decide +kernel
    rw [run, hrefused]
    rfl

end Program
end SdkShelf
