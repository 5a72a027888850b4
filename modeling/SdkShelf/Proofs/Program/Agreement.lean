import Mathlib.Data.List.Nodup
import SdkShelf.Proofs.Catalog.Survival
import SdkShelf.Proofs.Program.Sequence

/-!
# What the commands tell of the same projects

Whatever was run before in a directory, its collection file holds the projects that `stats`,
`describe`, `endpoints` and `execute` tell of, each in its own way.
-/

namespace SdkShelf

open CommandLine
open Disk (Path)

/-! ## Projects by id -/

namespace Catalog

variable {σ : Type} [Store σ] {c : Catalog σ} {id : String}

theorem get?_eq_some_iff (h : (c.list.map Project.id).Nodup) {p : Project} :
    c.get? id = some p ↔ p ∈ c.list ∧ p.id = id := by
  have hfound : ∀ {q : Project}, c.get? id = some q → q ∈ c.list ∧ q.id = id := by
    intro q hq
    exact ⟨List.mem_of_find?_eq_some hq, by simpa using List.find?_some hq⟩
  refine ⟨hfound, fun ⟨hp, hid⟩ => ?_⟩
  cases hq : c.get? id with
  | none =>
    have hnone := List.find?_eq_none.mp hq p hp
    exact absurd (decide_eq_true hid) hnone
  | some q =>
    obtain ⟨hmem, hqid⟩ := hfound hq
    rw [List.inj_on_of_nodup_map h hmem hp (hqid.trans hid.symm)]

theorem statsText_eq : Session.statsText c.stats c.recent =
    "Active Projects: " ++ toString c.list.length ++ "\n" ++
    "Generated SDKs: " ++ toString c.list.length ++ "\n" ++
    "Total Endpoints: " ++ toString (c.list.map fun p => p.spec.endpoints.length).sum ++ "\n" ++
    "API Calls: " ++ toString c.apiCallCount ++ "\n" ++
    String.join ((c.list.take (min 4 c.list.length)).map fun p =>
      "recent: " ++ Session.line [p.id, p.name]) := by
  have hsum : c.list.foldr (fun p n => p.spec.endpoints.length + n) 0 =
      (c.list.map fun p => p.spec.endpoints.length).sum := by
    rw [List.sum_eq_foldr, List.foldr_map]
  have hrecent : c.recent = c.list.take (min 4 c.list.length) := by
    rw [recent, List.take_eq_take_iff, recentLimit]
    omega
  rw [← hrecent, ← hsum]
  rfl

theorem get?_of_not_mem (h : id ∉ c.list.map Project.id) : c.get? id = none := by
  refine List.find?_eq_none.mpr fun p hp hid => h ?_
  exact List.mem_map.mpr ⟨p, hp, of_decide_eq_true hid⟩

end Catalog

/-- The projects that the collection's file below a directory tells of. -/
def Machine.projects (m : Machine) (base : Path) : List Project :=
  match m.disk.readText (base ++ ["storage"] ++ [Shelf.projectsKey ++ DirectoryStore.ending]) with
  | .ok text => (Project.listSchema.ofText text).toOption.getD []
  | .error _ => []

theorem Machine.projects_eq (m : Machine) (base : Path) (quota : Nat) :
    m.projects base = (Program.catalogAt m base quota).list := by
  have hload : (Program.catalogAt m base quota).shelf.loadText Shelf.projectsKey =
      (m.disk.readText
        (base ++ ["storage"] ++ [Shelf.projectsKey ++ DirectoryStore.ending])).toOption :=
    Shelf.loadText_eq_readText (by decide)
  rw [projects, Catalog.list, Shelf.load]
  show _ = (((Program.catalogAt m base quota).shelf.loadText Shelf.projectsKey).bind _).getD []
  rw [hload]
  cases m.disk.readText (base ++ ["storage"] ++ [Shelf.projectsKey ++ DirectoryStore.ending]) with
  | error e => rfl
  | ok text =>
    show (Project.listSchema.ofText text).toOption.getD [] =
      (Shelf.valueOf? Project.listSchema text).getD []
    by_cases hempty : text = ""
    · rw [hempty]
      rfl
    · rw [Shelf.valueOf?_listSchema hempty]

/-! ## Rows -/

/-- What is written about an endpoint in a line of its own. -/
structure Row where
  number : Nat
  method : Http.Method
  path : String
  summary : String

namespace Row

def text (r : Row) : String :=
  Session.line [toString r.number, r.method.name, r.path, r.summary]

def of (number : Nat) (e : Api.Endpoint) : Row := ⟨number, e.method, e.path, e.summary.getD ""⟩

/-- The rows of some endpoints, numbered from zero on. -/
def all (endpoints : List Api.Endpoint) : List Row := endpoints.mapIdx of

theorem join_text (endpoints : List Api.Endpoint) (start : Nat) :
    String.join ((endpoints.mapIdx fun i e => of (start + i) e).map text) =
      Session.endpointLines start endpoints := by
  induction endpoints generalizing start with
  | nil => rfl
  | cons e rest ih =>
    have hrest := ih (start + 1)
    simp only [Nat.add_assoc, Nat.add_comm 1] at hrest
    rw [List.mapIdx_cons, List.map_cons, String.join_cons, hrest]
    rfl

theorem endpointsText_eq (p : Project) : Session.endpointsText p =
    String.join ((all p.spec.endpoints).map text) ++
      (if p.spec.truncated then "(endpoint list truncated due to storage limits)\n" else "") := by
  have hrows := join_text p.spec.endpoints 0
  simp only [Nat.zero_add] at hrows
  rw [Session.endpointsText, ← hrows]
  rfl

theorem mem_all_iff {endpoints : List Api.Endpoint} {r : Row} :
    r ∈ all endpoints ↔ ∃ e, endpoints[r.number]? = some e ∧ of r.number e = r := by
  rw [all, List.mem_mapIdx]
  constructor
  · rintro ⟨i, hi, rfl⟩
    exact ⟨endpoints[i], List.getElem?_eq_getElem hi, rfl⟩
  · rintro ⟨e, he, hr⟩
    obtain ⟨hi, rfl⟩ := List.getElem?_eq_some_iff.mp he
    exact ⟨r.number, hi, hr⟩

end Row

theorem Call.Request.place_of_prepare {baseUrl : String} {e : Api.Endpoint}
    {values : Dictionary String} {body : Option String} {r : Call.Request}
    (h : Call.Request.prepare baseUrl e values body = .ok r) :
    r.method = e.method ∧ r.baseUrl = baseUrl ∧ r.path = Call.resolvePath e.path
      ((e.parametersIn Api.Endpoint.pathLocation).map (·.name)) values.get? := by
  obtain ⟨json, _, hr⟩ := exists_of_bind_eq_ok h
  rw [← Except.ok.inj hr]
  exact ⟨rfl, rfl, rfl⟩

/-! ## Single commands -/

namespace Start

variable {s : Start} {m : Machine} {i : Invocation} {c : Config} {t : Session}

theorem run_of_ok {printed : Printed} (hread : CommandLine.read s.args = .ok i)
    (hconfig : Config.resolve i.flags s.env = .ok c)
    (hrun : (Program.openSession (s.on m) c).run i.command = (.ok printed, t)) :
    (s.run m).1 = .ok ⟨0, printed.out, printed.warnings⟩ := by
  rw [run, Program.run_of_read hread, Program.perform_of_ok hconfig hrun]

theorem run_of_error {f : Failure} (hread : CommandLine.read s.args = .ok i)
    (hconfig : Config.resolve i.flags s.env = .ok c)
    (hrun : (Program.openSession (s.on m) c).run i.command = (.error f, t)) :
    (s.run m).1 = .ok (Program.failed f.message) := by
  rw [run, Program.run_of_read hread, Program.perform_of_error hconfig hrun]

/-- What only looks at a project prints what it finds. -/
theorem run_of_project {id : String} {out : Project → String} {p : Project}
    (hread : CommandLine.read s.args = .ok i) (hconfig : Config.resolve i.flags s.env = .ok c)
    (hcommand : ∀ t : Session, t.run i.command = t.withProject id fun p => t.print (out p))
    (hget : (Program.openSession (s.on m) c).catalog.get? id = some p) :
    (s.run m).1 = .ok ⟨0, out p, ""⟩ := by
  have hrun : (Program.openSession (s.on m) c).run i.command =
      (.ok ⟨out p, ""⟩, Program.openSession (s.on m) c) := by
    rw [hcommand, Session.withProject, hget]
    rfl
  exact run_of_ok hread hconfig hrun

end Start

namespace Program
namespace Kept

variable {start m : Machine} {base : Path} {quota calls : Nat} {s : Start} {i : Invocation}
  {c : Config} (h : Kept start base quota calls m) (hs : s.Uses start.disk base quota)
  (hread : CommandLine.read s.args = .ok i) (hconfig : Config.resolve i.flags s.env = .ok c)

include h

theorem distinct : ((m.projects base).map Project.id).Nodup := by
  rw [m.projects_eq base quota]
  exact h.drawn.distinct

include hs hread hconfig

theorem catalog_eq : (openSession (s.on m) c).catalog = catalogAt (s.on m) base quota :=
  h.catalogOf_eq hs hread hconfig

theorem list_eq : (openSession (s.on m) c).catalog.list = m.projects base := by
  rw [h.catalog_eq hs hread hconfig, m.projects_eq base quota]
  rfl

theorem get?_eq_some_iff {id : String} {p : Project} :
    (openSession (s.on m) c).catalog.get? id = some p ↔ p ∈ m.projects base ∧ p.id = id := by
  have hlist := h.list_eq hs hread hconfig
  rw [← hlist]
  exact Catalog.get?_eq_some_iff (by rw [hlist]; exact h.distinct)

theorem run_stats (hcommand : i.command = .stats) :
    (s.run m).1 = .ok ⟨0,
      "Active Projects: " ++ toString (m.projects base).length ++ "\n" ++
      "Generated SDKs: " ++ toString (m.projects base).length ++ "\n" ++
      "Total Endpoints: " ++
        toString ((m.projects base).map fun p => p.spec.endpoints.length).sum ++ "\n" ++
      "API Calls: " ++ toString (min calls Catalog.callLimit) ++ "\n" ++
      String.join (((m.projects base).take (min 4 (m.projects base).length)).map fun p =>
        "recent: " ++ Session.line [p.id, p.name]), ""⟩ := by
  have hrun : (openSession (s.on m) c).run i.command =
      (.ok ⟨Session.statsText (openSession (s.on m) c).catalog.stats
        (openSession (s.on m) c).catalog.recent, ""⟩, openSession (s.on m) c) := by
    rw [hcommand]
    rfl
  have hcount : (openSession (s.on m) c).catalog.apiCallCount = min calls Catalog.callLimit := by
    rw [h.catalog_eq hs hread hconfig]
    exact h.count
  rw [Start.run_of_ok hread hconfig hrun, Catalog.statsText_eq, h.list_eq hs hread hconfig, hcount]

section

variable {id : String} {out : Project → String}
  (hcommand : ∀ t : Session, t.run i.command = t.withProject id fun p => t.print (out p))

include hcommand

theorem run_of_project {p : Project} (hp : p ∈ m.projects base) (hid : p.id = id) :
    (s.run m).1 = .ok ⟨0, out p, ""⟩ :=
  Start.run_of_project hread hconfig hcommand
    ((h.get?_eq_some_iff hs hread hconfig).mpr ⟨hp, hid⟩)

/-- What only looks at a project fails without it. -/
theorem exitCode_of_project_iff :
    exitCode (s.run m).1 = 0 ↔ id ∈ (m.projects base).map Project.id := by
  refine ⟨fun hexit => ?_, fun hmem => ?_⟩
  · by_contra hmem
    have hget : (openSession (s.on m) c).catalog.get? id = none :=
      Catalog.get?_of_not_mem (by rw [h.list_eq hs hread hconfig]; exact hmem)
    have hrun : (openSession (s.on m) c).run i.command =
        (.error (.projectNotFound id), openSession (s.on m) c) := by
      rw [hcommand, Session.withProject, hget]
      rfl
    rw [Start.run_of_error hread hconfig hrun] at hexit
    exact Nat.one_ne_zero hexit
  · obtain ⟨p, hp, hid⟩ := List.mem_map.mp hmem
    rw [h.run_of_project hs hread hconfig hcommand hp hid]
    rfl

end

section

variable {a : ExecuteArgs} (hcommand : i.command = .execute a)

include hcommand

/-- An execution calls the endpoint of the row that has the number. -/
theorem exists_run_of_row {p : Project} (hp : p ∈ m.projects base) (hid : p.id = a.id) {r : Row}
    (hr : r ∈ Row.all p.spec.endpoints) (hnumber : r.number = a.endpoint) :
    ∃ e, p.spec.endpoints[a.endpoint]? = some e ∧ Row.of a.endpoint e = r ∧
      (s.run m).1 =
        .ok ⟨0, Session.jsonLines ((openSession (s.on m) c).call a p e).1.json, ""⟩ ∧
      (s.run m).2.network = ((openSession (s.on m) c).call a p e).2 := by
  obtain ⟨e, he, hrow⟩ := Row.mem_all_iff.mp hr
  rw [hnumber] at he hrow
  have hget := (h.get?_eq_some_iff hs hread hconfig).mpr ⟨hp, hid⟩
  have hrun : s.run m = _ := run_execute_of_found hread hcommand hconfig hget he
  exact ⟨e, he, hrow, congrArg Prod.fst hrun, congrArg (fun o => o.2.network) hrun⟩

theorem exitCode_of_row_iff :
    exitCode (s.run m).1 = 0 ↔ ∃ p ∈ m.projects base, p.id = a.id ∧
      ∃ r ∈ Row.all p.spec.endpoints, r.number = a.endpoint := by
  refine ⟨fun hexit => ?_, fun ⟨p, hp, hid, r, hr, hnumber⟩ => ?_⟩
  · by_contra hnone
    have habsent : ∀ p, (openSession (s.on m) c).catalog.get? a.id = some p →
        p.spec.endpoints.length ≤ a.endpoint := by
      intro p hget
      obtain ⟨hp, hid⟩ := (h.get?_eq_some_iff hs hread hconfig).mp hget
      refine Nat.le_of_not_lt fun hlt => hnone
        ⟨p, hp, hid, Row.of a.endpoint p.spec.endpoints[a.endpoint], ?_, rfl⟩
      exact Row.mem_all_iff.mpr ⟨_, List.getElem?_eq_getElem hlt, rfl⟩
    obtain ⟨f, hrun⟩ := Program.run_execute_of_absent hread hcommand hconfig habsent
    replace hrun : (s.run m).1 = .ok (failed f) := congrArg Prod.fst hrun
    rw [hrun] at hexit
    exact Nat.one_ne_zero hexit
  · obtain ⟨e, _, _, hrun, _⟩ := h.exists_run_of_row hs hread hconfig hcommand hp hid hr hnumber
    rw [hrun, exitCode]

end

end Kept

/-- After any runs in a directory that was empty, the commands tell of the projects that its file
holds: how many there are, with their endpoints, and how many calls were counted; each one under its
id; and for an execution, just the endpoints that have a row.  What goes out for one of these is a
request with the method and the path that stand in its row. -/
theorem commands_agree {m : Machine} {base : Path} {quota : Nat} {starts : List Start}
    (hempty : m.disk.walk base = .ok (.directory []))
    (hmarks : ∀ n, (m.temporary n).utf8ByteSize ≤ DirectoryStore.markLimit)
    (hids : Function.Injective m.ids) (hstarts : ∀ s ∈ starts, s.Uses m.disk base quota)
    {s : Start} {i : Invocation} {c : Config} (hs : s.Uses m.disk base quota)
    (hread : CommandLine.read s.args = .ok i) (hconfig : Config.resolve i.flags s.env = .ok c) :
    let n := m.after starts
    let stored := n.projects base
    (i.command = .stats → (s.run n).1 = .ok ⟨0,
      "Active Projects: " ++ toString stored.length ++ "\n" ++
      "Generated SDKs: " ++ toString stored.length ++ "\n" ++
      "Total Endpoints: " ++ toString (stored.map fun p => p.spec.endpoints.length).sum ++ "\n" ++
      "API Calls: " ++ toString (min (m.counted starts) Catalog.callLimit) ++ "\n" ++
      String.join ((stored.take (min 4 stored.length)).map fun p =>
        "recent: " ++ Session.line [p.id, p.name]), ""⟩) ∧
    (∀ id, i.command = .describe id →
      (exitCode (s.run n).1 = 0 ↔ id ∈ stored.map Project.id) ∧
      ∀ p ∈ stored, p.id = id →
        ∃ out, (s.run n).1 = .ok ⟨0, out, ""⟩ ∧ Project.schema.ofText out = .ok p) ∧
    (∀ id, i.command = .endpoints id →
      (exitCode (s.run n).1 = 0 ↔ id ∈ stored.map Project.id) ∧
      ∀ p ∈ stored, p.id = id → (s.run n).1 = .ok ⟨0,
        String.join ((Row.all p.spec.endpoints).map Row.text) ++
          (if p.spec.truncated then "(endpoint list truncated due to storage limits)\n" else ""),
        ""⟩) ∧
    (∀ a, i.command = .execute a →
      (exitCode (s.run n).1 = 0 ↔ ∃ p ∈ stored, p.id = a.id ∧
        ∃ r ∈ Row.all p.spec.endpoints, r.number = a.endpoint) ∧
      ∀ p ∈ stored, p.id = a.id → ∀ r ∈ Row.all p.spec.endpoints, r.number = a.endpoint →
        ∃ e, p.spec.endpoints[a.endpoint]? = some e ∧ Row.of a.endpoint e = r ∧
          (s.run n).1 =
            .ok ⟨0, Session.jsonLines ((openSession (s.on n) c).call a p e).1.json, ""⟩ ∧
          (s.run n).2.network = ((openSession (s.on n) c).call a p e).2 ∧
          ∀ q, Call.Request.prepare p.spec.baseUrl e (Dictionary.ofList a.params) a.body = .ok q →
            q.method = r.method ∧ q.baseUrl = p.spec.baseUrl ∧
            q.path = Call.resolvePath r.path
              ((e.parametersIn Api.Endpoint.pathLocation).map (·.name))
              (Dictionary.ofList a.params).get? ∧
            (openSession (s.on n) c).Dispatches a q (s.run n).2.network) := by
  intro n stored
  have hkept : Kept m base quota (m.counted starts) n := by
    have hafter := (Kept.of_empty hempty hmarks).after hids hstarts
    rw [Nat.zero_add] at hafter
    exact hafter
  refine ⟨hkept.run_stats hs hread hconfig, fun id hcommand => ?_, fun id hcommand => ?_,
    fun a hcommand => ?_⟩
  · have hlooks : ∀ t : Session, t.run i.command =
        t.withProject id fun p => t.print (Session.jsonLines (Project.schema.encode p)) := by
      intro t
      rw [hcommand, Session.run]
    refine ⟨hkept.exitCode_of_project_iff hs hread hconfig hlooks, fun p hp hid => ?_⟩
    exact ⟨_, hkept.run_of_project hs hread hconfig hlooks hp hid, p.ofText_pretty⟩
  · have hlooks : ∀ t : Session, t.run i.command =
        t.withProject id fun p => t.print (Session.endpointsText p) := by
      intro t
      rw [hcommand, Session.run]
    refine ⟨hkept.exitCode_of_project_iff hs hread hconfig hlooks, fun p hp hid => ?_⟩
    rw [← Row.endpointsText_eq]
    exact hkept.run_of_project hs hread hconfig hlooks hp hid
  · refine ⟨hkept.exitCode_of_row_iff hs hread hconfig hcommand, fun p hp hid r hr hnumber => ?_⟩
    obtain ⟨e, he, hrow, hprints, hnetwork⟩ :=
      hkept.exists_run_of_row hs hread hconfig hcommand hp hid hr hnumber
    refine ⟨e, he, hrow, hprints, hnetwork, fun q hq => ?_⟩
    obtain ⟨hmethod, hbase, hpath⟩ := Call.Request.place_of_prepare hq
    have hdispatches := Session.dispatches_call (s := openSession (s.on n) c) hq
    rw [← hnetwork] at hdispatches
    rw [← hrow]
    exact ⟨hmethod, hbase, hpath, hdispatches⟩

/-- A project is generated and its first endpoint is run; then the statistics are asked for. -/
theorem commands_agree_on_statistics :
    let now : Timestamp := ⟨⟨2025, 2, 1, by decide⟩, 12, 0, 0, 0, by decide⟩
    let m : Machine :=
      { disk := .directory [("data", .directory [])]
        directory := []
        network := ⟨false, [], []⟩
        now := now
        ids := fun n => String.ofList (List.replicate (n + 1) 'p')
        idsUsed := 0
        temporary := fun _ => "f1"
        temporaryUsed := 0 }
    let start (args : List String) (replies : List Http.Reply) : Start :=
      ⟨args ++ ["--data-dir", ".", "--api-url", "http://[::1]"], fun _ => none, ["data"],
        ⟨true, replies, []⟩, now⟩
    let generation := start ["generate", "--url", "http://[::1]/docs"] [.plain 200 (Text.bytes
      ("\x7b\"name\":\"Pets\",\"spec\":\x7b\"base_url\":\"http://[::1]\",\"endpoints\":[" ++
        "\x7b\"method\":\"GET\",\"path\":\"/x\"\x7d]\x7d,\"sdk_code\":\"code\"\x7d"))]
    let execution := start ["execute", "p", "--endpoint", "0"] [.plain 404 []]
    let statistics := start ["stats"] []
    let n := m.after [generation, execution]
    let stored := n.projects ["data"]
    (m.disk.walk ["data"] = .ok (.directory []) ∧
      ∀ s ∈ [generation, execution, statistics], s.Uses m.disk ["data"] 5242880) ∧
    (statistics.run n).1 = .ok ⟨0,
      "Active Projects: " ++ toString stored.length ++ "\n" ++
      "Generated SDKs: " ++ toString stored.length ++ "\n" ++
      "Total Endpoints: " ++ toString (stored.map fun p => p.spec.endpoints.length).sum ++ "\n" ++
      "API Calls: " ++
        toString (min (m.counted [generation, execution]) Catalog.callLimit) ++ "\n" ++
      String.join ((stored.take (min 4 stored.length)).map fun p =>
        "recent: " ++ Session.line [p.id, p.name]), ""⟩ := by
  intro now m start generation execution statistics n stored
  have hids : Function.Injective m.ids := by
    intro i j hij
    have hlist := congrArg String.length hij
    simpa [m] using hlist
  have huses : ∀ {args : List String} {replies : List Http.Reply} {command : Command},
      CommandLine.read (args ++ ["--data-dir", ".", "--api-url", "http://[::1]"]) =
        .ok ⟨⟨some ".", none, some "http://[::1]"⟩, command⟩ →
      (start args replies).Uses m.disk ["data"] 5242880 := by
    intro args replies command hread i hi
    obtain rfl := Except.ok.inj (hread.symm.trans hi)
    exact ⟨pathOf_point m.disk ["data"], rfl⟩
  have hgeneration : generation.Uses m.disk ["data"] 5242880 :=
    huses (show CommandLine.read _ = .ok ⟨_, .generate "http://[::1]/docs" none⟩ by decide +kernel)
  have hexecution : execution.Uses m.disk ["data"] 5242880 :=
    huses (show CommandLine.read _ = .ok ⟨_, .execute ⟨"p", 0, [], none, false⟩⟩ by decide +kernel)
  have hstatistics : CommandLine.read statistics.args =
      .ok ⟨⟨some ".", none, some "http://[::1]"⟩, .stats⟩ := by decide +kernel
  have hconfig : Config.resolve ⟨some ".", none, some "http://[::1]"⟩ statistics.env =
      .ok ⟨".", 5242880, "http://[::1]"⟩ := by decide +kernel
  have hstarts : ∀ s ∈ [generation, execution], s.Uses m.disk ["data"] 5242880 := by
    intro s hs
    rcases List.mem_cons.mp hs with rfl | hs
    · exact hgeneration
    · rw [List.mem_singleton.mp hs]
      exact hexecution
  refine ⟨⟨rfl, fun s hs => ?_⟩, ?_⟩
  · rcases List.mem_cons.mp hs with rfl | hs
    · exact hgeneration
    · rcases List.mem_cons.mp hs with rfl | hs
      · exact hexecution
      · rw [List.mem_singleton.mp hs]
        exact huses hstatistics
  · have hmarks : ∀ n, (m.temporary n).utf8ByteSize ≤ DirectoryStore.markLimit := by
      intro n
      show "f1".utf8ByteSize ≤ DirectoryStore.markLimit
      decide
    exact (commands_agree rfl hmarks hids hstarts (huses hstatistics) hstatistics
      hconfig).1 rfl

end Program

end SdkShelf
