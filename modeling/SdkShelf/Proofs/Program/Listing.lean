import SdkShelf.Proofs.Catalog.Survival
import SdkShelf.Proofs.CommandLine.Level
import SdkShelf.Proofs.Program.Origins
import SdkShelf.Proofs.Project.Cells

/-!
# Reading the list of projects back

Whatever was run before in a directory, the lines of the list and their cells are the projects
there, the newest first, as long as no name has a tab or a line break in it.  The ids of the list
are those that `show` knows.
-/

namespace SdkShelf

open CommandLine
open Disk (Path)

/-! ## Ids -/

/-- An id of letters, digits and hyphens that does not look like an option. -/
structure IsPlainId (id : String) : Prop where
  signs : ∀ c ∈ id.toList, c.isAlphanum = true ∨ c = '-'
  start : ∀ rest, id.toList ≠ '-' :: rest

namespace IsPlainId

variable {id : String}

theorem isCell (h : IsPlainId id) : Text.IsCell id := by
  refine Text.isCell_of_plain fun c hc => ?_
  rcases h.signs c hc with hc | rfl
  · exact Or.inl hc
  · decide

theorem lookOf_eq (h : IsPlainId id) : Level.lookOf id.toList = .plain := by
  cases hlist : id.toList with
  | nil => rfl
  | cons c rest =>
    have hc : c ≠ '-' := fun hc => h.start rest (by rw [hlist, hc])
    rw [Level.lookOf.eq_4] <;> simp [hc]

/-- Behind `show` it is taken for the id. -/
theorem read_show (h : IsPlainId id) :
    CommandLine.read ["show", id] = .ok ⟨⟨none, none, none⟩, .describe id⟩ := by
  have hhyphens : id ≠ "--" := by
    rintro rfl
    exact h.start ['-'] rfl
  have hplain : (leaf [] (some idName)).read Progress.start false [id] =
      .ok (⟨[(idName, .text id)], none⟩, none) := by
    rw [Level.read_cons (Or.inr rfl) hhyphens, Level.step, h.lookOf_eq]
    rfl
  have hleaf : readCommand "show" [id] = .ok (⟨none, none, none⟩, .describe id) := by
    simp only [readCommand, readLeaf, hplain]
    rfl
  have hbranch : readBranch topLevel readCommand ["show", id] =
      (readCommand "show" [id]).bind fun r =>
        .ok (innermost r.1 ⟨none, none, none⟩, r.2) := rfl
  rw [CommandLine.read, hbranch, hleaf]
  rfl

end IsPlainId

/-! ## Runs -/

theorem Session.run_generate_catalog {s : Session} {address : String} {name : Option String}
    {url : Url} {g : Backend.Generation} (haddress : webAddress address = .ok url)
    (hanswer : (s.backend.generate url.text s.network).1 = .ok g) :
    (s.run (.generate address name)).2.catalog =
      (s.catalog.create s.newId s.now name url.text g).2.2 := by
  rw [run, within_snd, generate, haddress]
  rcases hcall : s.backend.generate url.text s.network with ⟨result, network⟩
  rw [hcall] at hanswer
  obtain rfl : result = .ok g := hanswer
  simp only [hcall]

theorem Start.keepsTo_point {s : Start} {m : Machine} {quota : Option Nat} {apiUrl : Option String}
    {command : Command}
    (h : CommandLine.read s.args = .ok ⟨⟨some ".", quota, apiUrl⟩, command⟩) :
    s.KeepsTo m s.directory := by
  intro i hi
  obtain rfl := Except.ok.inj (h.symm.trans hi)
  exact Program.pathOf_point m.disk s.directory

namespace Start.KeepsTo

variable {s : Start} {m : Machine} {base : Path} {i : Invocation} {c : Config}
  (hs : s.KeepsTo m base) (hread : CommandLine.read s.args = .ok i)
  (hconfig : Config.resolve i.flags s.env = .ok c)

include hs hread hconfig

/-- A generation that the backend answers puts its project in front of the others if there is room
for all of them. -/
theorem projects_generate {address : String} {name : Option String}
    (hcommand : i.command = .generate address name) {url : Url} {g : Backend.Generation}
    (haddress : Session.webAddress address = .ok url)
    (hanswer : ((Program.openSession (s.on m) c).backend.generate url.text s.network).1 = .ok g)
    (hroom : let catalog := Program.catalogAt (s.on m) base c.quotaBytes
      (catalog.shelf.write catalog.shelf.collectionKey
        (catalog.createdText (m.ids m.idsUsed) s.now name url.text g)).1 = .ok ()) :
    (s.run m).2.projects base =
      Catalog.projectOf (m.ids m.idsUsed) s.now name url.text g :: m.projects base := by
  rw [hs.projects_run hread hconfig, hcommand, Session.run_generate_catalog haddress hanswer,
    ← hs.list_eq hread hconfig]
  refine Catalog.list_create_of_accepted ?_
  rw [hs.catalog_eq hread hconfig]
  exact hroom

theorem run_list (hcommand : i.command = .list) :
    (s.run m).1 = .ok ⟨0, Session.listText (m.projects base), ""⟩ := by
  have hrun : (Program.openSession (s.on m) c).run i.command =
      (.ok ⟨Session.listText (Program.openSession (s.on m) c).catalog.list, ""⟩,
        Program.openSession (s.on m) c) := by
    rw [hcommand]
    rfl
  rw [Start.run_of_ok hread hconfig hrun, hs.list_eq hread hconfig]

theorem run_describe (hdistinct : ((m.projects base).map Project.id).Nodup) {p : Project}
    (hp : p ∈ m.projects base) (hcommand : i.command = .describe p.id) :
    (s.run m).1 = .ok ⟨0, Session.jsonLines (Project.schema.encode p), ""⟩ := by
  have hlist := hs.list_eq hread hconfig
  have hget : (Program.openSession (s.on m) c).catalog.get? p.id = some p := by
    rw [Catalog.get?_eq_some_iff (by rw [hlist]; exact hdistinct), hlist]
    exact ⟨hp, rfl⟩
  have hlooks : ∀ t : Session, t.run i.command =
      t.withProject p.id fun q => t.print (Session.jsonLines (Project.schema.encode q)) := by
    intro t
    rw [hcommand, Session.run]
  exact Start.run_of_project hread hconfig hlooks hget

end Start.KeepsTo

namespace Program

namespace Traced

variable {ids : Nat → String} {base : Path} {m : Machine}

theorem isCell_sourceUrl (h : Traced ids base m) {p : Project} (hp : p ∈ m.projects base) :
    Text.IsCell p.sourceUrl := by
  obtain ⟨_, address, url, haddress, -, hurl⟩ := h.exists_origin hp
  obtain ⟨hparse, hweb⟩ := Session.isWeb_of_webAddress haddress
  rw [hurl]
  exact Text.isCell_of_lacks_control (Url.lacks_control_text hparse hweb)

theorem isPlainId (h : Traced ids base m) (hplain : ∀ n, IsPlainId (ids n)) {p : Project}
    (hp : p ∈ m.projects base) : IsPlainId p.id := by
  obtain ⟨k, _, _, _, hid, -⟩ := h.exists_origin hp
  rw [hid]
  exact hplain k

end Traced

/-- After any runs that keep to a directory where no projects were, the list has a line for each
stored project, the newest first.  Its lines and their cells are the projects again exactly if no
project's name has a tab or a line break in it; and whatever the names are, `show` finds every
project by its id. -/
theorem list_reads_back {m : Machine} {base : Path} {starts : List Start}
    (hempty : m.projects base = []) (hids : Function.Injective m.ids)
    (hplain : ∀ n, IsPlainId (m.ids n)) (hstarts : m.KeepsTo base starts) {s : Start}
    {i : Invocation} {c : Config} (hs : s.KeepsTo (m.after starts) base)
    (hread : CommandLine.read s.args = .ok i) (hconfig : Config.resolve i.flags s.env = .ok c)
    (hcommand : i.command = .list) :
    let n := m.after starts
    let stored := n.projects base
    let out := String.join (stored.map fun p => Session.line p.cells)
    (s.run n).1 = .ok ⟨0, out, ""⟩ ∧
    (∃ numbers : List Nat, numbers.Pairwise (fun newer older => older < newer) ∧
      stored.map Project.id = numbers.map m.ids) ∧
    ((Text.lines out).map Text.cells = stored.map Project.cells ↔
      ∀ p ∈ stored, Text.IsCell p.name) ∧
    ∀ p ∈ stored, CommandLine.read ["show", p.id] = .ok ⟨⟨none, none, none⟩, .describe p.id⟩ ∧
      ∀ (t : Start) (j : Invocation) (d : Config), t.KeepsTo (s.run n).2 base →
        CommandLine.read t.args = .ok j → Config.resolve j.flags t.env = .ok d →
        j.command = .describe p.id →
          ∃ shown, (t.run (s.run n).2).1 = .ok ⟨0, shown, ""⟩ ∧
            Project.schema.ofText shown = .ok p := by
  intro n stored out
  have htraced : Traced m.ids base n := (Traced.of_empty hempty).after hstarts
  have hcells : ∀ p ∈ stored, Text.IsCell p.id ∧ Text.IsCell p.sourceUrl :=
    fun p hp => ⟨(htraced.isPlainId hplain hp).isCell, htraced.isCell_sourceUrl hp⟩
  refine ⟨hs.run_list hread hconfig hcommand, htraced.exists_numbers,
    Session.cells_listText_iff hcells, fun p hp => ⟨(htraced.isPlainId hplain hp).read_show, ?_⟩⟩
  intro t j d ht hreadt hconfigt hcommandt
  -- The list only looks, so the projects are still there.
  have hsame : (s.run n).2.projects base = stored := by
    have hdisk : (s.run n).2.disk = n.disk := by
      rw [Start.run, run_of_read hread]
      exact perform_disk_of_looks (by rw [hcommand]; trivial)
    simp only [stored, Machine.projects, hdisk]
  have hdistinct := (htraced.run hs).distinct hids
  exact ⟨_, ht.run_describe hreadt hconfigt hdistinct (by rw [hsame]; exact hp) hcommandt,
    p.ofText_pretty⟩

/-- A project is generated, listed, and shown under the id of its line. -/
theorem list_reads_back_of_pets :
    let now : Timestamp := ⟨⟨2025, 2, 1, by decide⟩, 12, 0, 0, 0, by decide⟩
    let m : Machine :=
      { disk := .directory [("data", .directory [])]
        directory := []
        network := ⟨false, [], []⟩
        now := now
        ids := fun n => String.ofList (List.replicate (n + 1) 'p')
        idsUsed := 0
        temporary := fun _ => "f1"
        temporaryUsed := 0 }
    let start (args : List String) (replies : List Http.Reply) : Start :=
      ⟨args ++ ["--data-dir", ".", "--api-url", "http://[::1]"], fun _ => none, ["data"],
        ⟨true, replies, []⟩, now⟩
    let generation := start ["generate", "--url", "http://[::1]/docs"]
      [.plain 200 (Text.bytes "\x7b\"name\":\"Pets\",\"spec\":\x7b\x7d\x7d")]
    let listing := start ["list"] []
    let showing := start ["show", "p"] []
    let n := m.after [generation]
    (m.projects ["data"] = [] ∧ m.KeepsTo ["data"] [generation] ∧ listing.KeepsTo n ["data"]) ∧
    ∃ p out shown, n.projects ["data"] = [p] ∧ (listing.run n).1 = .ok ⟨0, out, ""⟩ ∧
      (Text.lines out).map Text.cells =
        [["p", "Pets", "http://[::1]/docs", "2025-02-01", "0 endpoints"]] ∧
      (showing.run (listing.run n).2).1 = .ok ⟨0, shown, ""⟩ ∧
      Project.schema.ofText shown = .ok p := by
  intro now m start generation listing showing n
  have hids : Function.Injective m.ids := by
    intro i j hij
    have hlength := congrArg String.length hij
    simpa [m] using hlength
  have hplain : ∀ k, IsPlainId (m.ids k) := by
    intro k
    refine ⟨fun c hc => Or.inl ?_, fun rest hrest => ?_⟩
    · rw [String.toList_ofList] at hc
      rw [List.eq_of_mem_replicate hc]
      rfl
    · rw [String.toList_ofList, List.replicate_succ] at hrest
      exact absurd (List.cons.inj hrest).1 (by decide)
  have hempty : m.projects ["data"] = [] := rfl
  have hgeneration : CommandLine.read generation.args = .ok
      ⟨⟨some ".", none, some "http://[::1]"⟩, .generate "http://[::1]/docs" none⟩ := by
    decide +kernel
  have hlisting : CommandLine.read listing.args =
      .ok ⟨⟨some ".", none, some "http://[::1]"⟩, .list⟩ := by decide +kernel
  have hshowing : CommandLine.read showing.args =
      .ok ⟨⟨some ".", none, some "http://[::1]"⟩, .describe "p"⟩ := by decide +kernel
  have hconfig : Config.resolve ⟨some ".", none, some "http://[::1]"⟩ (fun _ => none) =
      .ok ⟨".", 5242880, "http://[::1]"⟩ := by decide +kernel
  have hkeeps : generation.KeepsTo m ["data"] := Start.keepsTo_point hgeneration
  have hstarts : m.KeepsTo ["data"] [generation] := ⟨hkeeps, trivial⟩
  let url : Url := ⟨"http", some ⟨"", none, some (.ipv6 [0, 0, 0, 0, 0, 0, 0, 1]), none⟩,
    .segments ["docs"], none, none⟩
  let p := Catalog.projectOf "p" now none url.text ⟨"Pets", none, Api.Spec.empty, "", false, none⟩
  have haddress : Session.webAddress "http://[::1]/docs" = .ok url :=
    toOption_eq_some_iff.mp (by decide +kernel)
  have hp : n.projects ["data"] = [p] :=
    hkeeps.projects_generate hgeneration hconfig rfl haddress
      (toOption_eq_some_iff.mp (by decide +kernel)) (by decide +kernel)
  have hmem : p ∈ n.projects ["data"] := by
    rw [hp]
    exact List.mem_singleton_self p
  obtain ⟨hout, -, hback, hshow⟩ := list_reads_back hempty hids hplain hstarts
    (Start.keepsTo_point hlisting) hlisting hconfig rfl
  obtain ⟨shown, hshown, hread⟩ := (hshow p hmem).2 showing _ _ (Start.keepsTo_point hshowing)
    hshowing hconfig rfl
  refine ⟨⟨hempty, hstarts, Start.keepsTo_point hlisting⟩,
    p, _, shown, hp, hout, ?_, hshown, hread⟩
  have hcell : ∀ q ∈ n.projects ["data"], Text.IsCell q.name := by
    rw [hp, List.forall_mem_singleton]
    show Text.IsCell "Pets"
    decide
  rw [hback.mpr hcell, hp]
  decide +kernel

/-- A name that was asked for with a tab and a line break in it makes two lines of one project, and
neither has five cells. -/
theorem list_breaks_at_name :
    let now : Timestamp := ⟨⟨2025, 2, 1, by decide⟩, 12, 0, 0, 0, by decide⟩
    let m : Machine :=
      { disk := .directory [("data", .directory [])]
        directory := []
        network := ⟨false, [], []⟩
        now := now
        ids := fun n => String.ofList (List.replicate (n + 1) 'p')
        idsUsed := 0
        temporary := fun _ => "f1"
        temporaryUsed := 0 }
    let start (args : List String) (replies : List Http.Reply) : Start :=
      ⟨args ++ ["--data-dir", ".", "--api-url", "http://[::1]"], fun _ => none, ["data"],
        ⟨true, replies, []⟩, now⟩
    let generation := start ["generate", "--url", "http://[::1]/docs", "--name", "a\tb\nc"]
      [.plain 200 (Text.bytes "\x7b\"name\":\"Pets\",\"spec\":\x7b\x7d\x7d")]
    let listing := start ["list"] []
    let n := m.after [generation]
    ∃ p out, n.projects ["data"] = [p] ∧ p.name = "a\tb\nc" ∧
      (listing.run n).1 = .ok ⟨0, out, ""⟩ ∧
      (Text.lines out).map Text.cells =
        [["p", "a", "b"], ["c", "http://[::1]/docs", "2025-02-01", "0 endpoints"]] := by
  intro now m start generation listing n
  have hgeneration : CommandLine.read generation.args = .ok
      ⟨⟨some ".", none, some "http://[::1]"⟩, .generate "http://[::1]/docs" (some "a\tb\nc")⟩ := by
    decide +kernel
  have hlisting : CommandLine.read listing.args =
      .ok ⟨⟨some ".", none, some "http://[::1]"⟩, .list⟩ := by decide +kernel
  have hconfig : Config.resolve ⟨some ".", none, some "http://[::1]"⟩ (fun _ => none) =
      .ok ⟨".", 5242880, "http://[::1]"⟩ := by decide +kernel
  have hkeeps : generation.KeepsTo m ["data"] := Start.keepsTo_point hgeneration
  let url : Url := ⟨"http", some ⟨"", none, some (.ipv6 [0, 0, 0, 0, 0, 0, 0, 1]), none⟩,
    .segments ["docs"], none, none⟩
  let p := Catalog.projectOf "p" now (some "a\tb\nc") url.text
    ⟨"Pets", none, Api.Spec.empty, "", false, none⟩
  have haddress : Session.webAddress "http://[::1]/docs" = .ok url :=
    toOption_eq_some_iff.mp (by decide +kernel)
  have hp : n.projects ["data"] = [p] :=
    hkeeps.projects_generate hgeneration hconfig rfl haddress
      (toOption_eq_some_iff.mp (by decide +kernel)) (by decide +kernel)
  have hlist : listing.KeepsTo n ["data"] := Start.keepsTo_point hlisting
  refine ⟨p, _, hp, by decide +kernel, hlist.run_list hlisting hconfig rfl, ?_⟩
  rw [Session.listText_eq, hp]
  decide +kernel

end Program
end SdkShelf
