import SdkShelf.Program

/-!
# What a run leaves alone

A run that fails, and every run that only looks, leaves the disk as it was.  Some commands never
turn to the network, and none does for an address that is not one of the web.
-/

namespace SdkShelf

open CommandLine

/-- The address of something on the web. -/
def IsWebAddress (text : String) : Prop :=
  ∃ u, Url.parse text = .ok u ∧ (u.scheme = "http" ∨ u.scheme = "https")

namespace CommandLine.Command

/-- The command shows something, or is about the backend's own projects. -/
def OnlyLooks : Command → Prop
  | .list | .describe _ | .endpoints _ | .stats | .remote _ => True
  | .generate .. | .execute _ | .clear => False

/-- The command has no business on the network, or is given an address that leads nowhere. -/
def StaysOffline : Command → Prop
  | .list | .describe _ | .endpoints _ | .stats | .clear => True
  | .generate address _ | .remote (.create _ address _) => ¬ IsWebAddress address
  | .execute _ | .remote _ => False

end CommandLine.Command

namespace Session

variable {s : Session}

theorem exists_failure_of_not_web {address : String} (h : ¬ IsWebAddress address) :
    ∃ f, webAddress address = .error f := by
  rw [webAddress]
  cases hparse : Url.parse address with
  | error cause => exact ⟨_, rfl⟩
  | ok u =>
    have hweb : ¬ u.isWeb = true := by
      intro hu
      rw [Url.isWeb, Bool.or_eq_true, decide_eq_true_iff, decide_eq_true_iff] at hu
      exact h ⟨u, hparse, hu⟩
    exact ⟨.scheme u.text, if_neg hweb⟩

/-! ## Ways to end -/

theorem within_snd (what : String) (r : Result) : (within what r).2 = r.2 := rfl

theorem exists_error_of_within {what : String} {r : Result} {f : Failure}
    (h : (within what r).1 = .error f) : ∃ cause, r.1 = .error cause := by
  rw [within] at h
  cases hr : r.1 with
  | error cause => exact ⟨cause, rfl⟩
  | ok printed =>
    rw [hr] at h
    replace h : (.ok printed : Except Failure Printed) = .error f := h
    exact absurd h (by simp)

theorem answered_catalog {α : Type} (r : Except Backend.Error α × Http.Network) (out : α → String) :
    (s.answered r out).2.catalog = s.catalog := by
  rw [answered]
  cases r.1 with
  | error e => rfl
  | ok a => rfl

/-- What is done with a project is all that is done; without one, nothing is. -/
theorem withProject_cases {P : Session → Prop} {id : String} {go : Project → Result} (h : P s)
    (hgo : ∀ p, s.catalog.get? id = some p → P (go p).2) : P (s.withProject id go).2 := by
  rw [withProject]
  cases hp : s.catalog.get? id with
  | none => exact h
  | some p => exact hgo p hp

/-! ## Commands -/

theorem remote_catalog (command : RemoteCommand) : (s.remote command).2.catalog = s.catalog := by
  cases command with
  | list => rw [remote, answered_catalog]
  | describe id => rw [remote, answered_catalog]
  | test id path params => rw [remote, answered_catalog]
  | create name address sourceType =>
    rw [remote]
    cases webAddress address with
    | error f => rfl
    | ok url => simp only [answered_catalog]

theorem generate_catalog_of_error {address : String} {name : Option String} {f : Failure}
    (h : (s.generate address name).1 = .error f) :
    (s.generate address name).2.catalog = s.catalog := by
  rw [generate] at h ⊢
  cases hweb : webAddress address with
  | error f => rfl
  | ok url =>
    rw [hweb] at h
    rcases hcall : s.backend.generate url.text s.network with ⟨result, network⟩
    cases result with
    | error e => simp only [hcall]; rfl
    | ok g =>
      simp only [hcall] at h
      exact absurd h (by simp)

/-- Running an endpoint fails only where nothing was done yet. -/
theorem execute_of_error {args : ExecuteArgs} {f : Failure} (h : (s.execute args).1 = .error f) :
    (s.execute args).2 = s := by
  rw [execute, withProject] at h ⊢
  cases hp : s.catalog.get? args.id with
  | none => rfl
  | some p =>
    simp only [hp] at h ⊢
    cases he : p.spec.endpoints[args.endpoint]? with
    | none => rfl
    | some e =>
      simp only [he] at h
      exact absurd h (by simp [print])

theorem run_catalog_of_looks {command : Command} (h : command.OnlyLooks) :
    (s.run command).2.catalog = s.catalog := by
  cases command with
  | list => rfl
  | stats => rfl
  | describe id => exact withProject_cases (P := fun t => t.catalog = s.catalog) rfl fun _ _ => rfl
  | endpoints id => exact withProject_cases (P := fun t => t.catalog = s.catalog) rfl fun _ _ => rfl
  | remote command => exact remote_catalog command
  | generate address name => exact absurd h (by simp [Command.OnlyLooks])
  | execute args => exact absurd h (by simp [Command.OnlyLooks])
  | clear => exact absurd h (by simp [Command.OnlyLooks])

theorem run_catalog_of_error {command : Command} {f : Failure}
    (h : (s.run command).1 = .error f) : (s.run command).2.catalog = s.catalog := by
  cases command with
  | generate address name =>
    obtain ⟨cause, hcause⟩ := exists_error_of_within h
    exact generate_catalog_of_error hcause
  | execute args =>
    obtain ⟨cause, hcause⟩ := exists_error_of_within h
    exact congrArg catalog (execute_of_error hcause)
  | clear => exact absurd h (by simp [run, print])
  | list => exact run_catalog_of_looks trivial
  | stats => exact run_catalog_of_looks trivial
  | describe id => exact run_catalog_of_looks trivial
  | endpoints id => exact run_catalog_of_looks trivial
  | remote command => exact run_catalog_of_looks trivial

theorem run_network_of_offline {command : Command} (h : command.StaysOffline) :
    (s.run command).2.network = s.network := by
  cases command with
  | list => rfl
  | stats => rfl
  | clear => rfl
  | describe id => exact withProject_cases (P := fun t => t.network = s.network) rfl fun _ _ => rfl
  | endpoints id => exact withProject_cases (P := fun t => t.network = s.network) rfl fun _ _ => rfl
  | execute args => exact absurd h (by simp [Command.StaysOffline])
  | generate address name =>
    obtain ⟨f, hf⟩ := exists_failure_of_not_web h
    rw [run, within_snd, generate, hf]
    rfl
  | remote command =>
    cases command with
    | create name address sourceType =>
      obtain ⟨f, hf⟩ := exists_failure_of_not_web h
      rw [run, within_snd, remote, hf]
      rfl
    | list => exact absurd h (by simp [Command.StaysOffline])
    | describe id => exact absurd h (by simp [Command.StaysOffline])
    | test id path params => exact absurd h (by simp [Command.StaysOffline])

end Session

namespace Program

variable {m : Machine} {env : String → Option String}

def exitCode : Except UsageError Report → Nat
  | .error e => e.exitCode
  | .ok report => report.exitCode

theorem run_of_read {args : List String} {i : Invocation} (h : CommandLine.read args = .ok i) :
    run m env args = (.ok (perform m env i).1, (perform m env i).2) := by
  rw [run, h]

section

variable {i : Invocation} {c : Config} {s : Session}

theorem perform_of_misconfigured {e : Config.Error} (h : Config.resolve i.flags env = .error e) :
    perform m env i = (failed (Text.chainText ["resolve config", e.message]), m) := by
  rw [perform, h]

theorem perform_of_ok {printed : Printed} (hconfig : Config.resolve i.flags env = .ok c)
    (h : (openSession m c).run i.command = (.ok printed, s)) :
    perform m env i =
      (⟨0, printed.out, printed.warnings⟩, close m s (usesId i.command (.ok printed))) := by
  rw [perform, hconfig]
  simp only [h]

theorem perform_of_error {f : Failure} (hconfig : Config.resolve i.flags env = .ok c)
    (h : (openSession m c).run i.command = (.error f, s)) :
    perform m env i = (failed f.message, close m s (usesId i.command (.error f))) := by
  rw [perform, hconfig]
  simp only [h]

theorem close_disk (h : s.catalog = (openSession m c).catalog) (created : Bool) :
    (close m s created).disk = m.disk := by
  rw [close, h]
  rfl

theorem perform_disk_of_looks (h : i.command.OnlyLooks) : (perform m env i).2.disk = m.disk := by
  cases hconfig : Config.resolve i.flags env with
  | error e => rw [perform_of_misconfigured hconfig]
  | ok c =>
    have hcatalog := Session.run_catalog_of_looks (s := openSession m c) h
    rcases hrun : (openSession m c).run i.command with ⟨f | printed, s⟩
    · rw [hrun] at hcatalog
      rw [perform_of_error hconfig hrun, close_disk hcatalog]
    · rw [hrun] at hcatalog
      rw [perform_of_ok hconfig hrun, close_disk hcatalog]

theorem perform_disk_of_failure (h : (perform m env i).1.exitCode ≠ 0) :
    (perform m env i).2.disk = m.disk := by
  cases hconfig : Config.resolve i.flags env with
  | error e => rw [perform_of_misconfigured hconfig]
  | ok c =>
    rcases hrun : (openSession m c).run i.command with ⟨f | printed, s⟩
    · have hcatalog := Session.run_catalog_of_error (congrArg Prod.fst hrun)
      rw [hrun] at hcatalog
      rw [perform_of_error hconfig hrun, close_disk hcatalog]
    · rw [perform_of_ok hconfig hrun] at h
      exact absurd rfl h

theorem perform_network_of_offline (h : i.command.StaysOffline) :
    (perform m env i).2.network = m.network := by
  cases hconfig : Config.resolve i.flags env with
  | error e => rw [perform_of_misconfigured hconfig]
  | ok c =>
    have hnetwork := Session.run_network_of_offline (s := openSession m c) h
    rcases hrun : (openSession m c).run i.command with ⟨f | printed, s⟩
    · rw [hrun] at hnetwork
      rw [perform_of_error hconfig hrun]
      exact hnetwork
    · rw [hrun] at hnetwork
      rw [perform_of_ok hconfig hrun]
      exact hnetwork

end

/-- Whatever a run is given and wherever it stops, the disk is as before if it fails or only looks;
and a command that has no business on the network, or no address to turn to, sends nothing. -/
theorem run_leaves_alone (m : Machine) (env : String → Option String) (args : List String) :
    (exitCode (run m env args).1 ≠ 0 → (run m env args).2.disk = m.disk) ∧
      ∀ i, CommandLine.read args = .ok i →
        (i.command.OnlyLooks → (run m env args).2.disk = m.disk) ∧
        (i.command.StaysOffline → (run m env args).2.network = m.network) := by
  cases hread : CommandLine.read args with
  | error e =>
    have hrun : run m env args = (.error e, m) := by rw [run, hread]
    rw [hrun]
    exact ⟨fun _ => rfl, fun i hi => absurd hi (by simp)⟩
  | ok i =>
    rw [run_of_read hread]
    refine ⟨perform_disk_of_failure, fun j hj => ?_⟩
    obtain rfl := Except.ok.inj hj
    exact ⟨perform_disk_of_looks, perform_network_of_offline⟩

end Program
end SdkShelf
