import Mathlib.Data.List.Perm.Basic
import SdkShelf.Proofs.CommandLine.Execute
import SdkShelf.Proofs.Program.Frame

/-!
# Runs with the same parameters

A run that executes an endpoint depends on the values of its parameters alone: not on the order in
which they were given, and not on those that were given another value later.
-/

namespace SdkShelf

open CommandLine

theorem Session.execute_congr {s : Session} {a b : ExecuteArgs} (hbare : a.bare = b.bare)
    (hparams : Dictionary.ofList a.params = Dictionary.ofList b.params) :
    s.execute a = s.execute b := by
  obtain ⟨id, endpoint, params, body, viaBackend⟩ := a
  obtain ⟨id', endpoint', params', body', viaBackend'⟩ := b
  obtain ⟨rfl, rfl, -, rfl, rfl⟩ := ExecuteArgs.mk.inj hbare
  simp only [Session.execute, hparams]

namespace Program

variable {m : Machine} {env : String → Option String} {front args args' : List String}

theorem run_congr_of_read {line line' : List String} {flags : Flags} {a b : ExecuteArgs}
    (hread : CommandLine.read line = .ok ⟨flags, .execute a⟩)
    (hread' : CommandLine.read line' = .ok ⟨flags, .execute b⟩) (hbare : a.bare = b.bare)
    (hparams : Dictionary.ofList a.params = Dictionary.ofList b.params) :
    run m env line = run m env line' := by
  have hperform : perform m env ⟨flags, .execute a⟩ = perform m env ⟨flags, .execute b⟩ := by
    simp only [perform, Session.run, Session.execute_congr hbare hparams]
    rfl
  rw [run_of_read hread, run_of_read hread', hperform]

/-- Other texts for the parameters, in other places, make no difference to a run if they make the
same dictionary. -/
theorem run_execute_congr (hfront : IsPreamble front) (hargs : "--param" ∉ optionsOf args)
    {flags : Flags} {a : ExecuteArgs}
    (hread : CommandLine.read (front ++ "execute" :: args) = .ok ⟨flags, .execute a⟩)
    (hothers : withoutParams args' = withoutParams args) (hspaced : Spaced executeLevel false args')
    {pairs : Params} (hpairs : List.Forall₂ Stands (paramTexts args') pairs)
    (hdictionary : Dictionary.ofList pairs = Dictionary.ofList a.params) :
    run m env (front ++ "execute" :: args') = run m env (front ++ "execute" :: args) := by
  have hargs' : "--param" ∉ optionsOf args' := by
    have hparam : paramText? "--param" = none := by decide
    rwa [← mem_optionsOf_withoutParams hparam, hothers, mem_optionsOf_withoutParams hparam]
  have hbare := ((read_execute_iff hfront hargs).mp hread).2.2
  rw [← hothers] at hbare
  have hread' : CommandLine.read (front ++ "execute" :: args') =
      .ok ⟨flags, .execute { a with params := pairs }⟩ :=
    (read_execute_iff hfront hargs').mpr ⟨hspaced, hpairs, hbare⟩
  exact run_congr_of_read hread' hread rfl hdictionary

/-- Each argument with a parameter is accepted for itself, wherever it stands on the line, and a run
is the same without the arguments whose names get another value later, and with the arguments in any
other order if no two of them have one name. -/
theorem run_execute_params (hfront : IsPreamble front) (hargs : "--param" ∉ optionsOf args) :
    (∀ text pair, readPair text = .ok pair ↔ Stands text pair) ∧
    (∀ flags a, CommandLine.read (front ++ "execute" :: args) = .ok ⟨flags, .execute a⟩ ↔
      Spaced executeLevel false args ∧ List.Forall₂ Stands (paramTexts args) a.params ∧
        CommandLine.read (front ++ "execute" :: withoutParams args) =
          .ok ⟨flags, .execute a.bare⟩) ∧
    ∀ i, CommandLine.read (front ++ "execute" :: args) = .ok i → ∀ m env,
      run m env (front ++ "execute" :: keepLast args) = run m env (front ++ "execute" :: args) ∧
      ∀ args', withoutParams args' = withoutParams args → Spaced executeLevel false args' →
        (paramTexts args').Perm (paramTexts args) → ((paramTexts args).map nameOf).Nodup →
        run m env (front ++ "execute" :: args') = run m env (front ++ "execute" :: args) := by
  refine ⟨fun _ _ => readPair_eq_ok_iff, fun _ _ => read_execute_iff hfront hargs,
    fun i hi m env => ?_⟩
  obtain ⟨flags, a, rfl⟩ := exists_execute_of_read hfront hi
  obtain ⟨hspaced, hpairs, -⟩ := (read_execute_iff hfront hargs).mp hi
  constructor
  · obtain ⟨pairs, hlast, hdictionary⟩ := exists_last_pairs hpairs
    rw [← paramTexts_keepLast] at hlast
    exact run_execute_congr hfront hargs hi (withoutParams_keepLast args) (spaced_keepLast hspaced)
      hlast hdictionary
  · intro args' hothers hspaced' hperm hnames
    obtain ⟨pairs, hpairs', hpermuted⟩ := List.perm_comp_forall₂ hperm hpairs
    rw [← names_of_stands hpairs] at hnames
    exact run_execute_congr hfront hargs hi hothers hspaced' hpairs'
      (Dictionary.ofList_eq_of_perm hpermuted hnames)

theorem run_execute_params_of_repeated :
    let m : Machine :=
      { disk := .directory []
        directory := []
        network := ⟨true, [], []⟩
        now := ⟨⟨2025, 2, 1, by decide⟩, 12, 0, 0, 0, by decide⟩
        ids := fun _ => "p2"
        idsUsed := 0
        temporary := fun _ => "f1"
        temporaryUsed := 0 }
    let env : String → Option String := fun _ => none
    let front := ["--quota-bytes", "4096"]
    let args := ["p1", "--param= a =1", "--endpoint", "0", "--param=b=x=y", "--param=a=2"]
    let kept := ["p1", "--endpoint", "0", "--param=b=x=y", "--param=a=2"]
    let moved := ["--param=a=2", "p1", "--param=b=x=y", "--endpoint", "0"]
    CommandLine.read (front ++ "execute" :: args) = .ok ⟨⟨none, some 4096, none⟩,
      .execute ⟨"p1", 0, [("a", "1"), ("b", "x=y"), ("a", "2")], none, false⟩⟩ ∧
    keepLast args = kept ∧
    run m env (front ++ "execute" :: kept) = run m env (front ++ "execute" :: args) ∧
    run m env (front ++ "execute" :: moved) = run m env (front ++ "execute" :: kept) := by
  intro m env front args kept moved
  have hfront : IsPreamble front := ⟨by decide, _, rfl, rfl⟩
  have hread : CommandLine.read (front ++ "execute" :: args) = .ok ⟨⟨none, some 4096, none⟩,
      .execute ⟨"p1", 0, [("a", "1"), ("b", "x=y"), ("a", "2")], none, false⟩⟩ := by decide +kernel
  have hread' : CommandLine.read (front ++ "execute" :: kept) = .ok ⟨⟨none, some 4096, none⟩,
      .execute ⟨"p1", 0, [("b", "x=y"), ("a", "2")], none, false⟩⟩ := by decide +kernel
  have hkept : keepLast args = kept := by decide +kernel
  have hargs : "--param" ∉ optionsOf args := by decide
  have hargs' : "--param" ∉ optionsOf kept := by decide
  obtain ⟨-, -, hrun⟩ := run_execute_params hfront hargs
  obtain ⟨-, -, hrun'⟩ := run_execute_params hfront hargs'
  refine ⟨hread, hkept, ?_, (hrun' _ hread' m env).2 moved ?_ ?_ ?_ ?_⟩
  · rw [← hkept]
    exact (hrun _ hread m env).1
  · decide +kernel
  · decide +kernel
  · have htexts : paramTexts moved = ["a=2", "b=x=y"] := by decide +kernel
    have htexts' : paramTexts kept = ["b=x=y", "a=2"] := by decide +kernel
    rw [htexts, htexts']
    exact List.Perm.swap _ _ _
  · decide +kernel

end Program
end SdkShelf
