import Mathlib.Data.List.Forall2
import Mathlib.Data.List.TakeWhile
import SdkShelf.CommandLine.Reader
import SdkShelf.Proofs.CommandLine.Level

/-!
# Parameters on a command line

Each argument with a parameter's value stands for a name and a value by itself.  Where on the line
these arguments stand among the others makes no difference, as long as none is put in the place of
another option's value.
-/

namespace SdkShelf
namespace CommandLine

/-! ## A name and a value -/

/-- The text is a name and a value: the name is what comes before the first equals sign, without
blanks around it but not blank, and the value is all that comes after. -/
def Stands (text : String) (pair : String × String) : Prop :=
  ∃ key, text.toList = key ++ '=' :: pair.2.toList ∧ '=' ∉ key ∧
    (∃ c ∈ key, Text.isBlank c = false) ∧ pair.1 = Text.trim (String.ofList key)

theorem splitPair_eq_some_iff {cs key value : List Char} :
    splitPair cs = some (key, value) ↔ cs = key ++ '=' :: value ∧ '=' ∉ key := by
  induction cs generalizing key with
  | nil =>
    refine iff_of_false nofun ?_
    rintro ⟨hcs, -⟩
    exact absurd hcs.symm (List.append_ne_nil_of_right_ne_nil _ (List.cons_ne_nil _ _))
  | cons c cs ih =>
    rw [splitPair]
    by_cases hc : c = '='
    · rw [if_pos hc, hc]
      constructor
      · intro h
        obtain ⟨rfl, rfl⟩ := Prod.mk.inj (Option.some.inj h)
        exact ⟨rfl, List.not_mem_nil⟩
      · rintro ⟨hcs, hkey⟩
        cases key with
        | nil => rw [(List.cons.inj hcs).2]
        | cons k key =>
          rw [(List.cons.inj hcs).1] at hkey
          exact absurd List.mem_cons_self hkey
    · rw [if_neg hc]
      constructor
      · intro h
        obtain ⟨⟨key', value'⟩, hsplit, hpair⟩ := Option.map_eq_some_iff.mp h
        obtain ⟨rfl, rfl⟩ := Prod.mk.inj hpair
        obtain ⟨rfl, hkey⟩ := ih.mp hsplit
        refine ⟨rfl, fun hmem => ?_⟩
        rcases List.mem_cons.mp hmem with heq | hmem
        · exact hc heq.symm
        · exact hkey hmem
      · rintro ⟨hcs, hkey⟩
        cases key with
        | nil => exact absurd (List.cons.inj hcs).1 hc
        | cons k key =>
          obtain ⟨rfl, rfl⟩ := List.cons.inj hcs
          rw [ih.mpr ⟨rfl, fun hmem => hkey (List.mem_cons_of_mem _ hmem)⟩]
          rfl

theorem trim_eq_empty_iff {text : String} :
    Text.trim text = "" ↔ ∀ c ∈ text.toList, Text.isBlank c = true := by
  have hempty : Text.trim text = "" ↔
      ∀ c ∈ text.toList.dropWhile Text.isBlank, Text.isBlank c = true := by
    rw [Text.trim, Text.dropEndWhile, String.ofList_eq_empty_iff, List.reverse_eq_nil_iff,
      List.dropWhile_eq_nil_iff]
    simp only [List.mem_reverse]
  rw [hempty, ← List.dropWhile_eq_nil_iff (l := text.toList)]
  constructor
  · intro hblank
    by_contra hne
    have hhead := List.head_dropWhile_not Text.isBlank hne
    rw [hblank _ (List.head_mem hne)] at hhead
    exact absurd hhead nofun
  · intro hnil c hc
    rw [hnil] at hc
    exact absurd hc List.not_mem_nil

/-- A text is read as a pair exactly if it stands for the pair. -/
theorem readPair_eq_ok_iff {text : String} {pair : String × String} :
    readPair text = .ok pair ↔ Stands text pair := by
  have hblank : ∀ key, (Text.trim (String.ofList key)).isEmpty = false ↔
      ∃ c ∈ key, Text.isBlank c = false := by
    intro key
    rw [← Bool.not_eq_true, String.isEmpty_iff, trim_eq_empty_iff, String.toList_ofList]
    simp
  rw [readPair]
  constructor
  · intro h
    split at h
    · exact absurd h nofun
    · rename_i key value hsplit
      obtain ⟨hcs, hkey⟩ := splitPair_eq_some_iff.mp hsplit
      simp only at h
      split at h
      · exact absurd h nofun
      · rename_i hname
        obtain rfl := Except.ok.inj h
        exact ⟨key, by rw [String.toList_ofList]; exact hcs, hkey,
          (hblank key).mp (Bool.eq_false_iff.mpr hname), rfl⟩
  · rintro ⟨key, hcs, hkey, hname, hpair⟩
    rw [splitPair_eq_some_iff.mpr ⟨hcs, hkey⟩]
    have hfull : pair.1.isEmpty = false := by rw [hpair, (hblank key).mpr hname]
    simp only [← hpair, hfull, Bool.false_eq_true, if_false, String.ofList_toList]

example : readPair " filter =a=b" = .ok ("filter", "a=b") := by rfl

/-! ## Arguments with parameters -/

theorem splitLong_eq_some {body : List Char} {name text : String} :
    Level.splitLong body = (name, some text) ↔
      body = name.toList ++ '=' :: text.toList ∧ '=' ∉ name.toList := by
  rw [Level.splitLong, ← splitPair_eq_some_iff]
  cases splitPair body with
  | none => exact iff_of_false nofun nofun
  | some pair =>
    obtain ⟨key, value⟩ := pair
    constructor
    · intro h
      obtain ⟨hname, htext⟩ := Prod.mk.inj h
      rw [← hname, ← Option.some.inj htext, String.toList_ofList, String.toList_ofList]
    · intro h
      obtain ⟨rfl, rfl⟩ := Prod.mk.inj (Option.some.inj h)
      simp only [String.ofList_toList]

theorem eq_of_splitLong_none {body : List Char} {name : String}
    (h : Level.splitLong body = (name, none)) : body = name.toList := by
  rw [Level.splitLong] at h
  cases hsplit : splitPair body with
  | none =>
    rw [hsplit] at h
    rw [← (Prod.mk.inj h).1, String.toList_ofList]
  | some pair =>
    rw [hsplit] at h
    exact absurd (Prod.mk.inj h).2 nofun

/-- What an argument gives to a parameter. -/
def paramText? (arg : String) : Option String :=
  match Level.lookOf arg.toList with
  | .long body => if (Level.splitLong body).1 = "param" then (Level.splitLong body).2 else none
  | _ => none

theorem lookOf_param (text : String) :
    Level.lookOf ("--param=" ++ text).toList = .long ("param".toList ++ '=' :: text.toList) := by
  rw [String.toList_append]
  rfl

theorem splitLong_param (text : String) :
    Level.splitLong ("param".toList ++ '=' :: text.toList) = ("param", some text) :=
  splitLong_eq_some.mpr ⟨rfl, by decide⟩

theorem paramText?_eq_some_iff {arg text : String} :
    paramText? arg = some text ↔ arg = "--param=" ++ text := by
  constructor
  · intro h
    rw [paramText?] at h
    split at h
    · rename_i body hlook
      split at h
      · rename_i hname
        obtain ⟨hbody, -⟩ := splitLong_eq_some.mp (Prod.ext hname h)
        refine String.toList_injective ?_
        rw [Level.toList_of_lookOf_long hlook, hbody, String.toList_append]
        rfl
      · exact absurd h nofun
    · exact absurd h nofun
  · rintro rfl
    simp only [paramText?, lookOf_param, splitLong_param, if_true]

/-- Only with a value attached, or with its value to come, does an argument name parameters. -/
theorem longName?_ne_param {arg : String} (htext : paramText? arg = none) (harg : arg ≠ "--param") :
    Level.longName? arg ≠ some "param" := by
  intro h
  rw [Level.longName?] at h
  split at h
  · rename_i body hlook
    have hname := Option.some.inj h
    simp only [paramText?, hlook, hname, if_true] at htext
    refine harg (String.toList_injective ?_)
    rw [Level.toList_of_lookOf_long hlook, eq_of_splitLong_none (Prod.ext hname htext)]
    rfl
  · exact absurd h (by simp)

/-! ## Lines with parameters -/

/-- The arguments before two hyphens alone, which may be options. -/
def optionsOf (args : List String) : List String := args.takeWhile fun arg => arg ≠ "--"

theorem optionsOf_cons {arg : String} (h : arg ≠ "--") (args : List String) :
    optionsOf (arg :: args) = arg :: optionsOf args :=
  List.takeWhile_cons_of_pos (decide_eq_true h)

/-- What a line gives to parameters. -/
def paramTexts : List String → List String
  | [] => []
  | arg :: args =>
    if arg = "--" then []
    else
      match paramText? arg with
      | some text => text :: paramTexts args
      | none => paramTexts args

/-- The other arguments of a line. -/
def withoutParams : List String → List String
  | [] => []
  | arg :: args =>
    if arg = "--" then arg :: args
    else
      match paramText? arg with
      | some _ => withoutParams args
      | none => arg :: withoutParams args

theorem mem_optionsOf_withoutParams {arg : String} (h : paramText? arg = none)
    {args : List String} : arg ∈ optionsOf (withoutParams args) ↔ arg ∈ optionsOf args := by
  induction args with
  | nil => exact Iff.rfl
  | cons first args ih =>
    rw [withoutParams]
    by_cases hhyphens : first = "--"
    · rw [if_pos hhyphens]
    · rw [if_neg hhyphens, optionsOf_cons hhyphens]
      cases htext : paramText? first with
      | none => rw [optionsOf_cons hhyphens, List.mem_cons, List.mem_cons, ih]
      | some text =>
        have hne : arg ≠ first := fun heq => by
          rw [heq, htext] at h
          exact absurd h nofun
        rw [ih, List.mem_cons, or_iff_right hne]

/-- No argument with a parameter stands in the place of another option's value; the first one does if
a value is awaited. -/
def Spaced (l : Level) : Bool → List String → Prop
  | _, [] => True
  | awaited, arg :: args =>
    arg = "--" ∨ (awaited = true → paramText? arg = none) ∧ Spaced l (l.opens arg) args

instance decidableSpaced (l : Level) :
    (awaited : Bool) → (args : List String) → Decidable (Spaced l awaited args)
  | _, [] => inferInstanceAs (Decidable True)
  | _, arg :: args =>
    have := decidableSpaced l (l.opens arg) args
    inferInstanceAs (Decidable (_ ∨ _ ∧ _))

/-- The level takes parameters' values, and its positional argument is not named like an option. -/
structure Level.TakesParams (l : Level) : Prop where
  commands : l.commands = []
  option : l.option? "param" = some ⟨"param", .pair, true⟩
  place : l.positional ≠ some "param"
  places : ∀ o ∈ l.options, l.positional ≠ some o.name

/-- What is found for a parameter. -/
def pairOf (pair : String × String) : String × Value := ("param", .pair pair.1 pair.2)

theorem pairs_concat (m : Matches) (pair : String × String) :
    Matches.pairs (m ++ [pairOf pair]) "param" = Matches.pairs m "param" ++ [pair] :=
  Matches.pairs_append ..

theorem strip_concat (m : Matches) (pair : String × String) :
    Progress.strip "param" ⟨m ++ [pairOf pair], none⟩ = Progress.strip "param" ⟨m, none⟩ := by
  rw [Progress.strip, Matches.others_append]
  exact congrArg (Progress.mk · none) (List.append_nil _)

theorem opens_param (l : Level) (text : String) : l.opens ("--param=" ++ text) = false := by
  simp only [Level.opens, lookOf_param, splitLong_param]
  rfl

section

variable {l : Level} (hl : l.TakesParams)

include hl

theorem toOption_step_param (p : Progress) (text : String) :
    (l.step p ("--param=" ++ text)).toOption =
      p.settle.toOption.bind fun p' =>
        (readPair text).toOption.map fun pair => ⟨p'.found ++ [pairOf pair], none⟩ := by
  simp only [Level.step, lookOf_param, splitLong_param, Level.toOption_long]
  congr 1
  funext p'
  have hasks : ¬ ("param" = "help" ∨ "param" = "version" ∧ l.hasVersion = true) := by simp
  rw [Level.given, if_neg hasks, hl.option, Option.bind_some]
  simp [Progress.record, readValue, toOption_map, toOption_mapError, Function.comp_def, pairOf]

/-- An argument with a parameter adds its pair to what is settled. -/
theorem finish_param_iff {p : Progress} {text : String} {args : List String} {found : Matches} :
    l.finish p false (("--param=" ++ text) :: args) = some found ↔
      ∃ q pair, p.settle = .ok q ∧ Stands text pair ∧
        l.finish ⟨q.found ++ [pairOf pair], none⟩ false args = some found := by
  have harg : "--param=" ++ text ≠ "--" := by
    intro h
    have hlook := congrArg (fun arg : String => Level.lookOf arg.toList) h
    simp only [lookOf_param] at hlook
    exact absurd hlook nofun
  rw [Level.finish_cons (Level.isCommand_leaf hl.commands _) harg, toOption_step_param hl]
  simp only [Option.bind_eq_some_iff, Option.map_eq_some_iff, toOption_eq_some_iff,
    readPair_eq_ok_iff]
  constructor
  · rintro ⟨_, ⟨q, hq, pair, hpair, rfl⟩, hfinish⟩
    exact ⟨q, pair, hq, hpair, hfinish⟩
  · rintro ⟨q, pair, hq, hpair, hfinish⟩
    exact ⟨_, ⟨q, hq, pair, hpair, rfl⟩, hfinish⟩

theorem finish_strip_iff {p : Progress} (hlast : p.LastIsNot "param") (hplace : l.HasPlace p)
    (hawaits : p.awaitsValue = false) {args : List String} {m : Matches} :
    l.finish (p.strip "param") false args = some m ↔
      ∃ q, p.settle = .ok q ∧ l.finish (q.strip "param") false args = some m := by
  rw [Level.finish_of_settle (p := p.strip "param") hl.commands hplace hawaits,
    Progress.toOption_settle_strip hlast, Option.bind_map, Option.bind_eq_some_iff]
  simp only [toOption_eq_some_iff, Function.comp_apply]

/-- In a line that is read each argument with a parameter stands for a pair, and the others are read
without them. -/
theorem exists_of_finish {args : List String} (hargs : "--param" ∉ optionsOf args) {p : Progress}
    (hlast : p.LastIsNot "param") (hplace : l.HasPlace p) {found : Matches}
    (h : l.finish p false args = some found) :
    Spaced l p.awaitsValue args ∧
      l.finish (p.strip "param") false (withoutParams args) =
        some (Matches.others "param" found) ∧
      ∃ pairs, List.Forall₂ Stands (paramTexts args) pairs ∧
        Matches.pairs found "param" = Matches.pairs p.found "param" ++ pairs := by
  have hcommand := Level.isCommand_leaf hl.commands
  -- An option that came last is taken in early on both sides: behind an argument with a parameter
  -- nothing is awaited, while the line without it goes on with the option that came before.
  induction args generalizing p with
  | nil =>
    rw [Level.finish_nil] at h
    obtain ⟨q, hq, rfl⟩ := Option.map_eq_some_iff.mp h
    obtain ⟨-, settled, rfl, hsettled⟩ := Progress.exists_of_settle (toOption_eq_some_iff.mp hq)
    refine ⟨trivial, ?_, [], List.Forall₂.nil, ?_⟩
    · rw [withoutParams, Level.finish_nil, Progress.toOption_settle_strip hlast, hq]
      rfl
    · rw [Matches.pairs_append_of_ne (hsettled "param" hlast), List.append_nil]
  | cons arg args ih =>
    by_cases hhyphens : arg = "--"
    · subst hhyphens
      rw [Level.finish_hyphens (hcommand "--")] at h
      obtain ⟨added, hfound, hadded⟩ := Level.exists_of_finish_trailing hl.place hlast h
      rw [withoutParams, if_pos rfl, paramTexts, if_pos rfl, Level.finish_hyphens (hcommand "--"),
        Level.finish_trailing_strip hl.place hlast, h]
      refine ⟨Or.inl rfl, rfl, [], List.Forall₂.nil, ?_⟩
      rw [hfound, Matches.pairs_append_of_ne hadded, List.append_nil]
    · rw [optionsOf_cons hhyphens, List.mem_cons, not_or] at hargs
      rw [Spaced, withoutParams, if_neg hhyphens, paramTexts, if_neg hhyphens]
      cases htext : paramText? arg with
      | none =>
        have hname := longName?_ne_param htext (Ne.symm hargs.1)
        rw [Level.finish_cons (hcommand arg) hhyphens] at h
        obtain ⟨q, hq, hrest⟩ := Option.bind_eq_some_iff.mp h
        obtain ⟨⟨added, hadded, hother⟩, hlast', hplace', hawaits⟩ := Level.exists_of_step hname
          hl.place hl.places hhyphens hlast hplace (toOption_eq_some_iff.mp hq)
        obtain ⟨hspaced, hothers, pairs, hpairs, hfound⟩ := ih hargs.2 hlast' hplace' hrest
        refine ⟨Or.inr ⟨fun _ => rfl, hawaits ▸ hspaced⟩, ?_, pairs, hpairs, ?_⟩
        · simp only [Level.finish_cons (hcommand arg) hhyphens,
            Level.toOption_step_strip hname hl.place hlast, hq]
          exact hothers
        · rw [hfound, hadded, Matches.pairs_append_of_ne hother]
      | some text =>
        obtain rfl := paramText?_eq_some_iff.mp htext
        obtain ⟨q, pair, hq, hpair, hrest⟩ := (finish_param_iff hl).mp h
        obtain ⟨hawaits, settled, rfl, hsettled⟩ := Progress.exists_of_settle hq
        obtain ⟨hspaced, hothers, pairs, hpairs, hfound⟩ :=
          ih hargs.2 (Progress.lastIsNot_none _ _) (fun _ _ => Progress.lastIsNot_none _ _) hrest
        refine ⟨Or.inr ⟨fun h => absurd h (by rw [hawaits]; nofun), opens_param l text ▸ hspaced⟩,
          (finish_strip_iff hl hlast hplace hawaits).mpr ⟨_, hq, ?_⟩, pair :: pairs,
          List.Forall₂.cons hpair hpairs, ?_⟩
        · rw [← strip_concat _ pair]
          exact hothers
        · rw [hfound, pairs_concat, Matches.pairs_append_of_ne (hsettled "param" hlast),
            List.append_assoc]
          rfl

/-- A line is read if its other arguments are and each argument with a parameter stands for a pair,
in a place of its own. -/
theorem exists_finish {args : List String} (hargs : "--param" ∉ optionsOf args) {p : Progress}
    (hlast : p.LastIsNot "param") (hplace : l.HasPlace p) {m : Matches} {pairs : Params}
    (hspaced : Spaced l p.awaitsValue args) (hpairs : List.Forall₂ Stands (paramTexts args) pairs)
    (h : l.finish (p.strip "param") false (withoutParams args) = some m) :
    ∃ found, l.finish p false args = some found ∧ Matches.others "param" found = m ∧
      Matches.pairs found "param" = Matches.pairs p.found "param" ++ pairs := by
  have hcommand := Level.isCommand_leaf hl.commands
  induction args generalizing p pairs with
  | nil =>
    rw [withoutParams, Level.finish_nil, Progress.toOption_settle_strip hlast] at h
    obtain ⟨_, hq', rfl⟩ := Option.map_eq_some_iff.mp h
    obtain ⟨q, hq, rfl⟩ := Option.map_eq_some_iff.mp hq'
    obtain ⟨-, settled, rfl, hsettled⟩ := Progress.exists_of_settle (toOption_eq_some_iff.mp hq)
    obtain rfl := List.forall₂_nil_left_iff.mp hpairs
    refine ⟨_, by rw [Level.finish_nil, hq]; rfl, rfl, ?_⟩
    rw [Matches.pairs_append_of_ne (hsettled "param" hlast), List.append_nil]
  | cons arg args ih =>
    by_cases hhyphens : arg = "--"
    · subst hhyphens
      rw [withoutParams, if_pos rfl, Level.finish_hyphens (hcommand "--"),
        Level.finish_trailing_strip hl.place hlast] at h
      rw [paramTexts, if_pos rfl] at hpairs
      obtain rfl := List.forall₂_nil_left_iff.mp hpairs
      obtain ⟨found, hfound, rfl⟩ := Option.map_eq_some_iff.mp h
      obtain ⟨added, rfl, hadded⟩ := Level.exists_of_finish_trailing hl.place hlast hfound
      refine ⟨_, by rw [Level.finish_hyphens (hcommand "--"), hfound], rfl, ?_⟩
      rw [Matches.pairs_append_of_ne hadded, List.append_nil]
    · rw [optionsOf_cons hhyphens, List.mem_cons, not_or] at hargs
      rw [Spaced, or_iff_right hhyphens] at hspaced
      rw [withoutParams, if_neg hhyphens] at h
      rw [paramTexts, if_neg hhyphens] at hpairs
      cases htext : paramText? arg with
      | none =>
        have hname := longName?_ne_param htext (Ne.symm hargs.1)
        rw [htext] at h hpairs
        simp only [Level.finish_cons (hcommand arg) hhyphens,
          Level.toOption_step_strip hname hl.place hlast] at h ⊢
        obtain ⟨_, hq', hrest⟩ := Option.bind_eq_some_iff.mp h
        obtain ⟨q, hq, rfl⟩ := Option.map_eq_some_iff.mp hq'
        obtain ⟨⟨added, hadded, hother⟩, hlast', hplace', hawaits⟩ := Level.exists_of_step hname
          hl.place hl.places hhyphens hlast hplace (toOption_eq_some_iff.mp hq)
        obtain ⟨found, hfound, hm, hfoundPairs⟩ :=
          ih hargs.2 hlast' hplace' (hawaits ▸ hspaced.2) hpairs hrest
        refine ⟨found, by rw [hq]; exact hfound, hm, ?_⟩
        rw [hfoundPairs, hadded, Matches.pairs_append_of_ne hother]
      | some text =>
        rw [htext] at h hpairs hspaced
        obtain rfl := paramText?_eq_some_iff.mp htext
        have hawaits : p.awaitsValue = false :=
          Bool.eq_false_iff.mpr fun h => nomatch hspaced.1 h
        obtain ⟨q, hq, hrest⟩ := (finish_strip_iff hl hlast hplace hawaits).mp h
        obtain ⟨-, settled, rfl, hsettled⟩ := Progress.exists_of_settle hq
        obtain ⟨pair, pairs, hpair, hpairs', rfl⟩ := List.forall₂_cons_left_iff.mp hpairs
        rw [← strip_concat _ pair] at hrest
        have hspaced' : Spaced l false args := opens_param l text ▸ hspaced.2
        obtain ⟨found, hfound, hm, hfoundPairs⟩ := ih hargs.2 (Progress.lastIsNot_none _ _)
          (fun _ _ => Progress.lastIsNot_none _ _) hspaced' hpairs' hrest
        refine ⟨found, (finish_param_iff hl).mpr ⟨_, pair, hq, hpair, hfound⟩, hm, ?_⟩
        rw [hfoundPairs, pairs_concat, Matches.pairs_append_of_ne (hsettled "param" hlast),
          List.append_assoc]
        rfl

end

end CommandLine
end SdkShelf
