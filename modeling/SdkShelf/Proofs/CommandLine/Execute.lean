import SdkShelf.Proofs.CommandLine.Params
import SdkShelf.Proofs.Dictionary

/-!
# Command lines that run an endpoint

What is to be run is read from a line's other arguments, and the values from its arguments with
parameters, in their order.  Of two values for one name the later counts, so the earlier argument
can be left out.
-/

namespace SdkShelf
namespace CommandLine

/-! ## What is read -/

def executeLevel : Level :=
  leaf [⟨"endpoint", .number, false⟩, ⟨"param", .pair, true⟩, ⟨"body", .text, false⟩,
    ⟨"via-backend", .flag, false⟩] (some idName)

/-- What is to be run, if it is said which endpoint of which project. -/
def executeArgs? (m : Matches) : Option ExecuteArgs :=
  (m.text? idName).bind fun id => (m.number? "endpoint").map fun endpoint =>
    ⟨id, endpoint, m.pairs "param", m.text? "body", m.isSet "via-backend"⟩

/-- The same without parameters. -/
def ExecuteArgs.bare (a : ExecuteArgs) : ExecuteArgs := { a with params := [] }

theorem takesParams_execute : executeLevel.TakesParams := ⟨rfl, by decide, by decide, by decide⟩

theorem readCommand_execute (args : List String) :
    readCommand "execute" args =
      readLeaf executeLevel (fun m => (executeArgs? m).map .execute) args := by
  simp only [readCommand]
  congr 1
  funext m
  rw [executeArgs?]
  cases m.text? idName with
  | none => rfl
  | some id => cases m.number? "endpoint" <;> rfl

theorem readLeaf_eq_ok_iff {α : Type} {l : Level} {make : Matches → Option α} {args : List String}
    {flags : Flags} {a : α} :
    readLeaf l make args = .ok (flags, a) ↔
      ∃ found, l.finish Progress.start false args = some found ∧ make found = some a ∧
        flags = flagsOf found := by
  constructor
  · intro h
    obtain ⟨⟨p, next⟩, hread, h⟩ := exists_of_bind_eq_ok h
    obtain ⟨q, hq, h⟩ := exists_of_bind_eq_ok h
    split at h
    · exact absurd h (by simp)
    · rename_i hmake
      obtain ⟨rfl, rfl⟩ := Prod.mk.inj (Except.ok.inj h)
      exact ⟨q.found, Level.finish_eq_some_iff.mpr ⟨_, q, hread, hq, rfl⟩, hmake, rfl⟩
  · rintro ⟨found, hfound, hmake, rfl⟩
    obtain ⟨⟨p, next⟩, q, hread, hq, rfl⟩ := Level.finish_eq_some_iff.mp hfound
    simp only [readLeaf, hread, bind, Except.bind, hq, hmake]

theorem flagsOf_others (m : Matches) : flagsOf (Matches.others "param" m) = flagsOf m := by
  rw [flagsOf, flagsOf, Matches.text?_others (by decide), Matches.number?_others (by decide),
    Matches.text?_others (by decide)]

theorem executeArgs?_others (m : Matches) :
    executeArgs? (Matches.others "param" m) = (executeArgs? m).map ExecuteArgs.bare := by
  have hpairs : Matches.pairs (Matches.others "param" m) "param" = [] :=
    Matches.pairs_of_ne fun e he => of_decide_eq_true (List.mem_filter.mp he).2
  rw [executeArgs?, executeArgs?, Matches.text?_others (by decide),
    Matches.number?_others (by decide), Matches.text?_others (by decide),
    Matches.isSet_others (by decide), hpairs]
  cases m.text? idName with
  | none => rfl
  | some id => cases m.number? "endpoint" <;> rfl

theorem params_of_executeArgs? {m : Matches} {a : ExecuteArgs} (h : executeArgs? m = some a) :
    a.params = m.pairs "param" := by
  obtain ⟨id, -, hargs⟩ := Option.bind_eq_some_iff.mp h
  obtain ⟨endpoint, -, rfl⟩ := Option.map_eq_some_iff.mp hargs
  rfl

theorem ExecuteArgs.eq_of_bare {a b : ExecuteArgs} (hbare : a.bare = b.bare)
    (hparams : a.params = b.params) : a = b := by
  calc a = { a.bare with params := a.params } := rfl
    _ = { b.bare with params := b.params } := by rw [hbare, hparams]
    _ = b := rfl

/-- What is to be run is read from the arguments without parameters, and the pairs from the
others. -/
theorem readCommand_execute_iff {args : List String} (hargs : "--param" ∉ optionsOf args)
    {flags : Flags} {a : ExecuteArgs} :
    readCommand "execute" args = .ok (flags, .execute a) ↔
      Spaced executeLevel false args ∧ List.Forall₂ Stands (paramTexts args) a.params ∧
        readCommand "execute" (withoutParams args) = .ok (flags, .execute a.bare) := by
  have hlast := Progress.lastIsNot_none "param" []
  have hplace : executeLevel.HasPlace Progress.start := fun _ _ => nofun
  simp only [readCommand_execute, readLeaf_eq_ok_iff, Option.map_eq_some_iff, Command.execute.injEq,
    exists_eq_right]
  constructor
  · rintro ⟨found, hfound, ha, rfl⟩
    obtain ⟨hspaced, hothers, pairs, hpairs, hfoundPairs⟩ :=
      exists_of_finish takesParams_execute hargs hlast hplace hfound
    obtain rfl : a.params = pairs := (params_of_executeArgs? ha).trans hfoundPairs
    refine ⟨hspaced, hpairs, _, hothers, ?_, (flagsOf_others found).symm⟩
    rw [executeArgs?_others, ha]
    rfl
  · rintro ⟨hspaced, hpairs, m, hm, ha, rfl⟩
    obtain ⟨found, hfound, rfl, hfoundPairs⟩ :=
      exists_finish takesParams_execute hargs hlast hplace hspaced hpairs hm
    rw [executeArgs?_others] at ha
    obtain ⟨b, hb, hbare⟩ := Option.map_eq_some_iff.mp ha
    have hparams : b.params = a.params := (params_of_executeArgs? hb).trans hfoundPairs
    rw [← ExecuteArgs.eq_of_bare hbare hparams]
    exact ⟨found, hfound, hb, flagsOf_others found⟩

/-! ## Settings before the command -/

/-- Only settings stand before the command, each with its value. -/
def IsPreamble (front : List String) : Prop :=
  "--" ∉ front ∧ ∃ p, topLevel.read Progress.start false front = .ok (p, none) ∧
    p.awaitsValue = false

section

variable {front : List String} (hfront : IsPreamble front)

include hfront

/-- What is read behind the settings does not depend on how the command's arguments are written. -/
theorem exists_read_eq : ∃ settle : Except UsageError Flags, ∀ args,
    read (front ++ "execute" :: args) =
      readCommand "execute" args >>= fun r =>
        settle.map fun outer => ⟨innermost r.1 outer, r.2⟩ := by
  obtain ⟨hhyphens, p, hread, hawaits⟩ := hfront
  refine ⟨p.settle.map fun p => flagsOf p.found, fun args => ?_⟩
  have hcommand : topLevel.read p false ("execute" :: args) = .ok (p, some ("execute", args)) := by
    have hname : topLevel.isCommand "execute" = true := by decide
    rw [Level.read, if_neg Bool.false_ne_true, if_pos (by simp [hawaits, hname]),
      if_neg (by decide)]
  rw [read, readBranch, Level.read_append hhyphens hread, hcommand]
  show Except.map _ (readCommand "execute" args >>= _) = readCommand "execute" args >>= _
  cases readCommand "execute" args with
  | error e => rfl
  | ok r => cases p.settle <;> rfl

/-- A line to run an endpoint is read exactly if it is without its arguments with parameters, these
have places of their own, and each of them stands for a pair. -/
theorem read_execute_iff {args : List String} (hargs : "--param" ∉ optionsOf args) {flags : Flags}
    {a : ExecuteArgs} :
    read (front ++ "execute" :: args) = .ok ⟨flags, .execute a⟩ ↔
      Spaced executeLevel false args ∧ List.Forall₂ Stands (paramTexts args) a.params ∧
        read (front ++ "execute" :: withoutParams args) = .ok ⟨flags, .execute a.bare⟩ := by
  obtain ⟨settle, hread⟩ := exists_read_eq hfront
  have hiff : ∀ args a, read (front ++ "execute" :: args) = .ok ⟨flags, .execute a⟩ ↔
      ∃ inner outer, settle = .ok outer ∧ flags = innermost inner outer ∧
        readCommand "execute" args = .ok (inner, .execute a) := by
    intro args a
    rw [hread]
    constructor
    · intro h
      obtain ⟨⟨inner, c⟩, hcommand, h⟩ := exists_of_bind_eq_ok h
      obtain ⟨outer, houter, hmade⟩ := exists_of_map_eq_ok h
      obtain ⟨rfl, rfl⟩ := Invocation.mk.inj hmade
      exact ⟨inner, outer, houter, rfl, hcommand⟩
    · rintro ⟨inner, outer, houter, rfl, hcommand⟩
      rw [hcommand, houter]
      rfl
  simp only [hiff, readCommand_execute_iff hargs]
  constructor
  · rintro ⟨inner, outer, houter, hflags, hspaced, hpairs, hcommand⟩
    exact ⟨hspaced, hpairs, inner, outer, houter, hflags, hcommand⟩
  · rintro ⟨hspaced, hpairs, inner, outer, houter, hflags, hcommand⟩
    exact ⟨inner, outer, houter, hflags, hspaced, hpairs, hcommand⟩

theorem exists_execute_of_read {args : List String} {i : Invocation}
    (h : read (front ++ "execute" :: args) = .ok i) : ∃ flags a, i = ⟨flags, .execute a⟩ := by
  obtain ⟨settle, hread⟩ := exists_read_eq hfront
  rw [hread] at h
  obtain ⟨⟨inner, c⟩, hcommand, h⟩ := exists_of_bind_eq_ok h
  obtain ⟨outer, -, rfl⟩ := exists_of_map_eq_ok h
  rw [readCommand_execute, readLeaf_eq_ok_iff] at hcommand
  obtain ⟨found, -, hmake, -⟩ := hcommand
  obtain ⟨a, -, rfl⟩ := Option.map_eq_some_iff.mp hmake
  exact ⟨_, a, rfl⟩

end

/-! ## The last value of each name -/

/-- The name that a text gives a value. -/
def nameOf (text : String) : String :=
  Text.trim (String.ofList (text.toList.takeWhile (· ≠ '=')))

/-- The texts that no later one gives another value for their name. -/
def lastTexts : List String → List String
  | [] => []
  | text :: texts =>
    if nameOf text ∈ texts.map nameOf then lastTexts texts else text :: lastTexts texts

/-- A line without the arguments with parameters whose names get another value later. -/
def keepLast : List String → List String
  | [] => []
  | arg :: args =>
    if arg = "--" then arg :: args
    else
      match paramText? arg with
      | some text =>
        if nameOf text ∈ (paramTexts args).map nameOf then keepLast args else arg :: keepLast args
      | none => arg :: keepLast args

theorem Stands.name_eq {text : String} {pair : String × String} (h : Stands text pair) :
    pair.1 = nameOf text := by
  obtain ⟨key, htext, hkey, -, hname⟩ := h
  rw [hname, nameOf, htext, List.takeWhile_append_of_pos, List.takeWhile_cons_of_neg (by simp),
    List.append_nil]
  intro c hc
  exact decide_eq_true fun heq => hkey (heq ▸ hc)

theorem names_of_stands {texts : List String} {pairs : Params}
    (h : List.Forall₂ Stands texts pairs) : pairs.map Prod.fst = texts.map nameOf := by
  induction h with
  | nil => rfl
  | cons hstands _ ih => rw [List.map_cons, List.map_cons, hstands.name_eq, ih]

theorem withoutParams_keepLast (args : List String) :
    withoutParams (keepLast args) = withoutParams args := by
  induction args with
  | nil => rfl
  | cons arg args ih =>
    by_cases hhyphens : arg = "--"
    · rw [keepLast, if_pos hhyphens]
    · rw [keepLast, if_neg hhyphens]
      cases htext : paramText? arg with
      | none => simp only [withoutParams, if_neg hhyphens, htext, ih]
      | some text =>
        simp only
        split
        · rw [ih, withoutParams, if_neg hhyphens, htext]
        · simp only [withoutParams, if_neg hhyphens, htext, ih]

theorem paramTexts_keepLast (args : List String) :
    paramTexts (keepLast args) = lastTexts (paramTexts args) := by
  induction args with
  | nil => rfl
  | cons arg args ih =>
    by_cases hhyphens : arg = "--"
    · rw [keepLast, if_pos hhyphens, paramTexts, if_pos hhyphens]
      rfl
    · rw [keepLast, if_neg hhyphens]
      cases htext : paramText? arg with
      | none => simp only [paramTexts, if_neg hhyphens, htext, ih]
      | some text =>
        simp only [paramTexts, if_neg hhyphens, htext, lastTexts]
        split
        · exact ih
        · simp only [paramTexts, if_neg hhyphens, htext, ih]

theorem spaced_keepLast {l : Level} {awaited : Bool} {args : List String}
    (h : Spaced l awaited args) : Spaced l awaited (keepLast args) := by
  induction args generalizing awaited with
  | nil => trivial
  | cons arg args ih =>
    by_cases hhyphens : arg = "--"
    · rw [keepLast, if_pos hhyphens]
      exact Or.inl hhyphens
    · obtain ⟨hplace, hrest⟩ := (or_iff_right hhyphens).mp h
      have hkept : Spaced l awaited (arg :: keepLast args) := Or.inr ⟨hplace, ih hrest⟩
      rw [keepLast, if_neg hhyphens]
      cases htext : paramText? arg with
      | none => exact hkept
      | some text =>
        simp only
        split
        · -- Nothing is awaited where the argument stood, nor behind it.
          obtain rfl := paramText?_eq_some_iff.mp htext
          have hawaited : awaited = l.opens ("--param=" ++ text) := by
            rw [opens_param, Bool.eq_false_iff]
            exact fun h => nomatch htext.symm.trans (hplace h)
          rw [hawaited]
          exact ih hrest
        · exact hkept

/-- The pairs of the last texts make the same dictionary as all. -/
theorem exists_last_pairs {texts : List String} {pairs : Params}
    (h : List.Forall₂ Stands texts pairs) :
    ∃ pairs', List.Forall₂ Stands (lastTexts texts) pairs' ∧
      Dictionary.ofList pairs' = Dictionary.ofList pairs := by
  -- For the induction the dictionary that they are put into may be any.
  suffices ∃ pairs', List.Forall₂ Stands (lastTexts texts) pairs' ∧
      ∀ d : Dictionary String, pairs'.foldl (fun d e => d.insert e.1 e.2) d =
        pairs.foldl (fun d e => d.insert e.1 e.2) d by
    obtain ⟨pairs', hpairs', hfoldl⟩ := this
    exact ⟨pairs', hpairs', hfoldl Dictionary.empty⟩
  induction h with
  | nil => exact ⟨[], List.Forall₂.nil, fun _ => rfl⟩
  | @cons text pair texts pairs hstands hrest ih =>
    obtain ⟨pairs', hpairs', hfoldl⟩ := ih
    rw [lastTexts]
    split
    · rename_i hlater
      rw [← names_of_stands hrest, ← hstands.name_eq] at hlater
      refine ⟨pairs', hpairs', fun d => ?_⟩
      rw [hfoldl, List.foldl_cons, Dictionary.insert_foldl_of_mem hlater]
    · exact ⟨pair :: pairs', List.Forall₂.cons hstands hpairs', fun d => hfoldl _⟩

end CommandLine
end SdkShelf
