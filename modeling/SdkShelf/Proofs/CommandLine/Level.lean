import SdkShelf.CommandLine.Level
import SdkShelf.Proofs.Results

/-!
# Reading a level of a command line

A level without subcommands is read an argument at a time.  It makes no difference to what is found
whether an option is taken in as soon as it has its value or with the next argument, nor what an
option that may be repeated was given so far.
-/

namespace SdkShelf
namespace CommandLine

/-! ## What is found for one option and for the others -/

namespace Matches

/-- What is found for the other options. -/
def others (name : String) (m : Matches) : Matches := m.filter fun e => e.1 ≠ name

theorem others_append (name : String) (m m' : Matches) :
    others name (m ++ m') = others name m ++ others name m' := List.filter_append ..

theorem others_of_ne {name : String} {m : Matches} (h : ∀ e ∈ m, e.1 ≠ name) :
    others name m = m :=
  List.filter_eq_self.mpr fun e he => decide_eq_true (h e he)

theorem isSet_others {name other : String} (h : other ≠ name) (m : Matches) :
    isSet (others name m) other = isSet m other := by
  rw [isSet, isSet, others, List.any_filter]
  congr 1
  funext e
  by_cases he : e.1 = other
  · simp [he, h]
  · simp [he]

theorem findSome?_others {β : Type} {name : String} {f : String × Value → Option β}
    (h : ∀ e, e.1 = name → f e = none) (m : Matches) :
    (others name m).findSome? f = m.findSome? f := by
  induction m with
  | nil => rfl
  | cons e m ih =>
    rw [others] at ih ⊢
    by_cases he : e.1 = name
    · rw [List.filter_cons_of_neg (by simpa using he), List.findSome?_cons, h e he, ih]
    · rw [List.filter_cons_of_pos (by simpa using he), List.findSome?_cons, List.findSome?_cons, ih]

theorem text?_others {name other : String} (h : other ≠ name) (m : Matches) :
    text? (others name m) other = text? m other := by
  refine findSome?_others (fun e he => ?_) m
  obtain ⟨n, v⟩ := e
  cases v with
  | text s => exact if_neg fun hn => h (hn.symm.trans he)
  | set => rfl
  | number k => rfl
  | pair k v => rfl

theorem number?_others {name other : String} (h : other ≠ name) (m : Matches) :
    number? (others name m) other = number? m other := by
  refine findSome?_others (fun e he => ?_) m
  obtain ⟨n, v⟩ := e
  cases v with
  | number k => exact if_neg fun hn => h (hn.symm.trans he)
  | set => rfl
  | text s => rfl
  | pair k v => rfl

theorem isSet_append_of_ne {name : String} {m m' : Matches} (h : ∀ e ∈ m', e.1 ≠ name) :
    isSet (m ++ m') name = isSet m name := by
  have hfree : isSet m' name = false := List.any_eq_false.mpr fun e he => by simpa using h e he
  rw [isSet, List.any_append]
  exact (congrArg _ hfree).trans (Bool.or_false _)

theorem pairs_append (name : String) (m m' : Matches) :
    pairs (m ++ m') name = pairs m name ++ pairs m' name := List.filterMap_append ..

theorem pairs_of_ne {name : String} {m : Matches} (h : ∀ e ∈ m, e.1 ≠ name) :
    pairs m name = [] := by
  refine List.filterMap_eq_nil_iff.mpr fun e he => ?_
  obtain ⟨n, v⟩ := e
  cases v with
  | pair k v => exact if_neg (h _ he)
  | set => rfl
  | text s => rfl
  | number k => rfl

theorem pairs_append_of_ne {name : String} {m m' : Matches} (h : ∀ e ∈ m', e.1 ≠ name) :
    pairs (m ++ m') name = pairs m name := by
  rw [pairs_append, pairs_of_ne h, List.append_nil]

end Matches

namespace Progress

theorem exists_of_record {found found' : Matches} {o : NamedArgument} {raw : String}
    (h : record found o raw = .ok found') : ∃ v, found' = found ++ [(o.name, v)] := by
  rw [record] at h
  split at h
  · exact absurd h nofun
  · obtain ⟨v, -, rfl⟩ := exists_of_map_eq_ok h
    exact ⟨v, rfl⟩

/-- The progress without what one option was given. -/
def strip (name : String) (p : Progress) : Progress := ⟨Matches.others name p.found, p.pending⟩

/-- The option that came last is not this one. -/
def LastIsNot (name : String) (p : Progress) : Prop :=
  ∀ o raw?, p.pending = some (o, raw?) → o.name ≠ name

theorem lastIsNot_none (name : String) (found : Matches) : LastIsNot name ⟨found, none⟩ := nofun

/-- What is settled is what was found, and what the option that came last adds to it. -/
theorem exists_of_settle {p p' : Progress} (h : p.settle = .ok p') :
    p.awaitsValue = false ∧ ∃ added, p' = ⟨p.found ++ added, none⟩ ∧
      ∀ name, p.LastIsNot name → ∀ e ∈ added, e.1 ≠ name := by
  obtain ⟨found, pending⟩ := p
  match pending with
  | none =>
    obtain rfl := Except.ok.inj h
    exact ⟨rfl, [], by rw [List.append_nil], fun _ _ e he => absurd he List.not_mem_nil⟩
  | some (o, none) => exact absurd h nofun
  | some (o, some raw) =>
    obtain ⟨found', hrecord, rfl⟩ := exists_of_map_eq_ok h
    obtain ⟨v, rfl⟩ := exists_of_record hrecord
    refine ⟨rfl, [(o.name, v)], rfl, fun name hlast e he => ?_⟩
    rw [List.mem_singleton.mp he]
    exact hlast o _ rfl

theorem settle_of_settle {p p' : Progress} (h : p.settle = .ok p') : p'.settle = .ok p' := by
  obtain ⟨found, pending⟩ := p
  match pending with
  | none =>
    obtain rfl := Except.ok.inj h
    rfl
  | some (o, none) => exact absurd h nofun
  | some (o, some raw) =>
    obtain ⟨found', -, rfl⟩ := exists_of_map_eq_ok h
    rfl

theorem toOption_record_others {name : String} {o : NamedArgument} (ho : o.name ≠ name)
    (found : Matches) (raw : String) :
    (record (Matches.others name found) o raw).toOption =
      (record found o raw).toOption.map (Matches.others name) := by
  rw [record, record, Matches.isSet_others ho]
  split
  · rfl
  · rw [toOption_map, toOption_map, Option.map_map]
    congr 1
    funext v
    have hv : Matches.others name [(o.name, v)] = [(o.name, v)] :=
      Matches.others_of_ne fun e he => by rw [List.mem_singleton.mp he]; exact ho
    show _ = Matches.others name (found ++ [(o.name, v)])
    rw [Matches.others_append, hv]

theorem toOption_settle_strip {p : Progress} {name : String} (hlast : p.LastIsNot name) :
    (p.strip name).settle.toOption = p.settle.toOption.map (strip name) := by
  obtain ⟨found, pending⟩ := p
  match pending with
  | none => rfl
  | some (o, none) => rfl
  | some (o, some raw) =>
    show ((record (Matches.others name found) o raw).map fun found => ⟨found, none⟩).toOption =
      (((record found o raw).map fun found => ⟨found, none⟩).toOption).map (strip name)
    rw [toOption_map, toOption_map, toOption_record_others (hlast o _ rfl), Option.map_map,
      Option.map_map]
    rfl

end Progress

namespace Level

variable {l : Level} {p p' : Progress} {arg name : String} {args : List String}

/-! ## One argument -/

/-- What an argument looks like. -/
inductive Look where
  | hyphens
  | long (body : List Char)
  | short (letter : Char)
  | plain

def lookOf : List Char → Look
  | ['-', '-'] => .hyphens
  | '-' :: '-' :: body => .long body
  | '-' :: letter :: _ => .short letter
  | _ => .plain

/-- Reads an argument that is neither a subcommand nor two hyphens alone. -/
def step (l : Level) (p : Progress) (arg : String) : Except UsageError Progress :=
  match lookOf arg.toList with
  | .hyphens => .ok p
  | .long body => l.long p (splitLong body).1 (splitLong body).2
  | .short letter => .error (l.short p letter)
  | .plain =>
    match p.pending with
    | some (o, none) => .ok ⟨p.found, some (o, some arg)⟩
    | _ => l.place p false arg

theorem toList_of_lookOf_long {cs body : List Char} (h : lookOf cs = .long body) :
    cs = '-' :: '-' :: body := by
  unfold lookOf at h
  split at h
  · exact absurd h nofun
  · rw [Look.long.inj h]
  · exact absurd h nofun
  · exact absurd h nofun

theorem lookOf_ne_hyphens (harg : arg ≠ "--") : lookOf arg.toList ≠ .hyphens := by
  intro h
  unfold lookOf at h
  split at h
  · rename_i hlist
    exact harg (String.toList_injective hlist)
  · exact absurd h nofun
  · exact absurd h nofun
  · exact absurd h nofun

theorem read_cons (hcommand : p.awaitsValue = true ∨ l.isCommand arg = false) (harg : arg ≠ "--") :
    l.read p false (arg :: args) = l.step p arg >>= fun p => l.read p false args := by
  have hcommand' : ¬ (!p.awaitsValue && l.isCommand arg) = true := by
    rcases hcommand with h | h <;> simp [h]
  rw [read, if_neg Bool.false_ne_true, if_neg hcommand', step]
  split
  · rename_i hlist
    exact absurd (String.toList_injective hlist) harg
  · rename_i body hbody hlist
    rw [hlist, lookOf.eq_2 _ hbody]
  · rename_i letter tail _ hletter hlist
    rw [hlist, lookOf.eq_3 _ _ (fun h _ => hletter h) hletter]
    rfl
  · rename_i hhyphens hlong hshort
    rw [lookOf.eq_4 _ hhyphens hlong hshort]
    rcases p.pending with _ | ⟨o, _ | raw⟩ <;> rfl

/-- What is read first is read the same way whatever follows. -/
theorem read_append {before : List String} (hhyphens : "--" ∉ before)
    (h : l.read p false before = .ok (p', none)) (args : List String) :
    l.read p false (before ++ args) = l.read p' false args := by
  induction before generalizing p with
  | nil =>
    obtain ⟨rfl, -⟩ := Prod.mk.inj (Except.ok.inj h)
    rfl
  | cons arg before ih =>
    rw [List.mem_cons, not_or] at hhyphens
    have hcommand : p.awaitsValue = true ∨ l.isCommand arg = false := by
      cases hawaits : p.awaitsValue with
      | true => exact Or.inl rfl
      | false =>
        refine Or.inr (Bool.eq_false_iff.mpr fun hname => ?_)
        rw [read, if_neg Bool.false_ne_true, if_pos (by simp [hawaits, hname])] at h
        split at h
        · exact absurd h nofun
        · exact absurd (Prod.mk.inj (Except.ok.inj h)).2 nofun
    rw [read_cons hcommand (Ne.symm hhyphens.1)] at h
    rw [List.cons_append, read_cons hcommand (Ne.symm hhyphens.1)]
    obtain ⟨q, hq, hread⟩ := exists_of_bind_eq_ok h
    rw [hq]
    exact ih hhyphens.2 hread

/-! ## Taking in early -/

/-- What a written-out option makes of what is found, once all of that is taken in. -/
def given (l : Level) (found : Matches) (name : String) (attached : Option String) :
    Option Progress :=
  if name = "help" ∨ name = "version" ∧ l.hasVersion = true then none
  else
    (l.option? name).bind fun o =>
      match o.kind, attached with
      | .flag, some _ => none
      | .flag, none => (Progress.record found o "").toOption.map fun found => ⟨found, none⟩
      | _, none => some ⟨found, some (o, none)⟩
      | _, some raw => (Progress.record found o raw).toOption.map fun found => ⟨found, none⟩

theorem toOption_long (l : Level) (p : Progress) (name : String) (attached : Option String) :
    (l.long p name attached).toOption =
      p.settle.toOption.bind fun p' => l.given p'.found name attached := by
  have hnone : (p.settle.toOption.bind fun _ => (none : Option Progress)) = none := by simp
  rw [long]
  by_cases hhelp : name = "help"
  · simp only [given, if_pos hhelp, if_pos (Or.inl hhelp), hnone]
    cases attached <;> rfl
  · by_cases hversion : name = "version" ∧ l.hasVersion = true
    · simp only [given, if_neg hhelp, if_pos hversion, if_pos (Or.inr hversion), hnone]
      cases attached <;> rfl
    · simp only [given, if_neg hhelp, if_neg hversion, if_neg (not_or.mpr ⟨hhelp, hversion⟩)]
      cases l.option? name with
      | none => exact hnone.symm
      | some o =>
        by_cases hflag : o.kind = .flag
        · simp only [hflag, Option.bind_some]
          cases attached with
          | none => simp [toOption_bind, toOption_map]
          | some raw => exact hnone.symm
        · simp only [if_neg hflag, Option.bind_some]
          cases attached with
          | none => simp [toOption_bind, toOption_ok]
          | some raw => simp [toOption_bind, toOption_map]

theorem toOption_place (l : Level) (p : Progress) (trailing : Bool) (arg : String) :
    (l.place p trailing arg).toOption =
      (l.positional.filter fun name => !Matches.isSet p.found name).bind fun name =>
        p.settle.toOption.map fun p' => ⟨p'.found ++ [(name, .text arg)], none⟩ := by
  rw [place]
  cases l.positional with
  | none => rfl
  | some name =>
    cases hset : Matches.isSet p.found name with
    | true => simp [hset, toOption_error, Option.filter_some]
    | false =>
      simp only [hset, Bool.false_eq_true, if_false, toOption_bind, Option.filter_some,
        Bool.not_false, if_true, Option.bind_some]
      cases p.settle <;> rfl

/-- The positional argument is not an option. -/
def HasPlace (l : Level) (p : Progress) : Prop :=
  ∀ name, l.positional = some name → p.LastIsNot name

theorem toOption_place_of_settle (hplace : l.HasPlace p) (trailing : Bool) (arg : String) :
    (l.place p trailing arg).toOption =
      p.settle.toOption.bind fun p' => (l.place p' trailing arg).toOption := by
  cases hsettle : p.settle with
  | error e =>
    rw [toOption_place, hsettle, toOption_error, Option.bind_none]
    cases l.positional.filter fun name => !Matches.isSet p.found name <;> rfl
  | ok p' =>
    rw [toOption_ok, Option.bind_some, toOption_place, toOption_place, hsettle]
    have hfilter : (l.positional.filter fun name => !Matches.isSet p.found name) =
        l.positional.filter fun name => !Matches.isSet p'.found name := by
      cases hpositional : l.positional with
      | none => rfl
      | some name =>
        obtain ⟨-, added, rfl, hadded⟩ := Progress.exists_of_settle hsettle
        rw [Option.filter_some, Option.filter_some,
          Matches.isSet_append_of_ne (hadded name (hplace name hpositional))]
    have hsettle' : p'.settle = .ok p' := Progress.settle_of_settle hsettle
    rw [hfilter, hsettle']

/-- It makes no difference whether an option is taken in with its value or with the argument behind
that. -/
theorem toOption_step_of_settle (hplace : l.HasPlace p) (hawaits : p.awaitsValue = false)
    (harg : arg ≠ "--") :
    (l.step p arg).toOption = p.settle.toOption.bind fun p' => (l.step p' arg).toOption := by
  simp only [step]
  cases hlook : lookOf arg.toList with
  | hyphens => exact absurd hlook (lookOf_ne_hyphens harg)
  | long body =>
    simp only [toOption_long]
    cases hsettle : p.settle with
    | error e => rfl
    | ok p' =>
      simp only [toOption_ok, Option.bind_some]
      rw [Progress.settle_of_settle hsettle]
      rfl
  | short letter => simp [toOption_error]
  | plain =>
    have hplain : ∀ q : Progress, q.awaitsValue = false →
        (match q.pending with
        | some (o, none) => Except.ok ⟨q.found, some (o, some arg)⟩
        | _ => l.place q false arg) = l.place q false arg := by
      rintro ⟨found, _ | ⟨o, _ | raw⟩⟩ hq
      · rfl
      · exact absurd hq nofun
      · rfl
    simp only
    rw [hplain p hawaits, toOption_place_of_settle hplace]
    cases hsettle : p.settle with
    | error e => rfl
    | ok p' =>
      obtain ⟨-, added, rfl, -⟩ := Progress.exists_of_settle hsettle
      rfl

/-! ## All arguments -/

/-- What is found in the end, if all is well. -/
def finish (l : Level) (p : Progress) (trailing : Bool) (args : List String) : Option Matches :=
  (l.read p trailing args >>= fun r => r.1.settle).toOption.map Progress.found

theorem finish_eq_some_iff {trailing : Bool} {found : Matches} :
    l.finish p trailing args = some found ↔
      ∃ r q, l.read p trailing args = .ok r ∧ r.1.settle = .ok q ∧ q.found = found := by
  rw [finish, Option.map_eq_some_iff]
  constructor
  · rintro ⟨q, hq, rfl⟩
    obtain ⟨r, hr, hsettle⟩ := exists_of_bind_eq_ok (toOption_eq_some_iff.mp hq)
    exact ⟨r, q, hr, hsettle, rfl⟩
  · rintro ⟨r, q, hr, hsettle, rfl⟩
    refine ⟨q, ?_, rfl⟩
    rw [hr]
    exact toOption_eq_some_iff.mpr hsettle

theorem finish_nil (trailing : Bool) :
    l.finish p trailing [] = p.settle.toOption.map Progress.found := rfl

theorem finish_cons (hcommand : l.isCommand arg = false) (harg : arg ≠ "--") :
    l.finish p false (arg :: args) =
      (l.step p arg).toOption.bind fun p => l.finish p false args := by
  rw [finish, read_cons (Or.inr hcommand) harg]
  cases l.step p arg <;> rfl

theorem finish_trailing_cons :
    l.finish p true (arg :: args) =
      (l.place p true arg).toOption.bind fun p => l.finish p true args := by
  rw [finish, read, if_pos rfl]
  cases l.place p true arg <;> rfl

theorem finish_hyphens (hcommand : l.isCommand "--" = false) :
    l.finish p false ("--" :: args) = l.finish p true args := by
  have hread : l.read p false ("--" :: args) = l.read p true args := by
    rw [read, if_neg Bool.false_ne_true, if_neg (by simp [hcommand])]
    rfl
  rw [finish, hread]
  rfl

theorem isCommand_leaf (h : l.commands = []) (arg : String) : l.isCommand arg = false := by
  rw [isCommand, h]
  rfl

/-- What is found does not depend on when the option that came last is taken in. -/
theorem finish_of_settle (hcommands : l.commands = []) (hplace : l.HasPlace p)
    (hawaits : p.awaitsValue = false) (args : List String) :
    l.finish p false args = p.settle.toOption.bind fun p' => l.finish p' false args := by
  have hnil : ∀ trailing, l.finish p trailing [] =
      p.settle.toOption.bind fun p' => l.finish p' trailing [] := by
    intro trailing
    simp only [finish_nil]
    cases hsettle : p.settle with
    | error e => rfl
    | ok p' =>
      rw [toOption_ok, Option.bind_some, Progress.settle_of_settle hsettle]
      rfl
  cases args with
  | nil => exact hnil false
  | cons arg args =>
    by_cases harg : arg = "--"
    · subst harg
      simp only [finish_hyphens (isCommand_leaf hcommands "--")]
      cases args with
      | nil => exact hnil true
      | cons arg args =>
        simp only [finish_trailing_cons]
        rw [toOption_place_of_settle hplace, Option.bind_assoc]
    · simp only [finish_cons (isCommand_leaf hcommands arg) harg]
      rw [toOption_step_of_settle hplace hawaits harg, Option.bind_assoc]

/-! ## Without one option -/

/-- The name of a written-out option. -/
def longName? (arg : String) : Option String :=
  match lookOf arg.toList with
  | .long body => some (splitLong body).1
  | _ => none

/-- The argument is an option that takes its value from the next one. -/
def opens (l : Level) (arg : String) : Bool :=
  match lookOf arg.toList with
  | .long body =>
    (splitLong body).2.isNone && (l.option? (splitLong body).1).any fun o => o.kind ≠ .flag
  | _ => false

theorem name_of_option? {o : NamedArgument} (h : l.option? name = some o) : o.name = name := by
  simpa using List.find?_some h

theorem toOption_given_strip {other : String} (hname : other ≠ name) (found : Matches)
    (attached : Option String) :
    l.given (Matches.others name found) other attached =
      (l.given found other attached).map (Progress.strip name) := by
  rw [given, given]
  by_cases hasks : other = "help" ∨ other = "version" ∧ l.hasVersion = true
  · rw [if_pos hasks, if_pos hasks]
    rfl
  · rw [if_neg hasks, if_neg hasks]
    cases hoption : l.option? other with
    | none => rfl
    | some o =>
      have ho : o.name ≠ name := by rw [name_of_option? hoption]; exact hname
      simp only [Option.bind_some, Progress.toOption_record_others ho]
      split <;> simp [Progress.strip, Function.comp_def]

/-- An option adds to what is found under its name alone. -/
theorem exists_of_given {found : Matches} {other : String} {attached : Option String}
    (h : l.given found other attached = some p) :
    ∃ added, p.found = found ++ added ∧ (∀ e ∈ added, e.1 = other) ∧
      (∀ o raw?, p.pending = some (o, raw?) → o ∈ l.options ∧ o.name = other) ∧
      p.awaitsValue = (attached.isNone && (l.option? other).any fun o => o.kind ≠ .flag) := by
  rw [given] at h
  split at h
  · exact absurd h nofun
  · obtain ⟨o, hoption, hgiven⟩ := Option.bind_eq_some_iff.mp h
    have hname := name_of_option? hoption
    have hrecorded : ∀ raw, (Progress.record found o raw).toOption.map
          (fun found => (⟨found, none⟩ : Progress)) = some p →
        ∃ added, p = ⟨found ++ added, none⟩ ∧ ∀ e ∈ added, e.1 = other := by
      intro raw hrecord
      obtain ⟨found', hfound, rfl⟩ := Option.map_eq_some_iff.mp hrecord
      obtain ⟨v, rfl⟩ := Progress.exists_of_record (toOption_eq_some_iff.mp hfound)
      exact ⟨[(o.name, v)], rfl, fun e he => by rw [List.mem_singleton.mp he]; exact hname⟩
    split at hgiven
    · exact absurd hgiven nofun
    · rename_i hkind
      obtain ⟨added, rfl, hadded⟩ := hrecorded "" hgiven
      exact ⟨added, rfl, hadded, nofun, by simp [hoption, hkind, Progress.awaitsValue]⟩
    · rename_i hkind
      obtain rfl := Option.some.inj hgiven
      refine ⟨[], (List.append_nil _).symm, fun e he => absurd he List.not_mem_nil, ?_, ?_⟩
      · rintro o' raw? hpending
        obtain ⟨rfl, -⟩ := Prod.mk.inj (Option.some.inj hpending)
        exact ⟨List.mem_of_find?_eq_some hoption, hname⟩
      · simpa [hoption, Progress.awaitsValue] using hkind
    · rename_i hkind
      obtain ⟨added, rfl, hadded⟩ := hrecorded _ hgiven
      exact ⟨added, rfl, hadded, nofun, by simp [Progress.awaitsValue]⟩

theorem toOption_place_strip (hname : l.positional ≠ some name) (hlast : p.LastIsNot name)
    (trailing : Bool) :
    (l.place (p.strip name) trailing arg).toOption =
      (l.place p trailing arg).toOption.map (Progress.strip name) := by
  rw [toOption_place, toOption_place, Progress.toOption_settle_strip hlast]
  cases hpositional : l.positional with
  | none => rfl
  | some place =>
    have hplace : place ≠ name := fun h => hname (by rw [hpositional, h])
    have hset : Matches.isSet (p.strip name).found place = Matches.isSet p.found place :=
      Matches.isSet_others hplace p.found
    have hplaced : Matches.others name [(place, .text arg)] = [(place, .text arg)] :=
      Matches.others_of_ne fun e he => by rw [List.mem_singleton.mp he]; exact hplace
    simp only [Option.filter_some, hset]
    cases Matches.isSet p.found place with
    | true => rfl
    | false =>
      simp [Function.comp_def, Progress.strip, Matches.others_append, hplaced]

/-- An argument that is placed adds to what is found, but nothing under another name than that of
the positional one. -/
theorem exists_of_place {trailing : Bool} (hname : l.positional ≠ some name)
    (hlast : p.LastIsNot name) (h : l.place p trailing arg = .ok p') :
    ∃ added, p' = ⟨p.found ++ added, none⟩ ∧ ∀ e ∈ added, e.1 ≠ name := by
  have h' := toOption_eq_some_iff.mpr h
  rw [toOption_place] at h'
  obtain ⟨place, hplace, h'⟩ := Option.bind_eq_some_iff.mp h'
  have hpositional := (Option.filter_eq_some_iff.mp hplace).1
  obtain ⟨q, hq, rfl⟩ := Option.map_eq_some_iff.mp h'
  obtain ⟨-, settled, rfl, hsettled⟩ := Progress.exists_of_settle (toOption_eq_some_iff.mp hq)
  refine ⟨settled ++ [(place, .text arg)], by rw [List.append_assoc], fun e he => ?_⟩
  rcases List.mem_append.mp he with he | he
  · exact hsettled name hlast e he
  · rw [List.mem_singleton.mp he]
    exact fun heq => hname (hpositional.trans (congrArg some heq))

theorem toOption_step_strip (hname : longName? arg ≠ some name) (hplace : l.positional ≠ some name)
    (hlast : p.LastIsNot name) :
    (l.step (p.strip name) arg).toOption =
      (l.step p arg).toOption.map (Progress.strip name) := by
  rw [longName?] at hname
  simp only [step]
  cases hlook : lookOf arg.toList with
  | hyphens => rfl
  | long body =>
    have hother : (splitLong body).1 ≠ name := by simpa [hlook] using hname
    simp only [toOption_long, Progress.toOption_settle_strip hlast]
    cases p.settle.toOption with
    | none => rfl
    | some p' => exact toOption_given_strip hother p'.found _
  | short letter => rfl
  | plain =>
    obtain ⟨found, _ | ⟨o, _ | raw⟩⟩ := p
    · exact toOption_place_strip hplace hlast false
    · rfl
    · exact toOption_place_strip hplace hlast false

/-- An argument that is read adds to what is found, and only an option alone lets the next one be its
value. -/
theorem exists_of_step (hname : longName? arg ≠ some name) (hplace : l.positional ≠ some name)
    (hplaces : ∀ o ∈ l.options, l.positional ≠ some o.name) (harg : arg ≠ "--")
    (hlast : p.LastIsNot name) (hfree : l.HasPlace p) (h : l.step p arg = .ok p') :
    (∃ added, p'.found = p.found ++ added ∧ ∀ e ∈ added, e.1 ≠ name) ∧ p'.LastIsNot name ∧
      l.HasPlace p' ∧ p'.awaitsValue = l.opens arg := by
  rw [longName?] at hname
  rw [step] at h
  rw [opens]
  cases hlook : lookOf arg.toList with
  | hyphens => exact absurd hlook (lookOf_ne_hyphens harg)
  | long body =>
    rw [hlook] at h hname
    have hother : (splitLong body).1 ≠ name := by simpa using hname
    have h' := toOption_eq_some_iff.mpr h
    rw [toOption_long] at h'
    obtain ⟨q, hq, hgiven⟩ := Option.bind_eq_some_iff.mp h'
    obtain ⟨-, settled, rfl, hsettled⟩ := Progress.exists_of_settle (toOption_eq_some_iff.mp hq)
    obtain ⟨added, hfound, hadded, hpending, hawaits⟩ := exists_of_given hgiven
    refine ⟨⟨settled ++ added, by rw [hfound, List.append_assoc], fun e he => ?_⟩,
      fun o raw? ho => ?_, fun place hpositional o raw? ho => ?_, hawaits⟩
    · rcases List.mem_append.mp he with he | he
      · exact hsettled name hlast e he
      · rw [hadded e he]
        exact hother
    · rw [(hpending o raw? ho).2]
      exact hother
    · intro heq
      exact hplaces o (hpending o raw? ho).1 (by rw [hpositional, heq])
  | short letter =>
    rw [hlook] at h
    exact absurd h nofun
  | plain =>
    rw [hlook] at h
    obtain ⟨found, _ | ⟨o, _ | raw⟩⟩ := p
    · obtain ⟨added, rfl, hadded⟩ := exists_of_place hplace hlast h
      exact ⟨⟨added, rfl, hadded⟩, nofun, fun _ _ => nofun, rfl⟩
    · obtain rfl := Except.ok.inj h
      refine ⟨⟨[], (List.append_nil _).symm, fun e he => absurd he List.not_mem_nil⟩, ?_, ?_, rfl⟩
      · intro o' raw? ho'
        obtain ⟨rfl, -⟩ := Prod.mk.inj (Option.some.inj ho')
        exact hlast o _ rfl
      · intro place hpositional o' raw? ho'
        obtain ⟨rfl, -⟩ := Prod.mk.inj (Option.some.inj ho')
        exact hfree place hpositional o _ rfl
    · obtain ⟨added, rfl, hadded⟩ := exists_of_place hplace hlast h
      exact ⟨⟨added, rfl, hadded⟩, nofun, fun _ _ => nofun, rfl⟩

theorem finish_trailing_strip (hplace : l.positional ≠ some name) (hlast : p.LastIsNot name) :
    l.finish (p.strip name) true args = (l.finish p true args).map (Matches.others name) := by
  induction args generalizing p with
  | nil =>
    rw [finish_nil, finish_nil, Progress.toOption_settle_strip hlast, Option.map_map, Option.map_map]
    rfl
  | cons arg args ih =>
    rw [finish_trailing_cons, finish_trailing_cons, toOption_place_strip hplace hlast]
    cases hput : l.place p true arg with
    | error e => rfl
    | ok p' =>
      obtain ⟨added, rfl, -⟩ := exists_of_place hplace hlast hput
      exact ih (Progress.lastIsNot_none name _)

/-- Behind two hyphens nothing is found for an option. -/
theorem exists_of_finish_trailing (hplace : l.positional ≠ some name) (hlast : p.LastIsNot name)
    {found : Matches} (h : l.finish p true args = some found) :
    ∃ added, found = p.found ++ added ∧ ∀ e ∈ added, e.1 ≠ name := by
  induction args generalizing p with
  | nil =>
    rw [finish_nil] at h
    obtain ⟨q, hq, rfl⟩ := Option.map_eq_some_iff.mp h
    obtain ⟨-, settled, rfl, hsettled⟩ := Progress.exists_of_settle (toOption_eq_some_iff.mp hq)
    exact ⟨settled, rfl, hsettled name hlast⟩
  | cons arg args ih =>
    rw [finish_trailing_cons] at h
    obtain ⟨p', hput, hrest⟩ := Option.bind_eq_some_iff.mp h
    obtain ⟨placed, rfl, hplaced⟩ :=
      exists_of_place hplace hlast (toOption_eq_some_iff.mp hput)
    obtain ⟨added, rfl, hadded⟩ := ih (Progress.lastIsNot_none name _) hrest
    refine ⟨placed ++ added, List.append_assoc .., fun e he => ?_⟩
    rcases List.mem_append.mp he with he | he
    · exact hplaced e he
    · exact hadded e he

end Level

end CommandLine
end SdkShelf
