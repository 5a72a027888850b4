import SdkShelf.Proofs.Shelf.Collection

/-!
# The writes of a save

Whatever a store does with the writes it is given, a save makes the writes of a fixed plan, one
after the other, until one of them is not refused for lack of room.  The store is watched by another
one that does the same and keeps a record.
-/

namespace SdkShelf

/-- A write that was tried, and what became of it. -/
structure Attempt where
  key : String
  text : String
  result : Except StoreError Unit

/-- The write was refused for lack of room. -/
def Attempt.isRefused (a : Attempt) : Bool :=
  match a.result with
  | .ok () => false
  | .error e => e.isQuotaExceeded

/-- A store with a record of all writes that were tried. -/
structure WatchedStore (σ : Type) where
  inner : σ
  attempts : List Attempt

instance {σ : Type} [Store σ] : Store (WatchedStore σ) where
  read s key := Store.read s.inner key
  write s key text :=
    let (result, inner) := Store.write s.inner key text
    (result, ⟨inner, s.attempts ++ [⟨key, text, result⟩]⟩)
  remove s key :=
    let (result, inner) := Store.remove s.inner key
    (result, { s with inner })
  keys s := Store.keys s.inner

namespace Shelf

variable {σ : Type}

/-- The same shelf, watched from some record on. -/
def watched (s : Shelf σ) (attempts : List Attempt) : Shelf (WatchedStore σ) :=
  ⟨⟨s.store, attempts⟩, s.collectionKey⟩

/-- Writes texts one after the other until one is not refused for lack of room. -/
def writeEach [Store σ] (s : Shelf σ) (key : String) : List String → Bool × Shelf σ
  | [] => (false, s)
  | text :: rest =>
    match s.write key text with
    | (.ok (), s) => (true, s)
    | (.error e, s) => if e.isQuotaExceeded then s.writeEach key rest else (false, s)

/-- The texts of the first `n` projects, then of one less, down to one; no projects have a text as
well. -/
def countdown (ps : List Project) (n : Nat) : List String :=
  (List.range (max n 1)).map fun i => Project.listSchema.text (ps.take (n - i))

/-- The texts that are written for a value until there is room for one. -/
def plan (collectionKey key : String) (v : Json) : List String :=
  textOf v ::
    if key = collectionKey then
      match Project.listSchema.ofJson v with
      | .ok ps => countdown (ps.map Project.shrink) ps.length
      | .error _ => []
    else []

theorem countdown_succ (ps : List Project) {n : Nat} (h : 0 < n) :
    countdown ps (n + 1) = Project.listSchema.text (ps.take (n + 1)) :: countdown ps n := by
  have hmax : max (n + 1) 1 = n + 1 := by omega
  have hmax' : max n 1 = n := by omega
  rw [countdown, countdown, hmax, hmax', List.range_succ_eq_map, List.map_cons, List.map_map]
  simp only [Nat.sub_zero, Function.comp_def, Nat.succ_eq_add_one, Nat.add_sub_add_right]

theorem length_countdown (ps : List Project) (n : Nat) : (countdown ps n).length = max n 1 := by
  rw [countdown, List.length_map, List.length_range]

theorem plan_of_no_collection {collectionKey key : String} {v : Json}
    (h : key ≠ collectionKey ∨ ∀ ps, Project.listSchema.ofJson v ≠ .ok ps) :
    plan collectionKey key v = [textOf v] := by
  rw [plan]
  split
  · rename_i hkey
    split
    · rename_i ps hps
      exact absurd hps (h.resolve_left (not_not.mpr hkey) ps)
    · rfl
  · rfl

theorem length_plan_le (collectionKey key : String) {v : Json} {ps : List Project}
    (h : Project.listSchema.ofJson v = .ok ps) :
    (plan collectionKey key v).length ≤ max ps.length 1 + 1 := by
  rw [plan, h, List.length_cons]
  refine Nat.succ_le_succ ?_
  split
  · exact Nat.le_of_eq (length_countdown _ _)
  · exact Nat.zero_le _

section

variable [Store σ]

theorem writeEach_cons (s : Shelf σ) (key text : String) (rest : List String) :
    s.writeEach key (text :: rest) =
      match s.write key text with
      | (.ok (), s) => (true, s)
      | (.error e, s) => if e.isQuotaExceeded then s.writeEach key rest else (false, s) := rfl

theorem writeFirst_eq_writeEach (s : Shelf σ) (key : String) (ps : List Project) (n : Nat) :
    s.writeFirst key ps n = s.writeEach key (countdown ps n) := by
  induction n generalizing s with
  | zero =>
    show _ = s.writeEach key [Project.listSchema.text []]
    rw [writeFirst, writeEach_cons]
    rcases s.write key (Project.listSchema.text []) with ⟨e | ⟨⟩, after⟩
    · simp only [writeEach, ite_self]
      rfl
    · rfl
  | succ n ih =>
    rw [writeFirst]
    rcases Nat.eq_zero_or_pos n with rfl | hn
    · show _ = s.writeEach key [Project.listSchema.text (ps.take 1)]
      rw [writeEach_cons]
      rcases s.write key (Project.listSchema.text (ps.take 1)) with ⟨e | ⟨⟩, after⟩
      · simp only [writeEach, ite_self, Nat.lt_irrefl, and_false, if_false]
      · rfl
    · rw [countdown_succ ps hn, writeEach_cons]
      rcases s.write key (Project.listSchema.text (ps.take (n + 1))) with ⟨e | ⟨⟩, after⟩
      · simp only [hn, and_true, ih]
      · rfl

/-- A save walks along its plan. -/
theorem save_eq_writeEach (s : Shelf σ) (key : String) (v : Json) :
    s.save key v = s.writeEach key (plan s.collectionKey key v) := by
  have hkey : (s.write key (textOf v)).2.collectionKey = s.collectionKey := rfl
  rw [save, plan, writeEach_cons]
  generalize s.write key (textOf v) = written at hkey ⊢
  rcases written with ⟨e | ⟨⟩, after⟩
  · replace hkey : after.collectionKey = s.collectionKey := hkey
    simp only [saveReduced, hkey]
    by_cases hcollection : key = s.collectionKey
    · rw [if_pos hcollection, if_neg (not_not.mpr hcollection)]
      cases Project.listSchema.ofJson v with
      | error _ => rfl
      | ok ps => simp only [writeFirst_eq_writeEach]
    · rw [if_neg hcollection, if_pos hcollection]
      rfl
  · rfl

end

/-! ## The record -/

/-- The attempts are the first writes of the plan, all under the key.  Every one but the last was
refused for lack of room; the last was not, or ends the plan.  Something was saved exactly if the
last was accepted. -/
structure Follows (key : String) (plan : List String) (attempts : List Attempt) (saved : Bool) :
    Prop where
  within : attempts.length ≤ plan.length
  writes : attempts.map (fun a => (a.key, a.text)) =
    (plan.take attempts.length).map fun text => (key, text)
  refused : ∀ a ∈ attempts.dropLast, a.isRefused = true
  stopped : attempts.length = plan.length ∨ ∃ a ∈ attempts.getLast?, a.isRefused = false
  accepted : saved = true ↔ ∃ a ∈ attempts.getLast?, a.result = .ok ()

namespace Follows

variable {key text : String} {rest : List String} {attempts : List Attempt} {saved : Bool}

theorem nil : Follows key [] [] false :=
  ⟨Nat.le_refl 0, rfl, fun _ ha => absurd ha List.not_mem_nil, Or.inl rfl,
    ⟨fun h => Bool.noConfusion h, fun ⟨_, ha, _⟩ => absurd ha (Option.not_mem_none _)⟩⟩

/-- The walk ends at a write that is not refused for lack of room. -/
theorem last {result : Except StoreError Unit}
    (h : (⟨key, text, result⟩ : Attempt).isRefused = false) (hsaved : saved = true ↔ result = .ok ()) :
    Follows key (text :: rest) [⟨key, text, result⟩] saved := by
  refine ⟨Nat.le_add_left 1 _, rfl, fun a ha => absurd ha List.not_mem_nil,
    Or.inr ⟨_, rfl, h⟩, hsaved.trans ⟨fun hok => ⟨_, rfl, hok⟩, ?_⟩⟩
  rintro ⟨a, ha, hok⟩
  rw [← Option.some.inj ha] at hok
  exact hok

/-- The walk goes on behind a write that is refused for lack of room. -/
theorem next {e : StoreError} (he : e.isQuotaExceeded = true)
    (h : Follows key rest attempts saved) :
    Follows key (text :: rest) (⟨key, text, .error e⟩ :: attempts) saved := by
  refine ⟨Nat.succ_le_succ h.within, ?_, ?_, ?_, ?_⟩
  · rw [List.map_cons, h.writes]
    rfl
  · intro a ha
    cases attempts with
    | nil => exact absurd ha List.not_mem_nil
    | cons b attempts =>
      rcases List.mem_cons.mp ha with rfl | ha
      · exact he
      · exact h.refused a ha
  · rcases h.stopped with hlen | ⟨a, ha, hrefused⟩
    · exact Or.inl (congrArg (· + 1) hlen)
    · cases attempts with
      | nil => exact absurd ha (Option.not_mem_none a)
      | cons b attempts => exact Or.inr ⟨a, ha, hrefused⟩
  · rw [h.accepted]
    cases attempts with
    | nil =>
      constructor
      · rintro ⟨a, ha, _⟩
        exact absurd ha (Option.not_mem_none a)
      · rintro ⟨a, ha, hok⟩
        rw [← Option.some.inj ha] at hok
        exact absurd (show (.error e : Except StoreError Unit) = .ok () from hok) (by simp)
    | cons b attempts => rfl

theorem ne_nil {plan : List String} (h : Follows key plan attempts saved) (hplan : plan ≠ []) :
    attempts ≠ [] := by
  intro hnil
  rw [hnil] at h
  rcases h.stopped with hlen | ⟨a, ha, _⟩
  · exact hplan (List.length_eq_zero_iff.mp hlen.symm)
  · exact absurd ha (Option.not_mem_none a)

theorem first_eq {first : Attempt} (h : Follows key (text :: rest) (first :: attempts) saved) :
    first.key = key ∧ first.text = text := by
  have hwrites := h.writes
  rw [List.length_cons, List.take_succ_cons, List.map_cons, List.map_cons] at hwrites
  exact Prod.mk.inj (List.cons.inj hwrites).1

theorem eq_nil_of_not_refused {plan : List String} {first : Attempt}
    (h : Follows key plan (first :: attempts) saved) (hfirst : first.isRefused = false) :
    attempts = [] := by
  cases attempts with
  | nil => rfl
  | cons b attempts =>
    have hrefused := h.refused first List.mem_cons_self
    rw [hfirst] at hrefused
    exact Bool.noConfusion hrefused

theorem unsaved_of_refused {plan : List String} {a : Attempt} (h : Follows key plan [a] saved)
    (ha : a.isRefused = true) : saved = false := by
  rw [Bool.eq_false_iff]
  intro hsaved
  obtain ⟨b, hb, hok⟩ := h.accepted.mp hsaved
  rw [← Option.some.inj hb] at hok
  replace hok : a.result = .ok () := hok
  rw [Attempt.isRefused, hok] at ha
  exact Bool.noConfusion ha

end Follows

section

variable [Store σ]

theorem write_watched (s : Shelf σ) (before : List Attempt) (key text : String) :
    (s.watched before).write key text = ((s.write key text).1,
      (s.write key text).2.watched (before ++ [⟨key, text, (s.write key text).1⟩])) := rfl

/-- Watching changes nothing, and what is seen follows the plan. -/
theorem writeEach_watched (s : Shelf σ) (before : List Attempt) (key : String)
    (plan : List String) :
    ∃ attempts, (s.watched before).writeEach key plan =
        ((s.writeEach key plan).1, (s.writeEach key plan).2.watched (before ++ attempts)) ∧
      Follows key plan attempts (s.writeEach key plan).1 := by
  induction plan generalizing s before with
  | nil =>
    refine ⟨[], ?_, Follows.nil⟩
    rw [List.append_nil]
    rfl
  | cons text rest ih =>
    rw [writeEach_cons, writeEach_cons, write_watched]
    rcases s.write key text with ⟨e | ⟨⟩, after⟩
    · simp only
      by_cases he : e.isQuotaExceeded = true
      · rw [if_pos he, if_pos he]
        obtain ⟨attempts, hwrites, hfollows⟩ := ih after (before ++ [⟨key, text, .error e⟩])
        refine ⟨⟨key, text, .error e⟩ :: attempts, ?_, hfollows.next he⟩
        rw [hwrites, List.append_assoc]
        rfl
      · rw [if_neg he, if_neg he]
        refine ⟨[⟨key, text, .error e⟩], rfl, Follows.last (Bool.not_eq_true _ ▸ he) ?_⟩
        exact ⟨fun h => Bool.noConfusion h, fun h => absurd h (by simp)⟩
    · exact ⟨[⟨key, text, .ok ()⟩], rfl, Follows.last rfl ⟨fun _ => rfl, fun _ => rfl⟩⟩

/-- The attempts of a save follow its plan: the first carries the value's text, and the others, made
only for a collection that was refused for lack of room, carry the first shrunk projects, one less
each time. -/
theorem save_follows_plan (s : Shelf σ) (key : String) (v : Json) :
    ∃ first others,
      (s.watched []).save key v =
        ((s.save key v).1, (s.save key v).2.watched (first :: others)) ∧
      Follows key (plan s.collectionKey key v) (first :: others) (s.save key v).1 ∧
      (first.key = key ∧ first.text = textOf v ∧ (first.isRefused = false → others = [])) ∧
      ((key ≠ s.collectionKey ∨ ∀ ps, Project.listSchema.ofJson v ≠ .ok ps) →
        others = [] ∧ (first.isRefused = true → (s.save key v).1 = false)) ∧
      ∀ ps, Project.listSchema.ofJson v = .ok ps →
        (first :: others).length ≤ max ps.length 1 + 1 := by
  obtain ⟨attempts, hwrites, hfollows⟩ :=
    writeEach_watched s [] key (plan s.collectionKey key v)
  rw [← save_eq_writeEach] at hwrites hfollows
  obtain ⟨first, others, rfl⟩ :=
    List.exists_cons_of_ne_nil (hfollows.ne_nil (List.cons_ne_nil _ _))
  obtain ⟨hkey, htext⟩ := hfollows.first_eq
  refine ⟨first, others, ?_, hfollows, ⟨hkey, htext, hfollows.eq_nil_of_not_refused⟩, ?_, ?_⟩
  · rw [save_eq_writeEach]
    exact hwrites
  · intro hno
    have hothers : others = [] := by
      have hwithin := hfollows.within
      rw [plan_of_no_collection hno, List.length_cons, List.length_singleton] at hwithin
      exact List.length_eq_zero_iff.mp (Nat.le_zero.mp (Nat.le_of_succ_le_succ hwithin))
    subst hothers
    exact ⟨rfl, hfollows.unsaved_of_refused⟩
  · intro ps hps
    exact Nat.le_trans hfollows.within (length_plan_le _ _ hps)

end

end Shelf
end SdkShelf
