import SdkShelf.Proofs.Json.RoundTrip

/-!
# The parts of what is read

A list is read item by item, a map member by member, and a record's object field by field: of the
members that answer to a field there is one at most, and its value is the field's; the others are
left to the later fields, and what is left over in the end is skipped.  Where a member stands among
the others plays no part.
-/

namespace SdkShelf
namespace Json

/-! ## Lists and maps -/

section

variable {α : Type} {o : Origin} {start bracket : Mark}

theorem Tree.eachItem_eq_ok_iff {item : Tree → Except DecodeError α} {ts : List Tree}
    {as : List α} :
    eachItem item ts = .ok as ↔ List.Forall₂ (fun t a => item t = .ok a) ts as := by
  induction ts generalizing as with
  | nil =>
    rw [eachItem, Except.ok.injEq, List.forall₂_nil_left_iff]
    exact eq_comm
  | cons t ts ih =>
    rw [List.forall₂_cons_left_iff]
    constructor
    · intro h
      obtain ⟨a, ha, h⟩ := exists_of_bind_eq_ok h
      obtain ⟨more, hmore, h⟩ := exists_of_bind_eq_ok h
      exact ⟨a, more, ha, ih.mp hmore, (Except.ok.inj h).symm⟩
    · rintro ⟨a, more, ha, hmore, rfl⟩
      simp only [eachItem, ha, ih.mpr hmore, bind, Except.bind]

theorem Tree.eachMember_eq_ok_iff {item : Tree → Except DecodeError α} {ms : List (Label × Tree)}
    {es : List (String × α)} :
    eachMember item ms = .ok es ↔
      List.Forall₂ (fun m e => m.1.name = .ok e.1 ∧ item m.2 = .ok e.2) ms es := by
  induction ms generalizing es with
  | nil =>
    rw [eachMember, Except.ok.injEq, List.forall₂_nil_left_iff]
    exact eq_comm
  | cons m ms ih =>
    rw [List.forall₂_cons_left_iff]
    constructor
    · intro h
      obtain ⟨k, hkey, h⟩ := exists_of_bind_eq_ok h
      obtain ⟨a, ha, h⟩ := exists_of_bind_eq_ok h
      obtain ⟨more, hmore, h⟩ := exists_of_bind_eq_ok h
      exact ⟨(k, a), more, ⟨mapError_eq_ok_iff.mp hkey, ha⟩, ih.mp hmore, (Except.ok.inj h).symm⟩
    · rintro ⟨⟨k, a⟩, more, ⟨hkey, ha⟩, hmore, rfl⟩
      simp only [eachMember, key_of_name hkey, ha, ih.mpr hmore, bind, Except.bind]

theorem Schema.decode_list_iff {inner : Schema α} {ts : List Tree} {as : List α} :
    (Schema.list inner).decode o (.array start ts (.closed bracket)) = .ok as ↔
      ∃ o', o.enter start = .ok o' ∧ List.Forall₂ (fun t a => inner.decode o' t = .ok a) ts as := by
  rw [decode]
  simp only [← Tree.eachItem_eq_ok_iff]
  constructor
  · intro h
    obtain ⟨o', henter, h⟩ := exists_of_bind_eq_ok h
    obtain ⟨as', hitems, h⟩ := exists_of_bind_eq_ok h
    obtain ⟨⟨⟩, -, h⟩ := exists_of_bind_eq_ok h
    rw [← Except.ok.inj h]
    exact ⟨o', henter, hitems⟩
  · rintro ⟨o', henter, hitems⟩
    simp only [Tree.list, henter, hitems, Ending.checkList, Ending.listFault?, bind, Except.bind]

theorem Schema.decode_map_iff {inner : Schema α} {ms : List (Label × Tree)} {d : Dictionary α} :
    (Schema.map inner).decode o (.object start ms (.closed bracket)) = .ok d ↔
      ∃ o' es, o.enter start = .ok o' ∧
        List.Forall₂ (fun m e => m.1.name = .ok e.1 ∧ inner.decode o' m.2 = .ok e.2) ms es ∧
        Dictionary.ofList es = d := by
  rw [decode]
  simp only [← Tree.eachMember_eq_ok_iff]
  constructor
  · intro h
    obtain ⟨o', henter, h⟩ := exists_of_bind_eq_ok h
    obtain ⟨es, hmembers, h⟩ := exists_of_bind_eq_ok h
    obtain ⟨⟨⟩, -, h⟩ := exists_of_bind_eq_ok h
    exact ⟨o', es, henter, hmembers, Except.ok.inj h⟩
  · rintro ⟨o', es, henter, hmembers, rfl⟩
    simp only [Tree.map, henter, hmembers, Ending.checkObject, Ending.objectFault?, bind,
      Except.bind]

end

/-! ## Members -/

/-- A labelled tree depicts a member. -/
def DepictsMember (m : Label × Tree) (n : Option String × Document) : Prop :=
  m.1.name.toOption = n.1 ∧ Depicts m.2 n.2

theorem depictsItems_forall₂ {ts : List Tree} {ds : List Document} (h : DepictsItems ts ds) :
    List.Forall₂ Depicts ts ds := by
  match h with
  | .nil => exact .nil
  | .cons h hrest => exact .cons h (depictsItems_forall₂ hrest)

theorem depictsMembers_forall₂ {ts : List (Label × Tree)} {ms : List (Option String × Document)}
    (h : DepictsMembers ts ms) : List.Forall₂ DepictsMember ts ms := by
  match h with
  | .nil => exact .nil
  | .cons hl _ h hrest => exact .cons ⟨hl, h⟩ (depictsMembers_forall₂ hrest)

/-- Members that are told apart the same way in both lists. -/
theorem forall₂_filter {α β : Type} {R S T : α → β → Prop} {p : α → Bool} {q : β → Bool}
    (hR : ∀ x y, R x y → (p x = true ∧ q y = true ∧ S x y) ∨ (p x = false ∧ q y = false ∧ T x y))
    {xs : List α} {ys : List β} (h : List.Forall₂ R xs ys) :
    List.Forall₂ S (xs.filter p) (ys.filter q) ∧
      List.Forall₂ T (xs.filter fun x => !p x) (ys.filter fun y => !q y) := by
  induction h with
  | nil => exact ⟨.nil, .nil⟩
  | cons hxy _ ih =>
    rcases hR _ _ hxy with ⟨hp, hq, hS⟩ | ⟨hp, hq, hT⟩
    · rw [List.filter_cons_of_pos hp, List.filter_cons_of_pos hq,
        List.filter_cons_of_neg (by simp [hp]), List.filter_cons_of_neg (by simp [hq])]
      exact ⟨.cons hS ih.1, ih.2⟩
    · rw [List.filter_cons_of_neg (by simp [hp]), List.filter_cons_of_neg (by simp [hq]),
        List.filter_cons_of_pos (by simp [hp]), List.filter_cons_of_pos (by simp [hq])]
      exact ⟨ih.1, .cons hT ih.2⟩

/-- What is read of a document's tree is read of its text. -/
theorem Schema.ofText_of_isDocument {α : Type} {s : Schema α} {text : String} {d : Document} {a : α}
    (htext : IsDocument text d) (h : ∀ t, Depicts t d → s.decode (.text depthLimit) t = .ok a) :
    s.ofText text = .ok a := by
  obtain ⟨t, behind, htree, ht, hbehind⟩ := htext.depicts
  exact ofText_eq_ok_iff.mpr ⟨t, behind, htree, h t ht, hbehind⟩

/-! ## Records -/

/-- The key is the field's name, or another name under which it is read. -/
def answers (name : String) (aliases : List String) (k : Option String) : Bool :=
  k.any fun k => decide (k = name ∨ k ∈ aliases)

/-- The member's key answers to the field. -/
def Label.answers (name : String) (aliases : List String) (m : Label × Tree) : Bool :=
  Json.answers name aliases m.1.name.toOption

theorem answers_some_iff {name : String} {aliases : List String} {k : String} :
    answers name aliases (some k) = true ↔ k = name ∨ k ∈ aliases := by
  rw [answers, Option.any_some, decide_eq_true_iff]

/-- What the field takes from its own members; `before` was in its slot already. -/
inductive Schema.Fills {α : Type} (s : Schema α) (o : Origin) :
    Option α → List (Label × Tree) → Option α → Prop
  | none (before : Option α) : Fills s o before [] before
  | one {m : Label × Tree} {a : α} (h : s.decode o m.2 = .ok a) : Fills s o none [m] (some a)

/-- The record's parts are read from the members: each field takes its own, and what no field takes
is skipped. -/
def Fields.Takes (o : Origin) : {γ σ : Type} → Fields γ σ → List (Label × Tree) → γ → Prop
  | _, _, .nil, ms, _ => ∀ m ∈ ms, (∃ k, m.1.name = .ok k) ∧ m.2.skim = .ok ()
  | _, _, .cons name aliases schema absent _ rest, ms, (a, more) =>
    (∃ slot, schema.Fills o none (ms.filter (Label.answers name aliases)) slot ∧
      slot.or absent = some a) ∧
    rest.Takes o (ms.filter fun m => !Label.answers name aliases m) more

theorem exists_singleton_of_forall₂ {α β : Type} {R : α → β → Prop} {xs : List α} {y : β}
    (h : List.Forall₂ R xs [y]) : ∃ x, xs = [x] ∧ R x y := by
  obtain _ | ⟨hxy, ⟨⟩⟩ := h
  exact ⟨_, rfl, hxy⟩

/-- What answers to a field in a document answers to it in the document's tree. -/
theorem depictsMember_filter {ts : List (Label × Tree)} {ms : List (Option String × Document)}
    (h : List.Forall₂ DepictsMember ts ms) (name : String) (aliases : List String) :
    List.Forall₂ DepictsMember (ts.filter (Label.answers name aliases))
        (ms.filter fun m => answers name aliases m.1) ∧
      List.Forall₂ DepictsMember (ts.filter fun t => !Label.answers name aliases t)
        (ms.filter fun m => !answers name aliases m.1) := by
  refine forall₂_filter (fun t m htm => ?_) h
  rw [Label.answers, htm.1]
  cases answers name aliases m.1 with
  | true => exact .inl ⟨rfl, rfl, htm⟩
  | false => exact .inr ⟨rfl, rfl, htm⟩

theorem Schema.fills_some_iff {α : Type} {s : Schema α} {o : Origin} {ts : List (Label × Tree)}
    {a : α} : s.Fills o none ts (some a) ↔ ∃ m, ts = [m] ∧ s.decode o m.2 = .ok a := by
  constructor
  · rintro ⟨⟩
    rename_i m h
    exact ⟨m, rfl, h⟩
  · rintro ⟨m, rfl, h⟩
    exact .one h

/-- A field that has to be there takes the one member that answers to it. -/
theorem Fields.takes_required_iff {α γ σ : Type} {name : String} {schema : Schema α}
    {rest : Fields γ σ} {o : Origin} {ts : List (Label × Tree)} {a : α} {more : γ} :
    (required name schema rest).Takes o ts (a, more) ↔
      (∃ m, ts.filter (Label.answers name []) = [m] ∧ schema.decode o m.2 = .ok a) ∧
        rest.Takes o (ts.filter fun m => !Label.answers name [] m) more := by
  rw [required, Takes, ← Schema.fills_some_iff]
  refine and_congr_left fun _ => ⟨?_, fun h => ⟨some a, h, rfl⟩⟩
  rintro ⟨slot, h, hslot⟩
  rw [Option.or_none] at hslot
  rw [← hslot]
  exact h

section

variable {α γ σ : Type} {name : String} {aliases : List String} {schema : Schema α}
  {absent : Option α} {hidden : α → Bool} {rest : Fields γ σ} {o : Origin}

theorem eachSlot_nil_iff {ms : List (Label × Tree)} :
    Tree.eachSlot (Fields.nil.fill o) ms () = .ok () ↔
      ∀ m ∈ ms, (∃ k, m.1.name = .ok k) ∧ m.2.skim = .ok () := by
  induction ms with
  | nil => exact iff_of_true rfl fun m hm => absurd hm List.not_mem_nil
  | cons m ms ih =>
    rw [List.forall_mem_cons, ← ih, eachSlot_cons_eq_ok]
    constructor
    · rintro ⟨k, ⟨⟩, hname, hskim, h⟩
      exact ⟨⟨⟨k, hname⟩, hskim⟩, h⟩
    · rintro ⟨⟨⟨k, hname⟩, hskim⟩, h⟩
      exact ⟨k, (), hname, hskim, h⟩

theorem Schema.fills_cons_iff {m : Label × Tree} {ms : List (Label × Tree)}
    {slot slot' : Option α} :
    schema.Fills o slot (m :: ms) slot' ↔
      slot = none ∧ ∃ a, schema.decode o m.2 = .ok a ∧ schema.Fills o (some a) ms slot' := by
  constructor
  · rintro ⟨⟩
    rename_i a h
    exact ⟨rfl, a, h, .none _⟩
  · rintro ⟨rfl, a, h, ⟨⟩⟩
    exact .one h

/-- The members of the first field fill its slot, and the others those of the later fields. -/
theorem eachSlot_cons_iff {ms : List (Label × Tree)} {slot slot' : Option α} {slots slots' : σ} :
    Tree.eachSlot ((Fields.cons name aliases schema absent hidden rest).fill o) ms (slot, slots) =
        .ok (slot', slots') ↔
      schema.Fills o slot (ms.filter (Label.answers name aliases)) slot' ∧
        Tree.eachSlot (rest.fill o) (ms.filter fun m => !Label.answers name aliases m) slots =
          .ok slots' := by
  induction ms generalizing slot slots with
  | nil =>
    simp only [Tree.eachSlot, List.filter_nil, Except.ok.injEq, Prod.mk.injEq]
    refine and_congr_left fun _ => ⟨?_, ?_⟩
    · rintro rfl
      exact .none slot
    · rintro ⟨⟩
      rfl
  | cons m ms ih =>
    cases hname : m.1.name with
    | error f =>
      have hother : Label.answers name aliases m = false := by
        rw [Label.answers, hname]
        rfl
      rw [List.filter_cons_of_neg (by simp [hother]), List.filter_cons_of_pos (by simp [hother]),
        eachSlot_cons_eq_ok, eachSlot_cons_eq_ok]
      simp only [hname, reduceCtorEq, false_and, exists_false, and_false]
    | ok k =>
      rw [eachSlot_cons_eq_ok]
      simp only [hname, Except.ok.injEq, exists_and_left, exists_eq_left']
      by_cases hown : k = name ∨ k ∈ aliases
      · have hanswers : Label.answers name aliases m = true := by
          rw [Label.answers, hname]
          exact answers_some_iff.mpr hown
        rw [List.filter_cons_of_pos hanswers, List.filter_cons_of_neg (by simp [hanswers]),
          Schema.fills_cons_iff]
        simp only [fill_own_eq_ok hown]
        constructor
        · rintro ⟨_, ⟨rfl, a, ha, rfl⟩, h⟩
          obtain ⟨hfills, hothers⟩ := ih.mp h
          exact ⟨⟨rfl, a, ha, hfills⟩, hothers⟩
        · rintro ⟨⟨rfl, a, ha, hfills⟩, hothers⟩
          exact ⟨_, ⟨rfl, a, ha, rfl⟩, ih.mpr ⟨hfills, hothers⟩⟩
      · have hanswers : Label.answers name aliases m = false := by
          rw [Label.answers, hname, Bool.eq_false_iff]
          exact fun h => hown (answers_some_iff.mp h)
        rw [List.filter_cons_of_neg (by simp [hanswers]),
          List.filter_cons_of_pos (by simp [hanswers]), eachSlot_cons_eq_ok]
        simp only [hname, Except.ok.injEq, exists_and_left, exists_eq_left',
          fill_other_eq_ok (not_or.mp hown)]
        constructor
        · rintro ⟨_, ⟨more, hmore, rfl⟩, h⟩
          obtain ⟨hfills, hothers⟩ := ih.mp h
          exact ⟨hfills, more, hmore, hothers⟩
        · rintro ⟨hfills, more, hmore, hothers⟩
          exact ⟨_, ⟨more, hmore, rfl⟩, ih.mpr ⟨hfills, hothers⟩⟩

theorem Fields.filled_cons_eq_ok {slot : Option α} {slots : σ} {parts : α × γ} :
    (Fields.cons name aliases schema absent hidden rest).filled (slot, slots) = .ok parts ↔
      slot.or absent = some parts.1 ∧ rest.filled slots = .ok parts.2 := by
  have hmore {a : α} : (do
      let more ← rest.filled slots
      .ok (a, more)) = .ok parts ↔ a = parts.1 ∧ rest.filled slots = .ok parts.2 := by
    cases rest.filled slots with
    | error e => exact iff_of_false nofun fun h => nomatch h.2
    | ok more => simp [bind, Except.bind, Prod.ext_iff]
  cases slot with
  | some a => exact hmore.trans (and_congr_left fun _ => Option.some_inj.symm)
  | none =>
    cases absent with
    | none => exact iff_of_false nofun fun h => nomatch h.1
    | some a => exact hmore.trans (and_congr_left fun _ => Option.some_inj.symm)

end

/-- The slots are filled, and every field has a value, exactly if each field takes its own. -/
theorem Fields.filled_eachSlot_iff {o : Origin} : {γ σ : Type} → (fields : Fields γ σ) →
    {ms : List (Label × Tree)} → {parts : γ} →
    ((∃ slots, Tree.eachSlot (fields.fill o) ms fields.unfilled = .ok slots ∧
      fields.filled slots = .ok parts) ↔ fields.Takes o ms parts)
  | _, _, .nil, _, _ => by
    rw [Takes, ← eachSlot_nil_iff]
    exact ⟨fun ⟨_, h, _⟩ => h, fun h => ⟨(), h, rfl⟩⟩
  | _, _, .cons name aliases schema absent hidden rest, ms, (a, more) => by
    rw [Takes, ← rest.filled_eachSlot_iff]
    constructor
    · rintro ⟨⟨slot, slots⟩, heach, hfilled⟩
      obtain ⟨hslot, hslots⟩ := eachSlot_cons_iff.mp heach
      obtain ⟨ha, hmore⟩ := filled_cons_eq_ok.mp hfilled
      exact ⟨⟨slot, hslot, ha⟩, slots, hslots, hmore⟩
    · rintro ⟨⟨slot, hslot, ha⟩, slots, hslots, hmore⟩
      exact ⟨(slot, slots), eachSlot_cons_iff.mpr ⟨hslot, hslots⟩,
        filled_cons_eq_ok.mpr ⟨ha, hmore⟩⟩

/-- A record is read from an object whose members its fields take. -/
theorem Schema.decode_record_object_iff {α γ σ : Type} {name : String} {fields : Fields γ σ}
    {make : γ → α} {parts : α → γ} {o : Origin} {start bracket : Mark} {ms : List (Label × Tree)}
    {a : α} :
    (Schema.record name fields make parts).decode o (.object start ms (.closed bracket)) = .ok a ↔
      ∃ inner taken, o.enter start = .ok inner ∧ fields.Takes inner ms taken ∧ make taken = a := by
  rw [decode]
  constructor
  · intro h
    obtain ⟨taken, hrecord, rfl⟩ := exists_of_map_eq_ok h
    obtain ⟨inner, henter, hrecord⟩ := exists_of_bind_eq_ok hrecord
    obtain ⟨slots, heach, hrecord⟩ := exists_of_bind_eq_ok hrecord
    obtain ⟨⟨⟩, -, hfilled⟩ := exists_of_bind_eq_ok hrecord
    refine ⟨inner, taken, henter, ?_, rfl⟩
    exact fields.filled_eachSlot_iff.mp ⟨slots, heach, mapError_eq_ok_iff.mp hfilled⟩
  · rintro ⟨inner, taken, henter, htakes, rfl⟩
    obtain ⟨slots, heach, hfilled⟩ := fields.filled_eachSlot_iff.mpr htakes
    simp only [Tree.record, henter, heach, hfilled, Ending.checkObject, Ending.objectFault?, bind,
      Except.bind, Except.mapError, Except.map]

end Json
end SdkShelf
