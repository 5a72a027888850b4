import SdkShelf.Proofs.Json.Agreement
import SdkShelf.Proofs.Json.Parts
import SdkShelf.Proofs.Json.Room

/-!
# The arrangement of a text

A value is read from a text whatever the order of the members of its objects, whatever further
members its records have, and under whichever of its names a field is given.  Only a map knows all
its members, so it must have none of them twice for their order to be of no account.
-/

namespace SdkShelf
namespace Json

namespace Document

mutual

/-- No object has two members of one name. -/
def Distinct : Document → Prop
  | .array ds => DistinctItems ds
  | .object ms => (ms.filterMap Prod.fst).Nodup ∧ DistinctMembers ms
  | _ => True

def DistinctItems : List Document → Prop
  | [] => True
  | d :: ds => d.Distinct ∧ DistinctItems ds

def DistinctMembers : List (Option String × Document) → Prop
  | [] => True
  | (_, d) :: ms => d.Distinct ∧ DistinctMembers ms

end

mutual

/-- The same document with the members of its objects in another order, at any level. -/
inductive Reorders : Document → Document → Prop
  | null : Reorders .null .null
  | bool (b : Bool) : Reorders (.bool b) (.bool b)
  | number (n : Option Number) : Reorders (.number n) (.number n)
  | string (s : Option String) : Reorders (.string s) (.string s)
  | array {ds ds' : List Document} (h : ReordersItems ds ds') : Reorders (.array ds) (.array ds')
  | object {ms ms₁ ms' : List (Option String × Document)} (h : ReordersMembers ms ms₁)
      (hperm : ms₁.Perm ms') : Reorders (.object ms) (.object ms')

inductive ReordersItems : List Document → List Document → Prop
  | nil : ReordersItems [] []
  | cons {d d' : Document} {ds ds' : List Document} (h : Reorders d d')
      (hrest : ReordersItems ds ds') : ReordersItems (d :: ds) (d' :: ds')

inductive ReordersMembers :
    List (Option String × Document) → List (Option String × Document) → Prop
  | nil : ReordersMembers [] []
  | cons {k : Option String} {d d' : Document} {ms ms' : List (Option String × Document)}
      (h : Reorders d d') (hrest : ReordersMembers ms ms') :
      ReordersMembers ((k, d) :: ms) ((k, d') :: ms')

end

end Document

/-- No field is read from a member of this name. -/
def Fields.Unknown : {γ σ : Type} → Fields γ σ → String → Prop
  | _, _, .nil, _ => True
  | _, _, .cons name aliases _ _ _ rest, k => k ≠ name ∧ k ∉ aliases ∧ rest.Unknown k

mutual

/-- `s.Rearranges d d'`: where the schema reads `d`, it may be given `d'`.  The members of objects
have changed places, the objects that are records have further members that belong to no field, and
their fields are named by any of their names. -/
def Schema.Rearranges : {α : Type} → Schema α → Document → Document → Prop
  | _, .json, d, d' => d.Reorders d'
  | _, .string, d, d' => d.Reorders d'
  | _, .bool, d, d' => d.Reorders d'
  | _, .uint16, d, d' => d.Reorders d'
  | _, .uint64, d, d' => d.Reorders d'
  | _, .int64, d, d' => d.Reorders d'
  | _, .float, d, d' => d.Reorders d'
  | _, .spelled _ _ _, d, d' => d.Reorders d'
  | _, .choice _ _, d, d' => d.Reorders d'
  | _, .option inner, d, d' => (d = .null ∧ d' = .null) ∨ inner.Rearranges d d'
  | _, .orNull _ inner, d, d' => (d = .null ∧ d' = .null) ∨ inner.Rearranges d d'
  | _, .list inner, d, d' =>
    ∃ ds ds', d = .array ds ∧ d' = .array ds' ∧ List.Forall₂ inner.Rearranges ds ds'
  | _, .map inner, d, d' =>
    ∃ ms ms₁ ms', d = .object ms ∧ d' = .object ms' ∧
      List.Forall₂ (fun m m₁ => m.1 = m₁.1 ∧ inner.Rearranges m.2 m₁.2) ms ms₁ ∧ ms₁.Perm ms'
  | _, .record _ fields _ _, d, d' =>
    (∃ ms ms₁ further ms', d = .object ms ∧ d' = .object ms' ∧
      List.Forall₂ fields.RearrangesMember ms ms₁ ∧
      (∀ m ∈ further, ∃ k, m.1 = some k ∧ fields.Unknown k) ∧ (ms₁ ++ further).Perm ms') ∨
    ∃ ds ds', d = .array ds ∧ d' = .array ds' ∧ fields.RearrangesItems ds ds'

/-- A member of a record's object and what it has become. -/
def Fields.RearrangesMember : {γ σ : Type} → Fields γ σ → Option String × Document →
    Option String × Document → Prop
  | _, _, .nil, m, m' => m.1 = m'.1 ∧ m.2.Reorders m'.2
  | _, _, .cons name aliases schema _ _ rest, m, m' =>
    (answers name aliases m.1 = true ∧ answers name aliases m'.1 = true ∧
      schema.Rearranges m.2 m'.2) ∨
    (answers name aliases m.1 = false ∧ answers name aliases m'.1 = false ∧
      rest.RearrangesMember m m')

/-- The items of a record that stands as a list, each read by the field of its place. -/
def Fields.RearrangesItems : {γ σ : Type} → Fields γ σ → List Document → List Document → Prop
  | _, _, .nil, ds, ds' => List.Forall₂ Document.Reorders ds ds'
  | _, _, .cons _ _ schema _ _ rest, ds, ds' =>
    (ds = [] ∧ ds' = []) ∨
    ∃ d d' left left', ds = d :: left ∧ ds' = d' :: left' ∧ schema.Rearranges d d' ∧
      rest.RearrangesItems left left'

end

/-! ## Scalars -/

/-- The value of a tree without parts, if it can be read strictly. -/
def Tree.content? : Tree → Option Json
  | .scalar _ s _ => s.json.toOption
  | _ => none

def Document.content? : Document → Option Json
  | .null => some .null
  | .bool b => some (.bool b)
  | .number n => n.map .number
  | .string s => s.map .string
  | .array _ | .object _ => none

theorem Depicts.content?_eq {t : Tree} {d : Document} (h : Depicts t d) :
    t.content? = d.content? := by
  cases h with
  | null | bool _ | array _ | object _ => rfl
  | number h =>
    rw [← h]
    exact toOption_map _ _
  | string h =>
    rw [← h]
    exact toOption_map _ _

theorem Document.Reorders.content?_eq {d d' : Document} (h : d.Reorders d') :
    d'.content? = d.content? := by
  cases h <;> rfl

theorem Document.Reorders.null_iff {d d' : Document} (h : d.Reorders d') :
    d = .null ↔ d' = .null := by
  cases h <;> simp

theorem Depicts.isNull_iff {t : Tree} {d : Document} (h : Depicts t d) :
    t.isNull = true ↔ d = .null := by
  cases h <;> simp [Tree.isNull]

/-- The schemas of which nothing but scalars is read. -/
def Schema.isScalar : {α : Type} → Schema α → Bool
  | _, .string | _, .bool | _, .uint16 | _, .uint64 | _, .int64 | _, .spelled _ _ _ => true
  | _, _ => false

namespace Tree

/-- The scalar of a value without parts. -/
def scalarOf : Json → Scalar
  | .bool b => .bool b
  | .number n => .number (.ok n)
  | .string s => .string (.ok s)
  | _ => .null

theorem scalar_of_content {t : Tree} {v : Json} (h : t.content? = some v) :
    ∃ start stop, t = .scalar start (scalarOf v) stop := by
  cases t with
  | array _ _ _ | object _ _ _ | broken _ _ => exact absurd h nofun
  | scalar start c stop =>
    refine ⟨start, stop, congrArg (scalar start · stop) ?_⟩
    cases c with
    | null | bool _ =>
      obtain rfl := Option.some.inj h
      rfl
    | number r | string r =>
      cases r with
      | error _ => exact absurd h nofun
      | ok _ =>
        obtain rfl := Option.some.inj h
        rfl

end Tree

section

variable {α : Type} {s : Schema α} {room : Nat} {t t' : Tree} {d d' : Document} {a : α}

/-- A scalar is decoded the same wherever it stands. -/
theorem Schema.decode_of_content (hs : s.isExact = true) {v : Json} (ht : t.content? = some v)
    (ht' : t'.content? = some v) (h : s.decode (.text room) t = .ok a) :
    s.decode (.text room) t' = .ok a := by
  obtain ⟨start, stop, rfl⟩ := Tree.scalar_of_content ht
  obtain ⟨start', stop', rfl⟩ := Tree.scalar_of_content ht'
  have hlike (start : Mark) (stop : Place) :
      (s.decode (.text room) (.scalar start (Tree.scalarOf v) stop)).toOption =
        (s.decode .value (.scalar default (Tree.scalarOf v) default)).toOption :=
    s.toOption_decode hs (.scalar _)
  rw [← toOption_eq_some_iff] at h ⊢
  rw [hlike, ← hlike start stop, h]

/-- Where there is no scalar that can be read, a schema of scalars reads nothing. -/
theorem Schema.decode_of_content_none (hs : s.isScalar = true) (h : t.content? = none) :
    (s.decode (.text room) t).toOption = none := by
  cases s with
  | string | bool | uint16 | uint64 | int64 | spelled _ _ _ =>
    cases t with
    | array _ _ _ | object _ _ _ | broken _ _ => rfl
    | scalar _ c _ =>
      cases c with
      | null | bool _ => exact absurd h nofun
      | number r | string r =>
        cases r with
        | error _ => rfl
        | ok _ => exact absurd h nofun
  | json | float | choice _ _ | option _ | orNull _ _ | list _ | map _ | record _ _ _ _ =>
    exact absurd hs nofun

/-- What is decoded from scalars alone does not depend on the order of members. -/
theorem Schema.decode_of_reorders (hs : s.isExact = true)
    (hother : t.content? = none → (s.decode (.text room) t).toOption = none)
    (ht : Depicts t d) (h : s.decode (.text room) t = .ok a) (hd : d.Reorders d')
    (ht' : Depicts t' d') : s.decode (.text room) t' = .ok a := by
  cases hcontent : t.content? with
  | none =>
    rw [← toOption_eq_some_iff, hother hcontent] at h
    exact absurd h nofun
  | some v =>
    refine s.decode_of_content hs hcontent ?_ h
    rw [ht'.content?_eq, hd.content?_eq, ← ht.content?_eq, hcontent]

end

/-! ## Named cases -/

section

variable {α : Type} {cases : List (String × α)} {room : Nat} {start : Mark} {e : Ending} {a : α}

theorem Tree.named_congr {k : String} {stop : Place} (h : named cases k stop = .ok a)
    (stop' : Place) : named cases k stop' = .ok a := by
  rw [← toOption_eq_some_iff, toOption_named] at h ⊢
  exact h

theorem Tree.exists_of_choice_object {ts : List (Label × Tree)}
    (h : (Tree.object start ts e).choice cases (.text room) = .ok a) :
    ∃ left l v rest k, room = left + 1 ∧ ts = (l, v) :: rest ∧ l.name = .ok k ∧
      named cases k l.stop = .ok a ∧ v.isNull = true ∧ l.after.next = some '\x7d' := by
  simp only [choice] at h
  obtain ⟨inner, henter, hmember⟩ := exists_of_bind_eq_ok h
  obtain ⟨left, rfl, -⟩ := Origin.enter_text_eq_ok henter
  clear h
  cases ts with
  | nil => cases hmember
  | cons m rest =>
    obtain ⟨l, v⟩ := m
    obtain ⟨k, hkey, h⟩ := exists_of_bind_eq_ok hmember
    obtain ⟨a', hnamed, h⟩ := exists_of_bind_eq_ok h
    obtain ⟨⟨⟩, hunit, h⟩ := exists_of_bind_eq_ok h
    have hnull : v.isNull = true := by
      by_contra hnull
      rw [unit, if_neg hnull] at hunit
      cases hunit
    split at h
    · rename_i hafter
      rw [← Except.ok.inj h]
      exact ⟨left, l, v, rest, k, rfl, rfl, mapError_eq_ok_iff.mp hkey, hnamed, hnull, hafter⟩
    · cases h
    · cases h

/-- The one member of an object that names a case has no other place to go. -/
theorem Tree.choice_object_of_reorders {start' bracket bracket' : Mark}
    {ts ts' : List (Label × Tree)} {ms ms₁ ms' : List (Option String × Document)}
    (hts : DepictsMembers ts ms)
    (h : (Tree.object start ts (.closed bracket)).choice cases (.text room) = .ok a)
    (hms : Document.ReordersMembers ms ms₁) (hperm : ms₁.Perm ms') (hts' : DepictsMembers ts' ms') :
    (Tree.object start' ts' (.closed bracket')).choice cases (.text room) = .ok a := by
  obtain ⟨left, l, v, rest, k, rfl, rfl, hname, hnamed, hnull, hafter⟩ := exists_of_choice_object h
  obtain _ | ⟨rfl, hlast, hv, hrest⟩ := hts
  obtain rfl := hlast.mp hafter
  obtain ⟨⟩ := hrest
  obtain rfl := hv.isNull_iff.mp hnull
  obtain _ | ⟨⟨⟩, ⟨⟩⟩ := hms
  obtain rfl := List.singleton_perm.mp hperm
  obtain _ | ⟨hname', hlast', hv', hrest'⟩ := hts'
  obtain ⟨⟩ := hrest'
  rename_i l' v'
  have hkey : l'.key = .ok k := by
    rw [hname] at hname'
    exact key_of_name (toOption_eq_some_iff.mp hname')
  have hunit : v'.unit = .ok () := if_pos (hv'.isNull_iff.mpr rfl)
  simp only [choice, Origin.enter, hkey, named_congr hnamed, hunit, hlast'.mpr rfl, bind,
    Except.bind]

end

theorem Schema.decode_choice_of_reorders {α : Type} {cases : List (String × α)} {name : α → String}
    {room : Nat} {t t' : Tree} {d d' : Document} {a : α} (ht : Depicts t d)
    (h : (Schema.choice cases name).decode (.text room) t = .ok a) (hd : d.Reorders d')
    (ht' : Depicts t' d') : (Schema.choice cases name).decode (.text room) t' = .ok a := by
  have hmove := hd
  cases hd with
  | object hms hperm =>
    obtain ⟨_, ts, _, rfl, hts⟩ := ht.exists_object
    obtain ⟨_, ts', _, rfl, hts'⟩ := ht'.exists_object
    exact Tree.choice_object_of_reorders hts h hms hperm hts'
  | null | bool b | array _ =>
    refine Schema.decode_of_reorders rfl (fun _ => ?_) ht h hmove ht'
    cases ht
    rfl
  | number n | string s =>
    refine Schema.decode_of_reorders rfl (fun hcontent => ?_) ht h hmove ht'
    cases ht
    rename_i r _
    cases r with
    | error f => rfl
    | ok v => exact absurd hcontent nofun

/-! ## Lists of members -/

theorem Document.distinctMembers_iff {ms : List (Option String × Document)} :
    DistinctMembers ms ↔ ∀ m ∈ ms, m.2.Distinct := by
  induction ms with
  | nil => exact iff_of_true trivial fun m hm => absurd hm List.not_mem_nil
  | cons m ms ih => rw [DistinctMembers, ih, List.forall_mem_cons]

/-- Two trees of documents without repeated names, of which the second is a rearrangement of the
first. -/
def Schema.Moves {α : Type} (s : Schema α) (t t' : Tree) : Prop :=
  ∃ d d', Depicts t d ∧ d.Distinct ∧ s.Rearranges d d' ∧ Depicts t' d'

theorem forall₂_moves {α : Type} {s : Schema α} {ts ts' : List Tree} {ds ds' : List Document}
    (hts : DepictsItems ts ds) (hdistinct : Document.DistinctItems ds)
    (hmoved : List.Forall₂ s.Rearranges ds ds') (hts' : DepictsItems ts' ds') :
    List.Forall₂ s.Moves ts ts' := by
  induction hmoved generalizing ts ts' with
  | nil =>
    obtain ⟨⟩ := hts
    obtain ⟨⟩ := hts'
    exact .nil
  | cons hd _ ih =>
    obtain _ | ⟨ht, hts⟩ := hts
    obtain _ | ⟨ht', hts'⟩ := hts'
    exact .cons ⟨_, _, ht, hdistinct.1, hd, ht'⟩ (ih hts hdistinct.2 hts')

theorem forall₂_of_moves {τ α : Type} {R : τ → τ → Prop} {P : τ → α → Prop}
    (hP : ∀ t t' a, R t t' → P t a → P t' a) {ts ts' : List τ} {as : List α}
    (hts : List.Forall₂ R ts ts') (h : List.Forall₂ P ts as) : List.Forall₂ P ts' as := by
  induction hts generalizing as with
  | nil => exact h
  | cons hR _ ih =>
    obtain _ | ⟨hP₁, h⟩ := h
    exact .cons (hP _ _ _ hR hP₁) (ih h)

/-- Members are moved as the relation of their documents has it. -/
def MovesMember (R : Option String × Document → Option String × Document → Prop)
    (m m' : Label × Tree) : Prop :=
  ∃ n n', DepictsMember m n ∧ n.2.Distinct ∧ R n n' ∧ DepictsMember m' n'

theorem forall₂_movesMember {R : Option String × Document → Option String × Document → Prop}
    {ts ts₁ : List (Label × Tree)} {ms ms₁ : List (Option String × Document)}
    (hts : List.Forall₂ DepictsMember ts ms) (hdistinct : ∀ m ∈ ms, m.2.Distinct)
    (hmoved : List.Forall₂ R ms ms₁) (hts₁ : List.Forall₂ DepictsMember ts₁ ms₁) :
    List.Forall₂ (MovesMember R) ts ts₁ := by
  induction hts generalizing ms₁ ts₁ with
  | nil =>
    obtain ⟨⟩ := hmoved
    obtain ⟨⟩ := hts₁
    exact .nil
  | cons h _ ih =>
    obtain _ | ⟨hmember, hmoved⟩ := hmoved
    obtain _ | ⟨h₁, hts₁⟩ := hts₁
    rw [List.forall_mem_cons] at hdistinct
    exact .cons ⟨_, _, h, hdistinct.1, hmember, h₁⟩ (ih hdistinct.2 hmoved hts₁)

theorem exists_moved {R : Option String × Document → Option String × Document → Prop}
    {ts ts' : List (Label × Tree)} {ms ms₁ further ms' : List (Option String × Document)}
    (hts : DepictsMembers ts ms) (hdistinct : Document.DistinctMembers ms)
    (hmoved : List.Forall₂ R ms ms₁) (hperm : (ms₁ ++ further).Perm ms')
    (hts' : DepictsMembers ts' ms') :
    ∃ ts₁ added, List.Forall₂ (MovesMember R) ts ts₁ ∧ List.Forall₂ DepictsMember added further ∧
      (ts₁ ++ added).Perm ts' := by
  obtain ⟨all, hall, hallperm⟩ :=
    List.perm_comp_forall₂ hperm (depictsMembers_forall₂ hts').flip
  refine ⟨all.take ms₁.length, all.drop ms₁.length, ?_,
    List.forall₂_drop_append all ms₁ further hall.flip, ?_⟩
  · exact forall₂_movesMember (depictsMembers_forall₂ hts)
      (Document.distinctMembers_iff.mp hdistinct) hmoved
      (List.forall₂_take_append all ms₁ further hall.flip)
  · rw [List.take_append_drop]
    exact hallperm

/-! ## What a schema makes of a rearrangement -/

theorem Schema.rearranges_null_iff : {α : Type} → (s : Schema α) → {d d' : Document} →
    s.Rearranges d d' → (d = .null ↔ d' = .null)
  | _, .json, _, _, h => h.null_iff
  | _, .string, _, _, h => h.null_iff
  | _, .bool, _, _, h => h.null_iff
  | _, .uint16, _, _, h => h.null_iff
  | _, .uint64, _, _, h => h.null_iff
  | _, .int64, _, _, h => h.null_iff
  | _, .float, _, _, h => h.null_iff
  | _, .spelled _ _ _, _, _, h => h.null_iff
  | _, .choice _ _, _, _, h => h.null_iff
  | _, .option inner, _, _, h => by
    rcases h with ⟨hd, hd'⟩ | h
    · exact iff_of_true hd hd'
    · exact inner.rearranges_null_iff h
  | _, .orNull _ inner, _, _, h => by
    rcases h with ⟨hd, hd'⟩ | h
    · exact iff_of_true hd hd'
    · exact inner.rearranges_null_iff h
  | _, .list _, _, _, h => by
    obtain ⟨_, _, rfl, rfl, _⟩ := h
    exact iff_of_false nofun nofun
  | _, .map _, _, _, h => by
    obtain ⟨_, _, _, rfl, rfl, _⟩ := h
    exact iff_of_false nofun nofun
  | _, .record _ _ _ _, _, _, h => by
    rcases h with ⟨_, _, _, _, rfl, rfl, _⟩ | ⟨_, _, rfl, rfl, _⟩
    · exact iff_of_false nofun nofun
    · exact iff_of_false nofun nofun

theorem Schema.Moves.isNull_iff {α : Type} {s : Schema α} {t t' : Tree} (h : s.Moves t t') :
    t.isNull = true ↔ t'.isNull = true := by
  obtain ⟨d, d', ht, -, hmove, ht'⟩ := h
  rw [ht.isNull_iff, ht'.isNull_iff]
  exact s.rearranges_null_iff hmove

/-- What is not null is moved as the schema beneath has it. -/
theorem Schema.Moves.of_not_null {α : Type} {inner : Schema α} {t t' : Tree}
    (h : (Schema.option inner).Moves t t') (hnull : ¬t.isNull = true) : inner.Moves t t' := by
  obtain ⟨d, d', ht, hdistinct, hmove, ht'⟩ := h
  refine ⟨d, d', ht, hdistinct, hmove.resolve_left fun hboth => ?_, ht'⟩
  exact hnull (ht.isNull_iff.mpr hboth.1)

/-- The keys of a map's members are those of its document. -/
theorem keys_eq_of_depicts {α : Type} {item : Tree → Except DecodeError α}
    {ts : List (Label × Tree)} {ms : List (Option String × Document)} {es : List (String × α)}
    (hts : DepictsMembers ts ms)
    (hes : List.Forall₂ (fun m e => m.1.name = .ok e.1 ∧ item m.2 = .ok e.2) ts es) :
    ms.filterMap Prod.fst = es.map Prod.fst := by
  induction hes generalizing ms with
  | nil =>
    obtain ⟨⟩ := hts
    rfl
  | cons he _ ih =>
    obtain _ | ⟨hl, -, -, hrest⟩ := hts
    rw [he.1] at hl
    rw [List.filterMap_cons_some hl.symm, List.map_cons, ih hrest]

/-- The members of a map stay its members. -/
theorem exists_members_of_moves {α : Type} {s : Schema α} {P : Tree → α → Prop}
    (hP : ∀ t t' a, s.Moves t t' → P t a → P t' a) {ts ts' : List (Label × Tree)}
    {ms ms₁ ms' : List (Option String × Document)} {es : List (String × α)}
    (hts : DepictsMembers ts ms) (hdistinct : Document.DistinctMembers ms)
    (hmove : List.Forall₂ (fun m m₁ => m.1 = m₁.1 ∧ s.Rearranges m.2 m₁.2) ms ms₁)
    (hperm : ms₁.Perm ms') (hts' : DepictsMembers ts' ms')
    (hes : List.Forall₂ (fun m e => m.1.name = .ok e.1 ∧ P m.2 e.2) ts es) :
    ∃ es', List.Forall₂ (fun m e => m.1.name = .ok e.1 ∧ P m.2 e.2) ts' es' ∧ es'.Perm es := by
  rw [← List.append_nil ms₁] at hperm
  obtain ⟨ts₁, added, hmoved, hadded, hall⟩ := exists_moved hts hdistinct hmove hperm hts'
  rw [List.forall₂_nil_right_iff.mp hadded, List.append_nil] at hall
  refine List.perm_comp_forall₂ hall.symm (forall₂_of_moves ?_ hmoved hes)
  rintro m m₁ e ⟨n, n₁, ⟨hname, ht⟩, hdistinct, ⟨hkey, hmove⟩, ⟨hname₁, ht₁⟩⟩ ⟨hlabel, he⟩
  refine ⟨?_, hP _ _ _ ⟨n.2, n₁.2, ht, hdistinct, hmove, ht₁⟩ he⟩
  rw [← toOption_eq_some_iff, hname₁, ← hkey, ← hname, hlabel]
  rfl

section

variable {α γ σ : Type} {name : String} {aliases : List String} {schema : Schema α}
  {absent : Option α} {hidden : α → Bool} {rest : Fields γ σ}

/-- The members of the first field are moved as its schema has it, and the others as the later
fields have it. -/
theorem Fields.moves_filter {ts ts₁ : List (Label × Tree)}
    (h : List.Forall₂
      (MovesMember (Fields.cons name aliases schema absent hidden rest).RearrangesMember) ts ts₁) :
    List.Forall₂ (fun m m₁ => schema.Moves m.2 m₁.2) (ts.filter (Label.answers name aliases))
        (ts₁.filter (Label.answers name aliases)) ∧
      List.Forall₂ (MovesMember rest.RearrangesMember)
        (ts.filter fun m => !Label.answers name aliases m)
        (ts₁.filter fun m => !Label.answers name aliases m) := by
  refine forall₂_filter ?_ h
  rintro m m₁ ⟨n, n₁, ⟨hname, ht⟩, hdistinct, hmove, ⟨hname₁, ht₁⟩⟩
  rw [Label.answers, Label.answers, hname, hname₁]
  rcases hmove with ⟨hown, hown₁, hmove⟩ | ⟨hother, hother₁, hmove⟩
  · exact .inl ⟨hown, hown₁, n.2, n₁.2, ht, hdistinct, hmove, ht₁⟩
  · exact .inr ⟨hother, hother₁, n, n₁, ⟨hname, ht⟩, hdistinct, hmove, hname₁, ht₁⟩

/-- Another member of a record, which is skipped. -/
def Fields.Skips {γ σ : Type} (fields : Fields γ σ) (m : Label × Tree) : Prop :=
  (∃ k, m.1.name = .ok k ∧ fields.Unknown k) ∧ m.2.skim = .ok ()

theorem skips_of_depicts {fields : Fields γ σ} {ts : List (Label × Tree)}
    {ms : List (Option String × Document)} (hts : List.Forall₂ DepictsMember ts ms)
    (hms : ∀ m ∈ ms, ∃ k, m.1 = some k ∧ fields.Unknown k) : ∀ m ∈ ts, fields.Skips m := by
  intro t ht
  obtain ⟨m, hm, hname, hdepicts⟩ := exists_mem_of_forall₂ hts.flip ht
  obtain ⟨k, hk, hunknown⟩ := hms m hm
  exact ⟨⟨k, toOption_eq_some_iff.mp (hname.trans hk), hunknown⟩, Reader.skim_of_depicts hdepicts⟩

theorem Fields.answers_of_skips {m : Label × Tree}
    (h : (Fields.cons name aliases schema absent hidden rest).Skips m) :
    Label.answers name aliases m = false ∧ rest.Skips m := by
  obtain ⟨⟨k, hname, hk⟩, hskim⟩ := h
  refine ⟨?_, ⟨k, hname, hk.2.2⟩, hskim⟩
  rw [Label.answers, hname, Bool.eq_false_iff]
  exact fun h => (answers_some_iff.mp h).elim hk.1 hk.2.1

/-- What a field takes of one member at most it takes of that member wherever it stands. -/
theorem Schema.fills_of_moves {o : Origin}
    {ts ts₁ ts' : List (Label × Tree)} {slot : Option α}
    (hdecode : ∀ t t' a, schema.Moves t t' → schema.decode o t = .ok a → schema.decode o t' = .ok a)
    (hts : List.Forall₂ (fun m m₁ => schema.Moves m.2 m₁.2) ts ts₁) (hperm : ts₁.Perm ts')
    (h : schema.Fills o none ts slot) : schema.Fills o none ts' slot := by
  cases h with
  | none =>
    obtain ⟨⟩ := hts
    rw [List.nil_perm.mp hperm]
    exact .none _
  | one h =>
    obtain _ | ⟨hm, ⟨⟩⟩ := hts
    rw [← List.singleton_perm.mp hperm]
    exact .one (hdecode _ _ _ hm h)

end

mutual

/-- What a text is decoded as, its rearrangements are decoded as. -/
theorem Schema.decode_of_moves : {α : Type} → (s : Schema α) → s.isExact = true → {room : Nat} →
    {t t' : Tree} → {a : α} → s.Moves t t' → s.decode (.text room) t = .ok a →
    s.decode (.text room) t' = .ok a
  | _, .json, hs, _, _, _, _, _, _ => Bool.noConfusion hs
  | _, .string, hs, _, _, _, _, ⟨_, _, ht, _, hmove, ht'⟩, h =>
    Schema.decode_of_reorders hs (Schema.decode_of_content_none rfl) ht h hmove ht'
  | _, .bool, hs, _, _, _, _, ⟨_, _, ht, _, hmove, ht'⟩, h =>
    Schema.decode_of_reorders hs (Schema.decode_of_content_none rfl) ht h hmove ht'
  | _, .uint16, hs, _, _, _, _, ⟨_, _, ht, _, hmove, ht'⟩, h =>
    Schema.decode_of_reorders hs (Schema.decode_of_content_none rfl) ht h hmove ht'
  | _, .uint64, hs, _, _, _, _, ⟨_, _, ht, _, hmove, ht'⟩, h =>
    Schema.decode_of_reorders hs (Schema.decode_of_content_none rfl) ht h hmove ht'
  | _, .int64, hs, _, _, _, _, ⟨_, _, ht, _, hmove, ht'⟩, h =>
    Schema.decode_of_reorders hs (Schema.decode_of_content_none rfl) ht h hmove ht'
  | _, .float, hs, _, _, _, _, _, _ => Bool.noConfusion hs
  | _, .spelled _ _ _, hs, _, _, _, _, ⟨_, _, ht, _, hmove, ht'⟩, h =>
    Schema.decode_of_reorders hs (Schema.decode_of_content_none rfl) ht h hmove ht'
  | _, .choice _ _, _, _, _, _, _, ⟨_, _, ht, _, hmove, ht'⟩, h =>
    Schema.decode_choice_of_reorders ht h hmove ht'
  | _, .option inner, hs, _, t, t', _, hmoves, h => by
    rw [Schema.decode] at h ⊢
    by_cases hnull : t.isNull = true
    · rw [if_pos hnull] at h
      rw [if_pos (hmoves.isNull_iff.mp hnull)]
      exact h
    · rw [if_neg hnull] at h
      rw [if_neg (mt hmoves.isNull_iff.mpr hnull)]
      obtain ⟨a, ha, rfl⟩ := exists_of_map_eq_ok h
      rw [inner.decode_of_moves hs (hmoves.of_not_null hnull) ha]
      rfl
  | _, .orNull _ inner, hs, _, t, t', _, hmoves, h => by
    have hmoves : (Schema.option inner).Moves t t' := hmoves
    rw [Schema.decode] at h ⊢
    by_cases hnull : t.isNull = true
    · rw [if_pos hnull] at h
      rw [if_pos (hmoves.isNull_iff.mp hnull)]
      exact h
    · rw [if_neg hnull] at h
      rw [if_neg (mt hmoves.isNull_iff.mpr hnull)]
      exact inner.decode_of_moves hs (hmoves.of_not_null hnull) h
  | _, .list inner, hs, _, _, _, _, ⟨_, _, ht, hdistinct, hmove, ht'⟩, h => by
    obtain ⟨ds, ds', rfl, rfl, hmove⟩ := hmove
    obtain ⟨_, ts, _, rfl, hts⟩ := ht.exists_array
    obtain ⟨_, ts', _, rfl, hts'⟩ := ht'.exists_array
    obtain ⟨o, henter, has⟩ := Schema.decode_list_iff.mp h
    obtain ⟨left, rfl, rfl⟩ := Origin.enter_text_eq_ok henter
    refine Schema.decode_list_iff.mpr ⟨.text left, rfl, ?_⟩
    exact forall₂_of_moves (P := fun t a => inner.decode (.text left) t = .ok a)
      (fun _ _ _ hmoves => inner.decode_of_moves hs hmoves)
      (forall₂_moves hts hdistinct hmove hts') has
  | _, .map inner, hs, _, _, _, _, ⟨_, _, ht, hdistinct, hmove, ht'⟩, h => by
    obtain ⟨ms, ms₁, ms', rfl, rfl, hmove, hperm⟩ := hmove
    obtain ⟨_, ts, _, rfl, hts⟩ := ht.exists_object
    obtain ⟨_, ts', _, rfl, hts'⟩ := ht'.exists_object
    obtain ⟨o, es, henter, hes, rfl⟩ := Schema.decode_map_iff.mp h
    obtain ⟨left, rfl, rfl⟩ := Origin.enter_text_eq_ok henter
    have hkeys : (es.map Prod.fst).Nodup := keys_eq_of_depicts hts hes ▸ hdistinct.1
    obtain ⟨es', hes', hesperm⟩ := exists_members_of_moves
      (P := fun t a => inner.decode (.text left) t = .ok a)
      (fun _ _ _ hmoves => inner.decode_of_moves hs hmoves) hts hdistinct.2 hmove hperm hts' hes
    refine Schema.decode_map_iff.mpr ⟨.text left, es', rfl, hes', Dictionary.ofList_of_perm ?_⟩
    exact hesperm.trans (Dictionary.entries_ofList_perm hkeys).symm
  | _, .record _ fields _ _, hs, _, _, _, _, ⟨_, _, ht, hdistinct, hmove, ht'⟩, h => by
    rcases hmove with ⟨ms, ms₁, further, ms', rfl, rfl, hmove, hfurther, hperm⟩ |
      ⟨ds, ds', rfl, rfl, hmove⟩
    · obtain ⟨_, ts, _, rfl, hts⟩ := ht.exists_object
      obtain ⟨_, ts', _, rfl, hts'⟩ := ht'.exists_object
      obtain ⟨o, taken, henter, htakes, rfl⟩ := Schema.decode_record_object_iff.mp h
      obtain ⟨left, rfl, rfl⟩ := Origin.enter_text_eq_ok henter
      obtain ⟨ts₁, added, hmoved, hadded, hall⟩ := exists_moved hts hdistinct.2 hmove hperm hts'
      refine Schema.decode_record_object_iff.mpr ⟨.text left, taken, rfl, ?_, rfl⟩
      exact fields.takes_of_moves hs hmoved (skips_of_depicts hadded hfurther) hall htakes
    · obtain ⟨_, ts, _, rfl, hts⟩ := ht.exists_array
      obtain ⟨_, ts', _, rfl, hts'⟩ := ht'.exists_array
      obtain ⟨o, taken, henter, htaken, rfl⟩ := Schema.decode_record_array_iff.mp h
      obtain ⟨left, rfl, rfl⟩ := Origin.enter_text_eq_ok henter
      exact Schema.decode_record_array_iff.mpr ⟨.text left, taken, rfl,
        fields.taken_of_moves hs hts hdistinct hmove hts' htaken, rfl⟩

theorem Fields.takes_of_moves : {γ σ : Type} → (fields : Fields γ σ) → fields.isExact = true →
    {room : Nat} → {ts ts₁ added ts' : List (Label × Tree)} → {parts : γ} →
    List.Forall₂ (MovesMember fields.RearrangesMember) ts ts₁ → (∀ m ∈ added, fields.Skips m) →
    (ts₁ ++ added).Perm ts' → fields.Takes (.text room) ts parts →
    fields.Takes (.text room) ts' parts
  | _, _, .nil, _, _, _, _, _, _, _, hmoved, hadded, hperm, h => by
    intro m hm
    rcases List.mem_append.mp (hperm.mem_iff.mpr hm) with hm | hm
    · obtain ⟨x, hx, n, n₁, ⟨hname, -⟩, -, ⟨hkey, -⟩, hname₁, ht₁⟩ :=
        exists_mem_of_forall₂ hmoved hm
      obtain ⟨⟨k, hk⟩, -⟩ := h x hx
      refine ⟨⟨k, ?_⟩, Reader.skim_of_depicts ht₁⟩
      rw [← toOption_eq_some_iff, hname₁, ← hkey, ← hname, hk]
      rfl
    · obtain ⟨⟨k, hk, -⟩, hskim⟩ := hadded m hm
      exact ⟨⟨k, hk⟩, hskim⟩
  | _, _, .cons name aliases schema _ _ rest, hs, room, ts, ts₁, added, ts', (a, more), hmoved,
      hadded, hperm, h => by
    obtain ⟨⟨slot, hslot, hvalue⟩, hmore⟩ := h
    obtain ⟨hschema, hrest⟩ := Bool.and_eq_true_iff.mp hs
    obtain ⟨hown, hothers⟩ := Fields.moves_filter hmoved
    have hskips := fun m hm => Fields.answers_of_skips (hadded m hm)
    have hnone : added.filter (Label.answers name aliases) = [] :=
      List.filter_eq_nil_iff.mpr fun m hm => Bool.eq_false_iff.mp (hskips m hm).1
    have hall : added.filter (fun m => !Label.answers name aliases m) = added :=
      List.filter_eq_self.mpr fun m hm => by rw [(hskips m hm).1, Bool.not_false]
    have hownPerm := hperm.filter (Label.answers name aliases)
    have hothersPerm := hperm.filter fun m => !Label.answers name aliases m
    rw [List.filter_append, hnone, List.append_nil] at hownPerm
    rw [List.filter_append, hall] at hothersPerm
    exact ⟨⟨slot, Schema.fills_of_moves (fun _ _ _ => schema.decode_of_moves hschema) hown hownPerm
      hslot, hvalue⟩, rest.takes_of_moves hrest hothers (fun m hm => (hskips m hm).2) hothersPerm
      hmore⟩

theorem Fields.taken_of_moves : {γ σ : Type} → (fields : Fields γ σ) → fields.isExact = true →
    {room : Nat} → {ts ts' : List Tree} → {ds ds' : List Document} →
    {short short' : Nat → DecodeError} → {bracket bracket' : Mark} → {i : Nat} → {r : γ × Nat} →
    DepictsItems ts ds → Document.DistinctItems ds → fields.RearrangesItems ds ds' →
    DepictsItems ts' ds' → fields.taken (.text room) short bracket i ts = some r →
    fields.taken (.text room) short' bracket' i ts' = some r
  | _, _, .nil, _, _, _, _, _, _, _, _, _, _, _, _, hts, _, hmove, hts', h => by
    have hlength := (depictsItems_forall₂ hts).length_eq
    have hlength' := (depictsItems_forall₂ hts').length_eq
    rw [← h]
    show some ((), _) = some ((), _)
    rw [hlength, hlength', hmove.length_eq]
  | _, _, .cons _ _ schema _ _ rest, hs, room, _, _, _, _, short, _, bracket, _, i, _, hts,
      hdistinct, hmove, hts', h => by
    obtain ⟨hschema, hrest⟩ := Bool.and_eq_true_iff.mp hs
    rcases hmove with ⟨rfl, rfl⟩ | ⟨d, d', left, left', rfl, rfl, hfirst, hmove⟩
    · obtain ⟨⟩ := hts
      obtain ⟨⟩ := hts'
      have hempty : ∀ short' bracket', rest.taken (.text room) short' bracket' (i + 1) [] =
          rest.taken .value short bracket (i + 1) [] := fun _ _ => rest.taken_eq hrest .nil
      rw [Fields.taken_absent, hempty] at h ⊢
      exact h
    · obtain _ | ⟨ht, hts⟩ := hts
      obtain _ | ⟨ht', hts'⟩ := hts'
      rw [Fields.taken_cons] at h ⊢
      obtain ⟨a, ha, h⟩ := Option.bind_eq_some_iff.mp h
      obtain ⟨r', hr', hr⟩ := Option.map_eq_some_iff.mp h
      have hdecode := schema.decode_of_moves hschema ⟨d, d', ht, hdistinct.1, hfirst, ht'⟩
        (toOption_eq_some_iff.mp ha)
      rw [hdecode, toOption_ok, Option.bind_some,
        rest.taken_of_moves hrest hts hdistinct.2 hmove hts' hr', ← hr]
      rfl

end

/-- A record's object with some of its members changed and further ones added. -/
theorem Schema.rearranges_ofJson_object {α γ σ : Type} {expected : String} {fields : Fields γ σ}
    {make : γ → α} {parts : α → γ} {ms ms' : List (String × Json)}
    (ms₁ further : List (String × Json))
    (hms : List.Forall₂ fields.RearrangesMember (Document.ofMembers ms) (Document.ofMembers ms₁))
    (hfurther : ∀ m ∈ further, fields.Unknown m.1) (hperm : (ms₁ ++ further).Perm ms') :
    (Schema.record expected fields make parts).Rearranges (.ofJson (.object ms))
      (.ofJson (.object ms')) := by
  refine .inl ⟨_, _, Document.ofMembers further, _, rfl, rfl, hms, fun m hm => ?_, ?_⟩
  · rw [Document.ofMembers_eq] at hm
    obtain ⟨n, hn, rfl⟩ := List.mem_map.mp hm
    exact ⟨n.1, rfl, hfurther n hn⟩
  · simp only [Document.ofMembers_eq, ← List.map_append]
    exact hperm.map _

/-- A text without repeated names is decoded as it is from any text that arranges it otherwise. -/
theorem Schema.ofText_of_rearranges {α : Type} {s : Schema α} (hs : s.isExact = true)
    {text text' : String} {d d' : Document} (htext : IsDocument text d) (hdistinct : d.Distinct)
    {a : α} (h : s.ofText text = .ok a) (hmove : s.Rearranges d d') (htext' : IsDocument text' d') :
    s.ofText text' = .ok a := by
  obtain ⟨t, behind, htree, ht, -⟩ := htext.depicts
  obtain ⟨_, _, htree₁, hdecode, -⟩ := Schema.ofText_eq_ok_iff.mp h
  obtain ⟨rfl, rfl⟩ := Prod.mk.inj (htree.symm.trans htree₁)
  exact Schema.ofText_of_isDocument htext' fun t' ht' =>
    s.decode_of_moves hs ⟨d, d', ht, hdistinct, hmove, ht'⟩ hdecode

end Json
end SdkShelf
