import Mathlib.Data.List.Perm.Basic
import SdkShelf.Proofs.Json.Faithful
import SdkShelf.Proofs.Json.Reader

/-!
# Decoding undoes encoding

A value is read back from every tree that holds its layout, in whatever order the members of the
objects stand.  So it is read back from the text with the members in field order, from the text with
the members in key order, and from the JSON value itself.
-/

namespace SdkShelf
namespace Json

/-- So many containers may still be opened. -/
def Origin.HasRoom : Origin → Nat → Prop
  | .text room, n => n ≤ room
  | .value, _ => True

namespace Origin

theorem HasRoom.mono {o : Origin} {m n : Nat} (h : o.HasRoom n) (hmn : m ≤ n) : o.HasRoom m := by
  cases o with
  | text room => exact Nat.le_trans hmn h
  | value => trivial

theorem enter_of_hasRoom {o : Origin} {n : Nat} (h : o.HasRoom (n + 1)) (start : Mark) :
    ∃ inner, o.enter start = .ok inner ∧ inner.HasRoom n := by
  cases o with
  | text room =>
    cases room with
    | zero => exact absurd h (Nat.not_succ_le_zero n)
    | succ room => exact ⟨.text room, rfl, Nat.le_of_succ_le_succ h⟩
  | value => exact ⟨.value, rfl, trivial⟩

end Origin

/-! ## Scalars and their canonical forms -/

theorem eq_null_of_canonical {v : Json} (h : v.canonical = .null) : v = .null := by
  cases v <;> simp_all [canonical]

theorem eq_bool_of_canonical {v : Json} {b : Bool} (h : v.canonical = .bool b) : v = .bool b := by
  cases v <;> simp_all [canonical]

theorem eq_number_of_canonical {v : Json} {n : Number} (h : v.canonical = .number n) :
    v = .number n := by
  cases v <;> simp_all [canonical]

theorem eq_string_of_canonical {v : Json} {s : String} (h : v.canonical = .string s) :
    v = .string s := by
  cases v <;> simp_all [canonical]

theorem eq_array_of_canonical {v : Json} {items : List Json}
    (h : v.canonical = (Json.array items).canonical) :
    ∃ vs, v = .array vs ∧ vs.map canonical = items.map canonical := by
  rw [canonical_array] at h
  cases v <;> simp_all [canonical, canonicalItems_eq]

theorem eq_object_of_canonical {v : Json} {members : List (String × Json)}
    (h : v.canonical = (Json.object members).canonical) : ∃ ms, v = .object ms := by
  cases v <;> simp_all [canonical]

namespace Tree

/-- A tree is read as the value that it holds. -/
theorem read_of_holds {v : Json} (hv : v.Plain) {o : Origin} (ho : o.HasRoom v.depth) {t : Tree}
    (ht : t.Holds v) : t.read o = .ok v := by
  induction v using byParts generalizing o t with
  | null =>
    obtain ⟨start, stop, rfl⟩ := holds_null ht
    rfl
  | bool b =>
    obtain ⟨start, stop, rfl⟩ := holds_bool ht
    rfl
  | number n =>
    cases n with
    | int i hi =>
      obtain ⟨start, stop, rfl⟩ := holds_int ht
      rfl
    | float x => exact absurd hv (by simp [Plain, Every, PlainNode, Number.isInt])
  | string s =>
    obtain ⟨start, stop, rfl⟩ := holds_string ht
    rfl
  | array vs ih =>
    obtain ⟨start, items, bracket, rfl, hitems⟩ := holds_array ht
    obtain ⟨inner, henter, hroom⟩ := Origin.enter_of_hasRoom ho start
    have hread : readItems inner items = .ok vs := by
      rw [plain_array] at hv
      replace hroom : ∀ w ∈ vs, inner.HasRoom w.depth := fun w hw =>
        hroom.mono (depthItems_le_iff.mp (Nat.le_refl _) w hw)
      clear ho ht
      induction hitems with
      | nil => rfl
      | @cons t w ts ws htw hts ihs =>
        rw [List.forall_mem_cons] at hv hroom ih
        simp only [readItems, ih.1 hv.1 hroom.1 htw, ihs ih.2 hv.2 hroom.2]
        rfl
    simp only [read, henter, bind, Except.bind, hread]
    rfl
  | object ms ih =>
    obtain ⟨start, members, bracket, rfl, hmembers⟩ := holds_object ht
    obtain ⟨inner, henter, hroom⟩ := Origin.enter_of_hasRoom ho start
    have hread : readMembers inner members = .ok ms := by
      replace hv := (plain_object.mp hv).2
      replace hroom : ∀ m ∈ ms, inner.HasRoom m.2.depth := fun m hm =>
        hroom.mono (depthMembers_le_iff.mp (Nat.le_refl _) m hm)
      clear ho ht
      induction hmembers with
      | nil => rfl
      | @cons m n ts ns hmn hts ihs =>
        rw [List.forall_mem_cons] at hv hroom ih
        simp only [readMembers, Label.key, hmn.1, ih.1 hv.1 hroom.1 hmn.2,
          ihs ih.2 hv.2 hroom.2]
        rfl
    simp only [read, henter, bind, Except.bind, hread]
    rfl

/-! ## Lists and maps -/

variable {α : Type}

theorem eachItem_of_holds {item : Tree → Except DecodeError α} {f : α → Json} {ts : List Tree}
    {vs : List Json} {as : List α} (hts : List.Forall₂ Holds ts vs)
    (heq : vs.map canonical = as.map f)
    (hitem : ∀ t, ∀ v ∈ vs, ∀ a ∈ as, t.Holds v → v.canonical = f a → item t = .ok a) :
    eachItem item ts = .ok as := by
  induction hts generalizing as with
  | nil =>
    cases as with
    | nil => rfl
    | cons a as => exact absurd heq (by simp)
  | @cons t v ts vs ht hts ih =>
    cases as with
    | nil => exact absurd heq (by simp)
    | cons a as =>
      rw [List.map_cons, List.map_cons, List.cons.injEq] at heq
      have hhead := hitem t v List.mem_cons_self a List.mem_cons_self ht heq.1
      have htail := ih heq.2 fun t v hv a ha =>
        hitem t v (List.mem_cons_of_mem _ hv) a (List.mem_cons_of_mem _ ha)
      simp only [eachItem, hhead, htail]
      rfl

theorem eachMember_of_holds {item : Tree → Except DecodeError α} {f : α → Json}
    {ts : List (Label × Tree)} {ms : List (String × Json)} {es : List (String × α)}
    (hts : List.Forall₂ HoldsMember ts ms)
    (heq : ms.map canonicalMember = es.map fun e => (e.1, f e.2))
    (hitem : ∀ t, ∀ m ∈ ms, ∀ e ∈ es, t.Holds m.2 → m.2.canonical = f e.2 →
      item t = .ok e.2) :
    eachMember item ts = .ok es := by
  induction hts generalizing es with
  | nil =>
    cases es with
    | nil => rfl
    | cons e es => exact absurd heq (by simp)
  | @cons t m ts ms ht hts ih =>
    cases es with
    | nil => exact absurd heq (by simp)
    | cons e es =>
      rw [List.map_cons, List.map_cons, List.cons.injEq, canonicalMember, Prod.mk.injEq] at heq
      have hhead := hitem t.2 m List.mem_cons_self e List.mem_cons_self ht.2 heq.1.2
      have htail := ih heq.2 fun t m hm e he =>
        hitem t m (List.mem_cons_of_mem _ hm) e (List.mem_cons_of_mem _ he)
      simp only [eachMember, Label.key, ht.1, hhead, htail, heq.1.1]
      rfl

theorem eachSlot_append {σ : Type} {fill : Label → String → Tree → σ → Except DecodeError σ}
    (xs ys : List (Label × Tree)) (slots : σ) :
    eachSlot fill (xs ++ ys) slots = (eachSlot fill xs slots).bind (eachSlot fill ys) := by
  induction xs generalizing slots with
  | nil => rfl
  | cons x xs ih =>
    rw [List.cons_append, eachSlot, eachSlot]
    cases hkey : x.1.key with
    | error e => rfl
    | ok k =>
      simp only [bind, Except.bind]
      cases hfill : fill x.1 k x.2 slots with
      | error e => rfl
      | ok next => exact ih next

end Tree

/-! ## The slots of a record -/

section

variable {α γ σ : Type} {name : String} {aliases : List String} {schema : Schema α}
  {absent : Option α} {hidden : α → Bool} {rest : Fields γ σ} {o : Origin}

theorem key_of_name {l : Label} {key : String} (h : l.name = .ok key) : l.key = .ok key := by
  rw [Label.key, h]
  rfl

theorem fill_own (l : Label) {key : String} (t : Tree) (slots : σ)
    (h : key = name ∨ key ∈ aliases) :
    (Fields.cons name aliases schema absent hidden rest).fill o l key t (none, slots) =
      (schema.decode o t).map fun a => (some a, slots) := by
  rw [Fields.fill, if_pos h]

theorem fill_other (l : Label) {key : String} (t : Tree) (slot : Option α) (slots : σ)
    (h : key ≠ name ∧ key ∉ aliases) :
    (Fields.cons name aliases schema absent hidden rest).fill o l key t (slot, slots) =
      (rest.fill o l key t slots).map fun more => (slot, more) := by
  cases slot <;> rw [Fields.fill, if_neg (not_or.mpr h)]

theorem fill_own_eq_ok {l : Label} {key : String} {t : Tree} {slot : Option α} {slots : σ}
    {filled : Option α × σ} (h : key = name ∨ key ∈ aliases) :
    (Fields.cons name aliases schema absent hidden rest).fill o l key t (slot, slots) =
        .ok filled ↔
      slot = none ∧ ∃ a, schema.decode o t = .ok a ∧ (some a, slots) = filled := by
  cases slot with
  | some a =>
    rw [Fields.fill, if_pos h]
    exact iff_of_false nofun nofun
  | none =>
    rw [fill_own l t slots h, map_eq_ok_iff, and_iff_right rfl]

theorem fill_other_eq_ok {l : Label} {key : String} {t : Tree} {slot : Option α} {slots : σ}
    {filled : Option α × σ} (h : key ≠ name ∧ key ∉ aliases) :
    (Fields.cons name aliases schema absent hidden rest).fill o l key t (slot, slots) =
        .ok filled ↔
      ∃ more, rest.fill o l key t slots = .ok more ∧ (slot, more) = filled := by
  rw [fill_other l t slot slots h, map_eq_ok_iff]

/-- The first member fills a slot, and the others go on from there. -/
theorem eachSlot_cons_eq_ok {fill : Label → String → Tree → σ → Except DecodeError σ}
    {m : Label × Tree} {ms : List (Label × Tree)} {slots filled : σ} :
    Tree.eachSlot fill (m :: ms) slots = .ok filled ↔
      ∃ k next, m.1.name = .ok k ∧ fill m.1 k m.2 slots = .ok next ∧
        Tree.eachSlot fill ms next = .ok filled := by
  constructor
  · intro h
    obtain ⟨k, hkey, h⟩ := exists_of_bind_eq_ok h
    obtain ⟨next, hfill, h⟩ := exists_of_bind_eq_ok h
    exact ⟨k, next, mapError_eq_ok_iff.mp hkey, hfill, h⟩
  · rintro ⟨k, next, hname, hfill, h⟩
    rw [Tree.eachSlot]
    simp only [key_of_name hname, hfill, bind, Except.bind, h]

/-- Members of later fields leave the slot of the first field as it is. -/
theorem eachSlot_of_others {ts : List (Label × Tree)} {ms : List (String × Json)}
    (hts : List.Forall₂ Tree.HoldsMember ts ms) (hms : ∀ m ∈ ms, m.1 ≠ name ∧ m.1 ∉ aliases)
    {slot : Option α} {slots more : σ} (h : Tree.eachSlot (rest.fill o) ts slots = .ok more) :
    Tree.eachSlot ((Fields.cons name aliases schema absent hidden rest).fill o) ts (slot, slots) =
      .ok (slot, more) := by
  induction hts generalizing slots with
  | nil =>
    injection h with h
    rw [← h]
    rfl
  | @cons t m ts ms ht hts ih =>
    rw [List.forall_mem_cons] at hms
    obtain ⟨k, next, hname, hfill, hnext⟩ := eachSlot_cons_eq_ok.mp h
    obtain rfl := Except.ok.inj (ht.1.symm.trans hname)
    exact eachSlot_cons_eq_ok.mpr ⟨m.1, _, hname,
      (fill_other_eq_ok hms.1).mpr ⟨next, hfill, rfl⟩, ih hms.2 hnext⟩

/-- The member of the first field fills its slot, wherever it stands among the others. -/
theorem eachSlot_of_member {before after : List (Label × Tree)} {ms ns : List (String × Json)}
    {t : Label × Tree} {v : Json} {a : α} (hbefore : List.Forall₂ Tree.HoldsMember before ms)
    (hafter : List.Forall₂ Tree.HoldsMember after ns) (ht : Tree.HoldsMember t (name, v))
    (hms : ∀ m ∈ ms ++ ns, m.1 ≠ name ∧ m.1 ∉ aliases) (ha : schema.decode o t.2 = .ok a)
    {slots more : σ} (h : Tree.eachSlot (rest.fill o) (before ++ after) slots = .ok more) :
    Tree.eachSlot ((Fields.cons name aliases schema absent hidden rest).fill o)
      (before ++ t :: after) (none, slots) = .ok (some a, more) := by
  rw [List.forall_mem_append] at hms
  rw [Tree.eachSlot_append] at h ⊢
  obtain ⟨mid, hmid, hafterMid⟩ := exists_of_bind_eq_ok h
  rw [eachSlot_of_others hbefore hms.1 hmid]
  exact eachSlot_cons_eq_ok.mpr ⟨name, _, ht.1,
    (fill_own_eq_ok (Or.inl rfl)).mpr ⟨rfl, a, ha, rfl⟩,
    eachSlot_of_others hafter hms.2 hafterMid⟩

end

theorem exists_split_of_holdsMember {ts : List (Label × Tree)} {ms ns : List (String × Json)}
    {n : String × Json} (h : List.Forall₂ Tree.HoldsMember ts (ms ++ n :: ns)) :
    ∃ before t after, ts = before ++ t :: after ∧ List.Forall₂ Tree.HoldsMember before ms ∧
      Tree.HoldsMember t n ∧ List.Forall₂ Tree.HoldsMember after ns := by
  obtain ⟨t, after, ht, hafter, hdrop⟩ :=
    List.forall₂_cons_right_iff.mp (List.forall₂_drop_append ts ms (n :: ns) h)
  refine ⟨ts.take ms.length, t, after, ?_, List.forall₂_take_append ts ms (n :: ns) h, ht, hafter⟩
  rw [← hdrop, List.take_append_drop]

/-! ## Values -/

theorem Tree.whole_of_holds {α : Type} {expected : String} {fit : Int → Option α} {a : α} {i : Int}
    {hi : -9223372036854775808 ≤ i ∧ i < 18446744073709551616} {v : Json} {t : Tree}
    (ht : t.Holds v) (heq : v.canonical = .number (.int i hi)) (hfit : fit i = some a) :
    t.whole expected fit = .ok a := by
  obtain rfl := eq_number_of_canonical heq
  obtain ⟨start, stop, rfl⟩ := holds_int ht
  rw [whole, hfit]

theorem fit_uint16 (n : UInt16) :
    (if 0 ≤ (n.toNat : Int) ∧ (n.toNat : Int) < 65536 then some (UInt16.ofNat (n.toNat : Int).toNat)
      else none) = some n := by
  have hn : n.toNat < 65536 := n.toNat_lt
  rw [if_pos (by omega), Int.toNat_natCast, UInt16.ofNat_toNat]

theorem fit_uint64 (n : UInt64) :
    (if 0 ≤ (n.toNat : Int) then some (UInt64.ofNat (n.toNat : Int).toNat) else none) = some n := by
  rw [if_pos (Int.natCast_nonneg _), Int.toNat_natCast, UInt64.ofNat_toNat]

theorem fit_int64 (n : Int64) :
    (if n.toInt < 9223372036854775808 then some (Int64.ofInt n.toInt) else none) = some n := by
  have hn : n.toInt < 9223372036854775808 := n.toInt_lt
  rw [if_pos hn, Int64.ofInt_toInt]

theorem exists_map_eq_of_perm {α β : Type} {f : α → β} {xs : List β} {ys : List α}
    (h : xs.Perm (ys.map f)) : ∃ zs : List α, xs = zs.map f ∧ zs.Perm ys := by
  have hcomp := congrFun (congrFun (List.eq_map_comp_perm f) xs) ys
  exact hcomp.mpr h

mutual

/-- A value is read back from every tree that holds its layout, whatever the order of members. -/
theorem Schema.decode_of_holds : {α : Type} → (s : Schema α) → {a : α} → s.Faithful a →
    {o : Origin} → {v : Json} → {t : Tree} → v.Plain → o.HasRoom v.depth → t.Holds v →
    v.canonical = (s.encode a).canonical → s.decode o t = .ok a
  | _, .json, _, h, _, _, _, hv, ho, ht, heq => by
    rw [Schema.decode, Tree.read_of_holds hv ho ht]
    exact congrArg Except.ok (heq.trans h.2)
  | _, .string, _, _, _, _, _, _, _, ht, heq => by
    obtain rfl := eq_string_of_canonical heq
    obtain ⟨start, stop, rfl⟩ := Tree.holds_string ht
    rfl
  | _, .bool, _, _, _, _, _, _, _, ht, heq => by
    obtain rfl := eq_bool_of_canonical heq
    obtain ⟨start, stop, rfl⟩ := Tree.holds_bool ht
    rfl
  | _, .uint16, n, _, _, _, _, _, _, ht, heq => by
    rw [Schema.decode]
    exact Tree.whole_of_holds ht heq (fit_uint16 n)
  | _, .uint64, n, _, _, _, _, _, _, ht, heq => by
    rw [Schema.decode]
    exact Tree.whole_of_holds ht heq (fit_uint64 n)
  | _, .int64, n, _, _, _, _, _, _, ht, heq => by
    rw [Schema.decode]
    exact Tree.whole_of_holds ht heq (fit_int64 n)
  | _, .float, _, h, _, _, _, _, _, _, _ => absurd h id
  | _, .spelled _ readText write, a, h, _, _, _, _, _, ht, heq => by
    obtain rfl := eq_string_of_canonical heq
    obtain ⟨start, stop, rfl⟩ := Tree.holds_string ht
    have h : readText (write a) = .ok a := h
    rw [Schema.decode, Tree.spelled, h]
  | _, .choice cases name, a, h, _, _, _, _, _, ht, heq => by
    obtain rfl := eq_string_of_canonical heq
    obtain ⟨start, stop, rfl⟩ := Tree.holds_string ht
    obtain ⟨c, hc, rfl⟩ := Option.map_eq_some_iff.mp h
    rw [Schema.decode, Tree.choice, Tree.named, hc]
  | _, .option _, none, _, _, _, _, _, _, ht, heq => by
    rw [Schema.decode, if_pos ((Tree.isNull_of_holds ht).mpr (eq_null_of_canonical heq))]
  | _, .option inner, some a, h, _, _, _, hv, ho, ht, heq => by
    rw [Schema.decode, if_neg, inner.decode_of_holds h.2 hv ho ht heq]
    · rfl
    · intro hnull
      rw [(Tree.isNull_of_holds ht).mp hnull] at heq
      exact h.1 (eq_null_of_canonical heq.symm)
  | _, .orNull _ inner, a, h, _, _, _, hv, ho, ht, heq => by
    rw [Schema.decode, if_neg, inner.decode_of_holds h.2 hv ho ht heq]
    intro hnull
    rw [(Tree.isNull_of_holds ht).mp hnull] at heq
    exact h.1 (eq_null_of_canonical heq.symm)
  | _, .list inner, items, h, _, _, _, hv, ho, ht, heq => by
    obtain ⟨vs, rfl, hvs⟩ := eq_array_of_canonical heq
    obtain ⟨start, ts, bracket, rfl, hts⟩ := Tree.holds_array ht
    obtain ⟨room, henter, hroom⟩ := Origin.enter_of_hasRoom ho start
    rw [plain_array] at hv
    rw [List.map_map] at hvs
    have hitems : Tree.eachItem (inner.decode room) ts = .ok items :=
      Tree.eachItem_of_holds hts hvs fun t v hmem a ha ht heq => inner.decode_of_holds (h a ha)
        (hv v hmem)
        (hroom.mono (depthItems_le_iff.mp (Nat.le_refl _) v hmem)) ht heq
    simp only [Schema.decode, Tree.list, henter, bind, Except.bind, hitems]
    rfl
  | _, .map inner, d, h, _, _, _, hv, ho, ht, heq => by
    obtain ⟨ms, rfl⟩ := eq_object_of_canonical heq
    obtain ⟨start, ts, bracket, rfl, hts⟩ := Tree.holds_object ht
    obtain ⟨room, henter, hroom⟩ := Origin.enter_of_hasRoom ho start
    rw [plain_object] at hv
    have hkeys : ((d.entries.map fun e => (e.1, inner.encode e.2)).map Prod.fst).Nodup := by
      rw [keys_map_encode]
      exact d.nodup_keys
    have hperm := perm_of_canonical_eq hv.1 hkeys heq
    rw [List.map_map] at hperm
    obtain ⟨es, hes, hperm⟩ := exists_map_eq_of_perm hperm
    have hitems : Tree.eachMember (inner.decode room) ts = .ok es :=
      Tree.eachMember_of_holds (f := fun a => (inner.encode a).canonical) hts hes
        fun t m hmem e he ht heq => inner.decode_of_holds (h e (hperm.subset he)) (hv.2 m hmem)
          (hroom.mono (depthMembers_le_iff.mp (Nat.le_refl _) m hmem)) ht heq
    simp only [Schema.decode, Tree.map, henter, bind, Except.bind, hitems]
    exact congrArg Except.ok (Dictionary.ofList_of_perm hperm)
  | _, .record _ fields make parts, a, h, _, _, _, hv, ho, ht, heq => by
    obtain ⟨ms, rfl⟩ := eq_object_of_canonical heq
    obtain ⟨start, ts, bracket, rfl, hts⟩ := Tree.holds_object ht
    obtain ⟨room, henter, hroom⟩ := Origin.enter_of_hasRoom ho start
    rw [plain_object] at hv
    obtain ⟨slots, hslots, hfilled⟩ := fields.filled_of_holds h.2 hts hv.2
      (fun m hm => hroom.mono (depthMembers_le_iff.mp (Nat.le_refl _) m hm))
      (perm_of_canonical_eq hv.1 (fields.nodup_keys h.2) heq)
    simp only [Schema.decode, Tree.record, henter, bind, Except.bind, hslots]
    show Except.map make ((fields.filled slots).mapError _) = _
    rw [hfilled]
    exact congrArg Except.ok h.1

/-- The parts of a record are read back from members that hold theirs, in whatever order. -/
theorem Fields.filled_of_holds : {γ σ : Type} → (fields : Fields γ σ) → {parts : γ} →
    fields.Faithful parts → {o : Origin} → {ts : List (Label × Tree)} →
    {ms : List (String × Json)} → List.Forall₂ Tree.HoldsMember ts ms → (∀ m ∈ ms, m.2.Plain) →
    (∀ m ∈ ms, o.HasRoom m.2.depth) →
    (ms.map canonicalMember).Perm ((fields.encode parts).map canonicalMember) →
    ∃ slots, Tree.eachSlot (fields.fill o) ts fields.unfilled = .ok slots ∧
      fields.filled slots = .ok parts
  | _, _, .nil, _, _, _, _, _, hts, _, _, hperm => by
    obtain rfl := List.map_eq_nil_iff.mp hperm.eq_nil
    obtain rfl := List.forall₂_nil_right_iff.mp hts
    exact ⟨(), rfl, rfl⟩
  | _, _, .cons name aliases schema absent hidden rest, (a, more), h, o, ts, ms, hts, hv, ho,
      hperm => by
    rw [Fields.Faithful] at h
    rw [Fields.encode] at hperm
    have hothers : ∀ ns : List (String × Json),
        (ns.map canonicalMember).Perm ((rest.encode more).map canonicalMember) →
        ∀ m ∈ ns, m.1 ≠ name ∧ m.1 ∉ aliases := by
      intro ns hns m hm
      obtain ⟨n, hn, hnm⟩ := List.mem_map.mp (hns.subset (List.mem_map_of_mem hm))
      have hkey : n.1 = m.1 := (Prod.mk.inj hnm).1
      exact h.1 m.1 (hkey ▸ rest.key_mem_names more n hn)
    by_cases hhidden : hidden a = true
    · rw [if_pos hhidden] at h hperm
      obtain ⟨slots, hslots, hfilled⟩ := rest.filled_of_holds h.2.2 hts hv ho hperm
      refine ⟨(none, slots), eachSlot_of_others hts (hothers ms hperm) hslots, ?_⟩
      simp only [Fields.filled, h.2.1, hfilled]
      rfl
    · rw [if_neg hhidden] at h hperm
      rw [List.map_cons] at hperm
      obtain ⟨m, hm, hmeq⟩ := List.mem_map.mp (hperm.symm.subset List.mem_cons_self)
      obtain ⟨before, after, rfl⟩ := List.append_of_mem hm
      obtain ⟨tsBefore, t, tsAfter, rfl, hbefore, ht, hafter⟩ := exists_split_of_holdsMember hts
      obtain ⟨key, v⟩ := m
      rw [canonicalMember, canonicalMember, Prod.mk.injEq] at hmeq
      obtain ⟨rfl, hcanon⟩ := hmeq
      have ha := schema.decode_of_holds h.2.1 (hv _ hm) (ho _ hm) ht.2 hcanon
      have hperm' : ((before ++ after).map canonicalMember).Perm
          ((rest.encode more).map canonicalMember) := by
        have hmid : (before ++ (key, v) :: after).Perm ((key, v) :: (before ++ after)) :=
          List.perm_middle
        have hall := (hmid.map canonicalMember).symm.trans hperm
        rw [List.map_cons, canonicalMember, hcanon] at hall
        exact hall.cons_inv
      have hsub : ∀ n ∈ before ++ after, n ∈ before ++ (key, v) :: after := by
        intro n hn
        exact List.perm_middle.symm.subset (List.mem_cons_of_mem _ hn)
      obtain ⟨slots, hslots, hfilled⟩ := rest.filled_of_holds h.2.2
        (List.rel_append hbefore hafter) (fun n hn => hv n (hsub n hn))
        (fun n hn => ho n (hsub n hn)) hperm'
      refine ⟨(some a, slots),
        eachSlot_of_member hbefore hafter ht (hothers _ hperm') ha hslots, ?_⟩
      simp only [Fields.filled, hfilled]
      rfl

end

namespace Schema

variable {α : Type} {s : Schema α} {a : α} {v : Json}

/-- A text of a value is read as what the value is the layout of. -/
theorem ofText_of_textOf (h : s.Faithful a) {text : String} (htext : TextOf text v) (hv : v.Plain)
    (hdepth : v.depth ≤ depthLimit) (heq : v.canonical = (s.encode a).canonical) :
    s.ofText text = .ok a := by
  obtain ⟨t, behind, htree, ht, hbehind⟩ := htext
  have hdecode : s.decode (.text depthLimit) t = .ok a := s.decode_of_holds h hv hdepth ht heq
  exact ofText_eq_ok_iff.mpr ⟨t, behind, htree, hdecode, hbehind⟩

theorem ofText_compact (h : s.Faithful a) (hv : v.Plain) (hdepth : v.depth ≤ depthLimit)
    (heq : v.canonical = (s.encode a).canonical) : s.ofText v.compact = .ok a :=
  ofText_of_textOf h (textOf_compact hv) hv hdepth heq

theorem ofText_pretty (h : s.Faithful a) (hdepth : (s.encode a).depth ≤ depthLimit) :
    s.ofText ((s.encode a).pretty ++ "\n") = .ok a :=
  ofText_of_textOf h (textOf_pretty (s.plain_encode h)) (s.plain_encode h) hdepth rfl

theorem ofText_text (h : s.Faithful a) (hdepth : (s.encode a).depth ≤ depthLimit) :
    s.ofText (s.text a) = .ok a :=
  ofText_compact h (s.plain_encode h) hdepth rfl

theorem ofText_canonical (h : s.Faithful a) (hdepth : (s.encode a).depth ≤ depthLimit) :
    s.ofText (s.encode a).canonical.compact = .ok a :=
  ofText_compact h (plain_canonical (s.plain_encode h))
    (Nat.le_trans (depth_canonical_le _) hdepth) (canonical_canonical _)

theorem ofJson_canonical (h : s.Faithful a) : s.ofJson (s.encode a).canonical = .ok a := by
  have hplain := plain_canonical (plain_canonical (s.plain_encode h))
  have heq : (s.encode a).canonical.canonical.canonical = (s.encode a).canonical := by
    rw [canonical_canonical, canonical_canonical]
  have hdecode : s.decode .value (Tree.ofJson (s.encode a).canonical.canonical) = .ok a :=
    s.decode_of_holds h hplain trivial (Tree.holds_ofJson _) heq
  rw [ofJson, hdecode]
  rfl

end Schema

end Json
end SdkShelf
