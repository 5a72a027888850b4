import SdkShelf.Proofs.Json.RoundTrip
import SdkShelf.Proofs.Json.Written

/-!
# Room for containers

A text bounds how deep containers nest.  For a type whose values nest less deep the bound makes no
difference: a value that stands in a list is read as it is read on its own.  A value that nests
deeper than there is room for is refused.
-/

namespace SdkShelf
namespace Json

theorem Tree.choice_room {α : Type} (cases : List (String × α)) (n m : Nat) (t : Tree) :
    t.choice cases (.text (n + 1)) = t.choice cases (.text (m + 1)) := by
  cases t with
  | scalar start value stop =>
    cases value with
    | string s => cases s <;> rfl
    | null | bool _ | number _ => rfl
  | array _ _ _ => rfl
  | object _ members _ =>
    cases members with
    | nil => rfl
    | cons m rest => cases rest <;> rfl
  | broken _ _ => rfl

mutual

theorem Schema.decode_room : {α : Type} → (s : Schema α) → {k : Nat} → s.height = some k →
    {n m : Nat} → k < n → k < m → (t : Tree) → s.decode (.text n) t = s.decode (.text m) t
  | _, .json, _, h, _, _, _, _, _ => absurd h (by simp [Schema.height])
  | _, .string, _, _, _, _, _, _, _ => rfl
  | _, .bool, _, _, _, _, _, _, _ => rfl
  | _, .uint16, _, _, _, _, _, _, _ => rfl
  | _, .uint64, _, _, _, _, _, _, _ => rfl
  | _, .int64, _, _, _, _, _, _, _ => rfl
  | _, .float, _, _, _, _, _, _, _ => rfl
  | _, .spelled _ _ _, _, _, _, _, _, _, _ => rfl
  | _, .choice cases _, _, _, n + 1, m + 1, _, _, t => t.choice_room cases n m
  | _, .option inner, _, h, _, _, hn, hm, t => by
    rw [Schema.decode, Schema.decode, inner.decode_room h hn hm t]
  | _, .orNull _ inner, _, h, _, _, hn, hm, t => by
    rw [Schema.decode, Schema.decode, inner.decode_room h hn hm t]
  | _, .list inner, _, h, n + 1, m + 1, hn, hm, t => by
    obtain ⟨k, hk, rfl⟩ := Option.map_eq_some_iff.mp h
    have hitem : inner.decode (.text n) = inner.decode (.text m) :=
      funext (inner.decode_room hk (Nat.lt_of_succ_lt_succ hn) (Nat.lt_of_succ_lt_succ hm))
    rw [Schema.decode, Schema.decode]
    cases t with
    | array start items ending =>
      show (Tree.eachItem (inner.decode (.text n)) items).bind _ =
        (Tree.eachItem (inner.decode (.text m)) items).bind _
      rw [hitem]
    | scalar _ _ _ | object _ _ _ | broken _ _ => rfl
  | _, .map inner, _, h, n + 1, m + 1, hn, hm, t => by
    obtain ⟨k, hk, rfl⟩ := Option.map_eq_some_iff.mp h
    have hitem : inner.decode (.text n) = inner.decode (.text m) :=
      funext (inner.decode_room hk (Nat.lt_of_succ_lt_succ hn) (Nat.lt_of_succ_lt_succ hm))
    rw [Schema.decode, Schema.decode]
    cases t with
    | object start members ending =>
      show (Tree.eachMember (inner.decode (.text n)) members).bind _ =
        (Tree.eachMember (inner.decode (.text m)) members).bind _
      rw [hitem]
    | scalar _ _ _ | array _ _ _ | broken _ _ => rfl
  | _, .record name fields make _, _, h, n + 1, m + 1, hn, hm, t => by
    obtain ⟨k, hk, rfl⟩ := Option.map_eq_some_iff.mp h
    have hn' := Nat.lt_of_succ_lt_succ hn
    have hm' := Nat.lt_of_succ_lt_succ hm
    rw [Schema.decode, Schema.decode]
    cases t with
    | object start members ending =>
      have hfill : fields.fill (.text n) = fields.fill (.text m) :=
        funext fun l => funext fun key => funext fun t => funext (fields.fill_room hk hn' hm' l key t)
      show ((Tree.eachSlot (fields.fill (.text n)) members fields.unfilled).bind _).map make =
        ((Tree.eachSlot (fields.fill (.text m)) members fields.unfilled).bind _).map make
      rw [hfill]
    | array start items ending =>
      show ((fields.gather (.text n) _ ending 0 items).bind _).map make =
        ((fields.gather (.text m) _ ending 0 items).bind _).map make
      rw [fields.gather_room hk hn' hm']
      rfl
    | scalar _ _ _ | broken _ _ => rfl

theorem Fields.fill_room : {γ σ : Type} → (fields : Fields γ σ) → {k : Nat} →
    fields.height = some k → {n m : Nat} → k < n → k < m → (l : Label) → (key : String) →
    (t : Tree) → (slots : σ) → fields.fill (.text n) l key t slots = fields.fill (.text m) l key t slots
  | _, _, .nil, _, _, _, _, _, _, _, _, _, _ => rfl
  | _, _, .cons name aliases schema _ _ rest, _, h, _, _, hn, hm, l, key, t, (slot, slots) => by
    obtain ⟨i, j, hi, hj, rfl⟩ := exists_height_of_cons h
    have hfirst := schema.decode_room hi (Nat.lt_of_le_of_lt (Nat.le_max_left i j) hn)
      (Nat.lt_of_le_of_lt (Nat.le_max_left i j) hm) t
    have hrest := rest.fill_room hj (Nat.lt_of_le_of_lt (Nat.le_max_right i j) hn)
      (Nat.lt_of_le_of_lt (Nat.le_max_right i j) hm) l key t slots
    cases slot with
    | none => rw [Fields.fill, Fields.fill, hfirst, hrest]
    | some a => rw [Fields.fill, Fields.fill, hrest]

theorem Fields.gather_room : {γ σ : Type} → (fields : Fields γ σ) → {k : Nat} →
    fields.height = some k → {n m : Nat} → k < n → k < m → (short : Nat → DecodeError) →
    (ending : Ending) → (i : Nat) → (items : List Tree) →
    fields.gather (.text n) short ending i items = fields.gather (.text m) short ending i items
  | _, _, .nil, _, _, _, _, _, _, _, _, _, _ => rfl
  | _, _, .cons name _ schema absent _ rest, _, h, _, _, hn, hm, short, ending, x, items => by
    obtain ⟨i, j, hi, hj, rfl⟩ := exists_height_of_cons h
    have hrest := rest.gather_room hj (Nat.lt_of_le_of_lt (Nat.le_max_right i j) hn)
        (Nat.lt_of_le_of_lt (Nat.le_max_right i j) hm) short ending (x + 1)
    cases items with
    | nil =>
      cases absent with
      | none => rw [Fields.gather, Fields.gather]
      | some a => rw [Fields.gather, Fields.gather, hrest]
    | cons t items =>
      have hfirst := schema.decode_room hi (Nat.lt_of_le_of_lt (Nat.le_max_left i j) hn)
        (Nat.lt_of_le_of_lt (Nat.le_max_left i j) hm) t
      rw [Fields.gather, Fields.gather, hfirst, hrest]

end

/-! ## Values that nest too deep -/

theorem Origin.enter_text_eq_ok {room : Nat} {start : Mark} {inner : Origin}
    (h : (Origin.text room).enter start = .ok inner) :
    ∃ left, room = left + 1 ∧ inner = .text left := by
  cases room with
  | zero => exact absurd h (by simp [enter])
  | succ left => exact ⟨left, rfl, (Except.ok.inj h).symm⟩

theorem exists_mem_of_forall₂ {α β : Type} {R : α → β → Prop} {xs : List α} {ys : List β}
    (h : List.Forall₂ R xs ys) {y : β} (hy : y ∈ ys) : ∃ x ∈ xs, R x y := by
  obtain ⟨before, after, rfl⟩ := List.append_of_mem hy
  obtain ⟨x, rest, hxy, -, hdrop⟩ :=
    List.forall₂_cons_right_iff.mp (List.forall₂_drop_append xs before (y :: after) h)
  have hmem : x ∈ xs.drop before.length := by
    rw [hdrop]
    exact List.mem_cons_self
  exact ⟨x, List.mem_of_mem_drop hmem, hxy⟩

namespace Tree

theorem read_of_readItems {o : Origin} {ts : List Tree} {vs : List Json}
    (h : readItems o ts = .ok vs) : ∀ t ∈ ts, ∃ v, t.read o = .ok v := by
  induction ts generalizing vs with
  | nil => exact fun t ht => absurd ht List.not_mem_nil
  | cons t ts ih =>
    obtain ⟨v, hhead, h⟩ := exists_of_bind_eq_ok h
    obtain ⟨rest, htail, -⟩ := exists_of_bind_eq_ok h
    exact List.forall_mem_cons.mpr ⟨⟨v, hhead⟩, ih htail⟩

theorem read_of_readMembers {o : Origin} {ts : List (Label × Tree)} {ms : List (String × Json)}
    (h : readMembers o ts = .ok ms) : ∀ t ∈ ts, ∃ v, t.2.read o = .ok v := by
  induction ts generalizing ms with
  | nil => exact fun t ht => absurd ht List.not_mem_nil
  | cons t ts ih =>
    obtain ⟨key, -, h⟩ := exists_of_bind_eq_ok h
    obtain ⟨v, hhead, h⟩ := exists_of_bind_eq_ok h
    obtain ⟨rest, htail, -⟩ := exists_of_bind_eq_ok h
    exact List.forall_mem_cons.mpr ⟨⟨v, hhead⟩, ih htail⟩

/-- What is read nests no deeper than there is room. -/
theorem depth_le_of_read {v : Json} {t : Tree} (ht : t.Holds v) {room : Nat} {w : Json}
    (h : t.read (.text room) = .ok w) : v.depth ≤ room := by
  -- The room is general, for each part of a container was read with one container less of it.
  induction v using byParts generalizing t room w with
  | null | bool _ | number _ | string _ => exact Nat.zero_le room
  | array vs ih =>
    obtain ⟨start, ts, bracket, rfl, hts⟩ := holds_array ht
    obtain ⟨inner, ws, henter, hread, -, -⟩ := read_array_eq_ok.mp h
    obtain ⟨left, rfl, rfl⟩ := Origin.enter_text_eq_ok henter
    rw [depth]
    refine Nat.succ_le_succ (depthItems_le_iff.mpr fun v hv => ?_)
    obtain ⟨t, ht, htv⟩ := exists_mem_of_forall₂ hts hv
    obtain ⟨w, hw⟩ := read_of_readItems hread t ht
    exact ih v hv htv hw
  | object ms ih =>
    obtain ⟨start, ts, bracket, rfl, hts⟩ := holds_object ht
    obtain ⟨inner, ns, henter, hread, -, -⟩ := read_object_eq_ok.mp h
    obtain ⟨left, rfl, rfl⟩ := Origin.enter_text_eq_ok henter
    rw [depth]
    refine Nat.succ_le_succ (depthMembers_le_iff.mpr fun m hm => ?_)
    obtain ⟨t, ht, htm⟩ := exists_mem_of_forall₂ hts hm
    obtain ⟨w, hw⟩ := read_of_readMembers hread t ht
    exact ih m hm htm.2 hw

theorem depth_of_scalar {s : Scalar} {v : Json} (h : s.json = .ok v) : v.depth = 0 := by
  cases s with
  | null | bool _ =>
    rw [← Except.ok.inj h]
    rfl
  | number _ | string _ =>
    obtain ⟨x, -, rfl⟩ := exists_of_map_eq_ok h
    rfl

mutual

/-- All that a text's room changes is how deep the value may nest. -/
theorem read_text_iff : (t : Tree) → {room : Nat} → {v : Json} →
    (t.read (.text room) = .ok v ↔ t.read .value = .ok v ∧ v.depth ≤ room)
  | .scalar _ s _, room, v => by
    show s.json.mapError _ = _ ↔ s.json.mapError _ = _ ∧ _
    rw [mapError_eq_ok_iff]
    refine (and_iff_left_of_imp fun h => ?_).symm
    rw [depth_of_scalar h]
    exact Nat.zero_le room
  | .array start ts e, room, v => by
    rw [read_array_eq_ok, read_array_eq_ok]
    constructor
    · rintro ⟨inner, vs, henter, hread, hfault, rfl⟩
      obtain ⟨left, rfl, rfl⟩ := Origin.enter_text_eq_ok henter
      obtain ⟨hread, hdepth⟩ := (readItems_text_iff ts).mp hread
      exact ⟨⟨.value, vs, rfl, hread, hfault, rfl⟩, Nat.succ_le_succ hdepth⟩
    · rintro ⟨⟨inner, vs, henter, hread, hfault, rfl⟩, hdepth⟩
      cases henter
      cases room with
      | zero => exact absurd hdepth (Nat.not_succ_le_zero _)
      | succ left =>
        have hread := (readItems_text_iff ts).mpr ⟨hread, Nat.le_of_succ_le_succ hdepth⟩
        exact ⟨.text left, vs, rfl, hread, hfault, rfl⟩
  | .object start ts e, room, v => by
    rw [read_object_eq_ok, read_object_eq_ok]
    constructor
    · rintro ⟨inner, ms, henter, hread, hfault, rfl⟩
      obtain ⟨left, rfl, rfl⟩ := Origin.enter_text_eq_ok henter
      obtain ⟨hread, hdepth⟩ := (readMembers_text_iff ts).mp hread
      exact ⟨⟨.value, ms, rfl, hread, hfault, rfl⟩, Nat.succ_le_succ hdepth⟩
    · rintro ⟨⟨inner, ms, henter, hread, hfault, rfl⟩, hdepth⟩
      cases henter
      cases room with
      | zero => exact absurd hdepth (Nat.not_succ_le_zero _)
      | succ left =>
        have hread := (readMembers_text_iff ts).mpr ⟨hread, Nat.le_of_succ_le_succ hdepth⟩
        exact ⟨.text left, ms, rfl, hread, hfault, rfl⟩
  | .broken _ _, _, _ => ⟨nofun, fun h => absurd h.1 nofun⟩

theorem readItems_text_iff : (ts : List Tree) → {room : Nat} → {vs : List Json} →
    (readItems (.text room) ts = .ok vs ↔ readItems .value ts = .ok vs ∧ depthItems vs ≤ room)
  | [], room, vs => by
    refine (and_iff_left_of_imp fun h => ?_).symm
    rw [← Except.ok.inj h]
    exact Nat.zero_le room
  | t :: ts, room, vs => by
    rw [readItems_cons_eq_ok, readItems_cons_eq_ok]
    constructor
    · rintro ⟨v, rest, hread, hrest, rfl⟩
      obtain ⟨hread, hdepth⟩ := (read_text_iff t).mp hread
      obtain ⟨hrest, hdepths⟩ := (readItems_text_iff ts).mp hrest
      exact ⟨⟨v, rest, hread, hrest, rfl⟩, Nat.max_le.mpr ⟨hdepth, hdepths⟩⟩
    · rintro ⟨⟨v, rest, hread, hrest, rfl⟩, hdepth⟩
      obtain ⟨hdepth, hdepths⟩ := Nat.max_le.mp hdepth
      exact ⟨v, rest, (read_text_iff t).mpr ⟨hread, hdepth⟩,
        (readItems_text_iff ts).mpr ⟨hrest, hdepths⟩, rfl⟩

theorem readMembers_text_iff : (ts : List (Label × Tree)) → {room : Nat} →
    {ms : List (String × Json)} →
    (readMembers (.text room) ts = .ok ms ↔
      readMembers .value ts = .ok ms ∧ depthMembers ms ≤ room)
  | [], room, ms => by
    refine (and_iff_left_of_imp fun h => ?_).symm
    rw [← Except.ok.inj h]
    exact Nat.zero_le room
  | (l, t) :: ts, room, ms => by
    rw [readMembers_cons_eq_ok, readMembers_cons_eq_ok]
    constructor
    · rintro ⟨k, v, rest, hk, hread, hrest, rfl⟩
      obtain ⟨hread, hdepth⟩ := (read_text_iff t).mp hread
      obtain ⟨hrest, hdepths⟩ := (readMembers_text_iff ts).mp hrest
      exact ⟨⟨k, v, rest, hk, hread, hrest, rfl⟩, Nat.max_le.mpr ⟨hdepth, hdepths⟩⟩
    · rintro ⟨⟨k, v, rest, hk, hread, hrest, rfl⟩, hdepth⟩
      obtain ⟨hdepth, hdepths⟩ := Nat.max_le.mp hdepth
      exact ⟨k, v, rest, hk, (read_text_iff t).mpr ⟨hread, hdepth⟩,
        (readMembers_text_iff ts).mpr ⟨hrest, hdepths⟩, rfl⟩

end

/-- Where the members of a record are read, each of them is. -/
theorem fill_of_eachSlot {σ : Type} {fill : Label → String → Tree → σ → Except DecodeError σ}
    {ts : List (Label × Tree)} {slots filled : σ} (h : eachSlot fill ts slots = .ok filled) :
    ∀ t ∈ ts, ∃ key before after, t.1.key = .ok key ∧ fill t.1 key t.2 before = .ok after := by
  induction ts generalizing slots with
  | nil => exact fun t ht => absurd ht List.not_mem_nil
  | cons t ts ih =>
    obtain ⟨key, hkey, h⟩ := exists_of_bind_eq_ok h
    obtain ⟨next, hfill, h⟩ := exists_of_bind_eq_ok h
    exact List.forall_mem_cons.mpr ⟨⟨key, slots, next, hkey, hfill⟩, ih h⟩

end Tree

section

variable {α γ σ : Type} {name : String} {aliases : List String} {schema : Schema α}
  {absent : Option α} {hidden : α → Bool} {rest : Fields γ σ}

theorem Fields.depth_cons_le {a : α} {more : γ} {n : Nat} (ha : (schema.encode a).depth ≤ n)
    (hmore : ∀ m ∈ rest.encode more, m.2.depth ≤ n) :
    ∀ m ∈ (Fields.cons name aliases schema absent hidden rest).encode (a, more), m.2.depth ≤ n := by
  intro m hm
  rw [Fields.encode] at hm
  split at hm
  · exact hmore m hm
  · rcases List.mem_cons.mp hm with rfl | hm
    · exact ha
    · exact hmore m hm

/-- A member of a later field does not concern the first one. -/
theorem Fields.fill_rest {o : Origin} {l : Label} {key : String} {t : Tree}
    {slots filled : Option α × σ} (hkey : key ≠ name ∧ key ∉ aliases)
    (h : (Fields.cons name aliases schema absent hidden rest).fill o l key t slots = .ok filled) :
    ∃ before after, rest.fill o l key t before = .ok after := by
  obtain ⟨slot, slots⟩ := slots
  obtain ⟨after, h, -⟩ := (fill_other_eq_ok hkey).mp h
  exact ⟨slots, after, h⟩

theorem Fields.decode_of_fill {o : Origin} {l : Label} {t : Tree} {slots filled : Option α × σ}
    (h : (Fields.cons name aliases schema absent hidden rest).fill o l name t slots = .ok filled) :
    ∃ a, schema.decode o t = .ok a := by
  obtain ⟨slot, slots⟩ := slots
  obtain ⟨-, a, h, -⟩ := (fill_own_eq_ok (Or.inl rfl)).mp h
  exact ⟨a, h⟩

theorem Schema.depth_le_of_decode {room : Nat} {t : Tree} {v : Json} {a : Option Json}
    (ht : t.Holds v) (h : (Schema.option .json).decode (.text room) t = .ok a) :
    v.depth ≤ room := by
  by_cases hnull : t.isNull = true
  · rw [(Tree.isNull_of_holds ht).mp hnull]
    exact Nat.zero_le room
  · rw [Schema.decode, if_neg hnull] at h
    obtain ⟨w, h, -⟩ := exists_of_map_eq_ok h
    rw [Schema.decode] at h
    obtain ⟨u, h, -⟩ := exists_of_map_eq_ok h
    exact Tree.depth_le_of_read ht h

end

/-- A text is read as JSON exactly if it is the text of a value that does not nest too deep. -/
theorem Schema.ofText_json_iff {text : String} {w : Json} :
    Schema.json.ofText text = .ok w ↔
      ∃ v, IsText text v ∧ v.depth ≤ depthLimit ∧ v.canonical = w := by
  rw [ofText_eq_ok_iff]
  constructor
  · rintro ⟨t, behind, htree, hdecode, hbehind⟩
    obtain ⟨v, hread, rfl⟩ := exists_of_map_eq_ok hdecode
    obtain ⟨hread, hdepth⟩ := t.read_text_iff.mp hread
    exact ⟨v, isText_of_read htree hread hbehind, hdepth, rfl⟩
  · rintro ⟨v, htext, hdepth, rfl⟩
    obtain ⟨t, behind, htree, ⟨-, hread⟩, hbehind⟩ := htext.stands
    refine ⟨t, behind, htree, ?_, hbehind⟩
    rw [decode, t.read_text_iff.mpr ⟨hread, hdepth⟩]
    rfl

theorem Schema.ofText_json_eq_error_iff {text : String} :
    (∃ cause, Schema.json.ofText text = .error cause) ↔
      ¬ ∃ v, IsText text v ∧ v.depth ≤ depthLimit := by
  cases hread : Schema.json.ofText text with
  | error cause =>
    refine ⟨?_, fun _ => ⟨cause, rfl⟩⟩
    rintro - ⟨v, htext, hdepth⟩
    have hok := ofText_json_iff.mpr ⟨v, htext, hdepth, rfl⟩
    exact absurd (hread.symm.trans hok) nofun
  | ok w =>
    obtain ⟨v, htext, hdepth, -⟩ := ofText_json_iff.mp hread
    exact ⟨fun ⟨_, h⟩ => absurd h nofun, fun h => absurd ⟨v, htext, hdepth⟩ h⟩

end Json
end SdkShelf
