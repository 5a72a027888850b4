import SdkShelf.Proofs.Json.Canonical
import SdkShelf.Json.Schema

/-!
# Values that their schema can give back

A schema is faithful at a value if nothing of the value is lost when it is laid out: what is left
out is what stands for an absent field, a value that might be null is not written as null, and the
fields of a record have names of their own.
-/

namespace SdkShelf
namespace Json

/-- The names under which the fields are written. -/
def Fields.names : {γ σ : Type} → Fields γ σ → List String
  | _, _, .nil => []
  | _, _, .cons name _ _ _ _ rest => name :: rest.names

mutual

/-- The value can be told from its layout. -/
def Schema.Faithful : {α : Type} → Schema α → α → Prop
  | _, .json, v => v.Plain ∧ v.canonical = v
  | _, .string, _ => True
  | _, .bool, _ => True
  | _, .uint16, _ => True
  | _, .uint64, _ => True
  | _, .int64, _ => True
  | _, .float, _ => False
  | _, .spelled _ readText write, a => readText (write a) = .ok a
  | _, .choice cases name, a => (cases.find? fun c => c.1 = name a).map (·.2) = some a
  | _, .option _, none => True
  | _, .option inner, some a => inner.encode a ≠ .null ∧ inner.Faithful a
  | _, .orNull _ inner, a => inner.encode a ≠ .null ∧ inner.Faithful a
  | _, .list inner, items => ∀ a ∈ items, inner.Faithful a
  | _, .map inner, d => ∀ e ∈ d.entries, inner.Faithful e.2
  | _, .record _ fields make parts, a => make (parts a) = a ∧ fields.Faithful (parts a)

/-- The parts can be told from their layout, and no later field answers to the name of an earlier
one. -/
def Fields.Faithful : {γ σ : Type} → Fields γ σ → γ → Prop
  | _, _, .nil, _ => True
  | _, _, .cons name aliases schema absent hidden rest, (a, more) =>
    (∀ n ∈ rest.names, n ≠ name ∧ n ∉ aliases) ∧
      (if hidden a then absent = some a else schema.Faithful a) ∧ rest.Faithful more

end

theorem Fields.key_mem_names : {γ σ : Type} → (fields : Fields γ σ) → (parts : γ) →
    ∀ m ∈ fields.encode parts, m.1 ∈ fields.names
  | _, _, .nil, _, m, hm => absurd hm List.not_mem_nil
  | _, _, .cons name _ schema _ hidden rest, (a, more), m, hm => by
    rw [encode] at hm
    rw [names]
    split at hm
    · exact List.mem_cons_of_mem _ (rest.key_mem_names more m hm)
    · rcases List.mem_cons.mp hm with rfl | hm
      · exact List.mem_cons_self
      · exact List.mem_cons_of_mem _ (rest.key_mem_names more m hm)

section

variable {α γ σ : Type} {name : String} {aliases : List String} {schema : Schema α}
  {absent : Option α} {hidden : α → Bool} {rest : Fields γ σ} {a : α} {more : γ}

theorem Fields.mem_encode_own (h : hidden a = false) :
    (name, schema.encode a) ∈
      (Fields.cons name aliases schema absent hidden rest).encode (a, more) := by
  rw [Fields.encode, h, if_neg Bool.false_ne_true]
  exact List.mem_cons_self

theorem Fields.mem_encode_rest {m : String × Json} (h : m ∈ rest.encode more) :
    m ∈ (Fields.cons name aliases schema absent hidden rest).encode (a, more) := by
  rw [Fields.encode]
  split
  · exact h
  · exact List.mem_cons_of_mem _ h

end

/-- A record's object has no key twice. -/
theorem Fields.nodup_keys : {γ σ : Type} → (fields : Fields γ σ) → {parts : γ} →
    fields.Faithful parts → ((fields.encode parts).map Prod.fst).Nodup
  | _, _, .nil, _, _ => List.nodup_nil
  | _, _, .cons name _ schema _ hidden rest, (a, more), h => by
    rw [Faithful] at h
    rw [encode]
    split
    · exact rest.nodup_keys h.2.2
    · rw [List.map_cons, List.nodup_cons]
      refine ⟨fun hmem => ?_, rest.nodup_keys h.2.2⟩
      obtain ⟨m, hm, hname⟩ := List.mem_map.mp hmem
      exact (h.1 m.1 (rest.key_mem_names more m hm)).1 hname

theorem keys_map_encode {α : Type} (entries : List (String × α)) (f : α → Json) :
    (entries.map fun e => (e.1, f e.2)).map Prod.fst = entries.map Prod.fst := by
  rw [List.map_map]
  rfl

mutual

theorem Schema.plain_encode : {α : Type} → (s : Schema α) → {a : α} → s.Faithful a →
    (s.encode a).Plain
  | _, .json, _, h => h.1
  | _, .string, _, _ => trivial
  | _, .bool, _, _ => trivial
  | _, .uint16, _, _ => rfl
  | _, .uint64, _, _ => rfl
  | _, .int64, _, _ => rfl
  | _, .float, _, h => absurd h id
  | _, .spelled _ _ _, _, _ => trivial
  | _, .choice _ _, _, _ => trivial
  | _, .option _, none, _ => trivial
  | _, .option inner, some _, h => inner.plain_encode h.2
  | _, .orNull _ inner, _, h => inner.plain_encode h.2
  | _, .list inner, items, h => by
    rw [Schema.encode, plain_array]
    intro v hv
    obtain ⟨a, ha, rfl⟩ := List.mem_map.mp hv
    exact inner.plain_encode (h a ha)
  | _, .map inner, d, h => by
    rw [Schema.encode, plain_object, keys_map_encode]
    refine ⟨d.nodup_keys, fun m hm => ?_⟩
    obtain ⟨e, he, rfl⟩ := List.mem_map.mp hm
    exact inner.plain_encode (h e he)
  | _, .record _ fields _ _, _, h => by
    rw [Schema.encode, plain_object]
    exact ⟨fields.nodup_keys h.2, fields.plain_encode h.2⟩

theorem Fields.plain_encode : {γ σ : Type} → (fields : Fields γ σ) → {parts : γ} →
    fields.Faithful parts → ∀ m ∈ fields.encode parts, m.2.Plain
  | _, _, .nil, _, _, m, hm => absurd hm List.not_mem_nil
  | _, _, .cons name _ schema _ hidden rest, (a, more), h, m, hm => by
    rw [Fields.Faithful] at h
    rw [Fields.encode] at hm
    split at hm
    · exact rest.plain_encode h.2.2 m hm
    · rename_i hshown
      rw [if_neg hshown] at h
      rcases List.mem_cons.mp hm with rfl | hm
      · exact schema.plain_encode h.2.1
      · exact rest.plain_encode h.2.2 m hm

end

mutual

/-- How deep the layout of a value nests at most, whatever the value; none where a part may be any
JSON value. -/
def Schema.height : {α : Type} → Schema α → Option Nat
  | _, .json => none
  | _, .string => some 0
  | _, .bool => some 0
  | _, .uint16 => some 0
  | _, .uint64 => some 0
  | _, .int64 => some 0
  | _, .float => some 0
  | _, .spelled _ _ _ => some 0
  | _, .choice _ _ => some 0
  | _, .option inner => inner.height
  | _, .orNull _ inner => inner.height
  | _, .list inner => inner.height.map (· + 1)
  | _, .map inner => inner.height.map (· + 1)
  | _, .record _ fields _ _ => fields.height.map (· + 1)

def Fields.height : {γ σ : Type} → Fields γ σ → Option Nat
  | _, _, .nil => some 0
  | _, _, .cons _ _ schema _ _ rest =>
    match schema.height, rest.height with
    | some m, some n => some (max m n)
    | _, _ => none

end

theorem exists_height_of_cons {α γ σ : Type} {name : String} {aliases : List String}
    {schema : Schema α} {absent : Option α} {hidden : α → Bool} {rest : Fields γ σ} {n : Nat}
    (h : (Fields.cons name aliases schema absent hidden rest).height = some n) :
    ∃ i j, schema.height = some i ∧ rest.height = some j ∧ max i j = n := by
  rw [Fields.height] at h
  split at h
  · rename_i i j hi hj
    exact ⟨i, j, hi, hj, Option.some.inj h⟩
  · exact absurd h (by simp)

mutual

theorem Schema.depth_encode_le : {α : Type} → (s : Schema α) → {n : Nat} → s.height = some n →
    (a : α) → (s.encode a).depth ≤ n
  | _, .json, _, h, _ => absurd h (by simp [Schema.height])
  | _, .string, _, _, _ => Nat.zero_le _
  | _, .bool, _, _, _ => Nat.zero_le _
  | _, .uint16, _, _, _ => Nat.zero_le _
  | _, .uint64, _, _, _ => Nat.zero_le _
  | _, .int64, _, _, _ => Nat.zero_le _
  | _, .float, _, _, _ => Nat.zero_le _
  | _, .spelled _ _ _, _, _, _ => Nat.zero_le _
  | _, .choice _ _, _, _, _ => Nat.zero_le _
  | _, .option _, _, _, none => Nat.zero_le _
  | _, .option inner, _, h, some a => inner.depth_encode_le h a
  | _, .orNull _ inner, _, h, a => inner.depth_encode_le h a
  | _, .list inner, _, h, items => by
    obtain ⟨n, hn, rfl⟩ := Option.map_eq_some_iff.mp h
    rw [Schema.encode, depth]
    refine Nat.succ_le_succ (depthItems_le_iff.mpr fun v hv => ?_)
    obtain ⟨a, _, rfl⟩ := List.mem_map.mp hv
    exact inner.depth_encode_le hn a
  | _, .map inner, _, h, d => by
    obtain ⟨n, hn, rfl⟩ := Option.map_eq_some_iff.mp h
    rw [Schema.encode, depth]
    refine Nat.succ_le_succ (depthMembers_le_iff.mpr fun m hm => ?_)
    obtain ⟨e, _, rfl⟩ := List.mem_map.mp hm
    exact inner.depth_encode_le hn e.2
  | _, .record _ fields _ parts, _, h, a => by
    obtain ⟨n, hn, rfl⟩ := Option.map_eq_some_iff.mp h
    rw [Schema.encode, depth]
    exact Nat.succ_le_succ (depthMembers_le_iff.mpr (fields.depth_encode_le hn (parts a)))

theorem Fields.depth_encode_le : {γ σ : Type} → (fields : Fields γ σ) → {n : Nat} →
    fields.height = some n → (parts : γ) → ∀ m ∈ fields.encode parts, m.2.depth ≤ n
  | _, _, .nil, _, _, _, _, hm => absurd hm List.not_mem_nil
  | _, _, .cons _ _ schema _ hidden rest, n, h, (a, more), m, hm => by
    obtain ⟨i, j, hi, hj, rfl⟩ := exists_height_of_cons h
    have hrest (hm : m ∈ rest.encode more) : m.2.depth ≤ max i j :=
      Nat.le_trans (rest.depth_encode_le hj more m hm) (Nat.le_max_right _ _)
    rw [Fields.encode] at hm
    split at hm
    · exact hrest hm
    · rcases List.mem_cons.mp hm with rfl | hm
      · exact Nat.le_trans (schema.depth_encode_le hi a) (Nat.le_max_left _ _)
      · exact hrest hm

end

end Json
end SdkShelf
