import SdkShelf.Json.Basic
import SdkShelf.Proofs.Dictionary

/-!
# Canonical forms

Putting every object's members in order is idempotent, nests nothing deeper, and leaves a value
plain.  Two plain values with one canonical form differ in the order of members alone: at each level
their members are rearrangements of each other.
-/

namespace SdkShelf
namespace Json

/-- Induction over values: what holds of a container's parts holds of the container. -/
@[elab_as_elim]
theorem byParts {motive : Json → Prop} (null : motive .null) (bool : ∀ b, motive (.bool b))
    (number : ∀ n, motive (.number n)) (string : ∀ s, motive (.string s))
    (array : ∀ items, (∀ v ∈ items, motive v) → motive (.array items))
    (object : ∀ members, (∀ m ∈ members, motive m.2) → motive (.object members)) (v : Json) :
    motive v :=
  @Json.rec motive (fun items => ∀ v ∈ items, motive v)
    (fun members => ∀ m ∈ members, motive m.2) (fun m => motive m.2)
    null bool number string array object
    (fun _ h => absurd h List.not_mem_nil)
    (fun _ _ hv hrest => List.forall_mem_cons.mpr ⟨hv, hrest⟩)
    (fun _ h => absurd h List.not_mem_nil)
    (fun _ _ hm hrest => List.forall_mem_cons.mpr ⟨hm, hrest⟩)
    (fun _ _ hv => hv) v

mutual

/-- Every value inside a value, and the value itself, satisfies `p`. -/
def Every (p : Json → Prop) : Json → Prop
  | .array items => p (.array items) ∧ EveryItem p items
  | .object members => p (.object members) ∧ EveryMember p members
  | v => p v

def EveryItem (p : Json → Prop) : List Json → Prop
  | [] => True
  | v :: rest => Every p v ∧ EveryItem p rest

def EveryMember (p : Json → Prop) : List (String × Json) → Prop
  | [] => True
  | (_, v) :: rest => Every p v ∧ EveryMember p rest

end

/-- A value's own part in being plain: a number is whole, and an object has no key twice. -/
def PlainNode : Json → Prop
  | .number n => n.isInt = true
  | .object members => (members.map Prod.fst).Nodup
  | _ => True

/-- Values that a text gives back as they are: all numbers are whole and no key stands twice in
one object. -/
def Plain (v : Json) : Prop := v.Every PlainNode

section

variable {p : Json → Prop}

theorem everyItem_iff {items : List Json} : EveryItem p items ↔ ∀ v ∈ items, v.Every p := by
  induction items with
  | nil => simp [EveryItem]
  | cons v rest ih => rw [EveryItem, ih, List.forall_mem_cons]

theorem everyMember_iff {members : List (String × Json)} :
    EveryMember p members ↔ ∀ m ∈ members, m.2.Every p := by
  induction members with
  | nil => simp [EveryMember]
  | cons m rest ih => rw [EveryMember, ih, List.forall_mem_cons]

theorem every_array {items : List Json} :
    (Json.array items).Every p ↔ p (.array items) ∧ ∀ v ∈ items, v.Every p := by
  rw [Every, everyItem_iff]

theorem every_object {members : List (String × Json)} :
    (Json.object members).Every p ↔ p (.object members) ∧ ∀ m ∈ members, m.2.Every p := by
  rw [Every, everyMember_iff]

end

theorem plain_array {items : List Json} : (Json.array items).Plain ↔ ∀ v ∈ items, v.Plain := by
  rw [Plain, every_array]
  exact ⟨fun h => h.2, fun h => ⟨trivial, h⟩⟩

theorem plain_object {members : List (String × Json)} :
    (Json.object members).Plain ↔
      (members.map Prod.fst).Nodup ∧ ∀ m ∈ members, m.2.Plain := by
  rw [Plain, every_object]
  rfl

theorem canonicalItems_eq (items : List Json) : canonicalItems items = items.map canonical := by
  induction items with
  | nil => rfl
  | cons v rest ih => rw [canonicalItems, ih, List.map_cons]

/-- A member with its value's canonical form. -/
def canonicalMember (m : String × Json) : String × Json := (m.1, m.2.canonical)

theorem canonicalMembers_eq (members : List (String × Json)) :
    canonicalMembers members = members.map canonicalMember := by
  induction members with
  | nil => rfl
  | cons m rest ih => rw [canonicalMembers, ih, List.map_cons, canonicalMember]

theorem keys_map_canonicalMember (members : List (String × Json)) :
    (members.map canonicalMember).map Prod.fst = members.map Prod.fst := by
  rw [List.map_map]
  rfl

theorem canonical_array (items : List Json) :
    (Json.array items).canonical = .array (items.map canonical) := by
  rw [canonical, canonicalItems_eq]

theorem canonical_object (members : List (String × Json)) :
    (Json.object members).canonical =
      .object (Dictionary.ofList (members.map canonicalMember)).entries := by
  rw [canonical, canonicalMembers_eq]

/-- The members of a canonical object are members of the object, in canonical form. -/
theorem mem_canonical_object {members : List (String × Json)} {m : String × Json}
    (h : m ∈ (Dictionary.ofList (members.map canonicalMember)).entries) :
    ∃ n ∈ members, canonicalMember n = m :=
  List.mem_map.mp (Dictionary.mem_of_mem_ofList h)

theorem canonical_canonical (v : Json) : v.canonical.canonical = v.canonical := by
  induction v using byParts with
  | null | bool _ | number _ | string _ => rfl
  | array items ih =>
    rw [canonical_array, canonical_array, List.map_map]
    exact congrArg Json.array (List.map_congr_left ih)
  | object members ih =>
    rw [canonical_object, canonical_object]
    have hsame : (Dictionary.ofList (members.map canonicalMember)).entries.map canonicalMember =
        (Dictionary.ofList (members.map canonicalMember)).entries := by
      refine (List.map_congr_left fun m hm => ?_).trans (List.map_id _)
      obtain ⟨n, hn, rfl⟩ := mem_canonical_object hm
      exact Prod.ext rfl (ih n hn)
    rw [hsame, Dictionary.entries_ofList_of_ascending (Dictionary.ascending _)]

/-- A value's own part in being whole: a number is whole. -/
def WholeNode : Json → Prop
  | .number n => n.isInt = true
  | _ => True

/-- All numbers of the value are whole. -/
def Whole (v : Json) : Prop := v.Every WholeNode

theorem whole_of_plain {v : Json} (h : v.Plain) : v.Whole := by
  induction v using byParts with
  | null | bool _ | number _ | string _ => exact h
  | array items ih =>
    exact every_array.mpr ⟨trivial, fun v hv => ih v hv (plain_array.mp h v hv)⟩
  | object members ih =>
    exact every_object.mpr ⟨trivial, fun m hm => ih m hm ((plain_object.mp h).2 m hm)⟩

/-- A canonical form has no key twice. -/
theorem plain_canonical_of_whole {v : Json} (h : v.Whole) : v.canonical.Plain := by
  induction v using byParts with
  | null | bool _ | number _ | string _ => exact h
  | array items ih =>
    rw [canonical_array, plain_array]
    intro v hv
    obtain ⟨w, hw, rfl⟩ := List.mem_map.mp hv
    exact ih w hw ((every_array.mp h).2 w hw)
  | object members ih =>
    rw [canonical_object, plain_object]
    refine ⟨Dictionary.nodup_keys _, fun m hm => ?_⟩
    obtain ⟨n, hn, rfl⟩ := mem_canonical_object hm
    exact ih n hn ((every_object.mp h).2 n hn)

theorem plain_canonical {v : Json} (h : v.Plain) : v.canonical.Plain :=
  plain_canonical_of_whole (whole_of_plain h)

theorem depthItems_le_iff {items : List Json} {n : Nat} :
    depthItems items ≤ n ↔ ∀ v ∈ items, v.depth ≤ n := by
  induction items with
  | nil => simp [depthItems]
  | cons v rest ih => rw [depthItems, Nat.max_le, ih, List.forall_mem_cons]

theorem depthMembers_le_iff {members : List (String × Json)} {n : Nat} :
    depthMembers members ≤ n ↔ ∀ m ∈ members, m.2.depth ≤ n := by
  induction members with
  | nil => simp [depthMembers]
  | cons m rest ih => rw [depthMembers, Nat.max_le, ih, List.forall_mem_cons]

theorem depth_canonical_le (v : Json) : v.canonical.depth ≤ v.depth := by
  induction v using byParts with
  | null | bool _ | number _ | string _ => exact Nat.le_refl _
  | array items ih =>
    rw [canonical_array, depth, depth]
    refine Nat.succ_le_succ (depthItems_le_iff.mpr fun v hv => ?_)
    obtain ⟨w, hw, rfl⟩ := List.mem_map.mp hv
    exact Nat.le_trans (ih w hw) (depthItems_le_iff.mp (Nat.le_refl _) w hw)
  | object members ih =>
    rw [canonical_object, depth, depth]
    refine Nat.succ_le_succ (depthMembers_le_iff.mpr fun m hm => ?_)
    obtain ⟨n, hn, rfl⟩ := mem_canonical_object hm
    exact Nat.le_trans (ih n hn) (depthMembers_le_iff.mp (Nat.le_refl _) n hn)

/-- Objects without repeated keys and with one canonical form have the same members, but for their
order. -/
theorem perm_of_canonical_eq {ms ns : List (String × Json)}
    (hm : (ms.map Prod.fst).Nodup) (hn : (ns.map Prod.fst).Nodup)
    (h : (Json.object ms).canonical = (Json.object ns).canonical) :
    (ms.map canonicalMember).Perm (ns.map canonicalMember) := by
  rw [canonical_object, canonical_object, Json.object.injEq] at h
  have hms : (Dictionary.ofList (ms.map canonicalMember)).entries.Perm (ms.map canonicalMember) :=
    Dictionary.entries_ofList_perm (by rw [keys_map_canonicalMember]; exact hm)
  have hns : (Dictionary.ofList (ns.map canonicalMember)).entries.Perm (ns.map canonicalMember) :=
    Dictionary.entries_ofList_perm (by rw [keys_map_canonicalMember]; exact hn)
  rw [h] at hms
  exact hms.symm.trans hns

end Json
end SdkShelf
