import SdkShelf.Proofs.Store.Simulation

/-!
# The capacity of a store in memory

Whatever is written to a store in memory and removed from it, its entries never take more room than
its capacity.  A write is accepted exactly if there is room for it once what it replaces is gone; it
is refused without a trace, and the refusal tells how much room there would have to be.
-/

namespace SdkShelf

namespace Store

/-- The store after operations that are performed one after another. -/
def performAll {σ : Type} [Store σ] (s : σ) (operations : List Operation) : σ :=
  operations.foldl (fun s o => (perform s o).2) s

theorem performAll_cons {σ : Type} [Store σ] (s : σ) (o : Operation) (rest : List Operation) :
    performAll s (o :: rest) = performAll (perform s o).2 rest := rfl

end Store

namespace MemoryStore

/-- The bytes of the entry under a key, if there is one. -/
def usedUnder (s : MemoryStore) (key : String) : Nat :=
  match s.entries.get? key with
  | some text => entrySize key text
  | none => 0

section

variable {s : MemoryStore} {key text : String}

/-- What is replaced by a write does not count. -/
theorem used_eq (s : MemoryStore) (key : String) :
    s.used = s.usedBeside key + s.usedUnder key := by
  cases hget : s.entries.get? key with
  | none =>
    rw [usedUnder, hget, usedBeside, Dictionary.erase_of_absent hget]
    rfl
  | some text =>
    have hput := s.used_put key text
    have hsame : s.put key text = s := by rw [put, Dictionary.insert_of_present hget]
    rw [hsame] at hput
    rw [usedUnder, hget]
    exact hput

theorem usedBeside_le_used (s : MemoryStore) (key : String) : s.usedBeside key ≤ s.used := by
  rw [s.used_eq key]
  exact Nat.le_add_right _ _

theorem write_ok_iff : (Store.write s key text).1 = .ok () ↔ s.Fits key text := by
  constructor
  · intro hok
    by_cases hfits : s.Fits key text
    · exact hfits
    · obtain ⟨e, _, hwrite⟩ := write_of_not_fits hfits
      rw [hwrite] at hok
      exact absurd hok (by simp)
  · intro hfits
    rw [write_of_fits hfits]

theorem used_remove (s : MemoryStore) (key : String) :
    (Store.remove s key).2.used = s.usedBeside key := rfl

theorem get?_remove (s : MemoryStore) (key other : String) :
    (Store.remove s key).2.entries.get? other =
      if key = other then none else s.entries.get? other :=
  s.entries.get?_erase key other

/-! ## Operations -/

/-- The entries take no more room than there is. -/
structure Within (s : MemoryStore) (capacity : Nat) : Prop where
  capacity_eq : s.capacity = capacity
  used_le : s.used ≤ capacity

theorem within_empty (capacity : Nat) : (empty capacity).Within capacity :=
  ⟨rfl, Nat.zero_le capacity⟩

theorem Within.write {capacity : Nat} (h : s.Within capacity) (key text : String) :
    (Store.write s key text).2.Within capacity := by
  by_cases hfits : s.Fits key text
  · have hroom : s.usedBeside key + entrySize key text ≤ s.capacity := hfits
    rw [h.capacity_eq] at hroom
    rw [write_of_fits hfits]
    refine ⟨h.capacity_eq, ?_⟩
    show (s.put key text).used ≤ capacity
    rw [used_put]
    exact hroom
  · rw [write_eq_of_not_fits hfits]
    exact h

theorem Within.remove {capacity : Nat} (h : s.Within capacity) (key : String) :
    (Store.remove s key).2.Within capacity := by
  have hless : s.usedBeside key ≤ s.used := s.usedBeside_le_used key
  exact ⟨h.capacity_eq, Nat.le_trans hless h.used_le⟩

theorem Within.perform {capacity : Nat} (h : s.Within capacity) (o : Store.Operation) :
    (Store.perform s o).2.Within capacity := by
  cases o with
  | read key => exact h
  | write key text => exact h.write key text
  | remove key => exact h.remove key
  | keys => exact h

theorem Within.performAll {capacity : Nat} (h : s.Within capacity)
    (operations : List Store.Operation) : (Store.performAll s operations).Within capacity := by
  induction operations generalizing s with
  | nil => exact h
  | cons o rest ih =>
    rw [Store.performAll_cons]
    exact ih (h.perform o)

/-! ## Keys -/

theorem mem_keys_iff : key ∈ s.entries.keys ↔ ∃ value, Store.read s key = .ok (some value) := by
  have hread : ∀ value, Store.read s key = .ok (some value) ↔ (key, value) ∈ s.entries.entries := by
    intro value
    rw [← Dictionary.get?_eq_some_iff]
    exact ⟨fun h => Except.ok.inj h, fun h => congrArg Except.ok h⟩
  constructor
  · intro hmem
    obtain ⟨e, he, hkey⟩ := List.mem_map.mp hmem
    refine ⟨e.2, (hread e.2).mpr ?_⟩
    rw [← hkey]
    exact he
  · rintro ⟨value, hvalue⟩
    exact List.mem_map.mpr ⟨(key, value), (hread value).mp hvalue, rfl⟩

theorem pairwise_keys (s : MemoryStore) : s.entries.keys.Pairwise (· < ·) :=
  List.pairwise_map.mpr s.entries.ascending

end

/-- In every state that operations lead to from the empty store the entries fit, a write follows the
room there is, a removal makes room, and the keys are those of the entries. -/
theorem accounts_performAll (capacity : Nat) (operations : List Store.Operation) :
    let s := Store.performAll (empty capacity) operations
    (s.capacity = capacity ∧ s.used ≤ capacity) ∧
    (∀ key value,
      let required := s.usedBeside key + entrySize key value
      let after := (Store.write s key value).2
      s.used = s.usedBeside key + s.usedUnder key ∧
      ((Store.write s key value).1 = .ok () ↔ required ≤ capacity) ∧
      (required ≤ capacity → Store.read after key = .ok (some value) ∧ after.used = required ∧
        ∀ other, other ≠ key → Store.read after other = Store.read s other) ∧
      (capacity < required →
        Store.write s key value = (.error (.quotaExceeded key required capacity), s))) ∧
    (∀ key,
      let after := (Store.remove s key).2
      (Store.remove s key).1 = .ok () ∧ after.used = s.usedBeside key ∧ after.used ≤ s.used ∧
      Store.read after key = .ok none ∧
      ∀ other, other ≠ key → Store.read after other = Store.read s other) ∧
    ∃ keys, Store.keys s = .ok keys ∧ keys.Pairwise (· < ·) ∧
      ∀ key, key ∈ keys ↔ ∃ value, Store.read s key = .ok (some value) := by
  intro s
  have hwithin : s.Within capacity := (within_empty capacity).performAll operations
  have hcapacity : s.capacity = capacity := hwithin.capacity_eq
  refine ⟨⟨hcapacity, hwithin.used_le⟩, fun key value => ?_, fun key => ?_,
    s.entries.keys, rfl, s.pairwise_keys, fun key => mem_keys_iff⟩
  · intro required after
    have hfits : s.Fits key value ↔ required ≤ capacity := by rw [Fits, hcapacity]
    refine ⟨s.used_eq key, write_ok_iff.trans hfits, fun hroom => ?_, fun hroom => ?_⟩
    · have hafter : after = s.put key value :=
        congrArg Prod.snd (write_of_fits (hfits.mpr hroom))
      have hread : ∀ other, Store.read after other =
          .ok (if key = other then some value else s.entries.get? other) := by
        intro other
        rw [hafter, ← get?_put]
        rfl
      refine ⟨?_, ?_, fun other hother => ?_⟩
      · rw [hread, if_pos rfl]
      · rw [hafter, used_put]
      · rw [hread, if_neg hother.symm]
        rfl
    · have hnot : ¬ s.Fits key value := fun h => absurd (hfits.mp h) (Nat.not_le.mpr hroom)
      rw [write_eq_of_not_fits hnot, hcapacity]
  · intro after
    have hread : ∀ other, Store.read after other =
        .ok (if key = other then none else s.entries.get? other) := by
      intro other
      rw [← get?_remove]
      rfl
    refine ⟨rfl, s.used_remove key, s.usedBeside_le_used key, ?_, fun other hother => ?_⟩
    · rw [hread, if_pos rfl]
    · rw [hread, if_neg hother.symm]
      rfl

end MemoryStore
end SdkShelf
