import Mathlib.Algebra.GroupWithZero.Nat
import SdkShelf.Proofs.Catalog.History

/-!
# The number of recorded calls

What is done with the projects of a catalog is not seen in the number of its calls.  Recording a
call raises it by one if there is room for the new number, and leaves it as it is otherwise, so it
never falls.
-/

namespace SdkShelf
namespace Catalog

variable {c : Catalog MemoryStore}

/-! ## Single operations -/

theorem apiCallCount_recordApiCall (c : Catalog MemoryStore) :
    c.recordApiCall.2.apiCallCount =
      if c.shelf.store.Fits Shelf.callsKey (toString c.recordApiCall.1) then c.recordApiCall.1
      else c.apiCallCount := by
  show _ = if c.shelf.store.Fits Shelf.callsKey c.nextCount then _ else _
  split
  · rename_i hfits
    refine apiCallCount_of_accepted ?_
    rw [Shelf.write, MemoryStore.write_of_fits hfits]
  · rename_i hfits
    obtain ⟨e, _, hwrite⟩ := MemoryStore.write_of_not_fits hfits
    rw [recordApiCall_eq, Shelf.write, hwrite]

theorem list_recordApiCall (hkey : c.shelf.collectionKey = Shelf.projectsKey) :
    c.recordApiCall.2.list = c.list := by
  have hother : Shelf.callsKey ≠ c.shelf.collectionKey := by
    rw [hkey]
    decide
  rw [recordApiCall_eq]
  exact list_congr (Shelf.loadText_write hother)

theorem apiCallCount_create (hkey : c.shelf.collectionKey = Shelf.projectsKey) (id : String)
    (now : Timestamp) (name : Option String) (sourceUrl : String) (g : Backend.Generation) :
    (c.create id now name sourceUrl g).2.2.apiCallCount = c.apiCallCount := by
  have hother : Shelf.callsKey ≠ c.shelf.collectionKey := by
    rw [hkey]
    decide
  rcases create_cases c id now name sourceUrl g with ⟨text, hcreate, _⟩ | hcreate
  · rw [hcreate]
    exact apiCallCount_congr (Shelf.loadText_put hother)
  · rw [hcreate]

theorem apiCallCount_clearAll (hkey : c.shelf.collectionKey = Shelf.projectsKey) :
    c.clearAll.apiCallCount = c.apiCallCount := by
  refine apiCallCount_congr ?_
  show (c.shelf.clear _).loadText _ = _
  rw [Shelf.loadText_clear, hkey]
  exact if_neg (by decide)

/-! ## Runs -/

/-- What may be done with a catalog. -/
inductive Use where
  | create (id : String) (now : Timestamp) (name : Option String) (sourceUrl : String)
    (g : Backend.Generation)
  | clearAll
  | recordApiCall

/-- The catalog of a store under the usual key. -/
def start (store : MemoryStore) : Catalog MemoryStore := ⟨⟨store, Shelf.projectsKey⟩⟩

def use (c : Catalog MemoryStore) : Use → Catalog MemoryStore
  | .create id now name sourceUrl g => (c.create id now name sourceUrl g).2.2
  | .clearAll => c.clearAll
  | .recordApiCall => c.recordApiCall.2

def run (c : Catalog MemoryStore) (uses : List Use) : Catalog MemoryStore := uses.foldl use c

/-- The number of calls that are to be recorded. -/
def Use.calls : Use → Nat
  | .create .. => 0
  | .clearAll => 0
  | .recordApiCall => 1

/-- There is room for the number of the call, if one is to be recorded. -/
def HasRoomFor (c : Catalog MemoryStore) : Use → Prop
  | .recordApiCall => c.shelf.store.Fits Shelf.callsKey (toString c.recordApiCall.1)
  | _ => True

/-- There is room for the number of each recorded call when its turn comes. -/
def HasRoomForAll (c : Catalog MemoryStore) : List Use → Prop
  | [] => True
  | u :: uses => c.HasRoomFor u ∧ (c.use u).HasRoomForAll uses

theorem collectionKey_use (c : Catalog MemoryStore) (u : Use) :
    (c.use u).shelf.collectionKey = c.shelf.collectionKey := by
  cases u with
  | create id now name sourceUrl g =>
    rcases create_cases c id now name sourceUrl g with ⟨text, hcreate, _⟩ | hcreate
    · rw [use, hcreate]
      rfl
    · rw [use, hcreate]
  | clearAll => rfl
  | recordApiCall =>
    rw [use, recordApiCall_eq]
    rfl

theorem collectionKey_run (c : Catalog MemoryStore) (uses : List Use) :
    (c.run uses).shelf.collectionKey = c.shelf.collectionKey := by
  induction uses generalizing c with
  | nil => rfl
  | cons u uses ih => exact (ih (c.use u)).trans (collectionKey_use c u)

theorem apiCallCount_le_use (hkey : c.shelf.collectionKey = Shelf.projectsKey) (u : Use) :
    c.apiCallCount ≤ (c.use u).apiCallCount := by
  cases u with
  | create id now name sourceUrl g =>
    exact Nat.le_of_eq (apiCallCount_create hkey id now name sourceUrl g).symm
  | clearAll => exact Nat.le_of_eq (apiCallCount_clearAll hkey).symm
  | recordApiCall =>
    rw [use, apiCallCount_recordApiCall]
    split
    · exact Nat.le_min.mpr ⟨Nat.le_succ _, apiCallCount_le c⟩
    · exact Nat.le_refl _

theorem apiCallCount_le_run (hkey : c.shelf.collectionKey = Shelf.projectsKey) (uses : List Use) :
    c.apiCallCount ≤ (c.run uses).apiCallCount := by
  induction uses generalizing c with
  | nil => exact Nat.le_refl _
  | cons u uses ih =>
    exact Nat.le_trans (apiCallCount_le_use hkey u) (ih ((collectionKey_use c u).trans hkey))

theorem apiCallCount_use (hkey : c.shelf.collectionKey = Shelf.projectsKey) {u : Use}
    (hroom : c.HasRoomFor u) :
    (c.use u).apiCallCount = min (c.apiCallCount + u.calls) callLimit := by
  cases u with
  | create id now name sourceUrl g =>
    rw [use, apiCallCount_create hkey, Use.calls, Nat.add_zero, Nat.min_eq_left (apiCallCount_le c)]
  | clearAll =>
    rw [use, apiCallCount_clearAll hkey, Use.calls, Nat.add_zero,
      Nat.min_eq_left (apiCallCount_le c)]
  | recordApiCall =>
    have hfits : c.shelf.store.Fits Shelf.callsKey (toString c.recordApiCall.1) := hroom
    rw [use, apiCallCount_recordApiCall, if_pos hfits, Use.calls]
    rfl

theorem apiCallCount_run (hkey : c.shelf.collectionKey = Shelf.projectsKey) {uses : List Use}
    (hroom : c.HasRoomForAll uses) :
    (c.run uses).apiCallCount = min (c.apiCallCount + (uses.map Use.calls).sum) callLimit := by
  induction uses generalizing c with
  | nil => exact (Nat.min_eq_left (apiCallCount_le c)).symm
  | cons u uses ih =>
    show ((c.use u).run uses).apiCallCount = _
    rw [ih ((collectionKey_use c u).trans hkey) hroom.2, apiCallCount_use hkey hroom.1,
      List.map_cons, List.sum_cons]
    omega

/-- In every state that a catalog can reach from any store, the next recorded call is numbered one
higher than the last, up to the largest number, and counted if there is room for its number.
Creating and clearing do not change the count.  So it never falls, and as long as there is room it
rises by the number of the recorded calls. -/
theorem apiCallCount_never_drifts (store : MemoryStore) (uses : List Use) :
    let c := (start store).run uses
    (c.shelf.loadText Shelf.callsKey = none → c.apiCallCount = 0) ∧
    (∀ text, c.shelf.loadText Shelf.callsKey = some text →
      (∀ n, Text.IsWord (Text.trim text) n → c.apiCallCount = n) ∧
      ((∀ n, ¬ Text.IsWord (Text.trim text) n) → c.apiCallCount = 0)) ∧
    c.recordApiCall.1 = min (c.apiCallCount + 1) (2 ^ 64 - 1) ∧
    (c.shelf.store.Fits Shelf.callsKey (toString c.recordApiCall.1) →
      c.recordApiCall.2.apiCallCount = c.recordApiCall.1) ∧
    (¬ c.shelf.store.Fits Shelf.callsKey (toString c.recordApiCall.1) →
      c.recordApiCall.2.apiCallCount = c.apiCallCount) ∧
    c.recordApiCall.2.list = c.list ∧
    (∀ id now name sourceUrl g,
      (c.create id now name sourceUrl g).2.2.apiCallCount = c.apiCallCount) ∧
    c.clearAll.apiCallCount = c.apiCallCount ∧
    ∀ more,
      c.apiCallCount ≤ (c.run more).apiCallCount ∧
      (c.HasRoomForAll more →
        (c.run more).apiCallCount =
          min (c.apiCallCount + (more.map Use.calls).sum) (2 ^ 64 - 1)) := by
  intro c
  have hkey : c.shelf.collectionKey = Shelf.projectsKey := collectionKey_run (start store) uses
  refine ⟨apiCallCount_of_absent, fun text htext => ⟨fun n => apiCallCount_of_isWord htext,
    apiCallCount_of_not_isWord htext⟩, rfl, fun hfits => ?_, fun hfits => ?_,
    list_recordApiCall hkey, apiCallCount_create hkey, apiCallCount_clearAll hkey,
    fun more => ⟨apiCallCount_le_run hkey more, apiCallCount_run hkey⟩⟩
  · rw [apiCallCount_recordApiCall, if_pos hfits]
  · rw [apiCallCount_recordApiCall, if_neg hfits]

end Catalog
end SdkShelf
