import SdkShelf.Proofs.Dictionary
import SdkShelf.Store.Memory

/-!
# Room in memory

A text is accepted if and only if it fits beside the other entries, and then it is the only thing
that changes.
-/

namespace SdkShelf
namespace MemoryStore

/-- There is room for the text under the key, once what it replaces is gone. -/
def Fits (s : MemoryStore) (key text : String) : Prop :=
  s.usedBeside key + entrySize key text ≤ s.capacity

instance (s : MemoryStore) (key text : String) : Decidable (s.Fits key text) :=
  inferInstanceAs (Decidable (_ ≤ _))

/-- The store with the text under the key, whatever room there is. -/
def put (s : MemoryStore) (key text : String) : MemoryStore :=
  { s with entries := s.entries.insert key text }

theorem get?_put (s : MemoryStore) (key text other : String) :
    (s.put key text).entries.get? other = if key = other then some text else s.entries.get? other :=
  s.entries.get?_insert key other text

theorem write_of_fits {s : MemoryStore} {key text : String} (h : s.Fits key text) :
    Store.write s key text = (.ok (), s.put key text) := by
  show s.write key text = _
  rw [write, if_neg (Nat.not_lt.mpr h)]
  rfl

/-- A refusal names the room that the entries would need. -/
theorem write_eq_of_not_fits {s : MemoryStore} {key text : String} (h : ¬ s.Fits key text) :
    Store.write s key text =
      (.error (.quotaExceeded key (s.usedBeside key + entrySize key text) s.capacity), s) := by
  show s.write key text = _
  rw [write, if_pos (Nat.not_le.mp h)]

theorem write_of_not_fits {s : MemoryStore} {key text : String} (h : ¬ s.Fits key text) :
    ∃ e : StoreError, e.isQuotaExceeded = true ∧ Store.write s key text = (.error e, s) :=
  ⟨_, rfl, write_eq_of_not_fits h⟩

/-- Whether it is accepted or not, a write leaves the other keys as they are. -/
theorem get?_write {s : MemoryStore} {key text other : String} (h : key ≠ other) :
    (Store.write s key text).2.entries.get? other = s.entries.get? other := by
  by_cases hfits : s.Fits key text
  · rw [write_of_fits hfits, get?_put, if_neg h]
  · obtain ⟨e, _, hwrite⟩ := write_of_not_fits hfits
    rw [hwrite]

theorem sizeOf_perm {entries others : List (String × String)} (h : entries.Perm others) :
    sizeOf entries = sizeOf others := by
  induction h with
  | nil => rfl
  | cons e _ ih =>
    show entrySize e.1 e.2 + _ = entrySize e.1 e.2 + _
    exact congrArg _ ih
  | swap a b rest =>
    show entrySize b.1 b.2 + (entrySize a.1 a.2 + _) = entrySize a.1 a.2 + (entrySize b.1 b.2 + _)
    omega
  | trans _ _ ih ih' => exact ih.trans ih'

theorem used_put (s : MemoryStore) (key text : String) :
    (s.put key text).used = s.usedBeside key + entrySize key text := by
  rw [used, put, sizeOf_perm (s.entries.entries_insert_perm key text), Nat.add_comm]
  rfl

theorem usedBeside_put (s : MemoryStore) (key text : String) :
    (s.put key text).usedBeside key = s.usedBeside key := by
  rw [usedBeside, put, Dictionary.erase_insert, usedBeside]

/-- A text that takes no more room fits as well. -/
theorem Fits.mono {s : MemoryStore} {key text shorter : String} (h : s.Fits key text)
    (hsize : shorter.utf8ByteSize ≤ text.utf8ByteSize) : s.Fits key shorter := by
  rw [Fits, entrySize] at h ⊢
  omega

end MemoryStore
end SdkShelf
