import SdkShelf.Proofs.Disk.Node
import SdkShelf.Proofs.Store.Memory
import SdkShelf.Store.Directory
import SdkShelf.Store.Scripted

/-!
# Stores that keep what they accept

Whatever the store, in memory or on disk, a text that it accepted is read back as it was written.
-/

namespace SdkShelf

/-- A store that reads back every text it accepts. -/
class ReadsBack (σ : Type) [Store σ] : Prop where
  read_write : ∀ {s after : σ} {key text : String},
    Store.write s key text = (.ok (), after) → Store.read after key = .ok (some text)

instance : ReadsBack BrokenStore where
  read_write h := absurd (congrArg Prod.fst h) (by simp [Store.write])

instance : ReadsBack MemoryStore where
  read_write {s after key text} h := by
    by_cases hfits : s.Fits key text
    · rw [MemoryStore.write_of_fits hfits] at h
      rw [← (Prod.mk.inj h).2]
      show Except.ok ((s.put key text).entries.get? key) = _
      rw [MemoryStore.get?_put, if_pos rfl]
    · obtain ⟨e, _, hwrite⟩ := MemoryStore.write_of_not_fits hfits
      rw [hwrite] at h
      exact absurd (Prod.mk.inj h).1 (by simp)

instance : ReadsBack ScriptedStore where
  read_write {s after key text} h := by
    replace h : s.write key text = (.ok (), after) := h
    unfold ScriptedStore.write at h
    simp only at h
    split at h
    · rw [← (Prod.mk.inj h).2]
      show Except.ok ((s.entries.insert key text).get? key) = _
      rw [Dictionary.get?_insert, if_pos rfl]
    · exact absurd (Prod.mk.inj h).1 (by simp)
    · exact absurd (Prod.mk.inj h).1 (by simp)
    · exact absurd (Prod.mk.inj h).1 (by simp)

namespace DirectoryStore

theorem temporary_ne (key temporary : String) : key ++ ".tmp." ++ temporary ≠ key ++ ending := by
  intro h
  have hlist := congrArg String.toList h
  simp only [String.append_assoc, String.toList_append] at hlist
  have hrest := congrArg (fun cs => cs[2]?) (List.append_cancel_left hlist)
  exact absurd hrest (by simp [ending])

theorem read_of_readText {s : DirectoryStore} {key text : String} (hkey : checkKey key = .ok ())
    (h : s.disk.readText (s.pathOf key) = .ok text) : s.read key = .ok (some text) := by
  simp only [read, hkey, bind, Except.bind, h]

theorem readText_of_place {s after : DirectoryStore} {key text : String}
    (h : s.place key text = (.ok (), after)) :
    after.disk.readText (after.pathOf key) = .ok text := by
  unfold place at h
  split at h
  · exact absurd (Prod.mk.inj h).1 (by simp)
  · split at h
    · exact absurd (Prod.mk.inj h).1 (by simp)
    · rename_i hwrite
      split at h
      · exact absurd (Prod.mk.inj h).1 (by simp)
      · rename_i hrename
        rw [← (Prod.mk.inj h).2]
        exact Disk.Node.readText_of_readFile (Disk.Node.readFile_rename (temporary_ne key _)
          (Disk.Node.readFile_writeFile hwrite) hrename)

end DirectoryStore

instance : ReadsBack DirectoryStore where
  read_write {s after key text} h := by
    replace h : s.write key text = (.ok (), after) := h
    rw [DirectoryStore.write] at h
    split at h
    · exact absurd (Prod.mk.inj h).1 (by simp)
    · exact absurd (Prod.mk.inj h).1 (by simp)
    · rename_i hkey _
      simp only at h
      split at h
      · exact absurd (Prod.mk.inj h).1 (by simp)
      · cases hplace : s.place key text with
        | mk result final =>
          rw [hplace] at h
          obtain ⟨hresult, rfl⟩ := Prod.mk.inj h
          cases result with
          | error e =>
            replace hresult : Except.error (StoreError.disk e) = Except.ok () := hresult
            exact absurd hresult (by simp)
          | ok _ =>
            exact DirectoryStore.read_of_readText hkey (DirectoryStore.readText_of_place hplace)

end SdkShelf
