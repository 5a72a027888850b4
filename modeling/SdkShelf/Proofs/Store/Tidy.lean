import SdkShelf.Proofs.Store.Simulation

/-!
# Directories of a single store

Where a store is alone, its directory holds the files of its entries and nothing else.  No name of a
temporary file is in use there, so every text that fits is accepted.
-/

namespace SdkShelf
namespace DirectoryStore

open Disk (Node)

/-- Every name is that of an entry's file. -/
def OnlyEntries (files : List (String × Node)) : Prop :=
  ∀ name n, Disk.child? name files = some n → ∃ key, IsFileKey key ∧ name = key ++ ending

theorem OnlyEntries.of_agreeBut {files files' : List (String × Node)} {key : String}
    (h : OnlyEntries files) (hkey : IsFileKey key)
    (hagree : Disk.AgreeBut (key ++ ending) files files') : OnlyEntries files' := by
  intro name n hchild
  by_cases hname : name = key ++ ending
  · exact ⟨key, hkey, hname⟩
  · rw [hagree.others name hname] at hchild
    exact h name n hchild

/-- The directory holds the files of the texts and no others, and the names of temporary files are
short enough. -/
structure Tidy (s : DirectoryStore) (texts : Dictionary String) : Prop where
  marks : ∀ n, (s.temporary n).utf8ByteSize ≤ markLimit
  files : ∃ files, Keeps s.base s.disk files ∧ Shows files texts ∧ OnlyEntries files

theorem tidy_empty {s : DirectoryStore} (hbase : s.disk.walk s.base = .ok (.directory []))
    (hmarks : ∀ n, (s.temporary n).utf8ByteSize ≤ markLimit) : s.Tidy Dictionary.empty := by
  refine ⟨hmarks, [], ⟨[], hbase, rfl⟩, shows_nil, fun name n hchild => ?_⟩
  exact absurd hchild (by simp [Disk.child?])

namespace Tidy

variable {s : DirectoryStore} {texts : Dictionary String} {key : String} (h : s.Tidy texts)
  (hkey : IsShortKey key)

include h hkey

theorem read : Store.read s key = .ok (texts.get? key) := by
  obtain ⟨files, hkeeps, hshows, _⟩ := h.files
  exact read_eq hkeeps hshows hkey.1 hkey.2

theorem fresh : (s.disk.walk (s.temporaryOf key)).isOk = false := by
  obtain ⟨files, hkeeps, _, honly⟩ := h.files
  have habsent : Disk.child? (key ++ ".tmp." ++ s.temporary s.drawn) files = none := by
    refine Option.eq_none_iff_forall_ne_some.mpr fun n hchild => ?_
    -- Whatever stands there has an entry's name, and no temporary file has one.
    obtain ⟨other, hother, hname⟩ := honly _ n hchild
    exact temporary_ne_entry _ hkey.1 hother hname
  rw [temporaryOf, directory,
    hkeeps.walk_absent (temporary_le hkey.2 (h.marks s.drawn)) habsent]
  rfl

theorem exists_write_of_fits {text : String} (hfits : s.Fits key text) :
    ∃ s', Store.write s key text = (.ok (), s') ∧ s'.Tidy (texts.insert key text) := by
  obtain ⟨files, hkeeps, hshows, honly⟩ := h.files
  obtain ⟨disk', files', hplace, hkeeps', hshows', hagree⟩ :=
    exists_place_eq hkeeps hshows hkey.1 hkey.2 (h.marks s.drawn) (h.fresh hkey) text
  have hwrite := write_eq_place hkey.1 hfits
  rw [hplace] at hwrite
  exact ⟨_, hwrite, h.marks, files', hkeeps', hshows', honly.of_agreeBut hkey.1 hagree⟩

theorem exists_remove : ∃ s', Store.remove s key = (.ok (), s') ∧ s'.Tidy (texts.erase key) := by
  obtain ⟨files, hkeeps, hshows, honly⟩ := h.files
  obtain ⟨disk', files', hremove, hkeeps', hshows', hagree⟩ :=
    exists_remove_eq hkeeps hshows hkey.1 hkey.2
  exact ⟨_, hremove, h.marks, files', hkeeps', hshows', honly.of_agreeBut hkey.1 hagree⟩

/-- A text is put under the key, or nothing happens at all. -/
theorem write_cases (text : String) :
    (∃ s', Store.write s key text = (.ok (), s') ∧ s'.Tidy (texts.insert key text)) ∨
      ∃ e, Store.write s key text = (.error e, s) := by
  by_cases hfits : s.Fits key text
  · exact Or.inl (h.exists_write_of_fits hkey hfits)
  · exact Or.inr (write_of_not_fits hfits)

end Tidy

end DirectoryStore
end SdkShelf
