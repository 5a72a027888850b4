import SdkShelf.Proofs.Json.Size
import SdkShelf.Proofs.Shelf.Protocol
import SdkShelf.Proofs.Shelf.Quota

/-!
# Saving what was loaded

A collection that was saved, whole or reduced, is loaded as one that fits where it came from: saved
once more it takes the same room, although its members may be written in another order.
-/

namespace SdkShelf

theorem MemoryStore.fits_compact_iff {s : MemoryStore} {key : String} {v : Json} :
    s.Fits key v.compact ↔
      s.usedBeside key + (key.utf8ByteSize + String.utf8Len v.compactChars) ≤ s.capacity := by
  rw [Fits, entrySize, Json.utf8ByteSize_compact]

namespace Shelf

/-- The text of a whole collection and that of a reduced one differ in the order of members only. -/
theorem size_plainText (ps : List Project) :
    (plainText ps).utf8ByteSize = (Project.listSchema.text ps).utf8ByteSize := by
  have hplain : (Project.listSchema.encode ps).Plain :=
    Json.Schema.plain_encode _ (Project.faithful_list ps)
  rw [plainText_eq, Json.utf8ByteSize_canonical hplain]
  rfl

section

variable {s : Shelf MemoryStore} {text other : String}

theorem fits_put (h : s.Fits text) (hsize : other.utf8ByteSize = text.utf8ByteSize) :
    (s.put text).Fits other := by
  have hother : s.store.Fits s.collectionKey other := h.mono (Nat.le_of_eq hsize)
  show (s.store.put s.collectionKey text).usedBeside s.collectionKey + _ ≤ s.store.capacity
  rw [MemoryStore.usedBeside_put]
  exact hother

theorem used_put_put (hsize : other.utf8ByteSize = text.utf8ByteSize) :
    ((s.put text).put other).store.used = (s.put text).store.used := by
  show ((s.store.put s.collectionKey text).put s.collectionKey other).used =
    (s.store.put s.collectionKey text).used
  rw [MemoryStore.used_put, MemoryStore.used_put, MemoryStore.usedBeside_put, entrySize, entrySize,
    hsize]

/-- Nothing else is tried where the whole collection fits. -/
theorem attempts_of_fits {ps : List Project} (h : s.Fits (plainText ps)) :
    ((s.watched []).saveAs Project.listSchema s.collectionKey ps).2.store.attempts =
      [⟨s.collectionKey, plainText ps, .ok ()⟩] := by
  have hwrite := write_watched s [] s.collectionKey (plainText ps)
  rw [write_of_fits h] at hwrite
  have hfirst := congrArg Prod.fst hwrite
  rw [plainText] at hwrite hfirst
  rw [saveAs, save_of_accepted hfirst, hwrite, plainText]
  rfl

/-- A save that succeeds leaves the text of some collection, written one way or the other. -/
theorem exists_put_of_saved {ps : List Project}
    (hsaved : (s.saveAs Project.listSchema s.collectionKey ps).1 = true) :
    ∃ text kept, (s.saveAs Project.listSchema s.collectionKey ps).2 = s.put text ∧ s.Fits text ∧
      valueOf? Project.listSchema text = some kept ∧
      (plainText kept).utf8ByteSize = text.utf8ByteSize := by
  rcases saveAs_cases s ps with ⟨hplain, hsave⟩ | ⟨_, m, hbest, hsave⟩ | ⟨_, _, hsave⟩
  · exact ⟨plainText ps, ps, congrArg Prod.snd hsave, hplain, valueOf?_plainText ps, rfl⟩
  · exact ⟨reducedText ps m, (ps.map Project.shrink).take m, congrArg Prod.snd hsave, hbest.fits,
      valueOf?_reducedText ps m, size_plainText _⟩
  · rw [hsave] at hsaved
    exact Bool.noConfusion hsaved

end

/-- What is loaded after a save is saved again by the first write, is loaded again, and takes no
other room than before. -/
theorem saveAs_loaded {s : Shelf MemoryStore} {ps : List Project}
    (hsaved : (s.saveAs Project.listSchema s.collectionKey ps).1 = true) (default : List Project) :
    let after := (s.saveAs Project.listSchema s.collectionKey ps).2
    let kept := after.load Project.listSchema s.collectionKey default
    let again := (after.saveAs Project.listSchema s.collectionKey kept).2
    (after.saveAs Project.listSchema s.collectionKey kept).1 = true ∧
    ((after.watched []).saveAs Project.listSchema s.collectionKey kept).2.store.attempts =
      [⟨s.collectionKey, plainText kept, .ok ()⟩] ∧
    (∀ default, again.load Project.listSchema s.collectionKey default = kept) ∧
    again.store.used = after.store.used := by
  intro after kept again
  obtain ⟨text, ps', hafter, hfits, hvalue, hsize⟩ := exists_put_of_saved hsaved
  replace hafter : after = s.put text := hafter
  have hkept : kept = ps' := by
    show after.load Project.listSchema s.collectionKey default = ps'
    rw [hafter]
    exact load_put hvalue default
  rw [← hkept] at hsize
  have hroom : after.Fits (plainText kept) := by
    rw [hafter]
    exact fits_put hfits hsize
  have hkey : after.collectionKey = s.collectionKey := by rw [hafter]; rfl
  have hsave : after.saveAs Project.listSchema s.collectionKey kept =
      (true, after.put (plainText kept)) := by
    rw [← hkey]
    exact saveAs_of_fits hroom
  have hagain : again = after.put (plainText kept) := by
    show (after.saveAs Project.listSchema s.collectionKey kept).2 = _
    rw [hsave]
  refine ⟨?_, ?_, fun default' => ?_, ?_⟩
  · rw [hsave]
  · rw [← hkey]
    exact attempts_of_fits hroom
  · rw [hagain, ← hkey]
    exact load_put (valueOf?_plainText kept) default'
  · rw [hagain, hafter]
    exact used_put_put hsize

/-- One of two projects had to be given up, and the other one was shrunk. -/
theorem saveAs_loaded_after_eviction :
    let now : Timestamp := ⟨⟨2025, 2, 1, by decide⟩, 12, 0, 0, 0, by decide⟩
    let endpoint : Api.Endpoint := ⟨.get, "/pets", none, some "every pet", Dictionary.empty⟩
    let pets (id : String) : Project :=
      ⟨id, "Pets", "docs", ⟨none, none, "", [endpoint], false⟩, "code", now, none, false, none⟩
    let s : Shelf MemoryStore := ⟨MemoryStore.empty 200, projectsKey⟩
    (s.saveAs Project.listSchema s.collectionKey [pets "b", pets "a"]).1 = true ∧
    (∀ default, (s.saveAs Project.listSchema s.collectionKey [pets "b", pets "a"]).2.load
      Project.listSchema s.collectionKey default = [(pets "b").shrink]) ∧
    let after := (s.saveAs Project.listSchema s.collectionKey [pets "b", pets "a"]).2
    let kept := after.load Project.listSchema s.collectionKey []
    let again := (after.saveAs Project.listSchema s.collectionKey kept).2
    (after.saveAs Project.listSchema s.collectionKey kept).1 = true ∧
    ((after.watched []).saveAs Project.listSchema s.collectionKey kept).2.store.attempts =
      [⟨s.collectionKey, plainText kept, .ok ()⟩] ∧
    (∀ default, again.load Project.listSchema s.collectionKey default = kept) ∧
    again.store.used = after.store.used := by
  intro now endpoint pets s
  have hplain : ¬ s.Fits (plainText [pets "b", pets "a"]) := by
    rw [plainText_eq, Fits, MemoryStore.fits_compact_iff]
    decide +kernel
  have hone : s.Fits (reducedText [pets "b", pets "a"] 1) := by
    rw [reducedText, Json.Schema.text, Fits, MemoryStore.fits_compact_iff]
    decide +kernel
  have htwo : ¬ s.Fits (reducedText [pets "b", pets "a"] 2) := by
    rw [reducedText, Json.Schema.text, Fits, MemoryStore.fits_compact_iff]
    decide +kernel
  have hlongest : s.IsLongest [pets "b", pets "a"] 1 := by
    constructor
    · exact Nat.le_refl 1
    · exact Nat.le_succ 1
    · exact hone
    · intro k hk hk'
      have hk : k = 2 := Nat.le_antisymm hk' hk
      rw [hk]
      exact htwo
  have hsave := saveAs_of_isLongest hplain hlongest
  have hsaved := congrArg Prod.fst hsave
  refine ⟨hsaved, ?_, saveAs_loaded hsaved []⟩
  intro default
  rw [hsave]
  exact load_put (valueOf?_reducedText [pets "b", pets "a"] 1) default

end Shelf
end SdkShelf
