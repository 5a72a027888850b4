import SdkShelf.Proofs.Project.Shrink
import SdkShelf.Proofs.Shelf.Collection
import SdkShelf.Proofs.Store.Memory

/-!
# Saving a collection within a quota

A collection is saved whole if its text fits, and else as the longest run of its first projects
whose shrunk text fits.  It is given up only if not even the newest shrunk project fits.
-/

namespace SdkShelf
namespace Shelf

/-- There is room for the text as the shelf's collection. -/
def Fits (s : Shelf MemoryStore) (text : String) : Prop := s.store.Fits s.collectionKey text

instance (s : Shelf MemoryStore) (text : String) : Decidable (s.Fits text) :=
  inferInstanceAs (Decidable (s.store.Fits s.collectionKey text))

/-- The shelf with the text as its collection. -/
def put (s : Shelf MemoryStore) (text : String) : Shelf MemoryStore :=
  { s with store := s.store.put s.collectionKey text }

/-- The first `m` shrunk projects fit, and no longer run of them does. -/
structure IsLongest (s : Shelf MemoryStore) (ps : List Project) (m : Nat) : Prop where
  pos : 1 ≤ m
  le : m ≤ ps.length
  fits : s.Fits (reducedText ps m)
  longest : ∀ k, m < k → k ≤ ps.length → ¬ s.Fits (reducedText ps k)

section

variable {s : Shelf MemoryStore} {text : String} {ps : List Project}

theorem write_of_fits (h : s.Fits text) : s.write s.collectionKey text = (.ok (), s.put text) := by
  rw [write, MemoryStore.write_of_fits h]
  rfl

theorem write_of_not_fits (h : ¬ s.Fits text) :
    ∃ e : StoreError, e.isQuotaExceeded = true ∧ s.write s.collectionKey text = (.error e, s) := by
  obtain ⟨e, he, hwrite⟩ := MemoryStore.write_of_not_fits h
  refine ⟨e, he, ?_⟩
  rw [write, hwrite]

theorem load_put {α : Type} {schema : Json.Schema α} {a : α}
    (hvalue : valueOf? schema text = some a) (default : α) :
    (s.put text).load schema s.collectionKey default = a := by
  refine load_of_loadText ?_ hvalue default
  show (s.store.put s.collectionKey text).entries.get? s.collectionKey = some text
  rw [MemoryStore.get?_put, if_pos rfl]

theorem loadText_put {key : String} (h : key ≠ s.collectionKey) :
    (s.put text).loadText key = s.loadText key := by
  show (s.store.put s.collectionKey text).entries.get? key = s.store.entries.get? key
  rw [MemoryStore.get?_put, if_neg h.symm]

theorem used_put_le (h : s.Fits text) : (s.put text).store.used ≤ (s.put text).store.capacity := by
  show (s.store.put s.collectionKey text).used ≤ s.store.capacity
  rw [MemoryStore.used_put]
  exact h

/-- The newest shrunk project takes the least room. -/
theorem not_fits_of_not_fits_one (h : ¬ s.Fits (reducedText ps 1)) {m : Nat} (hm : 1 ≤ m) :
    ¬ s.Fits (reducedText ps m) := by
  intro hfits
  exact h (hfits.mono (Project.size_text_take_le (Nat.le_refl 1) hm (ps.map Project.shrink)))

/-! ## Giving up projects -/

theorem longest_or_none (s : Shelf MemoryStore) (ps : List Project) (n : Nat) :
    (∃ m, 1 ≤ m ∧ m ≤ n ∧ s.Fits (reducedText ps m) ∧
      ∀ k, m < k → k ≤ n → ¬ s.Fits (reducedText ps k)) ∨
    ∀ k, 1 ≤ k → k ≤ n → ¬ s.Fits (reducedText ps k) := by
  induction n with
  | zero => exact Or.inr fun k hk hk' => absurd (Nat.le_trans hk hk') (by decide)
  | succ n ih =>
    by_cases hlast : s.Fits (reducedText ps (n + 1))
    · exact Or.inl ⟨n + 1, by omega, Nat.le_refl _, hlast, fun k hk hk' => absurd hk (by omega)⟩
    · have hstep : ∀ k, k ≤ n + 1 → k ≤ n ∨ k = n + 1 := by omega
      rcases ih with ⟨m, hm, hmn, hfits, hlongest⟩ | hnone
      · refine Or.inl ⟨m, hm, by omega, hfits, fun k hk hk' => ?_⟩
        rcases hstep k hk' with hkn | rfl
        · exact hlongest k hk hkn
        · exact hlast
      · refine Or.inr fun k hk hk' => ?_
        rcases hstep k hk' with hkn | rfl
        · exact hnone k hk hkn
        · exact hlast

/-- Started at no shorter run, the loop stops at the longest one that fits. -/
theorem writeFirst_of_isLongest {m n : Nat} (h : s.IsLongest ps m) (hmn : m ≤ n)
    (hn : n ≤ ps.length) :
    s.writeFirst s.collectionKey (ps.map Project.shrink) n = (true, s.put (reducedText ps m)) := by
  induction n with
  | zero => exact absurd (Nat.le_trans h.pos hmn) (by decide)
  | succ n ih =>
    rw [writeFirst]
    by_cases hlast : m = n + 1
    · have hwrite := write_of_fits h.fits
      rw [hlast, reducedText] at hwrite
      rw [hwrite, hlast]
      rfl
    · obtain ⟨e, he, hwrite⟩ := write_of_not_fits (h.longest (n + 1) (by omega) hn)
      rw [reducedText] at hwrite
      have hpos := h.pos
      rw [hwrite]
      simp only
      rw [if_pos ⟨he, by omega⟩]
      exact ih (by omega) (by omega)

/-- Where no run fits, every attempt of the loop leaves the shelf as it is. -/
theorem writeFirst_of_none {n : Nat} (hempty : n = 0 → ¬ s.Fits (reducedText ps 0))
    (h : ∀ k, 1 ≤ k → k ≤ n → ¬ s.Fits (reducedText ps k)) :
    s.writeFirst s.collectionKey (ps.map Project.shrink) n = (false, s) := by
  induction n with
  | zero =>
    obtain ⟨e, he, hwrite⟩ := write_of_not_fits (hempty rfl)
    rw [reducedText, List.take_zero] at hwrite
    rw [writeFirst, hwrite]
    rfl
  | succ n ih =>
    obtain ⟨e, he, hwrite⟩ := write_of_not_fits (h (n + 1) (by omega) (Nat.le_refl _))
    rw [reducedText] at hwrite
    rw [writeFirst, hwrite]
    simp only
    by_cases hn : 0 < n
    · rw [if_pos ⟨he, hn⟩]
      exact ih (by omega) fun k hk hkn => h k hk (by omega)
    · rw [if_neg fun hcond => hn hcond.2]

/-! ## The whole save -/

theorem saveAs_of_fits (h : s.Fits (plainText ps)) :
    s.saveAs Project.listSchema s.collectionKey ps = (true, s.put (plainText ps)) := by
  have hwrite := write_of_fits h
  rw [plainText] at hwrite
  rw [saveAs, save, hwrite]
  rfl

theorem saveAs_of_not_fits (h : ¬ s.Fits (plainText ps)) :
    s.saveAs Project.listSchema s.collectionKey ps =
      s.writeFirst s.collectionKey (ps.map Project.shrink) ps.length := by
  obtain ⟨e, he, hwrite⟩ := write_of_not_fits h
  rw [plainText] at hwrite
  rw [saveAs, save, hwrite]
  simp only
  rw [if_pos he, saveReduced, if_neg (not_not.mpr rfl), ofJson_collection]

theorem saveAs_of_isLongest {m : Nat} (hplain : ¬ s.Fits (plainText ps)) (h : s.IsLongest ps m) :
    s.saveAs Project.listSchema s.collectionKey ps = (true, s.put (reducedText ps m)) :=
  (saveAs_of_not_fits hplain).trans (writeFirst_of_isLongest h h.le (Nat.le_refl _))

end

/-- The three ways in which a collection is saved, or not. -/
theorem saveAs_cases (s : Shelf MemoryStore) (ps : List Project) :
    (s.Fits (plainText ps) ∧
      s.saveAs Project.listSchema s.collectionKey ps = (true, s.put (plainText ps))) ∨
    (¬ s.Fits (plainText ps) ∧ ∃ m, s.IsLongest ps m ∧
      s.saveAs Project.listSchema s.collectionKey ps = (true, s.put (reducedText ps m))) ∨
    (¬ s.Fits (plainText ps) ∧ (∀ m, 1 ≤ m → m ≤ ps.length → ¬ s.Fits (reducedText ps m)) ∧
      s.saveAs Project.listSchema s.collectionKey ps = (false, s)) := by
  by_cases hplain : s.Fits (plainText ps)
  · exact Or.inl ⟨hplain, saveAs_of_fits hplain⟩
  · rcases longest_or_none s ps ps.length with ⟨m, hm, hmn, hfits, hlongest⟩ | hnone
    · have hbest : s.IsLongest ps m := ⟨hm, hmn, hfits, hlongest⟩
      exact Or.inr (Or.inl ⟨hplain, m, hbest, saveAs_of_isLongest hplain hbest⟩)
    · rw [saveAs_of_not_fits hplain]
      refine Or.inr (Or.inr ⟨hplain, hnone, writeFirst_of_none (fun hzero => ?_) hnone⟩)
      rw [List.length_eq_zero_iff.mp hzero] at hplain ⊢
      exact hplain

/-- A save keeps the whole collection if its text fits, else the longest run of shrunk projects that
fits, else nothing.  The last happens to a collection that is not empty exactly if neither its text
nor its newest shrunk project fits.  No other key is touched, and no quota is passed. -/
theorem saveAs_within_quota (s : Shelf MemoryStore) (ps : List Project) :
    let saved := (s.saveAs Project.listSchema s.collectionKey ps).1
    let after := (s.saveAs Project.listSchema s.collectionKey ps).2
    (s.Fits (plainText ps) →
      saved = true ∧ ∀ default, after.load Project.listSchema s.collectionKey default = ps) ∧
    (¬ s.Fits (plainText ps) → (∃ m, 1 ≤ m ∧ m ≤ ps.length ∧ s.Fits (reducedText ps m)) →
      saved = true ∧ ∃ m, s.IsLongest ps m ∧ ∀ default,
        after.load Project.listSchema s.collectionKey default =
          (ps.map Project.shrink).take m) ∧
    (¬ s.Fits (plainText ps) → (∀ m, 1 ≤ m → m ≤ ps.length → ¬ s.Fits (reducedText ps m)) →
      saved = false ∧ after = s) ∧
    (ps ≠ [] → (saved = false ∧ after = s ↔
      ¬ s.Fits (plainText ps) ∧ ¬ s.Fits (reducedText ps 1))) ∧
    (∀ key, key ≠ s.collectionKey → after.loadText key = s.loadText key) ∧
    (saved = true → after.store.used ≤ s.store.capacity) := by
  intro saved after
  rcases saveAs_cases s ps with ⟨hplain, hsave⟩ | ⟨hplain, m, hbest, hsave⟩ |
    ⟨hplain, hnone, hsave⟩
  · have hsaved : saved = true := congrArg Prod.fst hsave
    have hafter : after = s.put (plainText ps) := congrArg Prod.snd hsave
    rw [hsaved, hafter]
    refine ⟨fun _ => ⟨rfl, load_put (valueOf?_plainText ps)⟩, fun h => absurd hplain h,
      fun h => absurd hplain h, fun _ => ?_, fun key => loadText_put, fun _ => used_put_le hplain⟩
    exact ⟨fun h => Bool.noConfusion h.1, fun h => absurd hplain h.1⟩
  · have hsaved : saved = true := congrArg Prod.fst hsave
    have hafter : after = s.put (reducedText ps m) := congrArg Prod.snd hsave
    rw [hsaved, hafter]
    refine ⟨fun h => absurd h hplain,
      fun _ _ => ⟨rfl, m, hbest, load_put (valueOf?_reducedText ps m)⟩,
      fun _ h => absurd hbest.fits (h m hbest.pos hbest.le), fun _ => ?_,
      fun key => loadText_put, fun _ => used_put_le hbest.fits⟩
    exact ⟨fun h => Bool.noConfusion h.1,
      fun h => absurd hbest.fits (not_fits_of_not_fits_one h.2 hbest.pos)⟩
  · have hsaved : saved = false := congrArg Prod.fst hsave
    have hafter : after = s := congrArg Prod.snd hsave
    rw [hsaved, hafter]
    refine ⟨fun h => absurd h hplain, fun _ ⟨m, hm, hmn, hfits⟩ => absurd hfits (hnone m hm hmn),
      fun _ _ => ⟨rfl, rfl⟩, fun hne => ?_, fun _ _ => rfl, fun h => Bool.noConfusion h⟩
    have hlen : 1 ≤ ps.length := List.length_pos_iff.mpr hne
    exact ⟨fun _ => ⟨hplain, hnone 1 (Nat.le_refl 1) hlen⟩, fun _ => ⟨rfl, rfl⟩⟩

end Shelf
end SdkShelf
