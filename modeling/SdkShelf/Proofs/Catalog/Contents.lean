import SdkShelf.Catalog
import SdkShelf.Proofs.Shelf.Texts
import SdkShelf.Proofs.Text.Word

/-!
# The contents of a catalog

What is listed is what one text says, and what is counted is what another one says.  Recording a
call writes the latter, and if it is accepted the count is the next one from then on.
-/

namespace SdkShelf
namespace Catalog

variable {σ : Type} [Store σ] {c : Catalog σ}

theorem list_congr {τ : Type} [Store τ] {d : Catalog τ}
    (h : d.shelf.loadText d.shelf.collectionKey = c.shelf.loadText c.shelf.collectionKey) :
    d.list = c.list := by
  rw [list, list, Shelf.load, Shelf.load, h]

theorem list_of_absent (h : c.shelf.loadText c.shelf.collectionKey = none) : c.list = [] := by
  rw [list, Shelf.load, h]
  rfl

theorem apiCallCount_congr {τ : Type} [Store τ] {d : Catalog τ}
    (h : d.shelf.loadText Shelf.callsKey = c.shelf.loadText Shelf.callsKey) :
    d.apiCallCount = c.apiCallCount := by
  rw [apiCallCount, apiCallCount, h]

theorem apiCallCount_of_absent (h : c.shelf.loadText Shelf.callsKey = none) :
    c.apiCallCount = 0 := by
  rw [apiCallCount, h]

theorem apiCallCount_of_isWord {text : String} {n : Nat}
    (h : c.shelf.loadText Shelf.callsKey = some text) (hword : Text.IsWord (Text.trim text) n) :
    c.apiCallCount = n := by
  simp only [apiCallCount, h, Text.readWord_eq_ok_iff.mpr hword]
  rfl

theorem apiCallCount_of_not_isWord {text : String}
    (h : c.shelf.loadText Shelf.callsKey = some text)
    (hword : ∀ n, ¬ Text.IsWord (Text.trim text) n) : c.apiCallCount = 0 := by
  simp only [apiCallCount, h]
  cases hread : Text.readWord (Text.trim text) with
  | error e => rfl
  | ok n => exact absurd (Text.readWord_eq_ok_iff.mp hread) (hword n)

theorem apiCallCount_le (c : Catalog σ) : c.apiCallCount ≤ callLimit := by
  cases htext : c.shelf.loadText Shelf.callsKey with
  | none =>
    rw [apiCallCount_of_absent htext]
    exact Nat.zero_le _
  | some text =>
    by_cases hword : ∃ n, Text.IsWord (Text.trim text) n
    · obtain ⟨n, hn⟩ := hword
      rw [apiCallCount_of_isWord htext hn]
      exact Nat.le_sub_one_of_lt hn.lt
    · rw [apiCallCount_of_not_isWord htext fun n hn => hword ⟨n, hn⟩]
      exact Nat.zero_le _

/-- The text under which one more call is recorded. -/
def nextCount (c : Catalog σ) : String := toString (min (c.apiCallCount + 1) callLimit)

theorem recordApiCall_eq :
    c.recordApiCall.2 = ⟨(c.shelf.write Shelf.callsKey c.nextCount).2⟩ := by
  rw [recordApiCall, Shelf.saveText_eq]
  rfl

theorem apiCallCount_of_loadText {n : Nat} (hn : n ≤ callLimit)
    (h : c.shelf.loadText Shelf.callsKey = some (toString n)) : c.apiCallCount = n := by
  have hword : n < Text.wordSize := Nat.lt_of_le_of_lt hn (by decide)
  refine apiCallCount_of_isWord h ?_
  rw [Text.trim_toString]
  exact Text.isWord_toString hword

theorem apiCallCount_of_accepted [ReadsBack σ]
    (h : (c.shelf.write Shelf.callsKey c.nextCount).1 = .ok ()) :
    c.recordApiCall.2.apiCallCount = min (c.apiCallCount + 1) callLimit := by
  refine apiCallCount_of_loadText (Nat.min_le_right _ _) ?_
  rw [recordApiCall_eq]
  exact Shelf.loadText_of_accepted h

end Catalog
end SdkShelf
