import SdkShelf.Proofs.Json.Agreement
import SdkShelf.Proofs.Json.Parts
import SdkShelf.Proofs.Json.Room

/-!
# What is read keeps to the grammar

Where a value is read from a text, all of the text is passed, and so it is a document.  For records
this follows from the same of their fields: what belongs to no field is skipped, and skipping is no
less strict about the grammar than reading.
-/

namespace SdkShelf
namespace Json

namespace Tree

end Tree

/-- Strictly read is what is a value, as far as there is room for it. -/
theorem Schema.decode_json_iff {room : Nat} {t : Tree} {d : Document} (ht : Depicts t d)
    {w : Json} : Schema.json.decode (.text room) t = .ok w ↔
      ∃ v, d = .ofJson v ∧ v.depth ≤ room ∧ v.canonical = w := by
  simp only [← Reader.read_eq_ok_iff ht, ← and_assoc, ← t.read_text_iff]
  constructor
  · intro h
    obtain ⟨v, hread, hv⟩ := exists_of_map_eq_ok h
    exact ⟨v, hread, hv⟩
  · rintro ⟨v, hread, rfl⟩
    rw [decode, hread]
    rfl

end Json
end SdkShelf
