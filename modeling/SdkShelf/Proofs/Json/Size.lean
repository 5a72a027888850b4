import Mathlib.Data.String.Basic
import SdkShelf.Json.Printer
import SdkShelf.Proofs.Json.Canonical

/-!
# The size of a text

The order of members makes no difference to the size of a value's text.
-/

namespace SdkShelf
namespace Json

open String (utf8Len)

theorem utf8ByteSize_compact (v : Json) : v.compact.utf8ByteSize = utf8Len (compactChars v) :=
  String.utf8ByteSize_ofList _

theorem utf8Len_compactItems_cons (v : Json) (rest : List Json) :
    utf8Len (compactItems (v :: rest)) =
      utf8Len (compactChars v) + utf8Len (compactItems rest) + 1 := by
  rw [compactItems, String.utf8Len_cons, String.utf8Len_append]
  rfl

theorem utf8Len_compactMembers_cons (m : String × Json) (rest : List (String × Json)) :
    utf8Len (compactMembers (m :: rest)) =
      utf8Len (stringText m.1) + utf8Len (compactChars m.2) + utf8Len (compactMembers rest) + 2 := by
  have hcomma : ','.utf8Size = 1 := rfl
  have hcolon : ':'.utf8Size = 1 := rfl
  rw [compactMembers, String.utf8Len_cons, String.utf8Len_append, String.utf8Len_cons,
    String.utf8Len_append, hcomma, hcolon]
  omega

/-- A container's brackets take the room of the comma in front of its first part and one byte
more. -/
theorem utf8Len_compactChars_array {items : List Json} (h : items ≠ []) :
    utf8Len (compactChars (.array items)) = utf8Len (compactItems items) + 1 := by
  obtain ⟨v, rest, rfl⟩ := List.exists_cons_of_ne_nil h
  have hopen : '['.utf8Size = 1 := rfl
  have hclose : utf8Len [']'] = 1 := rfl
  rw [compactChars, utf8Len_compactItems_cons, String.utf8Len_cons, String.utf8Len_append,
    String.utf8Len_append, hopen, hclose]

theorem utf8Len_compactChars_object {members : List (String × Json)} (h : members ≠ []) :
    utf8Len (compactChars (.object members)) = utf8Len (compactMembers members) + 1 := by
  obtain ⟨m, rest, rfl⟩ := List.exists_cons_of_ne_nil h
  have hopen : '\x7b'.utf8Size = 1 := rfl
  have hcolon : ':'.utf8Size = 1 := rfl
  have hclose : utf8Len ['\x7d'] = 1 := rfl
  rw [compactChars, utf8Len_compactMembers_cons, String.utf8Len_cons, String.utf8Len_append,
    String.utf8Len_cons, String.utf8Len_append, String.utf8Len_append, hopen, hcolon, hclose]
  omega

theorem utf8Len_compactMembers_perm {ms ns : List (String × Json)} (h : ms.Perm ns) :
    utf8Len (compactMembers ms) = utf8Len (compactMembers ns) := by
  induction h with
  | nil => rfl
  | cons m _ ih => rw [utf8Len_compactMembers_cons, utf8Len_compactMembers_cons, ih]
  | swap m n rest =>
    rw [utf8Len_compactMembers_cons, utf8Len_compactMembers_cons, utf8Len_compactMembers_cons,
      utf8Len_compactMembers_cons]
    omega
  | trans _ _ ih ih' => exact ih.trans ih'

theorem utf8Len_compactItems_congr {f : Json → Json} {items : List Json}
    (h : ∀ v ∈ items, utf8Len (compactChars (f v)) = utf8Len (compactChars v)) :
    utf8Len (compactItems (items.map f)) = utf8Len (compactItems items) := by
  induction items with
  | nil => rfl
  | cons v rest ih =>
    rw [List.forall_mem_cons] at h
    rw [List.map_cons, utf8Len_compactItems_cons, utf8Len_compactItems_cons, h.1, ih h.2]

theorem utf8Len_compactMembers_canonical {members : List (String × Json)}
    (h : ∀ m ∈ members, utf8Len (compactChars m.2.canonical) = utf8Len (compactChars m.2)) :
    utf8Len (compactMembers (members.map canonicalMember)) = utf8Len (compactMembers members) := by
  induction members with
  | nil => rfl
  | cons m rest ih =>
    rw [List.forall_mem_cons] at h
    have hvalue : utf8Len (compactChars (canonicalMember m).2) = utf8Len (compactChars m.2) := h.1
    rw [List.map_cons, utf8Len_compactMembers_cons, utf8Len_compactMembers_cons, hvalue, ih h.2]
    rfl

theorem utf8Len_canonical {v : Json} (h : v.Plain) :
    utf8Len (compactChars v.canonical) = utf8Len (compactChars v) := by
  induction v using byParts with
  | null | bool _ | number _ | string _ => rfl
  | array items ih =>
    rw [plain_array] at h
    rw [canonical_array]
    by_cases hnil : items = []
    · rw [hnil]
      rfl
    · have hmap : items.map canonical ≠ [] := fun hm => hnil (List.map_eq_nil_iff.mp hm)
      have hitems := utf8Len_compactItems_congr fun v hv => ih v hv (h v hv)
      rw [utf8Len_compactChars_array hmap, utf8Len_compactChars_array hnil, hitems]
  | object members ih =>
    rw [plain_object] at h
    have hperm : (Dictionary.ofList (members.map canonicalMember)).entries.Perm
        (members.map canonicalMember) := by
      apply Dictionary.entries_ofList_perm
      rw [keys_map_canonicalMember]
      exact h.1
    rw [canonical_object]
    by_cases hnil : members = []
    · rw [hnil]
      rfl
    · have hentries : (Dictionary.ofList (members.map canonicalMember)).entries ≠ [] := by
        intro hm
        rw [hm] at hperm
        exact hnil (List.map_eq_nil_iff.mp hperm.symm.eq_nil)
      have hmembers := utf8Len_compactMembers_canonical fun m hm => ih m hm (h.2 m hm)
      rw [utf8Len_compactChars_object hentries, utf8Len_compactChars_object hnil,
        utf8Len_compactMembers_perm hperm, hmembers]

/-- A value and its canonical form have texts of one size. -/
theorem utf8ByteSize_canonical {v : Json} (h : v.Plain) :
    v.canonical.compact.utf8ByteSize = v.compact.utf8ByteSize := by
  rw [utf8ByteSize_compact, utf8ByteSize_compact, utf8Len_canonical h]

end Json
end SdkShelf
