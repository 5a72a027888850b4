import SdkShelf.Proofs.Json.Written

/-!
# Texts that are strings

A text is read as a string exactly if it spells one between quotes, with blanks around it at most.
-/

namespace SdkShelf
namespace Json

/-- The text is a string between quotes, with blanks around it at most. -/
def Quotes (text s : String) : Prop :=
  ∃ before body behind, (∀ c ∈ before, Cursor.isSpace c = true) ∧
    (∀ c ∈ behind, Cursor.isSpace c = true) ∧ Literal.Spells body s.toList ∧
    text.toList = before ++ '"' :: (body ++ '"' :: behind)

theorem Literal.Spells.length_le {body s : List Char} (h : Spells body s) :
    s.length ≤ body.length := by
  induction h with
  | nil => exact Nat.le_refl 0
  | cons hc _ ih =>
    have hpos := List.length_pos_iff.mpr hc.ne_nil
    rw [List.length_cons, List.length_append]
    omega

/-- A text is longer than the string that it quotes. -/
theorem Quotes.ne {text s : String} (h : Quotes text s) : s ≠ text := by
  obtain ⟨before, body, behind, _, _, hbody, htext⟩ := h
  intro heq
  have hlen := congrArg List.length htext
  have hle := hbody.length_le
  rw [heq] at hle
  simp only [List.length_append, List.length_cons] at hlen
  omega

theorem quotes_iff {text s : String} : Quotes text s ↔ IsText text (.string s) := by
  constructor
  · rintro ⟨before, body, behind, hbefore, hbehind, hbody, htext⟩
    have hwrites := Writes.string ⟨body, hbody, rfl⟩
    refine ⟨before, _, behind, hbefore, hwrites, hbehind, ?_⟩
    rw [htext]
    simp
  · rintro ⟨before, cs, behind, hbefore, hcs, hbehind, htext⟩
    cases hcs with
    | string hquoted =>
      obtain ⟨body, hbody, rfl⟩ := hquoted
      refine ⟨before, body, behind, hbefore, hbehind, hbody, ?_⟩
      rw [htext]
      simp

theorem Tree.string_eq_ok {expected : String} {t : Tree} {s : String}
    (h : t.string expected = .ok s) : ∃ start stop, t = .scalar start (.string (.ok s)) stop := by
  unfold Tree.string at h
  split at h
  · injection h with h
    exact ⟨_, _, by rw [h]⟩
  · exact absurd h (by simp)

theorem quotes_of_ofText {text s : String} (h : Schema.string.ofText text = .ok s) :
    Quotes text s := by
  obtain ⟨t, behind, htree, hdecode, hbehind⟩ := Schema.ofText_eq_ok_iff.mp h
  obtain ⟨start, stop, rfl⟩ := Tree.string_eq_ok hdecode
  exact quotes_iff.mpr (isText_of_read htree rfl hbehind)

theorem ofText_of_quotes {text s : String} (h : Quotes text s) :
    Schema.string.ofText text = .ok s := by
  obtain ⟨t, behind, htree, ⟨hholds, -⟩, hbehind⟩ := (quotes_iff.mp h).stands
  obtain ⟨start, stop, rfl⟩ := Tree.holds_string hholds
  exact Schema.ofText_eq_ok_iff.mpr ⟨_, behind, htree, rfl, hbehind⟩

/-- Exactly the quoted strings are read as strings. -/
theorem Schema.ofText_string_iff {text s : String} :
    Schema.string.ofText text = .ok s ↔ Quotes text s :=
  ⟨quotes_of_ofText, ofText_of_quotes⟩

theorem Tree.spelled_eq_ok {α : Type} {expected : String} {readText : String → Except String α}
    {t : Tree} {a : α} (h : t.spelled expected readText = .ok a) :
    ∃ start s stop, t = .scalar start (.string (.ok s)) stop := by
  unfold Tree.spelled at h
  split at h
  · exact ⟨_, _, _, rfl⟩
  · exact absurd h (by simp)

/-- A text that spells a value by rules of its own is read only between quotes. -/
theorem Schema.quotes_of_ofText_spelled {α : Type} {expected : String}
    {readText : String → Except String α} {write : α → String} {text : String} {a : α}
    (h : (Schema.spelled expected readText write).ofText text = .ok a) : ∃ s, Quotes text s := by
  obtain ⟨t, behind, htree, hdecode, hbehind⟩ := Schema.ofText_eq_ok_iff.mp h
  obtain ⟨start, s, stop, rfl⟩ := Tree.spelled_eq_ok hdecode
  exact ⟨s, quotes_iff.mpr (isText_of_read htree rfl hbehind)⟩

/-- The first character of a quoted string is its quote or a blank. -/
theorem Quotes.head {text s : String} (h : Quotes text s) {c : Char} {rest : List Char}
    (hc : text.toList = c :: rest) : c = '"' ∨ Cursor.isSpace c = true := by
  obtain ⟨before, body, behind, hbefore, _, _, htext⟩ := h
  rw [hc] at htext
  cases before with
  | nil => exact Or.inl (List.cons.inj htext).1
  | cons b before =>
    rw [(List.cons.inj htext).1]
    exact Or.inr (hbefore b List.mem_cons_self)

end Json
end SdkShelf
