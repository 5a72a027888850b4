import SdkShelf.Proofs.Json.Literal
import SdkShelf.Proofs.Results

/-!
# The form of strings

Surrogates that do not pair up keep to the form of a string but stand for no character.  A strict
reading refuses them, and one that skips the string lets them pass: what it passes is exactly what
has the form of a string.
-/

namespace SdkShelf
namespace Json
namespace Literal

/-- Between quotes, the text has the form of a string, whatever surrogates there are. -/
inductive Shaped : List Char → Prop
  | nil : Shaped []
  | plain {c : Char} {rest : List Char} (hquote : c ≠ '"') (hslash : c ≠ '\\')
      (hcontrol : 32 ≤ c.toNat) (hrest : Shaped rest) : Shaped (c :: rest)
  | short {e c : Char} {rest : List Char} (he : shortEscape? e = some c) (hrest : Shaped rest) :
      Shaped ('\\' :: e :: rest)
  | hex {a b c d : Char} {n : Nat} {rest : List Char} (hn : hexFour? a b c d = some n)
      (hrest : Shaped rest) : Shaped ('\\' :: 'u' :: a :: b :: c :: d :: rest)

theorem Spells.shaped {body s : List Char} (h : Spells body s) : Shaped body := by
  induction h with
  | nil => exact .nil
  | cons hc _ ih =>
    cases hc with
    | plain hquote hslash hcontrol => exact .plain hquote hslash hcontrol ih
    | short he => exact .short he ih
    | hex hn _ _ => exact .hex hn ih
    | pair hm _ hn _ => exact .hex hm (.hex hn ih)

/-- Between two characters, or behind the first of two surrogates. -/
inductive Between : Pending → Prop
  | plain : Between .plain
  | lowEscape (high : Nat) : Between (.lowEscape high)

theorem between_endHex (value : Nat) (acc : List Char) (flawed : Option Flawed) (place : Place) :
    Between (endHex value acc flawed place).1 := by
  rw [endHex]
  split
  · exact .plain
  · split
    · exact .plain
    · split
      · exact .lowEscape value
      · exact .plain

theorem read_of_shaped {body : List Char} (h : Shaped body) {pending : Pending}
    (hpending : Between pending) (acc : List Char) (flawed : Option Flawed) (place : Place)
    (rest : List Char) :
    ∃ s behind, read pending acc flawed place (body ++ '"' :: rest) = .ok (s, ⟨rest, behind⟩) := by
  induction h generalizing pending acc flawed place with
  | nil => cases hpending <;> exact ⟨_, _, rfl⟩
  | @plain c tail hquote hslash hcontrol _ ih =>
    have hle : ¬ c.toNat < 32 := Nat.not_lt.mpr hcontrol
    cases hpending <;> simp only [List.cons_append, read, if_neg hquote, if_neg hslash, if_neg hle]
    · exact ih .plain _ _ _
    · exact ih .plain _ _ _
  | @short e x tail he _ ih =>
    have hu := ne_u_of_shortEscape? he
    cases hpending <;> simp only [List.cons_append, read, Char.reduceEq, if_false, if_true,
      if_neg hu, he]
    · exact ih .plain _ _ _
    · exact ih .plain _ _ _
  | hex hn _ ih =>
    simp only [List.cons_append]
    cases hpending with
    | plain =>
      obtain ⟨behind, hstep⟩ := read_plain_hex hn acc _ flawed place
      rw [hstep]
      exact ih (between_endHex _ _ _ _) _ _ _
    | lowEscape high =>
      obtain ⟨behind, hstep⟩ := read_lowEscape_hex hn high acc _ flawed place
      rw [hstep]
      split
      · exact ih .plain _ _ _
      · exact ih .plain _ _ _

section

variable {cs acc : List Char} {pending : Pending} {flawed : Option Flawed} {place : Place}
  {s : Except Flawed String} {cur : Cursor}

/-- What is read begins with the closing quote, or with a character's form. -/
theorem piece_of_read (hpending : Between pending)
    (h : read pending acc flawed place cs = .ok (s, cur)) :
    cs = '"' :: cur.rest ∨ ∃ piece tail pending' acc' flawed' place', cs = piece ++ tail ∧
      piece ≠ [] ∧ (∀ body, Shaped body → Shaped (piece ++ body)) ∧ Between pending' ∧
      read pending' acc' flawed' place' tail = .ok (s, cur) := by
  cases hpending with
  | plain =>
    rcases plain_cases h with
      ⟨hcs, -⟩ | ⟨rest, _, rfl, h⟩ | ⟨c, rest, _, rfl, hquote, hslash, hcontrol, h⟩
    · exact .inl hcs
    · right
      rcases escape_cases h with ⟨a, b, c, d, n, tail, _, rfl, hn, h⟩ | ⟨e, _, tail, _, rfl, he, h⟩
      · exact ⟨['\\', 'u', a, b, c, d], tail, _, _, _, _, rfl, List.cons_ne_nil _ _,
          fun _ hbody => .hex hn hbody, between_endHex _ _ _ _, h⟩
      · exact ⟨['\\', e], tail, _, _, _, _, rfl, List.cons_ne_nil _ _,
          fun _ hbody => .short he hbody, .plain, h⟩
    · exact .inr ⟨[c], rest, _, _, _, _, rfl, List.cons_ne_nil _ _,
        fun _ hbody => .plain hquote hslash hcontrol hbody, .plain, h⟩
  | lowEscape high =>
    rcases lowEscape_cases h with
      ⟨rest, _, rfl, h⟩ | ⟨hcs, -⟩ | ⟨c, rest, _, _, rfl, hquote, hslash, hcontrol, h⟩
    · right
      rcases lowLetter_cases h with
        ⟨a, b, c, d, n, tail, _, rfl, hn, ⟨-, h⟩ | ⟨_, h⟩⟩ | ⟨e, _, tail, _, _, rfl, he, h⟩
      · exact ⟨['\\', 'u', a, b, c, d], tail, _, _, _, _, rfl, List.cons_ne_nil _ _,
          fun _ hbody => .hex hn hbody, .plain, h⟩
      · exact ⟨['\\', 'u', a, b, c, d], tail, _, _, _, _, rfl, List.cons_ne_nil _ _,
          fun _ hbody => .hex hn hbody, .plain, h⟩
      · exact ⟨['\\', e], tail, _, _, _, _, rfl, List.cons_ne_nil _ _,
          fun _ hbody => .short he hbody, .plain, h⟩
    · exact .inl hcs
    · exact .inr ⟨[c], rest, _, _, _, _, rfl, List.cons_ne_nil _ _,
        fun _ hbody => .plain hquote hslash hcontrol hbody, .plain, h⟩

/-- What is read, strictly or not, has the form of a string up to its closing quote. -/
theorem shaped_of_read (hpending : Between pending)
    (h : read pending acc flawed place cs = .ok (s, cur)) :
    ∃ body, cs = body ++ '"' :: cur.rest ∧ Shaped body := by
  induction hn : cs.length using Nat.strongRecOn generalizing cs pending acc flawed place with
  | ind n ih =>
    rcases piece_of_read hpending h with
      hcs | ⟨piece, tail, pending', _, _, _, rfl, hne, hpiece, hpending', hread⟩
    · exact ⟨[], hcs, .nil⟩
    · have hpos := List.length_pos_iff.mpr hne
      rw [List.length_append] at hn
      obtain ⟨body, htail, hbody⟩ := ih tail.length (by omega) hpending' hread rfl
      refine ⟨piece ++ body, ?_, hpiece body hbody⟩
      rw [htail, List.append_assoc]

end

/-! ## The characters of a string, if it has any -/

theorem Spells.unique {body s s' : List Char} (h : Spells body s) (h' : Spells body s') :
    s = s' := by
  obtain ⟨_, hread⟩ := read_of_spells h [] [] default
  obtain ⟨_, hread'⟩ := read_of_spells h' [] [] default
  rw [hread, Except.ok.injEq, Prod.mk.injEq, Except.ok.injEq] at hread'
  exact String.ofList_injective hread'.1

/-- A string between its quotes; there are no characters that it stands for if its surrogates do
not pair up. -/
def Encloses (cs : List Char) (s : Option String) : Prop :=
  ∃ body, cs = '"' :: (body ++ ['"']) ∧ Shaped body ∧ ∀ t, s = some t ↔ Spells body t.toList

section

variable {body rest : List Char} {place behind : Place} {r : Except Flawed String}

theorem toOption_eq_some_iff_spells
    (h : read .plain [] none place (body ++ '"' :: rest) = .ok (r, ⟨rest, behind⟩)) (t : String) :
    r.toOption = some t ↔ Spells body t.toList := by
  rw [toOption_eq_some_iff]
  constructor
  · rintro rfl
    obtain ⟨body', chars, hbody', hchars, rfl⟩ := spells_of_read h
    rw [List.reverse_nil, List.nil_append, String.toList_ofList, List.append_cancel_right hbody']
    exact hchars
  · intro hbody
    obtain ⟨_, hread⟩ := read_of_spells hbody [] rest place
    rw [h, Except.ok.injEq, Prod.mk.injEq, List.reverse_nil, List.nil_append,
      String.ofList_toList] at hread
    exact hread.1

theorem encloses_of_read (hbody : Shaped body)
    (h : read .plain [] none place (body ++ '"' :: rest) = .ok (r, ⟨rest, behind⟩)) :
    Encloses ('"' :: (body ++ ['"'])) r.toOption :=
  ⟨body, rfl, hbody, toOption_eq_some_iff_spells h⟩

end

/-- An enclosed string is passed, and read strictly as its characters if it has any. -/
theorem read_of_encloses {cs : List Char} {s : Option String} (h : Encloses cs s)
    (rest : List Char) (place : Place) :
    ∃ body r behind, cs = '"' :: (body ++ ['"']) ∧ r.toOption = s ∧
      read .plain [] none place (body ++ '"' :: rest) = .ok (r, ⟨rest, behind⟩) := by
  obtain ⟨body, rfl, hbody, hs⟩ := h
  obtain ⟨r, behind, hread⟩ := read_of_shaped hbody .plain [] none place rest
  refine ⟨body, r, behind, rfl, Option.ext fun t => ?_, hread⟩
  exact (toOption_eq_some_iff_spells hread t).trans (hs t).symm

end Literal
end Json
end SdkShelf
