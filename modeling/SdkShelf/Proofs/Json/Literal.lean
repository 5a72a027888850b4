import SdkShelf.Json.Literal

/-!
# The spelling of strings

A character of a string may be written between the quotes as it is, by a short escape, by the
digits of its number, or by those of two surrogates.  The reader accepts exactly the spellings, and
what the printer writes is one of them.
-/

namespace SdkShelf
namespace Json
namespace Literal

/-- The number of four digits of base sixteen. -/
def hexFour? (a b c d : Char) : Option Nat :=
  match hexValue? a, hexValue? b, hexValue? c, hexValue? d with
  | some w, some x, some y, some z => some (((w * 16 + x) * 16 + y) * 16 + z)
  | _, _, _, _ => none

/-- The ways to write one character between quotes. -/
inductive Spelling : List Char → Char → Prop
  | plain {c : Char} (hquote : c ≠ '"') (hslash : c ≠ '\\') (hcontrol : 32 ≤ c.toNat) :
      Spelling [c] c
  | short {e c : Char} (he : shortEscape? e = some c) : Spelling ['\\', e] c
  | hex {a b c d : Char} {n : Nat} (hn : hexFour? a b c d = some n) (hhigh : isHigh n = false)
      (hlow : isLow n = false) : Spelling ['\\', 'u', a, b, c, d] (Char.ofNat n)
  | pair {a b c d x y z w : Char} {m n : Nat} (hm : hexFour? a b c d = some m)
      (hhigh : isHigh m = true) (hn : hexFour? x y z w = some n) (hlow : isLow n = true) :
      Spelling ['\\', 'u', a, b, c, d, '\\', 'u', x, y, z, w] (pair m n)

/-- `Spells body s`: between quotes, `body` stands for the characters `s`. -/
inductive Spells : List Char → List Char → Prop
  | nil : Spells [] []
  | cons {piece body s : List Char} {c : Char} (hc : Spelling piece c) (hs : Spells body s) :
      Spells (piece ++ body) (c :: s)

theorem Spelling.ne_nil {piece : List Char} {c : Char} (h : Spelling piece c) : piece ≠ [] := by
  cases h <;> simp

/-! ## Hex escapes -/

theorem hexFour?_eq_some {a b c d : Char} {n : Nat} :
    hexFour? a b c d = some n ↔ ∃ w x y z, hexValue? a = some w ∧ hexValue? b = some x ∧
      hexValue? c = some y ∧ hexValue? d = some z ∧ ((w * 16 + x) * 16 + y) * 16 + z = n := by
  unfold hexFour?
  cases hexValue? a <;> cases hexValue? b <;> cases hexValue? c <;> cases hexValue? d <;> simp

theorem utf8Size_of_lt {c : Char} (h : c.toNat < 128) : c.utf8Size = 1 := by
  rw [Char.utf8Size_eq_one_iff, UInt32.le_iff_toNat_le]
  exact Nat.le_of_lt_succ h

theorem utf8Size_of_hexValue? {c : Char} {n : Nat} (h : hexValue? c = some n) :
    c.utf8Size = 1 := by
  refine utf8Size_of_lt ?_
  have le (a b : Char) (hab : a ≤ b) : a.toNat ≤ b.toNat := UInt32.le_iff_toNat_le.mp hab
  unfold hexValue? at h
  split at h
  · rename_i hd
    rw [Char.isDigit, Bool.and_eq_true, decide_eq_true_eq, decide_eq_true_eq] at hd
    exact Nat.lt_of_le_of_lt (UInt32.le_iff_toNat_le.mp hd.2) (by decide)
  · split at h
    · rename_i hc
      exact Nat.lt_of_le_of_lt (le c 'f' hc.2) (by decide)
    · split at h
      · rename_i hc
        exact Nat.lt_of_le_of_lt (le c 'F' hc.2) (by decide)
      · exact absurd h (by simp)

/-- A hex escape is let through exactly if four digits follow. -/
theorem hexFault?_eq_none {place : Place} {rest : List Char} :
    hexFault? place rest = none ↔
      ∃ a b c d tail n, rest = a :: b :: c :: d :: tail ∧ hexFour? a b c d = some n := by
  constructor
  · intro h
    unfold hexFault? at h
    split at h
    · exact absurd h (by simp)
    · rename_i hsize
      split at h
      · rename_i hall
        rw [List.all_eq_true] at hall
        have hone : ∀ c ∈ rest.take 4, c.utf8Size = 1 := by
          intro c hc
          obtain ⟨n, hn⟩ := Option.isSome_iff_exists.mp (hall c hc)
          exact utf8Size_of_hexValue? hn
        match rest, hall, hone, hsize with
        | [], _, _, hsize => exact absurd (by decide) hsize
        | [a], _, hone, hsize => simp [hone a] at hsize
        | [a, b], _, hone, hsize => simp [hone a, hone b] at hsize
        | [a, b, c], _, hone, hsize => simp [hone a, hone b, hone c] at hsize
        | a :: b :: c :: d :: tail, hall, _, _ =>
          simp only [List.take_succ_cons, List.take_zero, List.mem_cons, List.not_mem_nil,
            or_false, forall_eq_or_imp, forall_eq, Option.isSome_iff_exists] at hall
          obtain ⟨⟨w, hw⟩, ⟨x, hx⟩, ⟨y, hy⟩, ⟨z, hz⟩⟩ := hall
          exact ⟨a, b, c, d, tail, _, rfl, hexFour?_eq_some.mpr ⟨w, x, y, z, hw, hx, hy, hz, rfl⟩⟩
      · exact absurd h (by simp)
  · rintro ⟨a, b, c, d, tail, n, rfl, hn⟩
    obtain ⟨w, x, y, z, hw, hx, hy, hz, -⟩ := hexFour?_eq_some.mp hn
    simp [hexFault?, hw, hx, hy, hz, utf8Size_of_hexValue? hw, utf8Size_of_hexValue? hx,
      utf8Size_of_hexValue? hy, utf8Size_of_hexValue? hz]

-- From here on the reader is run on texts whose first characters are known.
attribute [local simp] read

section

variable {a b c d : Char} {n : Nat} {acc rest : List Char} {place : Place}

theorem read_hex {flawed : Option Flawed} (hn : hexFour? a b c d = some n) :
    read (.hex 4 0) acc flawed place (a :: b :: c :: d :: rest) =
      let behind := (((place.pass a).pass b).pass c).pass d
      let (pending, acc, flawed) := endHex n acc flawed behind
      read pending acc flawed behind rest := by
  obtain ⟨w, x, y, z, hw, hx, hy, hz, rfl⟩ := hexFour?_eq_some.mp hn
  simp [hw, hx, hy, hz]

theorem read_lowHex {high : Nat} {flawed : Option Flawed} (hn : hexFour? a b c d = some n) :
    read (.lowHex high 4 0) acc flawed place (a :: b :: c :: d :: rest) =
      let behind := (((place.pass a).pass b).pass c).pass d
      if isLow n then read .plain (pair high n :: acc) flawed behind rest
      else read .plain acc (orElse flawed .loneSurrogate behind) behind rest := by
  obtain ⟨w, x, y, z, hw, hx, hy, hz, rfl⟩ := hexFour?_eq_some.mp hn
  simp [hw, hx, hy, hz]

end

/-- An escape by four digits is passed as a whole. -/
theorem read_plain_hex {a b c d : Char} {n : Nat} (hn : hexFour? a b c d = some n)
    (acc rest : List Char) (flawed : Option Flawed) (place : Place) :
    ∃ behind, read .plain acc flawed place ('\\' :: 'u' :: a :: b :: c :: d :: rest) =
      read (endHex n acc flawed behind).1 (endHex n acc flawed behind).2.1
        (endHex n acc flawed behind).2.2 behind rest := by
  have hfault (p : Place) : hexFault? p (a :: b :: c :: d :: rest) = none :=
    hexFault?_eq_none.mpr ⟨a, b, c, d, _, n, rfl, hn⟩
  refine ⟨place.passAll ['\\', 'u', a, b, c, d], ?_⟩
  cases flawed <;> rw [read, if_neg (by decide), if_pos rfl, read, if_pos rfl, hfault] <;>
    exact read_hex hn

theorem read_lowEscape_hex {a b c d : Char} {n : Nat} (hn : hexFour? a b c d = some n)
    (high : Nat) (acc rest : List Char) (flawed : Option Flawed) (place : Place) :
    ∃ behind, read (.lowEscape high) acc flawed place ('\\' :: 'u' :: a :: b :: c :: d :: rest) =
      if isLow n then read .plain (pair high n :: acc) flawed behind rest
      else read .plain acc (orElse flawed .loneSurrogate behind) behind rest := by
  have hfault (p : Place) : hexFault? p (a :: b :: c :: d :: rest) = none :=
    hexFault?_eq_none.mpr ⟨a, b, c, d, _, n, rfl, hn⟩
  refine ⟨place.passAll ['\\', 'u', a, b, c, d], ?_⟩
  rw [read, if_pos rfl, read, if_pos rfl, hfault]
  exact read_lowHex hn

theorem not_isLow_of_isHigh {n : Nat} (h : isHigh n = true) : isLow n = false := by
  simp only [isHigh, isLow, Bool.and_eq_true, decide_eq_true_eq] at h ⊢
  simp only [Bool.and_eq_false_iff, decide_eq_false_iff_not]
  omega

theorem ne_u_of_shortEscape? {e x : Char} (he : shortEscape? e = some x) : e ≠ 'u' := by
  rintro rfl
  simp [shortEscape?] at he

/-! ## What is read goes on -/

section

variable {cs acc : List Char} {flawed : Option Flawed} {place : Place} {high : Nat}
  {s : Except Flawed String} {cur : Cursor}

theorem exists_orElse (flawed : Option Flawed) (flaw : Flaw) (place : Place) :
    ∃ first, orElse flawed flaw place = some first := by
  cases flawed with
  | none => exact ⟨_, rfl⟩
  | some first => exact ⟨first, rfl⟩

/-- Between two characters the reader meets the closing quote, an escape or a character that may
stand as it is. -/
theorem plain_cases (h : read .plain acc flawed place cs = .ok (s, cur)) :
    (cs = '"' :: cur.rest ∧ s = flawed.elim (.ok (String.ofList acc.reverse)) .error) ∨
    (∃ rest behind, cs = '\\' :: rest ∧ read .escape acc flawed behind rest = .ok (s, cur)) ∨
    ∃ c rest behind, cs = c :: rest ∧ c ≠ '"' ∧ c ≠ '\\' ∧ 32 ≤ c.toNat ∧
      read .plain (c :: acc) flawed behind rest = .ok (s, cur) := by
  cases cs with
  | nil => exact absurd h (by simp)
  | cons c rest =>
    simp only [read] at h
    split at h
    · rename_i hquote
      obtain ⟨rfl, rfl⟩ := Prod.mk.inj (Except.ok.inj h)
      exact .inl ⟨by rw [hquote], by cases flawed <;> rfl⟩
    · rename_i hquote
      split at h
      · rename_i hslash
        exact .inr (.inl ⟨rest, _, by rw [hslash], h⟩)
      · rename_i hslash
        split at h
        · exact absurd h nofun
        · rename_i hcontrol
          exact .inr (.inr ⟨c, rest, _, rfl, hquote, hslash, Nat.not_lt.mp hcontrol, h⟩)

/-- Behind a backslash it meets the letter and the digits of a number, or a short escape. -/
theorem escape_cases (h : read .escape acc flawed place cs = .ok (s, cur)) :
    (∃ a b c d n rest behind, cs = 'u' :: a :: b :: c :: d :: rest ∧ hexFour? a b c d = some n ∧
      read (endHex n acc flawed behind).1 (endHex n acc flawed behind).2.1
        (endHex n acc flawed behind).2.2 behind rest = .ok (s, cur)) ∨
    ∃ e x rest behind, cs = e :: rest ∧ shortEscape? e = some x ∧
      read .plain (x :: acc) flawed behind rest = .ok (s, cur) := by
  cases cs with
  | nil => exact absurd h (by simp)
  | cons e rest =>
    simp only [read] at h
    split at h
    · rename_i hu
      split at h
      · exact absurd h nofun
      · rename_i hfault
        obtain ⟨a, b, c, d, rest, n, rfl, hn⟩ := hexFault?_eq_none.mp hfault
        rw [read_hex hn] at h
        exact .inl ⟨a, b, c, d, n, rest, _, by rw [hu], hn, h⟩
    · split at h
      · rename_i x hx
        exact .inr ⟨e, x, rest, _, rfl, hx, h⟩
      · exact absurd h nofun

/-- Behind a high surrogate all but a backslash is read on as between two characters, but with a
flaw. -/
theorem lowEscape_cases (h : read (.lowEscape high) acc flawed place cs = .ok (s, cur)) :
    (∃ rest behind, cs = '\\' :: rest ∧
      read (.lowLetter high) acc flawed behind rest = .ok (s, cur)) ∨
    (cs = '"' :: cur.rest ∧ ∃ flaw, s = .error flaw) ∨
    ∃ c rest behind flaw, cs = c :: rest ∧ c ≠ '"' ∧ c ≠ '\\' ∧ 32 ≤ c.toNat ∧
      read .plain acc (some flaw) behind rest = .ok (s, cur) := by
  cases cs with
  | nil => exact absurd h (by simp)
  | cons c rest =>
    obtain ⟨flaw, hflaw⟩ := exists_orElse flawed .endOfHexEscape (Mark.peeked ⟨place, some c⟩)
    simp only [read, hflaw] at h
    split at h
    · rename_i hslash
      exact .inl ⟨rest, _, by rw [hslash], h⟩
    · rename_i hslash
      split at h
      · rename_i hquote
        obtain ⟨rfl, rfl⟩ := Prod.mk.inj (Except.ok.inj h)
        exact .inr (.inl ⟨by rw [hquote], flaw, rfl⟩)
      · rename_i hquote
        split at h
        · exact absurd h nofun
        · rename_i hcontrol
          exact .inr (.inr ⟨c, rest, _, flaw, rfl, hquote, hslash, Nat.not_lt.mp hcontrol, h⟩)

/-- Behind the backslash after a high surrogate only the number of a low one is read without a
flaw. -/
theorem lowLetter_cases (h : read (.lowLetter high) acc flawed place cs = .ok (s, cur)) :
    (∃ a b c d n rest behind, cs = 'u' :: a :: b :: c :: d :: rest ∧ hexFour? a b c d = some n ∧
      (isLow n = true ∧ read .plain (pair high n :: acc) flawed behind rest = .ok (s, cur) ∨
        ∃ flaw, read .plain acc (some flaw) behind rest = .ok (s, cur))) ∨
    ∃ e x rest behind flaw, cs = e :: rest ∧ shortEscape? e = some x ∧
      read .plain acc (some flaw) behind rest = .ok (s, cur) := by
  cases cs with
  | nil => exact absurd h (by simp)
  | cons e rest =>
    simp only [read] at h
    split at h
    · rename_i hu
      split at h
      · exact absurd h nofun
      · rename_i hfault
        obtain ⟨a, b, c, d, rest, n, rfl, hn⟩ := hexFault?_eq_none.mp hfault
        simp only [read_lowHex hn] at h
        split at h
        · rename_i hlow
          exact .inl ⟨a, b, c, d, n, rest, _, by rw [hu], hn, .inl ⟨hlow, h⟩⟩
        · obtain ⟨flaw, hflaw⟩ := exists_orElse flawed .loneSurrogate
            (((((place.pass e).pass a).pass b).pass c).pass d)
          rw [hflaw] at h
          exact .inl ⟨a, b, c, d, n, rest, _, by rw [hu], hn, .inr ⟨flaw, h⟩⟩
    · obtain ⟨flaw, hflaw⟩ := exists_orElse flawed .endOfHexEscape (Mark.peeked ⟨place, some e⟩)
      rw [hflaw] at h
      split at h
      · rename_i x hx
        exact .inr ⟨e, x, rest, _, flaw, rfl, hx, h⟩
      · exact absurd h nofun

end

/-! ## Reading a spelling -/

theorem read_of_spelling {piece : List Char} {c : Char} (h : Spelling piece c)
    (acc rest : List Char) (place : Place) :
    ∃ behind, read .plain acc none place (piece ++ rest) =
      read .plain (c :: acc) none behind rest := by
  cases h with
  | plain hquote hslash hcontrol =>
    refine ⟨place.pass c, ?_⟩
    rw [List.singleton_append, read, if_neg hquote, if_neg hslash, if_neg (by omega)]
  | @short e _ he =>
    refine ⟨(place.pass '\\').pass e, ?_⟩
    rw [List.cons_append, List.singleton_append, read, if_neg (by decide), if_pos rfl, read,
      if_neg (ne_u_of_shortEscape? he), he]
  | @hex a b c d n hn hhigh hlow =>
    obtain ⟨behind, hstep⟩ := read_plain_hex hn acc rest none place
    refine ⟨behind, hstep.trans ?_⟩
    simp only [endHex, hhigh, hlow, Option.isSome_none, Bool.false_eq_true, if_false]
  | @pair a b c d x y z w m n hm hhigh hn hlow =>
    obtain ⟨between, hfirst⟩ :=
      read_plain_hex hm acc ('\\' :: 'u' :: x :: y :: z :: w :: rest) none place
    obtain ⟨behind, hsecond⟩ := read_lowEscape_hex hn m acc rest none between
    refine ⟨behind, hfirst.trans ?_⟩
    simp only [endHex, hhigh, not_isLow_of_isHigh hhigh, Option.isSome_none, Bool.false_eq_true,
      if_false, if_true]
    rw [hsecond, if_pos hlow]

/-- The reader gives back what a spelling stands for, and stops behind the closing quote. -/
theorem read_of_spells {body s : List Char} (h : Spells body s) (acc rest : List Char)
    (place : Place) :
    ∃ behind, read .plain acc none place (body ++ '"' :: rest) =
      .ok (.ok (String.ofList (acc.reverse ++ s)), ⟨rest, behind⟩) := by
  induction h generalizing acc place with
  | nil => exact ⟨place.pass '"', by simp⟩
  | @cons piece body s c hc _ ih =>
    obtain ⟨between, hstep⟩ := read_of_spelling hc acc (body ++ '"' :: rest) place
    obtain ⟨behind, hread⟩ := ih (c :: acc) between
    refine ⟨behind, ?_⟩
    rw [List.append_assoc, hstep, hread, List.reverse_cons, List.append_assoc,
      List.singleton_append]

/-! ## What is read was spelled -/

/-- A string that a strict reading objects to is never read strictly, whatever follows. -/
theorem read_flawed {pending : Pending} {acc rest : List Char} {flaw : Flawed} {place : Place}
    {s : Except Flawed String} {c : Cursor}
    (h : read pending acc (some flaw) place rest = .ok (s, c)) : s = .error flaw := by
  induction rest generalizing pending acc place with
  | nil => cases pending <;> exact absurd h (by simp)
  | cons x rest ih =>
    cases pending with
    | plain =>
      simp only [read] at h
      split at h
      · simp at h
        exact h.1.symm
      · split at h
        · exact ih h
        · split at h
          · exact absurd h (by simp)
          · exact ih h
    | escape =>
      simp only [read] at h
      split at h
      · split at h
        · exact absurd h (by simp)
        · exact ih h
      · split at h
        · exact ih h
        · exact absurd h (by simp)
    | hex left value =>
      simp only [read, endHex, Option.isSome_some, if_true] at h
      split at h
      · exact ih h
      · exact ih h
    | lowEscape high =>
      simp only [read, orElse] at h
      split at h
      · exact ih h
      · split at h
        · simp at h
          exact h.1.symm
        · split at h
          · exact absurd h (by simp)
          · exact ih h
    | lowLetter high =>
      simp only [read, orElse] at h
      split at h
      · split at h
        · exact absurd h (by simp)
        · exact ih h
      · split at h
        · exact ih h
        · exact absurd h (by simp)
    | lowHex high left value =>
      simp only [read, orElse] at h
      split at h
      · split at h
        · exact ih h
        · exact ih h
      · exact ih h

/-- Behind a high surrogate, only the escape of a low one is read strictly. -/
theorem read_lowEscape {high : Nat} {acc cs : List Char} {place : Place} {s : String} {c : Cursor}
    (h : read (.lowEscape high) acc none place cs = .ok (.ok s, c)) :
    ∃ x y z w tail n behind, cs = '\\' :: 'u' :: x :: y :: z :: w :: tail ∧
      hexFour? x y z w = some n ∧ isLow n = true ∧
      read .plain (pair high n :: acc) none behind tail = .ok (.ok s, c) := by
  have strict {acc rest : List Char} {flaw : Flawed} {place : Place}
      (h : read .plain acc (some flaw) place rest = .ok (.ok s, c)) : False :=
    absurd (read_flawed h) nofun
  rcases lowEscape_cases h with ⟨rest, _, rfl, h⟩ | ⟨-, flaw, hs⟩ | ⟨_, _, _, _, -, -, -, -, h⟩
  · rcases lowLetter_cases h with
      ⟨x, y, z, w, n, tail, behind, rfl, hn, ⟨hlow, h⟩ | ⟨_, h⟩⟩ | ⟨_, _, _, _, _, -, -, h⟩
    · exact ⟨x, y, z, w, tail, n, behind, rfl, hn, hlow, h⟩
    · exact (strict h).elim
    · exact (strict h).elim
  · exact absurd hs nofun
  · exact (strict h).elim

/-- What is read strictly begins with the closing quote or with a character's spelling. -/
theorem spelling_of_read {acc cs : List Char} {place : Place} {s : String} {cur : Cursor}
    (h : read .plain acc none place cs = .ok (.ok s, cur)) :
    (cs = '"' :: cur.rest ∧ s = String.ofList acc.reverse) ∨
      ∃ piece c tail behind, cs = piece ++ tail ∧ Spelling piece c ∧
        read .plain (c :: acc) none behind tail = .ok (.ok s, cur) := by
  rcases plain_cases h with
    ⟨hcs, hs⟩ | ⟨rest, _, rfl, h⟩ | ⟨c, rest, behind, rfl, hquote, hslash, hcontrol, h⟩
  · exact Or.inl ⟨hcs, Except.ok.inj hs⟩
  · refine Or.inr ?_
    rcases escape_cases h with
      ⟨a, b, c, d, n, tail, behind, rfl, hn, h⟩ | ⟨e, x, rest, behind, rfl, hx, h⟩
    · simp only [endHex, Option.isSome_none, Bool.false_eq_true, if_false] at h
      cases hlow : isLow n with
      | true =>
        rw [if_pos hlow] at h
        exact absurd (read_flawed h) nofun
      | false =>
        rw [hlow, if_neg Bool.false_ne_true] at h
        cases hhigh : isHigh n with
        | true =>
          rw [if_pos hhigh] at h
          obtain ⟨x, y, z, w, tail, m, behind, rfl, hm, hmlow, hread⟩ := read_lowEscape h
          exact ⟨_, _, tail, behind, rfl, .pair hn hhigh hm hmlow, hread⟩
        | false =>
          rw [hhigh, if_neg Bool.false_ne_true] at h
          exact ⟨_, _, tail, behind, rfl, .hex hn hhigh hlow, h⟩
    · exact ⟨_, x, rest, behind, rfl, .short hx, h⟩
  · exact Or.inr ⟨[c], c, rest, behind, rfl, .plain hquote hslash hcontrol, h⟩

/-- Whatever is read strictly is a spelling and its closing quote. -/
theorem spells_of_read {acc cs : List Char} {place : Place} {s : String} {cur : Cursor}
    (h : read .plain acc none place cs = .ok (.ok s, cur)) :
    ∃ body chars, cs = body ++ '"' :: cur.rest ∧ Spells body chars ∧
      s = String.ofList (acc.reverse ++ chars) := by
  induction hn : cs.length using Nat.strongRecOn generalizing cs acc place with
  | ind n ih =>
    rcases spelling_of_read h with ⟨hcs, hs⟩ | ⟨piece, c, tail, behind, rfl, hc, hread⟩
    · exact ⟨[], [], hcs, .nil, by rw [List.append_nil, hs]⟩
    · have hpos := List.length_pos_iff.mpr hc.ne_nil
      rw [List.length_append] at hn
      obtain ⟨body, chars, htail, hbody, hs⟩ := ih tail.length (by omega) hread rfl
      refine ⟨piece ++ body, c :: chars, ?_, .cons hc hbody, ?_⟩
      · rw [htail, List.append_assoc]
      · rw [hs, List.reverse_cons, List.append_assoc, List.singleton_append]

/-! ## What the printer writes -/

theorem hexValue?_hexDigit {n : Nat} (h : n < 16) : hexValue? (Text.hexDigit n) = some n := by
  revert n
  decide

theorem spelling_escapeChar (c : Char) : Spelling (escapeChar c) c := by
  have byNumber (n : Nat) (hn : c.toNat = n) : c = Char.ofNat n := by
    rw [← hn, Char.ofNat_toNat]
  unfold escapeChar
  split
  · exact .short rfl
  · exact .short rfl
  · exact .short rfl
  · exact .short rfl
  · exact .short rfl
  · rename_i hquote hslash _ _ _
    split
    · rename_i h8
      rw [byNumber 8 h8]
      exact .short rfl
    · split
      · rename_i h12
        rw [byNumber 12 h12]
        exact .short rfl
      · split
        · have hfour : hexFour? '0' '0' (Text.hexDigit (c.toNat / 16))
              (Text.hexDigit (c.toNat % 16)) = some c.toNat :=
            hexFour?_eq_some.mpr ⟨0, 0, c.toNat / 16, c.toNat % 16, rfl, rfl,
              hexValue?_hexDigit (by omega), hexValue?_hexDigit (by omega), by omega⟩
          have hhex := Spelling.hex hfour (by simp [isHigh]; omega) (by simp [isLow]; omega)
          rw [Char.ofNat_toNat] at hhex
          exact hhex
        · exact .plain (fun e => hquote (e ▸ rfl)) (fun e => hslash (e ▸ rfl)) (by omega)

theorem spells_escape (s : List Char) : Spells (s.flatMap escapeChar) s := by
  induction s with
  | nil => exact .nil
  | cons c rest ih => exact .cons (spelling_escapeChar c) ih

end Literal
end Json
end SdkShelf
