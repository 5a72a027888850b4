import SdkShelf.Json.Numeral
import SdkShelf.Proofs.Results
import SdkShelf.Proofs.Text.Digits

/-!
# The spelling of numbers

A numeral is digits, a point with digits behind it, and an exponent; only the first digits must be
there.  The reader takes exactly the texts that are spelled so, and the decimal text of a 64-bit
number is read back as that number, if what follows does not continue the numeral.
-/

namespace SdkShelf
namespace Json

namespace Cursor

theorem skipWhile_append {p : Char → Bool} {cs rest : List Char}
    (hcs : ∀ c ∈ cs, p c = true) (hrest : Text.StopsAt p rest) (place : Place) :
    skipWhile p (cs ++ rest) place = ⟨rest, place.passAll cs⟩ := by
  induction cs generalizing place with
  | nil =>
    cases rest with
    | nil => rfl
    | cons c rest =>
      rw [List.nil_append, skipWhile, if_neg (by simp [Text.stopsAt_cons.mp hrest])]
      rfl
  | cons c cs ih =>
    rw [List.cons_append, skipWhile, if_pos (hcs c List.mem_cons_self),
      ih (fun x hx => hcs x (List.mem_cons_of_mem _ hx))]
    rfl

theorem rest_skipWhile (p : Char → Bool) (cs : List Char) (place : Place) :
    (skipWhile p cs place).rest = cs.dropWhile p := by
  induction cs generalizing place with
  | nil => rfl
  | cons c cs ih =>
    rw [skipWhile, List.dropWhile]
    cases p c with
    | true => exact ih (place.pass c)
    | false => rfl

theorem digits_append {cs rest : List Char} (hcs : ∀ c ∈ cs, c.isDigit = true)
    (hrest : Text.StopsAt Char.isDigit rest) (place : Place) :
    digits ⟨cs ++ rest, place⟩ = (cs, ⟨rest, place.passAll cs⟩) := by
  rw [digits, skipWhile_append hcs hrest, Text.takeWhile_append_of_stopsAt hcs hrest]

theorem append_of_digits {c c' : Cursor} {ds : List Char} (h : c.digits = (ds, c')) :
    c.rest = ds ++ c'.rest ∧ ∀ d ∈ ds, d.isDigit = true := by
  obtain ⟨rfl, rfl⟩ := Prod.mk.inj h
  refine ⟨?_, fun d hd => List.all_eq_true.mp List.all_takeWhile d hd⟩
  rw [rest_skipWhile, List.takeWhile_append_dropWhile]

end Cursor

namespace Numeral

/-! ## The grammar of numerals -/

/-- Digits, at least one. -/
def Digits (cs : List Char) : Prop := cs ≠ [] ∧ ∀ c ∈ cs, c.isDigit = true

/-- The digits before the point: a zero stands alone. -/
def Whole (cs : List Char) : Prop := Digits cs ∧ ∀ rest, cs = '0' :: rest → rest = []

/-- What may stand for the digits behind the point. -/
inductive Fraction : List Char → Option (List Char) → Prop
  | absent : Fraction [] none
  | digits {ds : List Char} (hds : Digits ds) : Fraction ('.' :: ds) (some ds)

/-- The signs of an exponent; a plus says nothing. -/
inductive Sign : List Char → Bool → Prop
  | absent : Sign [] false
  | plus : Sign ['+'] false
  | minus : Sign ['-'] true

inductive Power : List Char → Option (Bool × List Char) → Prop
  | absent : Power [] none
  | letter {e : Char} {sign ds : List Char} {down : Bool} (he : e = 'e' ∨ e = 'E')
      (hsign : Sign sign down) (hds : Digits ds) : Power (e :: (sign ++ ds)) (some (down, ds))

/-- `Spells cs n`: the text stands for the numeral, whose minus is not part of it. -/
inductive Spells : List Char → Numeral → Prop
  | parts {negative : Bool} {whole fraction power : List Char} {f : Option (List Char)}
      {p : Option (Bool × List Char)} (hwhole : Whole whole) (hfraction : Fraction fraction f)
      (hpower : Power power p) : Spells (whole ++ (fraction ++ power)) ⟨negative, whole, f, p⟩

/-- A character that would continue a whole number. -/
def continues (c : Char) : Bool := c.isDigit || c = '.' || c = 'e' || c = 'E'

theorem toOption_placed (n : Numeral) (power stop : Place) :
    (placed n power stop).toOption = n.value.toOption := by
  unfold placed
  cases n.value with
  | ok x => rfl
  | error o => cases o <;> rfl

theorem placed_eq_ok_iff {n : Numeral} {power stop : Place} {x : Number} :
    placed n power stop = .ok x ↔ n.value = .ok x := by
  rw [← toOption_eq_some_iff, toOption_placed, toOption_eq_some_iff]

/-! ### What is spelled is read -/

section

variable {cs ds rest : List Char} {c c' : Cursor} {negative : Bool} {n : Numeral}

theorem stopsAt_digit (h : Text.StopsAt continues rest) : Text.StopsAt Char.isDigit rest := by
  intro c hc
  have := h c hc
  simp only [continues, Bool.or_eq_false_iff] at this
  exact this.1.1.1

theorem Power.stopsAt {p : Option (Bool × List Char)} (h : Power cs p)
    (hrest : Text.StopsAt continues rest) :
    Text.StopsAt (fun c => c.isDigit || c = '.') (cs ++ rest) := by
  cases h with
  | absent =>
    intro c hc
    have := hrest c hc
    simp only [continues, Bool.or_eq_false_iff] at this ⊢
    exact this.1.1
  | letter he => rcases he with rfl | rfl <;> exact Text.stopsAt_cons.mpr (by decide)

theorem Fraction.stopsAt {f : Option (List Char)} (h : Fraction cs f)
    (hrest : Text.StopsAt (fun c => c.isDigit || c = '.') rest) :
    Text.StopsAt Char.isDigit (cs ++ rest) := by
  cases h with
  | absent =>
    intro c hc
    have := hrest c hc
    simp only [Bool.or_eq_false_iff] at this
    exact this.1
  | digits _ => exact Text.stopsAt_cons.mpr (by decide)

theorem readWhole_append (h : Whole cs) (hrest : Text.StopsAt Char.isDigit rest) (place : Place) :
    readWhole ⟨cs ++ rest, place⟩ = .ok (cs, ⟨rest, place.passAll cs⟩) := by
  obtain ⟨⟨hne, hdigits⟩, hzero⟩ := h
  rw [readWhole, Cursor.digits_append hdigits hrest]
  split
  · rename_i heq
    exact absurd (Prod.mk.inj heq).1 hne
  · rename_i heq
    exact absurd (hzero _ (Prod.mk.inj heq).1) (List.cons_ne_nil _ _)
  · rename_i heq
    rw [heq]

theorem readFraction_append {f : Option (List Char)} (h : Fraction cs f)
    (hrest : Text.StopsAt (fun c => c.isDigit || c = '.') rest) (place : Place) :
    readFraction ⟨cs ++ rest, place⟩ = .ok (f, ⟨rest, place.passAll cs⟩) := by
  cases h with
  | absent =>
    rw [List.nil_append, readFraction]
    split
    · rename_i tail heq
      have hpoint := hrest '.' (by rw [show rest = '.' :: tail from heq]; rfl)
      exact absurd hpoint (by decide)
    · rfl
  | digits hds =>
    obtain ⟨d, ds, rfl⟩ := List.exists_cons_of_ne_nil hds.1
    have hread := Cursor.digits_append hds.2 (Fraction.absent.stopsAt hrest) (place.pass '.')
    rw [List.cons_append, readFraction]
    simp only [Cursor.pass, List.nil_append] at hread ⊢
    rw [hread]
    rfl

/-- The digits of an exponent begin with no sign. -/
theorem Digits.ne_sign {d : Char} (h : Digits (d :: ds)) : d ≠ '-' ∧ d ≠ '+' := by
  have hd := h.2 d List.mem_cons_self
  constructor <;> rintro rfl <;> exact absurd hd (by decide)

theorem readPower_append {sign : List Char} {down : Bool} (hsign : Sign sign down) (hds : Digits ds)
    (hrest : Text.StopsAt Char.isDigit rest) (place : Place) :
    ∃ power behind, readPower ⟨sign ++ (ds ++ rest), place⟩ =
      .ok ((down, ds), power, ⟨rest, behind⟩) := by
  obtain ⟨d, ds, rfl⟩ := List.exists_cons_of_ne_nil hds.1
  have hread := Cursor.digits_append hds.2 hrest
  cases hsign with
  | absent =>
    refine ⟨place, place.passAll (d :: ds), ?_⟩
    simp only [List.cons_append] at hread
    simp [readPower, hds.ne_sign, hread]
  | plus =>
    refine ⟨place.pass '+', (place.pass '+').passAll (d :: ds), ?_⟩
    simp only [readPower, List.cons_append, List.nil_append, Cursor.pass] at hread ⊢
    rw [hread]
  | minus =>
    refine ⟨place.pass '-', (place.pass '-').passAll (d :: ds), ?_⟩
    simp only [readPower, List.cons_append, List.nil_append, Cursor.pass] at hread ⊢
    rw [hread]

/-- What is spelled is read, up to where it ends. -/
theorem read_of_spells (h : Spells cs n) (hrest : Text.StopsAt continues rest) (place : Place) :
    ∃ power stop behind, read n.negative ⟨cs ++ rest, place⟩ =
      .ok (placed n power stop, ⟨rest, behind⟩) := by
  obtain @⟨negative, whole, fraction, power, f, p, hwhole, hfraction, hpower⟩ := h
  have hletters := hpower.stopsAt hrest
  have hdigits := hfraction.stopsAt hletters
  simp only [List.append_assoc, read, readWhole_append hwhole hdigits,
    readFraction_append hfraction hletters, bind, Except.bind]
  cases hpower with
  | absent =>
    let stop := (place.passAll whole).passAll fraction
    refine ⟨stop, stop, stop, ?_⟩
    split
    · rename_i heq
      have he := hrest 'e' (by rw [show rest = _ from heq]; rfl)
      exact absurd he (by decide)
    · rename_i heq
      have hE := hrest 'E' (by rw [show rest = _ from heq]; rfl)
      exact absurd hE (by decide)
    · rfl
  | @letter e sign ds down he hsign hds =>
    obtain ⟨at', behind, hread⟩ := readPower_append hsign hds (stopsAt_digit hrest)
      (((place.passAll whole).passAll fraction).pass e)
    refine ⟨at', behind, behind, ?_⟩
    rcases he with rfl | rfl <;>
      simp only [List.cons_append, List.append_assoc, Cursor.pass, hread]

/-! ### What is read was spelled -/

theorem whole_of_readWhole (h : readWhole c = .ok (ds, c')) :
    Whole ds ∧ c.rest = ds ++ c'.rest := by
  unfold readWhole at h
  split at h
  · exact absurd h nofun
  · exact absurd h nofun
  · rename_i ds' behind hnone hzero hdigits
    obtain ⟨rfl, rfl⟩ := Prod.mk.inj (Except.ok.inj h)
    obtain ⟨hrest, hall⟩ := Cursor.append_of_digits hdigits
    refine ⟨⟨⟨hnone, hall⟩, ?_⟩, hrest⟩
    intro rest hds
    cases rest with
    | nil => rfl
    | cons d rest => exact absurd hds (hzero d rest)

theorem fraction_of_readFraction {f : Option (List Char)} (h : readFraction c = .ok (f, c')) :
    ∃ fraction, Fraction fraction f ∧ c.rest = fraction ++ c'.rest := by
  unfold readFraction at h
  split at h
  · rename_i tail hpoint
    split at h
    · exact absurd h nofun
    · rename_i ds behind hnone hdigits
      obtain ⟨rfl, rfl⟩ := Prod.mk.inj (Except.ok.inj h)
      obtain ⟨hrest, hall⟩ := Cursor.append_of_digits hdigits
      refine ⟨'.' :: ds, .digits ⟨hnone, hall⟩, ?_⟩
      rw [List.cons_append, ← hrest, hpoint, Cursor.pass, hpoint]
  · obtain ⟨rfl, rfl⟩ := Prod.mk.inj (Except.ok.inj h)
    exact ⟨[], .absent, rfl⟩

theorem sign_of_readPower {down : Bool} {power : Place}
    (h : readPower c = .ok ((down, ds), power, c')) :
    ∃ sign, Sign sign down ∧ Digits ds ∧ c.rest = sign ++ (ds ++ c'.rest) := by
  unfold readPower at h
  split at h
  rename_i b c₀ hsplit
  have hsign : ∃ sign, Sign sign b ∧ c.rest = sign ++ c₀.rest := by
    split at hsplit
    · rename_i tail hminus
      obtain ⟨rfl, rfl⟩ := Prod.mk.inj hsplit
      exact ⟨['-'], .minus, by rw [Cursor.pass, hminus]; rfl⟩
    · rename_i tail hplus
      obtain ⟨rfl, rfl⟩ := Prod.mk.inj hsplit
      exact ⟨['+'], .plus, by rw [Cursor.pass, hplus]; rfl⟩
    · obtain ⟨rfl, rfl⟩ := Prod.mk.inj hsplit
      exact ⟨[], .absent, rfl⟩
  obtain ⟨sign, hsign, hc⟩ := hsign
  split at h
  · exact absurd h nofun
  · rename_i ds' behind hnone hdigits
    obtain ⟨hpower, hplaced⟩ := Prod.mk.inj (Except.ok.inj h)
    obtain ⟨rfl, rfl⟩ := Prod.mk.inj hpower
    obtain ⟨-, rfl⟩ := Prod.mk.inj hplaced
    obtain ⟨hrest, hall⟩ := Cursor.append_of_digits hdigits
    exact ⟨sign, hsign, ⟨hnone, hall⟩, by rw [hc, hrest]⟩

/-- What is read was spelled. -/
theorem spells_of_read {result : Except Flawed Number} (h : read negative c = .ok (result, c')) :
    ∃ n cs power stop, n.negative = negative ∧ Spells cs n ∧ c.rest = cs ++ c'.rest ∧
      result = placed n power stop := by
  obtain ⟨⟨whole, behind⟩, hwhole, h⟩ := exists_of_bind_eq_ok h
  obtain ⟨⟨f, mid⟩, hfraction, h⟩ := exists_of_bind_eq_ok h
  obtain ⟨hwhole, hc⟩ := whole_of_readWhole hwhole
  obtain ⟨fraction, hfraction, hbehind⟩ := fraction_of_readFraction hfraction
  have hpowered : ∀ {e : Char} {tail : List Char} {p : (Bool × List Char) × Place × Cursor},
      e = 'e' ∨ e = 'E' → mid.rest = e :: tail → readPower mid.pass = .ok p →
        (placed ⟨negative, whole, f, some p.1⟩ p.2.1 p.2.2.place, p.2.2) = (result, c') →
          ∃ n cs power stop, n.negative = negative ∧ Spells cs n ∧ c.rest = cs ++ c'.rest ∧
            result = placed n power stop := by
    rintro e tail ⟨⟨down, ds⟩, at', stop⟩ he hmid hpower h
    obtain ⟨rfl, rfl⟩ := Prod.mk.inj h
    obtain ⟨sign, hsign, hds, hpass⟩ := sign_of_readPower hpower
    refine ⟨_, _, at', stop.place, rfl, .parts hwhole hfraction (.letter he hsign hds), ?_, rfl⟩
    rw [Cursor.pass, hmid] at hpass
    rw [hc, hbehind, hmid, show tail = _ from hpass]
    simp only [List.append_assoc, List.cons_append]
  simp only at h
  -- Either letter begins an exponent; without one the numeral ends behind its fraction.
  split at h
  · rename_i hmid
    obtain ⟨p, hpower, h⟩ := exists_of_bind_eq_ok h
    exact hpowered (.inl rfl) hmid hpower (Except.ok.inj h)
  · rename_i hmid
    obtain ⟨p, hpower, h⟩ := exists_of_bind_eq_ok h
    exact hpowered (.inr rfl) hmid hpower (Except.ok.inj h)
  · obtain ⟨rfl, rfl⟩ := Prod.mk.inj (Except.ok.inj h)
    refine ⟨_, _, mid.place, mid.place, rfl, .parts hwhole hfraction .absent, ?_, rfl⟩
    rw [hc, hbehind, List.append_nil, List.append_assoc]

end

/-! ## Whole numbers -/

theorem takeIn_eq {cs : List Char} {acc : Nat} (h : Nat.ofDigitChars 10 cs acc < Text.wordSize) :
    takeIn acc cs = (Nat.ofDigitChars 10 cs acc, []) := by
  induction cs generalizing acc with
  | nil => rw [takeIn, Nat.ofDigitChars_nil]
  | cons c cs ih =>
    rw [Nat.ofDigitChars_cons, Nat.mul_comm 10 acc] at h ⊢
    have hle := Text.le_ofDigitChars cs (acc * 10 + (c.toNat - '0'.toNat))
    rw [takeIn, Text.digitValue, if_pos (Nat.lt_of_le_of_lt hle h)]
    exact ih h

/-- The number of digits without point and exponent. -/
theorem value_whole (negative : Bool) {n : Nat} (h : n < Text.wordSize) :
    (⟨negative, Nat.toDigits 10 n, none, none⟩ : Numeral).value = .ok (whole? negative n) := by
  have htake : takeIn 0 (Nat.toDigits 10 n) = (n, []) := by
    rw [takeIn_eq (by rw [Nat.ofDigitChars_ten_toDigits]; exact h), Nat.ofDigitChars_ten_toDigits]
  simp [value, htake]

theorem spells_toDigits (negative : Bool) (n : Nat) :
    Spells (Nat.toDigits 10 n) ⟨negative, Nat.toDigits 10 n, none, none⟩ := by
  have hwhole : Whole (Nat.toDigits 10 n) :=
    ⟨⟨Nat.toDigits_ne_nil, Text.isDigit_toDigits n⟩, fun _ h => Text.toDigits_zero_head h⟩
  have h := @Spells.parts negative _ _ _ _ _ hwhole .absent .absent
  rw [List.append_nil, List.append_nil] at h
  exact h

end Numeral
end Json
end SdkShelf
