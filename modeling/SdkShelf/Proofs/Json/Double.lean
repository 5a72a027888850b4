import SdkShelf.Decimal.Float
import SdkShelf.Proofs.Json.Numeral

/-!
# The text of a double

The text of a double is a numeral with a point or an exponent, whatever its digits are.  So it is
never taken for a whole number, even where the double is one.
-/

namespace SdkShelf

/-- A numeral that is more than digits: it has a point or an exponent. -/
def Json.Numeral.IsDecimal (n : Json.Numeral) : Prop :=
  n.fraction.isSome = true ∨ n.exponent.isSome = true

namespace Decimal

/-! ## The digits are not all zeros -/

theorem digits_dropZeros_ne_zero {digits : Nat} (h : digits ≠ 0) (fuel : Nat) (exponent : Int) :
    (dropZeros fuel digits exponent).digits ≠ 0 := by
  induction fuel generalizing digits exponent with
  | zero => exact h
  | succ fuel ih =>
    rw [dropZeros]
    split
    · exact ih (by omega) _
    · exact h

namespace Interval

section

variable {i : Interval}

/-- Zero lies below every interval that rounds to a positive number. -/
theorem neighbour_ne_zero (hlow : i.low ≠ 0) {e : Int} {c : Nat} (h : i.neighbour? e = some c) :
    c ≠ 0 := by
  unfold neighbour? at h
  extract_lets up down below above inside at h
  have hup : 0 < up :=
    Nat.mul_pos (Nat.pow_pos (by decide)) (Nat.pow_pos (by decide))
  have hpos : 0 < i.low * up := Nat.mul_pos (Nat.pos_of_ne_zero hlow) hup
  have houtside : inside 0 = false := by
    simp only [inside, Nat.zero_mul]
    split
    · rw [decide_eq_false (by omega), Bool.false_and]
    · rw [decide_eq_false (by omega), Bool.false_and]
  have hbelow : inside below = true → below ≠ 0 := by
    intro hinside hzero
    rw [hzero, houtside] at hinside
    exact absurd hinside (by decide)
  split at h
  · rename_i hinside _
    split at h
    · exact Option.some.inj h ▸ hbelow hinside
    · split at h
      · exact Option.some.inj h ▸ Nat.succ_ne_zero below
      · split at h
        · exact Option.some.inj h ▸ hbelow hinside
        · exact Option.some.inj h ▸ Nat.succ_ne_zero below
  · rename_i hinside _
    exact Option.some.inj h ▸ hbelow hinside
  · exact Option.some.inj h ▸ Nat.succ_ne_zero below
  · exact absurd h nofun

theorem digits_search_ne_zero (hlow : i.low ≠ 0) (hvalue : i.value ≠ 0) (first : Int)
    (fuel count : Nat) : (i.search first fuel count).digits ≠ 0 := by
  induction fuel generalizing count with
  | zero => exact hvalue
  | succ fuel ih =>
    rw [search]
    split
    · rename_i digits hdigits
      exact digits_dropZeros_ne_zero (neighbour_ne_zero hlow hdigits) _ _
    · exact ih _

end

theorem digits_shortest_ne_zero {fraction biased : Nat} (h : ¬ (fraction = 0 ∧ biased = 0)) :
    (ofFields fraction biased).shortest.digits ≠ 0 := by
  refine digits_search_ne_zero ?_ ?_ _ _ _
  · simp only [ofFields]
    split <;> split <;> omega
  · simp only [ofFields]
    split <;> omega

end Interval

/-! ## The spelling -/

open Json Json.Numeral

theorem digits_toDigits (n : Nat) : Digits (Nat.toDigits 10 n) :=
  ⟨Nat.toDigits_ne_nil, Text.isDigit_toDigits n⟩

theorem power_exponentText (e : Int) :
    Power (exponentText e) (some (decide (e < 0), Nat.toDigits 10 e.natAbs)) := by
  rw [exponentText]
  split
  · rename_i hneg
    rw [decide_eq_true hneg]
    exact .letter (.inl rfl) .minus (digits_toDigits _)
  · rename_i hpos
    rw [decide_eq_false hpos]
    exact .letter (.inl rfl) .plus (digits_toDigits _)

theorem whole_digit {d : Char} (h : d.isDigit = true) : Whole [d] :=
  ⟨⟨List.cons_ne_nil _ _, fun c hc => by rw [List.mem_singleton.mp hc]; exact h⟩,
    fun _ hrest => (List.cons.inj hrest).2.symm⟩

theorem spells_point {whole ds : List Char} (hwhole : Whole whole) (hds : Digits ds)
    (negative : Bool) :
    ∃ n : Numeral, n.negative = negative ∧ n.Spells (whole ++ '.' :: ds) ∧ n.IsDecimal := by
  have hspells := @Spells.parts negative _ _ _ _ _ hwhole (.digits hds) .absent
  rw [List.append_nil] at hspells
  exact ⟨_, rfl, hspells, .inl rfl⟩

theorem spells_exponent {whole fraction : List Char} {f : Option (List Char)}
    (hwhole : Whole whole) (hfraction : Fraction fraction f) (e : Int) (negative : Bool) :
    ∃ n : Numeral, n.negative = negative ∧ n.Spells (whole ++ (fraction ++ exponentText e)) ∧
      n.IsDecimal :=
  ⟨⟨negative, _, _, _⟩, rfl, .parts hwhole hfraction (power_exponentText e), .inr rfl⟩

/-- A point within digits, or in front of them behind a zero. -/
theorem spells_placePoint {digits : List Char} (hdigits : Whole digits) {places : Nat}
    (hplaces : places ≠ 0) (negative : Bool) :
    ∃ n : Numeral, n.negative = negative ∧ n.Spells (placePoint digits places) ∧ n.IsDecimal := by
  unfold placePoint
  extract_lets padded
  have hlength : padded.length = max (places + 1) digits.length := by
    simp only [padded, List.length_append, List.length_replicate]
    omega
  have hall : ∀ c ∈ padded, c.isDigit = true := by
    intro c hc
    rcases List.mem_append.mp hc with hc | hc
    · rw [List.eq_of_mem_replicate hc]
      rfl
    · exact hdigits.1.2 c hc
  have hwhole : Whole (padded.take (padded.length - places)) := by
    refine ⟨⟨?_, fun c hc => hall c (List.mem_of_mem_take hc)⟩, fun rest hrest => ?_⟩
    · rw [← List.length_pos_iff, List.length_take]
      omega
    · have htake := congrArg List.length hrest
      rw [List.length_take, List.length_cons] at htake
      by_cases hshort : digits.length ≤ places + 1
      · -- One digit is left in front of the point.
        exact List.eq_nil_of_length_eq_zero (by omega)
      · have hpadded : padded = digits := by
          simp only [padded, Nat.sub_eq_zero_of_le (Nat.le_of_not_le hshort), List.replicate_zero,
            List.nil_append]
        have hzero : digits = '0' :: (rest ++ digits.drop (padded.length - places)) := by
          rw [← List.cons_append, ← hrest, hpadded, List.take_append_drop]
        have hone := congrArg List.length hzero
        rw [hdigits.2 _ hzero] at hone
        simp only [List.length_singleton] at hone
        omega
  have hfraction : Digits (padded.drop (padded.length - places)) := by
    refine ⟨?_, fun c hc => hall c (List.mem_of_mem_drop hc)⟩
    rw [← List.length_pos_iff, List.length_drop]
    omega
  exact spells_point hwhole hfraction negative

theorem whole_toDigits (n : Nat) : Whole (Nat.toDigits 10 n) :=
  ⟨digits_toDigits n, fun _ h => Text.toDigits_zero_head h⟩

theorem exists_spells_text {s : Scaled} (h : s.digits ≠ 0) (negative : Bool) :
    ∃ n : Numeral, n.negative = negative ∧ n.Spells s.text ∧ n.IsDecimal := by
  have hdigit := Text.isDigit_toDigits s.digits
  obtain ⟨d, rest, hds, hd⟩ := Text.toDigits_of_pos (Nat.pos_of_ne_zero h)
  unfold Scaled.text
  extract_lets digits first
  have hdigits : digits = d :: rest := hds
  rw [hds] at hdigit
  split
  · split
    · have hwhole : Whole (digits ++ List.replicate s.exponent.toNat '0') := by
        rw [hdigits]
        refine ⟨⟨List.cons_ne_nil _ _, fun c hc => ?_⟩, fun _ hrest => absurd
          (List.cons.inj hrest).1 hd⟩
        rcases List.mem_append.mp hc with hc | hc
        · exact hdigit c hc
        · rw [List.eq_of_mem_replicate hc]
          rfl
      exact spells_point hwhole (whole_digit rfl).1 negative
    · rename_i hexponent
      exact spells_placePoint (whole_toDigits _) (by omega) negative
  · rw [hdigits]
    have hone := whole_digit (hdigit d List.mem_cons_self)
    cases rest with
    | nil => exact spells_exponent hone .absent first negative
    | cons second more =>
      have hfraction : Digits (second :: more) :=
        ⟨List.cons_ne_nil _ _, fun c hc => hdigit c (List.mem_cons_of_mem _ hc)⟩
      exact spells_exponent hone (.digits hfraction) first negative

/-- The text of a double is a numeral with a point or an exponent. -/
theorem exists_spells_floatText (x : Float) :
    ∃ (n : Numeral) (cs : List Char), n.Spells cs ∧ n.IsDecimal ∧
      floatText x = if n.negative then '-' :: cs else cs := by
  unfold floatText
  extract_lets bits sign fraction biased
  have hsign : ∃ negative : Bool, ∀ cs, sign ++ cs = if negative then '-' :: cs else cs := by
    simp only [sign]
    split
    · exact ⟨true, fun cs => rfl⟩
    · exact ⟨false, fun cs => rfl⟩
  obtain ⟨negative, hsign⟩ := hsign
  split
  · obtain ⟨n, rfl, hspells, hdecimal⟩ :=
      spells_point (whole_digit (d := '0') rfl) (whole_digit (d := '0') rfl).1 negative
    exact ⟨n, _, hspells, hdecimal, hsign _⟩
  · rename_i hzero
    obtain ⟨n, rfl, hspells, hdecimal⟩ :=
      exists_spells_text (Interval.digits_shortest_ne_zero hzero) negative
    exact ⟨n, _, hspells, hdecimal, hsign _⟩

end Decimal

namespace Json.Numeral

theorem float_ne_int (negative : Bool) (word : Nat) (e i : Int)
    (hi : -9223372036854775808 ≤ i ∧ i < 18446744073709551616) :
    float negative word e ≠ .ok (.int i hi) := by
  rw [float]
  split <;> nofun

/-- A numeral with a point or an exponent stands for no whole number. -/
theorem value_ne_int {n : Numeral} (h : n.IsDecimal) (i : Int)
    (hi : -9223372036854775808 ≤ i ∧ i < 18446744073709551616) : n.value ≠ .ok (.int i hi) := by
  unfold value
  split
  split
  split
  · split
    · split <;> nofun
    · exact float_ne_int _ _ _ _ _
  · split
    · rename_i hexponent hwhole
      rcases h with h | h
      · rw [Option.isNone_iff_eq_none.mp hwhole.1] at h
        exact absurd h (by decide)
      · rw [hexponent] at h
        exact absurd h (by decide)
    · exact float_ne_int _ _ _ _ _

end Json.Numeral
end SdkShelf
