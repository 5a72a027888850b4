import SdkShelf.Text.Word

/-!
# Decimal digits

The digits of a number are digits, begin with zero only for zero, and have the number as their
value.  A run of digits ends where another character begins.
-/

namespace SdkShelf
namespace Text

/-- The text begins with no character of the class. -/
def StopsAt (p : Char → Bool) (cs : List Char) : Prop := ∀ c ∈ cs.head?, p c = false

theorem stopsAt_nil (p : Char → Bool) : StopsAt p [] := by
  intro c hc
  simp at hc

theorem stopsAt_cons {p : Char → Bool} {c : Char} {rest : List Char} :
    StopsAt p (c :: rest) ↔ p c = false := by
  simp [StopsAt]

instance (p : Char → Bool) : (cs : List Char) → Decidable (StopsAt p cs)
  | [] => isTrue (stopsAt_nil p)
  | c :: _ => decidable_of_iff (p c = false) stopsAt_cons.symm

theorem takeWhile_append_of_stopsAt {p : Char → Bool} {cs rest : List Char}
    (hcs : ∀ c ∈ cs, p c = true) (hrest : StopsAt p rest) :
    (cs ++ rest).takeWhile p = cs := by
  rw [List.takeWhile_append_of_pos hcs]
  cases rest with
  | nil => rw [List.takeWhile_nil, List.append_nil]
  | cons c rest =>
    rw [List.takeWhile_cons_of_neg (by simp [stopsAt_cons.mp hrest]), List.append_nil]

theorem isDigit_toDigits (n : Nat) : ∀ c ∈ Nat.toDigits 10 n, c.isDigit = true :=
  fun _ hc => Nat.isDigit_of_mem_toDigits (by decide) (by decide) hc

/-- A positive number is written without a zero in front. -/
theorem toDigits_of_pos {n : Nat} (h : 0 < n) :
    ∃ d rest, Nat.toDigits 10 n = d :: rest ∧ d ≠ '0' := by
  induction n using Nat.strongRecOn with
  | ind n ih =>
    by_cases hn : n < 10
    · refine ⟨n.digitChar, [], Nat.toDigits_of_lt_base hn, fun e => ?_⟩
      have hd := Nat.toNat_digitChar_sub_48_of_lt_ten hn
      rw [e] at hd
      exact absurd hd.symm (Nat.ne_of_gt h)
    · obtain ⟨d, rest, hrest, hd⟩ := ih (n / 10) (by omega) (by omega)
      rw [Nat.toDigits_of_base_le (by decide) (by omega), hrest]
      exact ⟨d, rest ++ [(n % 10).digitChar], rfl, hd⟩

theorem toDigits_zero_head {n : Nat} {rest : List Char} (h : Nat.toDigits 10 n = '0' :: rest) :
    rest = [] := by
  rcases Nat.eq_zero_or_pos n with rfl | hn
  · rw [Nat.toDigits_zero] at h
    exact (List.cons.inj h).2.symm
  · obtain ⟨d, tail, htail, hd⟩ := toDigits_of_pos hn
    rw [htail] at h
    exact absurd (List.cons.inj h).1 hd

theorem le_ofDigitChars (cs : List Char) (acc : Nat) : acc ≤ Nat.ofDigitChars 10 cs acc := by
  rw [Nat.ofDigitChars_eq_ofDigitChars_zero]
  have hpos : 0 < 10 ^ cs.length := Nat.pow_pos (by decide)
  exact Nat.le_trans (Nat.le_mul_of_pos_left acc hpos) (Nat.le_add_right _ _)

end Text
end SdkShelf
