import SdkShelf.Proofs.Text.Digits
import SdkShelf.Text.Blank

/-!
# Words in decimal

What is read as a number of 64 bits is its digits, however many zeros there are in front, and
perhaps a plus sign before them.  A number's decimal text is among these texts.
-/

namespace SdkShelf
namespace Text

theorem toList_toString (n : Nat) : (toString n).toList = Nat.toDigits 10 n :=
  Nat.toList_repr

theorem isBlank_of_isDigit {c : Char} (h : c.isDigit = true) : isBlank c = false := by
  have hbounds : 48 ≤ c.toNat ∧ c.toNat ≤ 57 := by
    rw [Char.isDigit, Bool.and_eq_true, decide_eq_true_iff, decide_eq_true_iff] at h
    exact ⟨UInt32.le_iff_toNat_le.mp h.1, UInt32.le_iff_toNat_le.mp h.2⟩
  simp only [isBlank, Bool.or_eq_false_iff, Bool.and_eq_false_iff, decide_eq_false_iff_not,
    beq_eq_false_iff_ne]
  omega

theorem dropWhile_eq_self {cs : List Char} {p : Char → Bool} (h : ∀ c ∈ cs, p c = false) :
    cs.dropWhile p = cs := by
  cases cs with
  | nil => rfl
  | cons c rest => rw [List.dropWhile_cons_of_neg (by simp [h c List.mem_cons_self])]

theorem trim_toString (n : Nat) : trim (toString n) = toString n := by
  have hblank : ∀ c ∈ Nat.toDigits 10 n, isBlank c = false :=
    fun c hc => isBlank_of_isDigit (isDigit_toDigits n c hc)
  rw [trim, toList_toString, dropWhile_eq_self hblank, dropEndWhile,
    dropWhile_eq_self fun c hc => hblank c (List.mem_reverse.mp hc), List.reverse_reverse,
    ← toList_toString, String.ofList_toList]

theorem readDigits_eq {cs : List Char} {acc : Nat} (hdigits : ∀ c ∈ cs, c.isDigit = true)
    (h : Nat.ofDigitChars 10 cs acc < wordSize) :
    readDigits acc cs = .ok (Nat.ofDigitChars 10 cs acc) := by
  induction cs generalizing acc with
  | nil => rw [readDigits, Nat.ofDigitChars_nil]
  | cons c cs ih =>
    rw [Nat.ofDigitChars_cons, Nat.mul_comm 10 acc] at h ⊢
    have hle := le_ofDigitChars cs (acc * 10 + (c.toNat - '0'.toNat))
    rw [readDigits, if_pos (hdigits c List.mem_cons_self), digitValue]
    simp only [if_pos (Nat.lt_of_le_of_lt hle h)]
    exact ih (fun x hx => hdigits x (List.mem_cons_of_mem _ hx)) h

theorem readDigits_eq_ok_iff {cs : List Char} {acc n : Nat} (hacc : acc < wordSize) :
    readDigits acc cs = .ok n ↔
      (∀ c ∈ cs, c.isDigit = true) ∧ Nat.ofDigitChars 10 cs acc = n ∧ n < wordSize := by
  refine ⟨fun h => ?_, ?_⟩
  · induction cs generalizing acc with
    | nil =>
      rw [readDigits, Except.ok.injEq] at h
      exact ⟨fun c hc => absurd hc List.not_mem_nil, h, h ▸ hacc⟩
    | cons c cs ih =>
      rw [readDigits] at h
      split at h
      · rename_i hdigit
        dsimp only at h
        split at h
        · rename_i hlt
          obtain ⟨hdigits, hvalue, hn⟩ := ih hlt h
          rw [Nat.ofDigitChars_cons, Nat.mul_comm]
          exact ⟨List.forall_mem_cons.mpr ⟨hdigit, hdigits⟩, hvalue, hn⟩
        · cases h
      · cases h
  · rintro ⟨hdigits, rfl, hlt⟩
    exact readDigits_eq hdigits hlt

/-- The text is a number of 64 bits in decimal. -/
structure IsWord (s : String) (n : Nat) : Prop where
  digits : ∃ ds, ds ≠ [] ∧ (∀ c ∈ ds, c.isDigit = true) ∧ (s.toList = ds ∨ s.toList = '+' :: ds) ∧
    Nat.ofDigitChars 10 ds 0 = n
  lt : n < wordSize

theorem readWord_eq_ok_iff {s : String} {n : Nat} : readWord s = .ok n ↔ IsWord s n := by
  have hplus : ('+' : Char).isDigit = false := by decide
  refine ⟨fun h => ?_, ?_⟩
  · have hlt := readWord_lt h
    rw [readWord] at h
    split at h
    · cases h
    · cases h
    · rename_i rest hne hlist
      obtain ⟨hdigits, hvalue, _⟩ := (readDigits_eq_ok_iff (by decide)).mp h
      exact ⟨⟨rest, fun hnil => hne hnil, hdigits, Or.inr hlist, hvalue⟩, hlt⟩
    · rename_i hne _ _
      obtain ⟨hdigits, hvalue, _⟩ := (readDigits_eq_ok_iff (by decide)).mp h
      exact ⟨⟨s.toList, hne, hdigits, Or.inl rfl, hvalue⟩, hlt⟩
  · rintro ⟨⟨ds, hne, hdigits, hlist, hvalue⟩, hlt⟩
    have hread : readDigits 0 ds = .ok n :=
      (readDigits_eq_ok_iff (by decide)).mpr ⟨hdigits, hvalue, hlt⟩
    obtain ⟨d, ds, rfl⟩ := List.exists_cons_of_ne_nil hne
    have hd : d ≠ '+' := by
      rintro rfl
      exact Bool.noConfusion (hplus.symm.trans (hdigits _ List.mem_cons_self))
    rcases hlist with hlist | hlist
    · rw [readWord, hlist]
      split
      · contradiction
      · rename_i heq
        exact absurd (List.cons.inj heq).1 hd
      · rename_i heq
        exact absurd (List.cons.inj heq).1 hd
      · exact hread
    · rw [readWord, hlist]
      exact hread

theorem isWord_toString {n : Nat} (h : n < wordSize) : IsWord (toString n) n :=
  ⟨⟨Nat.toDigits 10 n, Nat.toDigits_ne_nil, isDigit_toDigits n, Or.inl (toList_toString n),
    Nat.ofDigitChars_ten_toDigits⟩, h⟩

end Text
end SdkShelf
