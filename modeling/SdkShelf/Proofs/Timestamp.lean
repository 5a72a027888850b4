import Mathlib.Algebra.Group.Nat.Defs
import SdkShelf.Proofs.Text.Digits
import SdkShelf.Timestamp.Reader

/-!
# Reading written points in time

Every part of a written point in time is read back from what stands behind it, so the whole text is
read as the point that it was written for.
-/

namespace SdkShelf

theorem daysInMonth_le (year : Int) (month : Nat) : daysInMonth year month ≤ 31 := by
  rw [daysInMonth]
  split
  · split <;> decide
  · split <;> decide

theorem Date.of?_self (d : Date) : Date.of? d.year d.month d.day = some d := by
  rw [Date.of?, dif_pos d.isDate]

namespace Timestamp

/-! ## Padded numbers -/

theorem isDigit_padded (width n : Nat) : ∀ c ∈ padded width n, c.isDigit = true := by
  intro c hc
  rcases List.mem_append.mp hc with hc | hc
  · rw [List.eq_of_mem_replicate hc]
    rfl
  · exact Text.isDigit_toDigits n c hc

theorem padded_ne_nil (width n : Nat) : padded width n ≠ [] := by
  intro h
  exact Nat.toDigits_ne_nil (List.append_eq_nil_iff.mp h).2

theorem padded_head (width n : Nat) : ∃ c rest, padded width n = c :: rest ∧ c.isDigit = true := by
  cases h : padded width n with
  | nil => exact absurd h (padded_ne_nil width n)
  | cons c rest =>
    exact ⟨c, rest, rfl, isDigit_padded width n c (by rw [h]; exact List.mem_cons_self)⟩

theorem length_padded {width n : Nat} (hw : 0 < width) (hn : n < 10 ^ width) :
    (padded width n).length = width := by
  have h := (Nat.length_toDigits_le_iff (b := 10) (by decide) hw).mpr hn
  rw [padded, List.length_append, List.length_replicate]
  omega

theorem digitsValue_eq (ds : List Char) : Reader.digitsValue ds = Nat.ofDigitChars 10 ds 0 := by
  rw [Reader.digitsValue, Nat.ofDigitChars_eq_foldl]
  simp only [Nat.mul_comm]

theorem digitsValue_padded (width n : Nat) : Reader.digitsValue (padded width n) = n := by
  rw [digitsValue_eq, padded, Nat.ofDigitChars_append, Nat.ofDigitChars_replicate_zero,
    Nat.mul_zero, Nat.ofDigitChars_ten_toDigits]

namespace Reader

theorem skipBlanks_cons {c : Char} (h : Text.isBlank c = false) (rest : List Char) :
    skipBlanks (c :: rest) = c :: rest := by
  rw [skipBlanks, List.dropWhile_cons_of_neg (by simp [h])]

theorem isBlank_of_isDigit {c : Char} (h : c.isDigit = true) : Text.isBlank c = false := by
  simp only [Char.isDigit, Bool.and_eq_true, decide_eq_true_eq, ge_iff_le, UInt32.le_iff_toNat_le]
    at h
  have h48 : 48 ≤ c.toNat := h.1
  have h57 : c.toNat ≤ 57 := h.2
  simp only [Text.isBlank, Bool.or_eq_false_iff, Bool.and_eq_false_iff, decide_eq_false_iff_not,
    beq_eq_false_iff_ne]
  omega

theorem skipBlanks_padded (width n : Nat) (rest : List Char) :
    skipBlanks (padded width n ++ rest) = padded width n ++ rest := by
  obtain ⟨c, tail, hpadded, hc⟩ := padded_head width n
  rw [hpadded, List.cons_append, skipBlanks_cons (isBlank_of_isDigit hc)]

theorem number_some (width : Nat) {ds rest : List Char} (hds : ds ≠ [])
    (htake : ((ds ++ rest).take width).takeWhile Char.isDigit = ds)
    (hvalue : digitsValue ds < 9223372036854775808) :
    number (some width) (ds ++ rest) = .ok (digitsValue ds, rest) := by
  simp only [number, htake]
  split
  · rename_i heq
    exact absurd (List.append_eq_nil_iff.mp heq).1 hds
  · rw [if_neg hds, if_pos hvalue, List.drop_left]

theorem number_none {ds rest : List Char} (hds : ds ≠ [])
    (htake : (ds ++ rest).takeWhile Char.isDigit = ds)
    (hvalue : digitsValue ds < 9223372036854775808) :
    number none (ds ++ rest) = .ok (digitsValue ds, rest) := by
  have h := number_some (ds ++ rest).length hds (by rw [List.take_length, htake]) hvalue
  simpa only [number, List.take_length] using h

/-- A number that fills its width is read whatever stands behind it. -/
theorem number_padded (width : Nat) {n : Nat} (hw : 0 < width) (hn : n < 10 ^ width)
    (hvalue : n < 9223372036854775808) (rest : List Char) :
    number (some width) (padded width n ++ rest) = .ok (n, rest) := by
  have htake : ((padded width n ++ rest).take width).takeWhile Char.isDigit = padded width n := by
    rw [List.take_left' (length_padded hw hn)]
    have h := Text.takeWhile_append_of_stopsAt (isDigit_padded width n) (Text.stopsAt_nil _)
    rwa [List.append_nil] at h
  rw [number_some width (padded_ne_nil width n) htake (by rw [digitsValue_padded]; exact hvalue),
    digitsValue_padded]

/-- Without a bound a number is read up to the first character that is no digit. -/
theorem number_padded_none (width : Nat) {n : Nat} (hvalue : n < 9223372036854775808)
    {rest : List Char} (hrest : Text.StopsAt Char.isDigit rest) :
    number none (padded width n ++ rest) = .ok (n, rest) := by
  have htake := Text.takeWhile_append_of_stopsAt (isDigit_padded width n) hrest
  rw [number_none (padded_ne_nil width n) htake (by rw [digitsValue_padded]; exact hvalue),
    digitsValue_padded]

/-! ## Parts -/

theorem part_padded {low high n : Nat} (hlow : low ≤ n) (hhigh : n ≤ high) (hn : n < 100)
    (rest : List Char) : part low high (padded 2 n ++ rest) = .ok (n, rest) := by
  simp only [part, skipBlanks_padded, bind, Except.bind,
    number_padded 2 (by decide) hn (by omega) rest]
  rw [if_pos ⟨hlow, hhigh⟩]

theorem separator_cons {c : Char} (h : Text.isBlank c = false) (rest : List Char) :
    separator c (c :: rest) = .ok rest := by
  simp only [separator, skipBlanks_cons h, if_true]

theorem year_yearText {y : Int} (hlow : firstYear ≤ y) (hhigh : y ≤ lastYear) {rest : List Char}
    (hrest : Text.StopsAt Char.isDigit rest) : year (yearText y ++ rest) = .ok (y, rest) := by
  rw [firstYear] at hlow
  rw [lastYear] at hhigh
  by_cases hplain : 0 ≤ y ∧ y ≤ 9999
  · have hnumber := number_padded 4 (n := y.toNat) (by decide) (by omega) (by omega) rest
    have hskip := skipBlanks_padded 4 y.toNat rest
    obtain ⟨c, tail, hpadded, hc⟩ := padded_head 4 y.toNat
    have hminus : c ≠ '-' := fun e => by rw [e] at hc; exact absurd hc (by decide)
    have hplus : c ≠ '+' := fun e => by rw [e] at hc; exact absurd hc (by decide)
    rw [yearText, if_pos hplain, year, hskip]
    rw [hpadded, List.cons_append] at hnumber ⊢
    split
    · rename_i heq
      exact absurd (List.cons.inj heq).1 hminus
    · rename_i heq
      exact absurd (List.cons.inj heq).1 hplus
    · simp only [hnumber, Except.map, bind, Except.bind]
      rw [if_pos (by omega), Int.toNat_of_nonneg hplain.1]
  · have hnumber := number_padded_none 4 (n := y.natAbs) (by omega) hrest
    rw [yearText, if_neg hplain]
    by_cases hneg : y < 0
    · rw [if_pos hneg, List.cons_append, year, skipBlanks_cons (by decide)]
      simp only [hnumber, Except.map, bind, Except.bind]
      rw [if_pos (by omega), Int.ofNat_natAbs_of_nonpos (by omega), Int.neg_neg]
    · rw [if_neg hneg, List.cons_append, year, skipBlanks_cons (by decide)]
      simp only [hnumber, Except.map, bind, Except.bind]
      rw [if_pos (by omega), Int.natAbs_of_nonneg (by omega)]

theorem fraction_padded {width n : Nat} (hw : 0 < width) (hwidth : width ≤ 9)
    (hn : n < 10 ^ width) (rest : List Char) :
    fraction ('.' :: (padded width n ++ 'Z' :: rest)) =
      .ok (n * Nat.pow 10 (9 - width), 'Z' :: rest) := by
  have hlen := length_padded hw hn
  have hstops : Text.StopsAt Char.isDigit (('Z' :: rest).take (9 - width)) := by
    cases 9 - width with
    | zero => exact Text.stopsAt_nil _
    | succ k => exact Text.stopsAt_cons.mpr rfl
  have htake : ((padded width n ++ 'Z' :: rest).take 9).takeWhile Char.isDigit =
      padded width n := by
    rw [List.take_append, hlen, List.take_of_length_le (by omega),
      Text.takeWhile_append_of_stopsAt (isDigit_padded width n) hstops]
  have hpow : 10 ^ width ≤ 10 ^ 9 := Nat.pow_le_pow_right (by decide) hwidth
  have hnumber := number_some 9 (padded_ne_nil width n) htake
    (by rw [digitsValue_padded]; omega)
  have hsize : (padded width n ++ 'Z' :: rest).length - ('Z' :: rest).length = width := by
    rw [List.length_append, hlen, Nat.add_sub_cancel]
  simp only [fraction, hnumber, bind, Except.bind, digitsValue_padded, hsize]
  rw [List.dropWhile_cons_of_neg (by decide)]

theorem fraction_fractionText {nanos : Nat} (hn : nanos < 1000000000) (rest : List Char) :
    fraction (fractionText nanos ++ 'Z' :: rest) = .ok (nanos, 'Z' :: rest) := by
  rw [fractionText]
  split
  · rename_i h
    rw [h]
    rfl
  · split
    · rename_i h
      rw [List.cons_append, fraction_padded (by decide) (by decide) (by omega)]
      show Except.ok (nanos / 1000000 * 1000000, _) = _
      rw [Nat.div_mul_cancel (Nat.dvd_of_mod_eq_zero h)]
    · split
      · rename_i h
        rw [List.cons_append, fraction_padded (by decide) (by decide) (by omega)]
        show Except.ok (nanos / 1000 * 1000, _) = _
        rw [Nat.div_mul_cancel (Nat.dvd_of_mod_eq_zero h)]
      · rw [List.cons_append, fraction_padded (by decide) (by decide) (by omega)]
        show Except.ok (nanos * 1, _) = _
        rw [Nat.mul_one]

/-- In UTC nothing is shifted, and second sixty is taken back to the leap second. -/
theorem assemble_utc (t : Timestamp) :
    assemble t.date t.hour t.minute (t.second + t.nanos / 1000000000) (t.nanos % 1000000000) 0 =
      .ok t := by
  obtain ⟨date, hour, minute, second, nanos, htime⟩ := t
  obtain ⟨hhour, hminute, hsecond, hnanos⟩ := htime
  have htotal : ((hour * 60 + minute : Nat) - 0 : Int) = (hour * 60 + minute : Nat) :=
    Int.sub_zero _
  have hminutes : ((hour * 60 + minute : Nat) % 1440 : Int).toNat = hour * 60 + minute := by omega
  have hdiv : (hour * 60 + minute) / 60 = hour := by omega
  have hmod : (hour * 60 + minute) % 60 = minute := by omega
  have hsplit : (if second + nanos / 1000000000 = 60 then
      (59, nanos % 1000000000 + 1000000000)
      else (second + nanos / 1000000000, nanos % 1000000000)) = (second, nanos) := by
    split
    · rw [Prod.mk.injEq]
      omega
    · rw [Prod.mk.injEq]
      omega
  simp only [assemble, htotal, hminutes, hdiv, hmod, hsplit]
  rw [if_neg (by omega), if_neg (by omega)]
  simp only
  rw [dif_pos ⟨hhour, hminute, hsecond, hnanos⟩]

end Reader

open Reader

/-- A written point in time is read as itself. -/
theorem ofText_text (t : Timestamp) : ofText t.text = .ok t := by
  obtain ⟨hfirst, hlast, hmonth, hmonth', hday, hday'⟩ := t.date.isDate
  obtain ⟨hhour, hminute, hsecond, hnanos⟩ := t.isTime
  have hdays := daysInMonth_le t.date.year t.date.month
  have hleap : t.second + t.nanos / 1000000000 ≤ 60 := by omega
  have hstops : ∀ rest, Text.StopsAt Char.isDigit ('-' :: rest) := fun rest =>
    Text.stopsAt_cons.mpr rfl
  rw [ofText, text, String.toList_ofList, dateText, timeText]
  simp only [List.append_assoc, List.cons_append]
  simp only [ofChars, bind, Except.bind, year_yearText hfirst hlast (hstops _),
    separator_cons (c := '-') rfl, separator_cons (c := ':') rfl,
    part_padded hmonth hmonth' (by omega), part_padded hday (Nat.le_trans hday' hdays) (by omega),
    part_padded (Nat.zero_le t.hour) (Nat.le_of_lt_succ hhour) (by omega),
    part_padded (Nat.zero_le t.minute) (Nat.le_of_lt_succ hminute) (by omega),
    part_padded (Nat.zero_le _) hleap (by omega),
    fraction_fractionText (Nat.mod_lt _ (by decide)), Date.of?_self]
  have hoffset : offset (skipBlanks ['Z']) = .ok (0, []) := rfl
  rw [if_pos (Or.inr (Or.inl trivial)), hoffset]
  show Except.mapError ReadError.message (assemble _ _ _ _ _ 0) = _
  rw [assemble_utc]
  rfl

/-- A written point in time begins with a digit or with the sign of its year. -/
theorem text_head (t : Timestamp) :
    ∃ c rest, t.text.toList = c :: rest ∧ (c.isDigit = true ∨ c = '-' ∨ c = '+') := by
  rw [text, String.toList_ofList, dateText, yearText]
  by_cases hplain : 0 ≤ t.date.year ∧ t.date.year ≤ 9999
  · obtain ⟨c, rest, hpadded, hc⟩ := padded_head 4 t.date.year.toNat
    rw [if_pos hplain, hpadded]
    exact ⟨c, _, rfl, Or.inl hc⟩
  · rw [if_neg hplain]
    by_cases hneg : t.date.year < 0
    · rw [if_pos hneg]
      exact ⟨'-', _, rfl, Or.inr (Or.inl rfl)⟩
    · rw [if_neg hneg]
      exact ⟨'+', _, rfl, Or.inr (Or.inr rfl)⟩

end Timestamp
end SdkShelf
