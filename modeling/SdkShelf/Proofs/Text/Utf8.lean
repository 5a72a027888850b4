import SdkShelf.Text.Utf8

/-!
# Texts survive their bytes

The bytes of a text are read back as the text: nothing in them is taken for damage.
-/

namespace SdkShelf
namespace Text

theorem toList_loop (bs : ByteArray) (i : Nat) (acc : List UInt8) :
    ByteArray.toList.loop bs i acc = acc.reverse ++ bs.data.toList.drop i := by
  fun_induction ByteArray.toList.loop bs i acc with
  | case1 i acc h ih =>
    have hget : bs.get! i = bs.data.toList[i] := getElem!_pos bs.data i h
    rw [ih, List.reverse_cons, List.append_assoc, List.singleton_append, hget,
      List.drop_eq_getElem_cons h]
  | case2 i acc h =>
    rw [List.drop_eq_nil_of_le (Nat.le_of_not_lt h), List.append_nil]

theorem toList_eq (bs : ByteArray) : bs.toList = bs.data.toList := by
  rw [ByteArray.toList, toList_loop]
  rfl

theorem bytes_eq (s : String) : bytes s = s.toList.flatMap String.utf8EncodeChar := by
  rw [bytes, toList_eq, String.toUTF8_eq_toByteArray, ← String.utf8Encode_toList, List.utf8Encode,
    List.toList_data_toByteArray]

namespace Utf8

/-! ## One byte -/

section

variable {b low high : UInt8} {bits n : Nat} {rest : List UInt8}

theorem lead?_of_one (h : b.toNat < 128) : lead? b = some (b.toNat, 0, 0x80, 0xBF) :=
  if_pos (UInt8.lt_iff_toNat_lt.mpr h)

theorem lead?_of_two (h : 194 ≤ b.toNat ∧ b.toNat < 224) :
    lead? b = some (b.toNat - 192, 1, 0x80, 0xBF) := by
  simp only [lead?, UInt8.lt_iff_toNat_lt, UInt8.le_iff_toNat_le, ← UInt8.toNat_inj,
    UInt8.reduceToNat]
  rw [if_neg (by omega), if_pos (by omega)]

/-- Behind `E0` the second byte has a higher lower bound, and behind `ED` a lower upper one. -/
theorem lead?_of_three (h : 224 ≤ b.toNat ∧ b.toNat < 240) :
    ∃ low high, lead? b = some (b.toNat - 224, 2, low, high) ∧
      (b.toNat = 224 ∧ low.toNat = 160 ∨ b.toNat ≠ 224 ∧ low.toNat = 128) ∧
      (b.toNat = 237 ∧ high.toNat = 159 ∨ b.toNat ≠ 237 ∧ high.toNat = 191) := by
  simp only [lead?, UInt8.lt_iff_toNat_lt, UInt8.le_iff_toNat_le, ← UInt8.toNat_inj,
    UInt8.reduceToNat]
  rw [if_neg (by omega), if_neg (by omega)]
  by_cases hfirst : b.toNat = 224
  · rw [if_pos hfirst, hfirst]
    exact ⟨_, _, rfl, .inl ⟨rfl, rfl⟩, .inr ⟨by decide, rfl⟩⟩
  · rw [if_neg hfirst]
    by_cases hsurrogates : b.toNat = 237
    · rw [if_pos hsurrogates, hsurrogates]
      exact ⟨_, _, rfl, .inr ⟨by decide, rfl⟩, .inl ⟨rfl, rfl⟩⟩
    · rw [if_neg hsurrogates, if_pos (by omega)]
      exact ⟨_, _, rfl, .inr ⟨hfirst, rfl⟩, .inr ⟨hsurrogates, rfl⟩⟩

/-- Behind `F0` the second byte has a higher lower bound, and behind `F4` a lower upper one. -/
theorem lead?_of_four (h : 240 ≤ b.toNat ∧ b.toNat < 245) :
    ∃ low high, lead? b = some (b.toNat - 240, 3, low, high) ∧
      (b.toNat = 240 ∧ low.toNat = 144 ∨ b.toNat ≠ 240 ∧ low.toNat = 128) ∧
      (b.toNat = 244 ∧ high.toNat = 143 ∨ b.toNat ≠ 244 ∧ high.toNat = 191) := by
  simp only [lead?, UInt8.lt_iff_toNat_lt, UInt8.le_iff_toNat_le, ← UInt8.toNat_inj,
    UInt8.reduceToNat]
  rw [if_neg (by omega), if_neg (by omega), if_neg (by omega), if_neg (by omega),
    if_neg (by omega)]
  by_cases hfirst : b.toNat = 240
  · rw [if_pos hfirst, hfirst]
    exact ⟨_, _, rfl, .inl ⟨rfl, rfl⟩, .inr ⟨by decide, rfl⟩⟩
  · rw [if_neg hfirst]
    by_cases hlast : b.toNat = 244
    · rw [if_neg (by omega), if_pos hlast, hlast]
      exact ⟨_, _, rfl, .inr ⟨by decide, rfl⟩, .inl ⟨rfl, rfl⟩⟩
    · rw [if_pos (by omega)]
      exact ⟨_, _, rfl, .inr ⟨hfirst, rfl⟩, .inr ⟨hlast, rfl⟩⟩

theorem decodeFrom_single (h : lead? b = some (bits, 0, low, high)) :
    decodeFrom 0 0 0x80 0xBF (b :: rest) = Char.ofNat bits :: decodeFrom 0 0 0x80 0xBF rest := by
  rw [decodeFrom, if_neg (fun hin => hin.1 rfl), h]
  rfl

theorem decodeFrom_lead (h : lead? b = some (bits, n + 1, low, high)) :
    decodeFrom 0 0 0x80 0xBF (b :: rest) = decodeFrom bits (n + 1) low high rest := by
  rw [decodeFrom, if_neg (fun hin => hin.1 rfl), h]
  rfl

theorem decodeFrom_next (h : low.toNat ≤ b.toNat ∧ b.toNat ≤ high.toNat) :
    decodeFrom bits (n + 2) low high (b :: rest) =
      decodeFrom (bits * 64 + (b.toNat - 128)) (n + 1) 0x80 0xBF rest := by
  have hin : n + 2 ≠ 0 ∧ low ≤ b ∧ b ≤ high :=
    ⟨Nat.succ_ne_zero _, UInt8.le_iff_toNat_le.mpr h.1, UInt8.le_iff_toNat_le.mpr h.2⟩
  rw [decodeFrom, if_pos hin]
  exact if_neg (by omega)

theorem decodeFrom_last (h : low.toNat ≤ b.toNat ∧ b.toNat ≤ high.toNat) :
    decodeFrom bits 1 low high (b :: rest) =
      Char.ofNat (bits * 64 + (b.toNat - 128)) :: decodeFrom 0 0 0x80 0xBF rest := by
  have hin : 1 ≠ 0 ∧ low ≤ b ∧ b ≤ high :=
    ⟨by decide, UInt8.le_iff_toNat_le.mpr h.1, UInt8.le_iff_toNat_le.mpr h.2⟩
  rw [decodeFrom, if_pos hin]
  exact if_pos rfl

end

/-! ## One character -/

theorem decodeFrom_utf8EncodeChar (c : Char) (rest : List UInt8) :
    decodeFrom 0 0 0x80 0xBF (String.utf8EncodeChar c ++ rest) =
      c :: decodeFrom 0 0 0x80 0xBF rest := by
  have hvalid : c.val.toNat < 55296 ∨ 57343 < c.val.toNat ∧ c.val.toNat < 1114112 := c.valid
  have hc : Char.ofNat c.val.toNat = c := Char.ofNat_toNat c
  have hbyte : ∀ {x : Nat}, x < 256 → (UInt8.ofNat x).toNat = x := UInt8.toNat_ofNat_of_lt'
  rw [String.utf8EncodeChar]
  generalize c.val.toNat = v at hvalid hc ⊢
  split
  · have hlead := lead?_of_one (b := UInt8.ofNat v) (by rw [hbyte] <;> omega)
    rw [List.singleton_append, decodeFrom_single hlead, hbyte (by omega), hc]
  · split
    · have hfirst := hbyte (x := v / 64 % 32 + 192) (by omega)
      have hsecond := hbyte (x := v % 64 + 128) (by omega)
      have hlead := lead?_of_two (b := UInt8.ofNat (v / 64 % 32 + 192)) (by omega)
      simp only [List.cons_append, List.nil_append]
      rw [decodeFrom_lead hlead, decodeFrom_last (by rw [hsecond]; simp; omega), hfirst, hsecond]
      have hbits : (v / 64 % 32 + 192 - 192) * 64 + (v % 64 + 128 - 128) = v := by omega
      rw [hbits, hc]
    · split
      · have hfirst := hbyte (x := v / 4096 % 16 + 224) (by omega)
        have hsecond := hbyte (x := v / 64 % 64 + 128) (by omega)
        have hthird := hbyte (x := v % 64 + 128) (by omega)
        obtain ⟨low, high, hlead, hlow, hhigh⟩ :=
          lead?_of_three (b := UInt8.ofNat (v / 4096 % 16 + 224)) (by omega)
        rw [hfirst] at hlead hlow hhigh
        simp only [List.cons_append, List.nil_append]
        rw [decodeFrom_lead hlead, decodeFrom_next (by rw [hsecond]; omega),
          decodeFrom_last (by rw [hthird]; simp; omega), hsecond, hthird]
        have hbits : ((v / 4096 % 16 + 224 - 224) * 64 + (v / 64 % 64 + 128 - 128)) * 64 +
            (v % 64 + 128 - 128) = v := by omega
        rw [hbits, hc]
      · have hfirst := hbyte (x := v / 262144 % 8 + 240) (by omega)
        have hsecond := hbyte (x := v / 4096 % 64 + 128) (by omega)
        have hthird := hbyte (x := v / 64 % 64 + 128) (by omega)
        have hfourth := hbyte (x := v % 64 + 128) (by omega)
        obtain ⟨low, high, hlead, hlow, hhigh⟩ :=
          lead?_of_four (b := UInt8.ofNat (v / 262144 % 8 + 240)) (by omega)
        rw [hfirst] at hlead hlow hhigh
        simp only [List.cons_append, List.nil_append]
        rw [decodeFrom_lead hlead, decodeFrom_next (by rw [hsecond]; omega),
          decodeFrom_next (by rw [hthird]; simp; omega),
          decodeFrom_last (by rw [hfourth]; simp; omega), hsecond, hthird, hfourth]
        have hbits : (((v / 262144 % 8 + 240 - 240) * 64 + (v / 4096 % 64 + 128 - 128)) * 64 +
            (v / 64 % 64 + 128 - 128)) * 64 + (v % 64 + 128 - 128) = v := by omega
        rw [hbits, hc]

/-! ## Texts -/

theorem decodeFrom_flatMap (cs : List Char) :
    decodeFrom 0 0 0x80 0xBF (cs.flatMap String.utf8EncodeChar) = cs := by
  induction cs with
  | nil => rfl
  | cons c cs ih => rw [List.flatMap_cons, decodeFrom_utf8EncodeChar, ih]

theorem decodeLossy_bytes (s : String) : decodeLossy (bytes s) = s := by
  rw [decodeLossy, bytes_eq, decodeFrom_flatMap, String.ofList_toList]

end Utf8
end Text
end SdkShelf
