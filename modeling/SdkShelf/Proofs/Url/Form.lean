import SdkShelf.Url.Form
import SdkShelf.Url.Parser
import SdkShelf.Proofs.Text.Digits
import SdkShelf.Proofs.Text.Utf8

/-!
# Queries survive the encoding of forms

Whatever characters names and values have, the pairs that are added to a query are read back behind
the pairs that it had.
-/

namespace SdkShelf
namespace Url

/-! ## Percent signs -/

namespace Percent

theorem bytesOf_eq (c : Char) : bytesOf c = String.utf8EncodeChar c := by
  rw [bytesOf, Text.bytes_eq, Char.toString_eq_singleton, String.toList_singleton,
    List.flatMap_singleton]

theorem decode_cons_of_ne {c : Char} (h : c ≠ '%') (rest : List Char) :
    decode (c :: rest) = bytesOf c ++ decode rest := by
  cases rest with
  | nil => rw [decode, decode, List.append_nil]
  | cons d rest =>
    cases rest with
    | nil => rw [decode, decode]
    | cons e rest => rw [decode, if_neg h]

theorem digitValue?_digit : ∀ n < 16, digitValue? (digit n) = some n := by decide

theorem byte?_digits (b : UInt8) :
    byte? (digit (b.toNat / 16)) (digit (b.toNat % 16)) = some b := by
  have hlt := b.toNat_lt
  rw [byte?, digitValue?_digit _ (by omega), digitValue?_digit _ (by omega)]
  have hsum : b.toNat / 16 * 16 + b.toNat % 16 = b.toNat := by omega
  simp only [hsum, UInt8.ofNat_toNat]

theorem decode_encodeByte (b : UInt8) (rest : List Char) :
    decode (encodeByte b ++ rest) = b :: decode rest := by
  rw [encodeByte, List.cons_append, List.cons_append, List.cons_append, List.nil_append, decode,
    if_pos rfl, byte?_digits]

theorem decode_encodeChar (c : Char) (rest : List Char) :
    decode (encodeChar c ++ rest) = bytesOf c ++ decode rest := by
  rw [encodeChar]
  generalize bytesOf c = bs
  induction bs with
  | nil => rfl
  | cons b bs ih =>
    rw [List.flatMap_cons, List.append_assoc, decode_encodeByte, ih, List.cons_append]

/-- An encoded character is written with percent signs and digits. -/
theorem mem_encodeByte {b : UInt8} {c : Char} (h : c ∈ encodeByte b) :
    c = '%' ∨ c.isAlphanum = true := by
  have hdigit : ∀ n < 16, (digit n).isAlphanum = true := by decide
  have hlt := b.toNat_lt
  rcases List.mem_cons.mp h with rfl | h
  · exact .inl rfl
  · rcases List.mem_cons.mp h with rfl | h
    · exact .inr (hdigit _ (by omega))
    · rw [List.mem_singleton.mp h]
      exact .inr (hdigit _ (by omega))

theorem mem_encodeChar {c d : Char} (h : d ∈ encodeChar c) : d = '%' ∨ d.isAlphanum = true := by
  obtain ⟨b, -, hb⟩ := List.mem_flatMap.mp h
  exact mem_encodeByte hb

end Percent

namespace Form

/-! ## Reading a query -/

/-- A plus sign stands for a blank. -/
def blank (c : Char) : Char := if c = '+' then ' ' else c

/-- The name or value of an encoded form. -/
def decodePart (cs : List Char) : String :=
  Text.Utf8.decodeLossy (Percent.decode (cs.map blank))

/-- A pair; where no value is its name stands alone. -/
def decodePair (cs : List Char) : String × String :=
  let (name, value) := Parser.splitFirst '=' cs
  (decodePart name, decodePart (value.getD []))

/-- The pairs of a query; an empty piece between two of them is none. -/
def decode (query : String) : List (String × String) :=
  ((Domain.splitAt '&' query.toList).filter fun piece => !piece.isEmpty).map decodePair

/-! ## What is written is read -/

/-- The encoded form of a character. -/
def encodeChar (c : Char) : List Char :=
  if c = ' ' then ['+'] else if isPlain c then [c] else Percent.encodeChar c

theorem encode_eq (s : String) : encode s = s.toList.flatMap encodeChar := rfl

/-- A character of an encoded name or value. -/
def isEncoded (c : Char) : Bool := isPlain c || c = '+' || c = '%'

theorem isEncoded_of_mem_encodeChar {c d : Char} (h : d ∈ encodeChar c) : isEncoded d = true := by
  rw [encodeChar] at h
  split at h
  · rw [List.mem_singleton.mp h]
    rfl
  · split at h
    · rename_i hplain
      rw [List.mem_singleton.mp h, isEncoded, hplain]
      rfl
    · rcases Percent.mem_encodeChar h with rfl | hdigit
      · rfl
      · simp [isEncoded, isPlain, hdigit]

theorem isEncoded_of_mem_encode {s : String} {c : Char} (h : c ∈ encode s) :
    isEncoded c = true := by
  obtain ⟨d, -, hc⟩ := List.mem_flatMap.mp h
  exact isEncoded_of_mem_encodeChar hc

/-- A sign that no encoded form has does not occur in one. -/
theorem not_mem_encode {sep : Char} (hsep : isEncoded sep = false) (s : String) :
    sep ∉ encode s := fun h => by
  rw [isEncoded_of_mem_encode h] at hsep
  exact Bool.noConfusion hsep

theorem map_blank_encodeChar (c : Char) :
    (Percent.encodeChar c).map blank = Percent.encodeChar c := by
  refine (List.map_congr_left fun d hd => if_neg ?_).trans (List.map_id _)
  rcases Percent.mem_encodeChar hd with rfl | hdigit
  · decide
  · rintro rfl
    exact absurd hdigit (by decide)

theorem decode_blank_encodeChar (c : Char) (rest : List Char) :
    Percent.decode ((encodeChar c).map blank ++ rest) =
      Percent.bytesOf c ++ Percent.decode rest := by
  rw [encodeChar]
  split
  · rename_i hblank
    rw [hblank]
    exact Percent.decode_cons_of_ne (by decide) rest
  · split
    · rename_i hplain
      have hplus : c ≠ '+' := by
        rintro rfl
        exact absurd hplain (by decide)
      have hpercent : c ≠ '%' := by
        rintro rfl
        exact absurd hplain (by decide)
      rw [List.map_singleton, blank, if_neg hplus]
      exact Percent.decode_cons_of_ne hpercent rest
    · rw [map_blank_encodeChar, Percent.decode_encodeChar]

theorem decode_blank_encode (s : String) :
    Percent.decode ((encode s).map blank) = Text.bytes s := by
  rw [encode_eq, Text.bytes_eq]
  generalize s.toList = cs
  induction cs with
  | nil => rfl
  | cons c cs ih =>
    rw [List.flatMap_cons, List.map_append, decode_blank_encodeChar, ih, List.flatMap_cons,
      Percent.bytesOf_eq]

theorem decodePart_encode (s : String) : decodePart (encode s) = s := by
  rw [decodePart, decode_blank_encode, Text.Utf8.decodeLossy_bytes]

end Form

/-! ## Splitting -/

theorem Parser.splitFirst_append {sep : Char} {before : List Char} (h : sep ∉ before)
    (behind : List Char) :
    Parser.splitFirst sep (before ++ sep :: behind) = (before, some behind) := by
  have hbefore : (before ++ sep :: behind).takeWhile (· ≠ sep) = before :=
    Text.takeWhile_append_of_stopsAt (fun c hc => by simpa using ne_of_mem_of_not_mem hc h)
      (Text.stopsAt_cons.mpr (by simp))
  rw [splitFirst, hbefore, List.drop_left]

theorem Parser.splitFirst_of_not_mem {sep : Char} {cs : List Char} (h : sep ∉ cs) :
    Parser.splitFirst sep cs = (cs, none) := by
  have hcs : cs.takeWhile (· ≠ sep) = cs := by
    have := Text.takeWhile_append_of_stopsAt
      (fun c hc => by simpa using ne_of_mem_of_not_mem hc h) (Text.stopsAt_nil (· ≠ sep))
    rwa [List.append_nil] at this
  rw [splitFirst, hcs, List.drop_length]

theorem Domain.splitAt_ne_nil (sep : Char) (cs : List Char) : Domain.splitAt sep cs ≠ [] := by
  cases cs with
  | nil => exact List.cons_ne_nil _ _
  | cons c cs =>
    rw [splitAt]
    split
    · exact List.cons_ne_nil _ _
    · split <;> exact List.cons_ne_nil _ _

theorem Domain.splitAt_of_not_mem {sep : Char} {cs : List Char} (h : sep ∉ cs) :
    Domain.splitAt sep cs = [cs] := by
  induction cs with
  | nil => rfl
  | cons c cs ih =>
    have hc : c ≠ sep := fun e => h (e ▸ List.mem_cons_self)
    have hcs : sep ∉ cs := fun hmem => h (List.mem_cons_of_mem _ hmem)
    rw [splitAt, if_neg hc, ih hcs]

/-- What stands behind the last sign is the last piece. -/
theorem Domain.splitAt_append {sep : Char} {last : List Char} (h : sep ∉ last) (cs : List Char) :
    Domain.splitAt sep (cs ++ sep :: last) = Domain.splitAt sep cs ++ [last] := by
  induction cs with
  | nil =>
    rw [List.nil_append, splitAt.eq_def sep (sep :: last)]
    simp only [if_pos, splitAt_of_not_mem h]
    rfl
  | cons c cs ih =>
    rw [List.cons_append, splitAt, splitAt, ih]
    split
    · rfl
    · obtain ⟨first, more, hsplit⟩ := List.exists_cons_of_ne_nil (splitAt_ne_nil sep cs)
      rw [hsplit]
      rfl

namespace Form

theorem decodePair_pairText (pair : String × String) : decodePair (pairText pair) = pair := by
  rw [decodePair, pairText, Parser.splitFirst_append (not_mem_encode (by decide) pair.1)]
  show (decodePart (encode pair.1), decodePart (encode pair.2)) = pair
  rw [decodePart_encode, decodePart_encode]

theorem not_mem_pairText {sep : Char} (hsep : isEncoded sep = false) (heq : sep ≠ '=')
    (pair : String × String) : sep ∉ pairText pair := by
  rw [pairText, List.mem_append, List.mem_cons]
  rintro (h | h | h)
  · exact not_mem_encode hsep _ h
  · exact heq h
  · exact not_mem_encode hsep _ h

theorem append_cons (query : String) (pair : String × String) (pairs : List (String × String)) :
    append query (pair :: pairs) = append (append query [pair]) pairs := rfl

/-- A pair follows an ampersand, unless it is the first one. -/
theorem toList_append_singleton (query : String) (pair : String × String) :
    (append query [pair]).toList =
      if query = "" then pairText pair else query.toList ++ '&' :: pairText pair := by
  rw [append, List.foldl_cons, List.foldl_nil]
  by_cases hquery : query = ""
  · simp [hquery]
  · simp [hquery]

/-- One more pair behind a query is read behind its pairs. -/
theorem decode_append_singleton (query : String) (pair : String × String) :
    decode (append query [pair]) = decode query ++ [pair] := by
  have hpair : '&' ∉ pairText pair := not_mem_pairText (by decide) (by decide) pair
  have hlast : ([pairText pair].filter fun piece => !piece.isEmpty).map decodePair = [pair] := by
    have hne : (pairText pair).isEmpty = false := by
      rw [pairText]
      cases encode pair.1 <;> rfl
    rw [List.filter_cons_of_pos (by simp [hne]), List.filter_nil, List.map_singleton,
      decodePair_pairText]
  rw [decode, toList_append_singleton]
  split
  · rename_i hquery
    rw [Domain.splitAt_of_not_mem hpair, hlast, hquery]
    rfl
  · rw [Domain.splitAt_append hpair, List.filter_append, List.map_append, hlast, decode]

/-- The pairs behind a query are read behind the pairs that it had. -/
theorem decode_append (query : String) (pairs : List (String × String)) :
    decode (append query pairs) = decode query ++ pairs := by
  induction pairs generalizing query with
  | nil => exact (List.append_nil _).symm
  | cons pair pairs ih =>
    rw [append_cons, ih, decode_append_singleton, List.append_assoc, List.singleton_append]

/-- The pairs bring no sign that neither belongs to an encoded form nor stands between them. -/
theorem not_mem_append {sep : Char} (hsep : isEncoded sep = false) (heq : sep ≠ '=')
    (hamp : sep ≠ '&') {query : String} (h : sep ∉ query.toList)
    (pairs : List (String × String)) : sep ∉ (append query pairs).toList := by
  induction pairs generalizing query with
  | nil => exact h
  | cons pair pairs ih =>
    have hpair := not_mem_pairText hsep heq pair
    rw [append_cons]
    refine ih ?_
    rw [toList_append_singleton]
    split
    · exact hpair
    · rw [List.mem_append, List.mem_cons]
      rintro (hquery | hmem | hmem)
      · exact h hquery
      · exact hamp hmem
      · exact hpair hmem

end Form
end Url
end SdkShelf
