import SdkShelf.Proofs.Url.Form
import SdkShelf.Url.Parser

/-!
# Names in ASCII

A name of small letters, digits and signs of ASCII that may occur stands for itself.  The tables of
other characters play no part in it, except that of directions, of which only the first numbers do.
-/

namespace SdkShelf

/-! ## The first numbers of a table -/

namespace Text.Table

/-- Numbers that have been read stay. -/
theorem read_foldl_step (cs : List Char) (state : List Nat × Option Nat) :
    ∃ more, (cs.foldl step state).1 = more ++ state.1 := by
  induction cs generalizing state with
  | nil => exact ⟨[], rfl⟩
  | cons c cs ih =>
    obtain ⟨more, hmore⟩ := ih (step state c)
    have hstep : (step state c).1 = state.1 ∨ ∃ n, (step state c).1 = n :: state.1 := by
      rw [step.eq_def]
      split
      · exact .inl rfl
      · exact .inr ⟨_, rfl⟩
      · exact .inl rfl
    rw [List.foldl_cons, hmore]
    rcases hstep with hsame | ⟨n, hread⟩
    · exact ⟨more, by rw [hsame]⟩
    · exact ⟨more ++ [n], by rw [hread, List.append_assoc, List.singleton_append]⟩

/-- The numbers that end inside the beginning of a text are the first numbers of the text. -/
theorem numbers_append (front behind : List Char) :
    ∃ more, numbers (String.ofList (front ++ behind)) =
      (front.foldl step ([], none)).1.reverse ++ more := by
  obtain ⟨more, hmore⟩ := read_foldl_step behind (front.foldl step ([], none))
  rw [numbers, String.toList_ofList, List.foldl_append]
  dsimp only
  rw [hmore, List.reverse_append, List.reverse_append, List.append_assoc]
  exact ⟨_, rfl⟩

end Text.Table

namespace Url

/-! ## Directions -/

namespace Domain

namespace Direction

/-- How the table of directions begins, as far as the characters of ASCII go. -/
def changesFront : List Char :=
  ['\n', ' ', ' ', '0', ' ', '5', ' ', '3', '0', ' ', '3', ' ', '3', 'a', ' ', '5', ' ', '6', '1',
    ' ', '0', ' ', '7', 'b', ' ', '5', ' ', 'd', 'f', ' ', '0', ' ']

-- The table is one literal, which is taken apart character by character.
set_option maxRecDepth 30000 in
theorem exists_changes_eq_numbers :
    ∃ behind, changes = Text.Table.numbers (String.ofList (changesFront ++ behind)) := ⟨_, rfl⟩

theorem exists_changes_eq : ∃ more,
    changes = 0 :: 5 :: 48 :: 3 :: 58 :: 5 :: 97 :: 0 :: 123 :: 5 :: 223 :: 0 :: more := by
  obtain ⟨behind, hchanges⟩ := exists_changes_eq_numbers
  obtain ⟨more, hmore⟩ := Text.Table.numbers_append changesFront behind
  exact ⟨more, hchanges.trans hmore⟩

/-- No character of ASCII is read from right to left. -/
theorem isRightward_of_ascii {c : Char} (h : c.toNat < 128) : (of c).isRightward = false := by
  obtain ⟨more, hchanges⟩ := exists_changes_eq
  rw [of, hchanges]
  simp only [Text.Table.changingValue, if_pos (show c.toNat < 223 by omega)]
  -- One case for each of the runs of ASCII: signs and letters have directions from left to right or
  -- none, and digits are European.
  repeat' split
  all_goals decide

end Direction

theorem areDirected_of_ascii {labels : List (List Char)}
    (h : ∀ label ∈ labels, ∀ c ∈ label, c.toNat < 128) : areDirected labels = true := by
  have hnone : (labels.map fun label => label.map Direction.of).any
      (fun ds => ds.any Direction.isRightward) = false := by
    rw [List.any_eq_false]
    intro ds hds
    obtain ⟨label, hlabel, rfl⟩ := List.mem_map.mp hds
    rw [Bool.not_eq_true, List.any_eq_false]
    intro d hd
    obtain ⟨c, hc, rfl⟩ := List.mem_map.mp hd
    rw [Direction.isRightward_of_ascii (h label hlabel c hc)]
    exact Bool.false_ne_true
  rw [areDirected, hnone]
  rfl

/-! ## Labels -/

theorem intercalate_splitAt (sep : Char) (cs : List Char) :
    [sep].intercalate (splitAt sep cs) = cs := by
  induction cs with
  | nil => rfl
  | cons c cs ih =>
    obtain ⟨first, more, hsplit⟩ := List.exists_cons_of_ne_nil (splitAt_ne_nil sep cs)
    rw [hsplit] at ih
    rw [splitAt, hsplit]
    split
    · rename_i hsep
      rw [List.intercalate_cons_cons, ih, hsep]
      rfl
    · cases more with
      | nil =>
        rw [List.intercalate_singleton] at ih ⊢
        rw [ih]
      | cons second more =>
        rw [List.intercalate_cons_cons] at ih ⊢
        rw [List.cons_append, List.cons_append, ih]

/-- A character of a label is one of the name. -/
theorem mem_of_mem_splitAt {sep c : Char} {cs label : List Char}
    (hlabel : label ∈ splitAt sep cs) (hc : c ∈ label) : c ∈ cs := by
  induction cs generalizing label with
  | nil =>
    rw [splitAt, List.mem_singleton] at hlabel
    rwa [hlabel] at hc
  | cons d cs ih =>
    obtain ⟨first, more, hsplit⟩ := List.exists_cons_of_ne_nil (splitAt_ne_nil sep cs)
    rw [splitAt, hsplit] at hlabel
    rw [hsplit] at ih
    split at hlabel
    · rcases List.mem_cons.mp hlabel with rfl | hlabel
      · exact absurd hc List.not_mem_nil
      · exact List.mem_cons_of_mem _ (ih hlabel hc)
    · rcases List.mem_cons.mp hlabel with rfl | hlabel
      · rcases List.mem_cons.mp hc with rfl | hc
        · exact List.mem_cons_self
        · exact List.mem_cons_of_mem _ (ih List.mem_cons_self hc)
      · exact List.mem_cons_of_mem _ (ih (List.mem_cons_of_mem _ hlabel) hc)

/-! ## Names -/

/-- A character of ASCII that stands for itself in names. -/
def isPlain (c : Char) : Bool := c.toNat < 128 && c.toLower = c && !isForbidden c

theorem ascii_of_plain {c : Char} (h : isPlain c = true) : c.toNat < 128 := by
  simp only [isPlain, Bool.and_eq_true, decide_eq_true_eq] at h
  exact h.1.1

theorem mapping?_of_plain {c : Char} (h : isPlain c = true) : mapping? c = some [c] := by
  simp only [isPlain, Bool.and_eq_true, decide_eq_true_eq] at h
  rw [mapping?, if_pos h.1.1, h.1.2]

theorem mapM_eq_some_map {α β : Type} {f : α → Option β} {g : α → β} {l : List α}
    (h : ∀ a ∈ l, f a = some (g a)) : l.mapM f = some (l.map g) := by
  induction l with
  | nil => rfl
  | cons a l ih =>
    obtain ⟨ha, hl⟩ := List.forall_mem_cons.mp h
    rw [List.mapM_cons, ha, ih hl]
    rfl

theorem normalize?_of_plain {cs : List Char} (h : ∀ c ∈ cs, isPlain c = true) :
    normalize? cs = some cs := by
  have hlow : cs.all fun c => c.toNat < 0x300 := by
    rw [List.all_eq_true]
    intro c hc
    have hascii := ascii_of_plain (h c hc)
    exact decide_eq_true (by omega)
  rw [normalize?, mapM_eq_some_map fun c hc => mapping?_of_plain (h c hc), Option.map_some,
    ← List.flatMap_def, List.flatMap_singleton', Text.Canonical.compose_of_low hlow]

/-- A name of plain characters stands for itself, unless a label of it begins with the mark. -/
theorem ofText?_of_plain {cs : List Char} (h : ∀ c ∈ cs, isPlain c = true)
    (hmark : ∀ label ∈ splitAt '.' cs, isMarked label = false) :
    ofText? (String.ofList cs) = some (String.ofList cs) := by
  have hascii : ∀ label ∈ splitAt '.' cs, isAscii label = true := fun label hlabel =>
    List.all_eq_true.mpr fun c hc =>
      decide_eq_true (ascii_of_plain (h c (mem_of_mem_splitAt hlabel hc)))
  have hmeaning : (splitAt '.' cs).mapM meaning? = some (splitAt '.' cs) := by
    have hself : ∀ label ∈ splitAt '.' cs, meaning? label = some (id label) := by
      intro label hlabel
      rw [meaning?, hmark label hlabel]
      rfl
    rw [mapM_eq_some_map hself, List.map_id]
  have hright : (splitAt '.' cs).all isRight = true :=
    List.all_eq_true.mpr fun label hlabel => by rw [isRight, hascii label hlabel, Bool.true_or]
  have hdirected : areDirected (splitAt '.' cs) = true :=
    areDirected_of_ascii fun label hlabel c hc =>
      ascii_of_plain (h c (mem_of_mem_splitAt hlabel hc))
  have hname : ['.'].intercalate ((splitAt '.' cs).map labelText) = cs := by
    have hself : (splitAt '.' cs).map labelText = splitAt '.' cs :=
      (List.map_congr_left fun label hlabel => if_pos (hascii label hlabel)).trans (List.map_id _)
    rw [hself, intercalate_splitAt]
  have hallowed : cs.any isForbidden = false := by
    rw [List.any_eq_false]
    intro c hc
    have hplain := h c hc
    simp only [isPlain, Bool.and_eq_true] at hplain
    simpa using hplain.2
  rw [ofText?, String.toList_ofList, normalize?_of_plain h]
  simp only [Option.bind_eq_bind, Option.bind_some, hmeaning, hright, hdirected, hname, hallowed]
  rfl

end Domain

/-! ## Hosts -/

theorem Percent.decode_of_not_mem {cs : List Char} (h : '%' ∉ cs) :
    Percent.decode cs = cs.flatMap String.utf8EncodeChar := by
  induction cs with
  | nil => rfl
  | cons c cs ih =>
    rw [Percent.decode_cons_of_ne fun e => h (e ▸ List.mem_cons_self),
      ih fun hmem => h (List.mem_cons_of_mem _ hmem), Percent.bytesOf_eq, List.flatMap_cons]

theorem Percent.decodeText?_of_not_mem {s : String} (h : '%' ∉ s.toList) :
    Percent.decodeText? s = some s := by
  have hbytes : (⟨(Percent.decode s.toList).toArray⟩ : ByteArray) = s.toUTF8 := by
    rw [Percent.decode_of_not_mem h, ← Text.bytes_eq, Text.bytes, Text.toList_eq]
  rw [Percent.decodeText?, hbytes]
  exact dif_pos s.isValidUTF8

/-- A name of plain characters that is no number and has nothing in it to be decoded. -/
structure Host.IsPlainName (name : List Char) : Prop where
  plain : name.all Domain.isPlain = true
  unmarked : ∀ label ∈ Domain.splitAt '.' name, Domain.isMarked label = false
  nonempty : name ≠ []
  notNumber : Host.endsInNumber name = false

namespace Host.IsPlainName

variable {name : List Char}

theorem not_mem (h : IsPlainName name) {c : Char} (hc : Domain.isPlain c = false) : c ∉ name :=
  fun hmem => by
    rw [List.all_eq_true.mp h.plain c hmem] at hc
    exact Bool.noConfusion hc

/-- A plain name is read as it is. -/
theorem ofSpecial (h : IsPlainName name) :
    Host.ofSpecial name = .ok (.domain (String.ofList name)) := by
  have hdecode : Percent.decodeText? (String.ofList name) = some (String.ofList name) :=
    Percent.decodeText?_of_not_mem (by
      rw [String.toList_ofList]
      exact h.not_mem (by decide))
  rw [Host.ofSpecial.eq_def]
  split
  · exact absurd List.mem_cons_self (h.not_mem (c := '[') (by decide))
  · rw [hdecode, Option.bind_some, Domain.ofText?_of_plain (List.all_eq_true.mp h.plain) h.unmarked]
    split
    · rename_i hnone
      exact nomatch hnone
    · rename_i hempty
      exact absurd (String.ofList_eq_empty_iff.mp (Option.some.inj hempty)) h.nonempty
    · rename_i text _ htext
      rw [← Option.some.inj htext, String.toList_ofList, h.notNumber]
      rfl

theorem hostLength (h : IsPlainName name) : Parser.hostLength false name = name.length := by
  have hsign : ∀ c ∈ name, c ≠ ':' ∧ c ≠ '[' ∧ c ≠ ']' := fun c hc =>
    ⟨fun e => h.not_mem (by decide) (e ▸ hc), fun e => h.not_mem (by decide) (e ▸ hc),
      fun e => h.not_mem (by decide) (e ▸ hc)⟩
  clear h
  induction name with
  | nil => rfl
  | cons c name ih =>
    obtain ⟨⟨hcolon, hopen, hclose⟩, hname⟩ := List.forall_mem_cons.mp hsign
    rw [Parser.hostLength, if_neg fun e => hcolon e.1, if_neg hopen, if_neg hclose, ih hname,
      List.length_cons]

/-- A sign that ends the part of the host is not plain. -/
theorem endsAuthority_eq_false (h : IsPlainName name) {c : Char} (hc : c ∈ name) :
    Parser.endsAuthority .web c = false := by
  have hne : ∀ sep, Domain.isPlain sep = false → c ≠ sep := fun sep hsep e =>
    h.not_mem hsep (e ▸ hc)
  simp [Parser.endsAuthority, Parser.isSlash, hne '/' (by decide), hne '\\' (by decide),
    hne '?' (by decide), hne '#' (by decide)]

/-- A plain name up to a path, a query or a fragment names a host and nothing else. -/
theorem authority (h : IsPlainName name) (scheme : String) {rest : List Char}
    (hrest : Text.StopsAt (fun c => !Parser.endsAuthority .web c) rest) :
    Parser.authority scheme .web (name ++ rest) =
      .ok (⟨"", none, some (.domain (String.ofList name)), none⟩, rest) := by
  have hpart : (name ++ rest).takeWhile (fun c => !Parser.endsAuthority .web c) = name :=
    Text.takeWhile_append_of_stopsAt (fun c hc => by rw [h.endsAuthority_eq_false hc]; rfl) hrest
  have huser : Parser.splitLast '@' name = (none, name) := by
    rw [Parser.splitLast, if_neg (by simpa using h.not_mem (by decide))]
  have hnobody : Parser.userOf [] = ("", none) := rfl
  have hhost : (if Host.domain (String.ofList name) = .domain "" then none
      else some (Host.domain (String.ofList name))) = some (.domain (String.ofList name)) :=
    if_neg fun e => h.nonempty (String.ofList_eq_empty_iff.mp (Host.domain.inj e))
  rw [Parser.authority]
  simp only [hpart, huser, List.drop_left, h.hostLength, List.take_length, List.drop_length,
    Option.getD_none, hnobody]
  rw [if_neg nofun, if_neg fun hempty => h.nonempty hempty.2, if_neg nofun, h.ofSpecial]
  show (if (if Host.domain (String.ofList name) = .domain "" then none else _).isNone = true ∧ _
    then _ else _) = _
  rw [hhost]
  simp [bind, Except.bind, pure, Except.pure]

/-- A web address whose host is a plain name is read with that host, and nobody is named. -/
theorem parse (h : IsPlainName name) (scheme : String) (rest : List Char) {text : String}
    (hscheme : Parser.splitScheme (Parser.clean text.toList) =
      some (scheme, '/' :: '/' :: (name ++ rest)))
    (hkind : Parser.Kind.of scheme = .web)
    (hrest : Text.StopsAt (fun c => !Parser.endsAuthority .web c) rest) :
    Url.parse text = .ok
      ⟨scheme, some ⟨"", none, some (.domain (String.ofList name)), none⟩,
        .segments (Parser.pathOf .web (Parser.splitTail .web rest).1),
        (Parser.splitTail .web rest).2.1, (Parser.splitTail .web rest).2.2⟩ := by
  have hslashes :
      ('/' :: '/' :: (name ++ rest)).dropWhile (Parser.isSlash .web) = name ++ rest := by
    obtain ⟨c, cs, rfl⟩ := List.exists_cons_of_ne_nil h.nonempty
    have hends := h.endsAuthority_eq_false (c := c) List.mem_cons_self
    rw [Parser.endsAuthority, Bool.or_eq_false_iff, Bool.or_eq_false_iff] at hends
    rw [List.dropWhile_cons_of_pos rfl, List.dropWhile_cons_of_pos rfl, List.cons_append,
      List.dropWhile_cons_of_neg (by rw [hends.1.1]; exact Bool.false_ne_true)]
  rw [Url.parse, hscheme]
  dsimp only
  rw [Parser.ofScheme.eq_def, hkind]
  dsimp only
  rw [hslashes, h.authority scheme hrest]
  rfl

end Host.IsPlainName

end Url
end SdkShelf
