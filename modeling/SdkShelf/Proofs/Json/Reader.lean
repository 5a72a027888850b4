import SdkShelf.Proofs.Json.Canonical
import SdkShelf.Proofs.Json.Descent

/-!
# Reading texts of values

A plain value's text is read to its end, and its tree holds the value, however the text is laid out:
what blanks there are between its parts does not matter.
-/

namespace SdkShelf
namespace Json

namespace Reader

/-! ## Layouts -/

mutual

/-- The text of a value that stands at a nesting level, with blanks in front of every part and
between a key's colon and the value. -/
def laidOut (gap : Nat → List Char) (space : List Char) (level : Nat) : Json → List Char
  | .array [] => ['[', ']']
  | .array (v :: rest) =>
    '[' :: (gap (level + 1) ++ (laidOut gap space (level + 1) v ++
      (laidItems gap space (level + 1) rest ++ (gap level ++ [']']))))
  | .object [] => ['\x7b', '\x7d']
  | .object ((k, v) :: rest) =>
    '\x7b' :: (gap (level + 1) ++ (stringText k ++ ':' :: (space ++
      (laidOut gap space (level + 1) v ++
        (laidMembers gap space (level + 1) rest ++ (gap level ++ ['\x7d']))))))
  | v => compactChars v

def laidItems (gap : Nat → List Char) (space : List Char) (level : Nat) : List Json → List Char
  | [] => []
  | v :: rest =>
    ',' :: (gap level ++ (laidOut gap space level v ++ laidItems gap space level rest))

def laidMembers (gap : Nat → List Char) (space : List Char) (level : Nat) :
    List (String × Json) → List Char
  | [] => []
  | (k, v) :: rest =>
    ',' :: (gap level ++ (stringText k ++ ':' :: (space ++
      (laidOut gap space level v ++ laidMembers gap space level rest))))

end

mutual

theorem laidOut_nil (level : Nat) : ∀ v, laidOut (fun _ => []) [] level v = compactChars v
  | .null => rfl
  | .bool _ => rfl
  | .number _ => rfl
  | .string _ => rfl
  | .array [] => rfl
  | .array (v :: rest) => by
    simp [laidOut, compactChars, laidOut_nil (level + 1) v, laidItems_nil (level + 1) rest]
  | .object [] => rfl
  | .object ((k, v) :: rest) => by
    simp [laidOut, compactChars, laidOut_nil (level + 1) v, laidMembers_nil (level + 1) rest]

theorem laidItems_nil (level : Nat) : ∀ vs, laidItems (fun _ => []) [] level vs = compactItems vs
  | [] => rfl
  | v :: rest => by
    simp [laidItems, compactItems, laidOut_nil level v, laidItems_nil level rest]

theorem laidMembers_nil (level : Nat) :
    ∀ ms, laidMembers (fun _ => []) [] level ms = compactMembers ms
  | [] => rfl
  | (k, v) :: rest => by
    simp [laidMembers, compactMembers, laidOut_nil level v, laidMembers_nil level rest]

end

mutual

theorem laidOut_lineBreak (level : Nat) : ∀ v, laidOut lineBreak [' '] level v = prettyChars level v
  | .null => rfl
  | .bool _ => rfl
  | .number _ => rfl
  | .string _ => rfl
  | .array [] => rfl
  | .array (v :: rest) => by
    simp [laidOut, prettyChars, laidOut_lineBreak (level + 1) v,
      laidItems_lineBreak (level + 1) rest]
  | .object [] => rfl
  | .object ((k, v) :: rest) => by
    simp [laidOut, prettyChars, laidOut_lineBreak (level + 1) v,
      laidMembers_lineBreak (level + 1) rest]

theorem laidItems_lineBreak (level : Nat) :
    ∀ vs, laidItems lineBreak [' '] level vs = prettyItems level vs
  | [] => rfl
  | v :: rest => by
    simp [laidItems, prettyItems, laidOut_lineBreak level v, laidItems_lineBreak level rest]

theorem laidMembers_lineBreak (level : Nat) :
    ∀ ms, laidMembers lineBreak [' '] level ms = prettyMembers level ms
  | [] => rfl
  | (k, v) :: rest => by
    simp [laidMembers, prettyMembers, laidOut_lineBreak level v, laidMembers_lineBreak level rest]

end

theorem blank_lineBreak (level : Nat) : Blank (lineBreak level) := by
  intro c hc
  rcases List.mem_cons.mp hc with rfl | hc
  · rfl
  · rw [List.eq_of_mem_replicate hc]
    rfl

/-! ## Layouts are texts -/

theorem blank_nil : Blank [] := fun _ hc => absurd hc List.not_mem_nil

theorem quoted_stringText (s : String) : Literal.Quoted (stringText s) s :=
  ⟨_, Literal.spells_escape s.toList, rfl⟩

theorem writes_intText {i : Int} (hi : -9223372036854775808 ≤ i ∧ i < 18446744073709551616) :
    Writes (intText i) (.number (.int i hi)) := by
  have hspells := fun negative => Numeral.spells_toDigits negative i.natAbs
  have hvalue := fun negative => Numeral.value_whole negative (n := i.natAbs)
    (by rw [Text.wordSize]; omega)
  rw [intText]
  split
  · rename_i hneg
    have hword : 0 < i.natAbs ∧ i.natAbs ≤ 9223372036854775808 := by omega
    have hnatAbs : -(i.natAbs : Int) = i := by omega
    refine Writes.number (hspells true) ?_
    rw [hvalue, Numeral.whole?, if_pos rfl, dif_pos hword]
    simp only [hnatAbs]
  · rename_i hneg
    have hword : i.natAbs < 18446744073709551616 := by omega
    have hnatAbs : (i.natAbs : Int) = i := by omega
    refine Writes.number (hspells false) ?_
    rw [hvalue, Numeral.whole?, if_neg (by decide), dif_pos hword]
    simp only [Number.ofNat, hnatAbs]

section

variable {gap : Nat → List Char} {space : List Char} (hgap : ∀ level, Blank (gap level))
  (hspace : Blank space)

include hgap

theorem writesItems_laidOut {outer : List Char} (houter : Blank outer) {level : Nat} {v : Json}
    {vs : List Json} (hwrites : ∀ w ∈ v :: vs, Writes (laidOut gap space level w) w) :
    WritesItems (laidOut gap space level v ++ (laidItems gap space level vs ++ outer))
      (v :: vs) := by
  induction vs generalizing v with
  | nil => exact .last (hwrites v List.mem_cons_self) houter
  | cons w vs ih =>
    have hrest := ih fun x hx => hwrites x (List.mem_cons_of_mem _ hx)
    rw [laidItems, List.cons_append, List.append_assoc, List.append_assoc]
    exact .more (hwrites v List.mem_cons_self) blank_nil (hgap level) hrest

include hspace

theorem writesMembers_laidOut {outer : List Char} (houter : Blank outer) {level : Nat}
    {k : String} {v : Json} {ms : List (String × Json)}
    (hwrites : ∀ m ∈ (k, v) :: ms, Writes (laidOut gap space level m.2) m.2) :
    WritesMembers (stringText k ++ ':' :: (space ++ (laidOut gap space level v ++
      (laidMembers gap space level ms ++ outer)))) ((k, v) :: ms) := by
  have hlabels : ∀ key, Labels (stringText key ++ ':' :: space) key := fun key =>
    ⟨stringText key, [], space, quoted_stringText key, blank_nil, hspace, rfl⟩
  induction ms generalizing k v with
  | nil =>
    have hlast := WritesMembers.last (hlabels k) (hwrites (k, v) List.mem_cons_self) houter
    rw [List.append_assoc, List.cons_append] at hlast
    exact hlast
  | cons m ms ih =>
    obtain ⟨k', w⟩ := m
    have hrest := ih fun x hx => hwrites x (List.mem_cons_of_mem _ hx)
    have hmore := WritesMembers.more (hlabels k) (hwrites (k, v) List.mem_cons_self) blank_nil
      (hgap level) hrest
    simp only [laidMembers, List.cons_append, List.append_assoc, List.nil_append] at hmore ⊢
    exact hmore

/-- However a plain value is laid out, the text is one of the value's. -/
theorem writes_laidOut {v : Json} (h : v.Plain) (level : Nat) :
    Writes (laidOut gap space level v) v := by
  induction v using byParts generalizing level with
  | null => exact .null
  | bool b => exact .bool b
  | number n =>
    cases n with
    | int i hi => exact writes_intText hi
    | float x => exact absurd h (by simp [Plain, Every, PlainNode, Number.isInt])
  | string s => exact .string (quoted_stringText s)
  | array items ih =>
    cases items with
    | nil => exact .noItems blank_nil
    | cons v vs =>
      have hitems := writesItems_laidOut hgap (hgap level) fun w hw =>
        ih w hw (plain_array.mp h w hw) (level + 1)
      have harray := Writes.array (hgap (level + 1)) hitems
      simp only [laidOut, List.append_assoc] at harray ⊢
      exact harray
  | object members ih =>
    cases members with
    | nil => exact .noMembers blank_nil
    | cons m ms =>
      obtain ⟨k, v⟩ := m
      have hmembers := writesMembers_laidOut hgap hspace (hgap level) fun n hn =>
        ih n hn ((plain_object.mp h).2 n hn) (level + 1)
      have hobject := Writes.object (hgap (level + 1)) hmembers
      simp only [laidOut, List.cons_append, List.append_assoc] at hobject ⊢
      exact hobject

end

theorem writes_compact {v : Json} (h : v.Plain) : Writes (compactChars v) v := by
  have hwrites := writes_laidOut (fun _ => blank_nil) blank_nil h 0
  rw [laidOut_nil] at hwrites
  exact hwrites

end Reader

/-- The text's tree holds the value, and nothing is left of the text. -/
def TextOf (text : String) (v : Json) : Prop :=
  ∃ t behind, Tree.ofText text = (t, behind) ∧ t.Holds v ∧ behind.next = none

theorem IsText.textOf {text : String} {v : Json} (h : IsText text v) : TextOf text v := by
  obtain ⟨t, behind, htree, ht, hbehind⟩ := h.stands
  exact ⟨t, behind, htree, ht.1, hbehind⟩

open Reader

theorem isText_compact {v : Json} (h : v.Plain) : IsText v.compact v := by
  refine ⟨[], compactChars v, [], blank_nil, writes_compact h, blank_nil, ?_⟩
  rw [compact, String.toList_ofList, List.append_nil, List.nil_append]

theorem textOf_compact {v : Json} (h : v.Plain) : TextOf v.compact v := (isText_compact h).textOf

/-- The indented text, with a line break at its end. -/
theorem textOf_pretty {v : Json} (h : v.Plain) : TextOf (v.pretty ++ "\n") v := by
  have hspace : Blank [' '] := fun c hc => by rw [List.mem_singleton.mp hc]; rfl
  have hbehind : Blank ['\n'] := fun c hc => by rw [List.mem_singleton.mp hc]; rfl
  apply IsText.textOf
  refine ⟨[], prettyChars 0 v, ['\n'], blank_nil, ?_, hbehind, ?_⟩
  · rw [← laidOut_lineBreak]
    exact writes_laidOut blank_lineBreak hspace h 0
  · rw [pretty, String.toList_append, String.toList_ofList]
    rfl

theorem compact_ne_empty {v : Json} (h : v.Plain) : v.compact ≠ "" := by
  obtain ⟨c, rest, hc, _⟩ := head_of_writes (writes_compact h)
  rw [compact, hc]
  intro hempty
  have htoList := congrArg String.toList hempty
  rw [String.toList_ofList] at htoList
  exact List.cons_ne_nil c rest htoList

end Json
end SdkShelf
