import SdkShelf.Json.Printer
import SdkShelf.Proofs.Json.Numeral
import SdkShelf.Proofs.Json.Shape

/-!
# The grammar of JSON

What a text of a value is, told without a reader: words, numerals and strings, and containers whose
parts stand between commas, with blanks around them.  Some texts that keep to the grammar are no
value's, for a number in them is too large or a string has surrogates that do not pair up.  They are
documents all the same, and where such a part is skipped it is not looked at.
-/

namespace SdkShelf
namespace Json

/-- A string between its quotes. -/
def Literal.Quoted (cs : List Char) (s : String) : Prop :=
  ∃ body, Spells body s.toList ∧ cs = '"' :: (body ++ ['"'])

namespace Reader

/-- Nothing but blanks. -/
def Blank (cs : List Char) : Prop := ∀ c ∈ cs, Cursor.isSpace c = true

/-- A key and the colon behind it. -/
def Labels (cs : List Char) (key : String) : Prop :=
  ∃ quoted gap space, Literal.Quoted quoted key ∧ Blank gap ∧ Blank space ∧
    cs = quoted ++ (gap ++ ':' :: space)

end Reader

open Reader (Blank Labels)

mutual

/-- `Writes cs v`: the text stands for the value, with no blanks around it. -/
inductive Writes : List Char → Json → Prop
  | null : Writes ['n', 'u', 'l', 'l'] .null
  | bool (b : Bool) : Writes (boolText b) (.bool b)
  | number {cs : List Char} {n : Numeral} {x : Number} (hcs : n.Spells cs) (hx : n.value = .ok x) :
      Writes (if n.negative then '-' :: cs else cs) (.number x)
  | string {cs : List Char} {s : String} (hcs : Literal.Quoted cs s) : Writes cs (.string s)
  | noItems {gap : List Char} (hgap : Blank gap) : Writes ('[' :: (gap ++ [']'])) (.array [])
  | array {gap cs : List Char} {vs : List Json} (hgap : Blank gap) (hcs : WritesItems cs vs) :
      Writes ('[' :: (gap ++ (cs ++ [']']))) (.array vs)
  | noMembers {gap : List Char} (hgap : Blank gap) :
      Writes ('\x7b' :: (gap ++ ['\x7d'])) (.object [])
  | object {gap cs : List Char} {ms : List (String × Json)} (hgap : Blank gap)
      (hcs : WritesMembers cs ms) : Writes ('\x7b' :: (gap ++ (cs ++ ['\x7d']))) (.object ms)

/-- The items of a list, and the blanks in front of its bracket. -/
inductive WritesItems : List Char → List Json → Prop
  | last {cs gap : List Char} {v : Json} (hv : Writes cs v) (hgap : Blank gap) :
      WritesItems (cs ++ gap) [v]
  | more {cs gap next rest : List Char} {v : Json} {vs : List Json} (hv : Writes cs v)
      (hgap : Blank gap) (hnext : Blank next) (hvs : WritesItems rest vs) :
      WritesItems (cs ++ (gap ++ ',' :: (next ++ rest))) (v :: vs)

inductive WritesMembers : List Char → List (String × Json) → Prop
  | last {key cs gap : List Char} {k : String} {v : Json} (hk : Labels key k) (hv : Writes cs v)
      (hgap : Blank gap) : WritesMembers (key ++ (cs ++ gap)) [(k, v)]
  | more {key cs gap next rest : List Char} {k : String} {v : Json} {ms : List (String × Json)}
      (hk : Labels key k) (hv : Writes cs v) (hgap : Blank gap) (hnext : Blank next)
      (hms : WritesMembers rest ms) :
      WritesMembers (key ++ (cs ++ (gap ++ ',' :: (next ++ rest)))) ((k, v) :: ms)

end

/-- A text of a value, with blanks around it. -/
def IsText (text : String) (v : Json) : Prop :=
  ∃ before cs after, Blank before ∧ Writes cs v ∧ Blank after ∧
    text.toList = before ++ (cs ++ after)

/-! ## Documents -/

/-- What a text says that keeps to the grammar.  A number has no value if it is too large for a
double, and a string has no characters if its surrogates do not pair up. -/
inductive Document where
  | null
  | bool (b : Bool)
  | number (n : Option Number)
  | string (s : Option String)
  | array (items : List Document)
  | object (members : List (Option String × Document))

namespace Document

mutual

/-- The document that says a value. -/
def ofJson : Json → Document
  | .null => .null
  | .bool b => .bool b
  | .number n => .number (some n)
  | .string s => .string (some s)
  | .array items => .array (ofItems items)
  | .object members => .object (ofMembers members)

def ofItems : List Json → List Document
  | [] => []
  | v :: rest => ofJson v :: ofItems rest

def ofMembers : List (String × Json) → List (Option String × Document)
  | [] => []
  | (k, v) :: rest => (some k, ofJson v) :: ofMembers rest

end

theorem ofMembers_eq (ms : List (String × Json)) :
    ofMembers ms = ms.map fun m => (some m.1, ofJson m.2) := by
  induction ms with
  | nil => rfl
  | cons m ms ih => rw [ofMembers, ih, List.map_cons]

end Document

/-- A key and the colon behind it; the key may have no characters. -/
def Reader.Names (cs : List Char) (key : Option String) : Prop :=
  ∃ quoted gap space, Literal.Encloses quoted key ∧ Blank gap ∧ Blank space ∧
    cs = quoted ++ (gap ++ ':' :: space)

open Reader (Names)

mutual

/-- `Forms cs d`: the text says the document, with no blanks around it. -/
inductive Forms : List Char → Document → Prop
  | null : Forms ['n', 'u', 'l', 'l'] .null
  | bool (b : Bool) : Forms (boolText b) (.bool b)
  | number {cs : List Char} {n : Numeral} (hcs : n.Spells cs) :
      Forms (if n.negative then '-' :: cs else cs) (.number n.value.toOption)
  | string {cs : List Char} {s : Option String} (hcs : Literal.Encloses cs s) :
      Forms cs (.string s)
  | noItems {gap : List Char} (hgap : Blank gap) : Forms ('[' :: (gap ++ [']'])) (.array [])
  | array {gap cs : List Char} {ds : List Document} (hgap : Blank gap) (hcs : FormsItems cs ds) :
      Forms ('[' :: (gap ++ (cs ++ [']']))) (.array ds)
  | noMembers {gap : List Char} (hgap : Blank gap) :
      Forms ('\x7b' :: (gap ++ ['\x7d'])) (.object [])
  | object {gap cs : List Char} {ms : List (Option String × Document)} (hgap : Blank gap)
      (hcs : FormsMembers cs ms) : Forms ('\x7b' :: (gap ++ (cs ++ ['\x7d']))) (.object ms)

inductive FormsItems : List Char → List Document → Prop
  | last {cs gap : List Char} {d : Document} (hd : Forms cs d) (hgap : Blank gap) :
      FormsItems (cs ++ gap) [d]
  | more {cs gap next rest : List Char} {d : Document} {ds : List Document} (hd : Forms cs d)
      (hgap : Blank gap) (hnext : Blank next) (hds : FormsItems rest ds) :
      FormsItems (cs ++ (gap ++ ',' :: (next ++ rest))) (d :: ds)

inductive FormsMembers : List Char → List (Option String × Document) → Prop
  | last {key cs gap : List Char} {k : Option String} {d : Document} (hk : Names key k)
      (hd : Forms cs d) (hgap : Blank gap) : FormsMembers (key ++ (cs ++ gap)) [(k, d)]
  | more {key cs gap next rest : List Char} {k : Option String} {d : Document}
      {ms : List (Option String × Document)} (hk : Names key k) (hd : Forms cs d)
      (hgap : Blank gap) (hnext : Blank next) (hms : FormsMembers rest ms) :
      FormsMembers (key ++ (cs ++ (gap ++ ',' :: (next ++ rest)))) ((k, d) :: ms)

end

/-- A text that keeps to the grammar, with blanks around it. -/
def IsDocument (text : String) (d : Document) : Prop :=
  ∃ before cs after, Blank before ∧ Forms cs d ∧ Blank after ∧
    text.toList = before ++ (cs ++ after)

/-! ### The documents of values -/

theorem Literal.encloses_some_iff {cs : List Char} {s : String} :
    Encloses cs (some s) ↔ Quoted cs s := by
  constructor
  · rintro ⟨body, rfl, -, hs⟩
    exact ⟨body, (hs s).mp rfl, rfl⟩
  · rintro ⟨body, hbody, rfl⟩
    refine ⟨body, rfl, hbody.shaped, fun t => ⟨?_, fun ht => ?_⟩⟩
    · rintro ⟨⟩
      exact hbody
    · rw [String.toList_injective (hbody.unique ht)]

theorem Reader.names_some_iff {cs : List Char} {k : String} : Names cs (some k) ↔ Labels cs k := by
  rw [Names, Labels]
  simp only [Literal.encloses_some_iff]

mutual

theorem forms_of_writes : {cs : List Char} → {v : Json} → Writes cs v → Forms cs (.ofJson v)
  | _, _, .null => .null
  | _, _, .bool b => .bool b
  | _, _, .number (x := x) hcs hx => by
    have hforms := Forms.number hcs
    rw [hx] at hforms
    exact hforms
  | _, _, .string hcs => .string (Literal.encloses_some_iff.mpr hcs)
  | _, _, .noItems hgap => .noItems hgap
  | _, _, .array hgap hcs => .array hgap (formsItems_of_writes hcs)
  | _, _, .noMembers hgap => .noMembers hgap
  | _, _, .object hgap hcs => .object hgap (formsMembers_of_writes hcs)

theorem formsItems_of_writes : {cs : List Char} → {vs : List Json} → WritesItems cs vs →
    FormsItems cs (Document.ofItems vs)
  | _, _, .last hv hgap => .last (forms_of_writes hv) hgap
  | _, _, .more hv hgap hnext hvs =>
    .more (forms_of_writes hv) hgap hnext (formsItems_of_writes hvs)

theorem formsMembers_of_writes : {cs : List Char} → {ms : List (String × Json)} →
    WritesMembers cs ms → FormsMembers cs (Document.ofMembers ms)
  | _, _, .last hk hv hgap => .last (Reader.names_some_iff.mpr hk) (forms_of_writes hv) hgap
  | _, _, .more hk hv hgap hnext hms =>
    .more (Reader.names_some_iff.mpr hk) (forms_of_writes hv) hgap hnext
      (formsMembers_of_writes hms)

end

mutual

theorem writes_of_forms : (v : Json) → {cs : List Char} → Forms cs (.ofJson v) → Writes cs v
  | .null, _, .null => .null
  | .bool b, _, .bool _ => .bool b
  | .number x, cs, h => by
    rw [Document.ofJson] at h
    generalize hn : some x = n at h
    cases h with
    | number hcs => exact .number hcs (toOption_eq_some_iff.mp hn.symm)
  | .string s, _, .string hcs => .string (Literal.encloses_some_iff.mp hcs)
  | .array vs, cs, h => by
    rw [Document.ofJson] at h
    generalize hds : Document.ofItems vs = ds at h
    cases h with
    | noItems hgap =>
      cases vs with
      | nil => exact .noItems hgap
      | cons v vs => exact absurd hds (List.cons_ne_nil _ _)
    | array hgap hcs => exact .array hgap (writesItems_of_forms vs (hds ▸ hcs))
  | .object ms, cs, h => by
    rw [Document.ofJson] at h
    generalize hds : Document.ofMembers ms = ds at h
    cases h with
    | noMembers hgap =>
      cases ms with
      | nil => exact .noMembers hgap
      | cons m ms => exact absurd hds (List.cons_ne_nil _ _)
    | object hgap hcs => exact .object hgap (writesMembers_of_forms ms (hds ▸ hcs))

theorem writesItems_of_forms : (vs : List Json) → {cs : List Char} →
    FormsItems cs (Document.ofItems vs) → WritesItems cs vs
  | [], _, h => nomatch h
  | v :: vs, _, h => by
    rw [Document.ofItems] at h
    generalize hds : Document.ofItems vs = ds at h
    cases h with
    | last hd hgap =>
      cases vs with
      | nil => exact .last (writes_of_forms v hd) hgap
      | cons w vs => exact absurd hds (List.cons_ne_nil _ _)
    | more hd hgap hnext hds' =>
      exact .more (writes_of_forms v hd) hgap hnext (writesItems_of_forms vs (hds ▸ hds'))

theorem writesMembers_of_forms : (ms : List (String × Json)) → {cs : List Char} →
    FormsMembers cs (Document.ofMembers ms) → WritesMembers cs ms
  | [], _, h => nomatch h
  | (k, v) :: ms, _, h => by
    rw [Document.ofMembers] at h
    generalize hds : Document.ofMembers ms = ds at h
    cases h with
    | last hk hd hgap =>
      cases ms with
      | nil => exact .last (Reader.names_some_iff.mp hk) (writes_of_forms v hd) hgap
      | cons m ms => exact absurd hds (List.cons_ne_nil _ _)
    | more hk hd hgap hnext hms =>
      exact .more (Reader.names_some_iff.mp hk) (writes_of_forms v hd) hgap hnext
        (writesMembers_of_forms ms (hds ▸ hms))

end

/-- The document of a value is said by the texts of the value. -/
theorem isDocument_ofJson_iff {text : String} {v : Json} :
    IsDocument text (.ofJson v) ↔ IsText text v := by
  constructor
  · rintro ⟨before, cs, after, hbefore, hcs, hafter, htext⟩
    exact ⟨before, cs, after, hbefore, writes_of_forms v hcs, hafter, htext⟩
  · rintro ⟨before, cs, after, hbefore, hcs, hafter, htext⟩
    exact ⟨before, cs, after, hbefore, forms_of_writes hcs, hafter, htext⟩

namespace Reader

/-! ## How texts begin and end -/

/-- A character that may begin a value's text: no blank, and no bracket that ends a list. -/
def begins (c : Char) : Bool := !Cursor.isSpace c && c ≠ ']'

theorem isDigit_ne {c x : Char} (h : c.isDigit = true) (hx : x.isDigit = false) : c ≠ x := by
  rintro rfl
  rw [hx] at h
  exact absurd h (by decide)

theorem begins_of_isDigit {c : Char} (h : c.isDigit = true) : begins c = true := by
  simp [begins, Cursor.isSpace, isDigit_ne h (x := ' ') rfl, isDigit_ne h (x := '\n') rfl,
    isDigit_ne h (x := '\t') rfl, isDigit_ne h (x := '\r') rfl, isDigit_ne h (x := ']') rfl]

theorem isSpace_of_begins {c : Char} (h : begins c = true) : Cursor.isSpace c = false := by
  simp only [begins, Bool.and_eq_true, Bool.not_eq_true'] at h
  exact h.1

theorem ne_bracket_of_begins {c : Char} (h : begins c = true) : c ≠ ']' := by
  rintro rfl
  exact absurd h (by decide)

theorem skipSpace_of_blank {cs : List Char} (hcs : Blank cs) {c : Char}
    (hc : Cursor.isSpace c = false) (rest : List Char) (place : Place) :
    Cursor.skipSpace ⟨cs ++ c :: rest, place⟩ = ⟨c :: rest, place.passAll cs⟩ :=
  Cursor.skipWhile_append hcs (Text.stopsAt_cons.mpr hc) place

theorem continues_of_isSpace {c : Char} (h : Cursor.isSpace c = true) :
    Numeral.continues c = false := by
  simp only [Cursor.isSpace, Bool.or_eq_true, decide_eq_true_eq] at h
  rcases h with ((rfl | rfl) | rfl) | rfl <;> decide

/-- Neither a blank nor what stands behind blanks goes on with a number. -/
theorem stopsAt_gap {cs : List Char} (hcs : Blank cs) {c : Char}
    (hc : Numeral.continues c = false) (rest : List Char) :
    Text.StopsAt Numeral.continues (cs ++ c :: rest) := by
  cases cs with
  | nil => exact Text.stopsAt_cons.mpr hc
  | cons x cs => exact Text.stopsAt_cons.mpr (continues_of_isSpace (hcs x List.mem_cons_self))

theorem head_of_forms {cs : List Char} {d : Document} (h : Forms cs d) :
    ∃ c rest, cs = c :: rest ∧ begins c = true := by
  cases h with
  | null => exact ⟨_, _, rfl, by decide⟩
  | bool b => cases b <;> exact ⟨_, _, rfl, by decide⟩
  | @number cs n hcs =>
    split
    · exact ⟨'-', cs, rfl, by decide⟩
    · cases hcs with
      | @parts negative whole fraction power f p hwhole =>
        obtain ⟨d, ds, rfl⟩ := List.exists_cons_of_ne_nil hwhole.1.1
        exact ⟨d, _, rfl, begins_of_isDigit (hwhole.1.2 d List.mem_cons_self)⟩
  | string hcs =>
    obtain ⟨body, rfl, -⟩ := hcs
    exact ⟨_, _, rfl, by decide⟩
  | noItems _ | array _ _ | noMembers _ | object _ _ => exact ⟨_, _, rfl, by decide⟩

theorem head_of_writes {cs : List Char} {v : Json} (h : Writes cs v) :
    ∃ c rest, cs = c :: rest ∧ begins c = true :=
  head_of_forms (forms_of_writes h)

theorem head_of_formsItems {cs : List Char} {ds : List Document} (h : FormsItems cs ds) :
    ∃ c rest, cs = c :: rest ∧ begins c = true := by
  have happend : ∀ {d : Document} {text : List Char} (more : List Char), Forms text d →
      ∃ c rest, text ++ more = c :: rest ∧ begins c = true := by
    intro d text more hd
    obtain ⟨c, rest, rfl, hc⟩ := head_of_forms hd
    exact ⟨c, rest ++ more, rfl, hc⟩
  cases h with
  | last hd _ => exact happend _ hd
  | more hd _ _ _ => exact happend _ hd

theorem head_of_names {cs : List Char} {k : Option String} (h : Names cs k) :
    ∃ rest, cs = '"' :: rest := by
  obtain ⟨quoted, gap, space, ⟨body, rfl, -⟩, -, -, rfl⟩ := h
  exact ⟨_, rfl⟩

theorem head_of_formsMembers {cs : List Char} {ms : List (Option String × Document)}
    (h : FormsMembers cs ms) : ∃ rest, cs = '"' :: rest := by
  cases h with
  | last hk _ _ | more hk _ _ _ _ =>
    obtain ⟨rest, rfl⟩ := head_of_names hk
    exact ⟨_, rfl⟩

end Reader

end Json
end SdkShelf
