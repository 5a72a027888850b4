import Mathlib.Data.List.Infix
import SdkShelf.Call.Path

/-!
# Placeholders

Placeholders are filled in by one pass over the template of a path.  Where every opening brace is
closed before the next one opens, that is the same as replacing the placeholder of each declared
parameter by its value everywhere, one parameter after another, whatever their order.

Such a template is a row of pieces: text without an opening brace, and placeholders.  Both ways to
fill it in settle the pieces one by one; a placeholder that is settled becomes text and is never
taken for another one.
-/

namespace SdkShelf
namespace Call

def firstBrace? (cs : List Char) : Option Char :=
  cs.find? fun c => c == '\x7b' || c == '\x7d'

/-- Each opening brace is followed by a closing one before any other opens. -/
def Closed : List Char → Prop
  | [] => True
  | c :: rest => (c = '\x7b' → firstBrace? rest = some '\x7d') ∧ Closed rest

instance instDecidableClosed : (cs : List Char) → Decidable (Closed cs)
  | [] => .isTrue trivial
  | c :: rest =>
    have := instDecidableClosed rest
    inferInstanceAs (Decidable ((c = '\x7b' → firstBrace? rest = some '\x7d') ∧ Closed rest))

/-! ## Replacing one text by another -/

/-- Replaces every occurrence of a text, from left to right. The number says how many characters
still belong to the occurrence before. -/
def replaceFrom (text value : List Char) : Nat → List Char → List Char
  | _, [] => []
  | skip + 1, _ :: rest => replaceFrom text value skip rest
  | 0, c :: rest =>
    if text.isPrefixOf (c :: rest) then value ++ replaceFrom text value (text.length - 1) rest
    else c :: replaceFrom text value 0 rest

def placeholder (name : String) : List Char :=
  '\x7b' :: (name.toList ++ ['\x7d'])

/-- The value that stands for a placeholder. An empty one is none. -/
def supplied? (value? : String → Option String) (name : String) : Option String :=
  (value? name).filter fun v => !v.isEmpty

def substitute (value? : String → Option String) (template name : String) : String :=
  match supplied? value? name with
  | some value => String.ofList (replaceFrom (placeholder name) value.toList 0 template.toList)
  | none => template

section

variable {text value cs rest : List Char}

theorem replaceFrom_skip (skipped : List Char) :
    replaceFrom text value skipped.length (skipped ++ rest) = replaceFrom text value 0 rest := by
  induction skipped with
  | nil => rfl
  | cons c skipped ih =>
    rw [List.length_cons, List.cons_append, replaceFrom]
    exact ih

theorem replaceFrom_occurrence (h : text ≠ []) :
    replaceFrom text value 0 (text ++ rest) = value ++ replaceFrom text value 0 rest := by
  cases text with
  | nil => exact absurd rfl h
  | cons c tail =>
    have hbegun : (c :: tail).isPrefixOf (c :: (tail ++ rest)) = true :=
      List.isPrefixOf_iff_prefix.mpr (List.prefix_append (c :: tail) rest)
    rw [List.cons_append, replaceFrom, if_pos hbegun, List.length_cons, Nat.add_sub_cancel,
      replaceFrom_skip]

theorem replaceFrom_of_not_begun {c : Char} (h : ¬ text <+: c :: rest) :
    replaceFrom text value 0 (c :: rest) = c :: replaceFrom text value 0 rest := by
  have hbegun : ¬ text.isPrefixOf (c :: rest) = true :=
    fun hp => h (List.isPrefixOf_iff_prefix.mp hp)
  rw [replaceFrom, if_neg hbegun]

theorem replaceFrom_placeholder_append (name : String) (h : '\x7b' ∉ cs) :
    replaceFrom (placeholder name) value 0 (cs ++ rest) =
      cs ++ replaceFrom (placeholder name) value 0 rest := by
  induction cs with
  | nil => rfl
  | cons c cs ih =>
    obtain ⟨hc, hcs⟩ := List.ne_and_not_mem_of_not_mem_cons h
    have hbegun : ¬ placeholder name <+: c :: (cs ++ rest) :=
      fun hp => hc (List.cons_prefix_cons.mp hp).1
    rw [List.cons_append, replaceFrom_of_not_begun hbegun, ih hcs]
    rfl

/-- A name ends where the first closing brace is. -/
theorem eq_of_closed {name other : List Char} (hname : '\x7d' ∉ name)
    (hother : '\x7d' ∉ other) (h : name ++ ['\x7d'] <+: other ++ '\x7d' :: rest) : name = other := by
  induction name generalizing other with
  | nil =>
    cases other with
    | nil => rfl
    | cons c other =>
      have hc := (List.cons_prefix_cons.mp h).1
      exact absurd (hc ▸ List.mem_cons_self) hother
  | cons c name ih =>
    cases other with
    | nil =>
      have hc := (List.cons_prefix_cons.mp h).1
      exact absurd (hc ▸ List.mem_cons_self) hname
    | cons d other =>
      obtain ⟨hc, htail⟩ := List.cons_prefix_cons.mp h
      have hname' := (List.ne_and_not_mem_of_not_mem_cons hname).2
      have hother' := (List.ne_and_not_mem_of_not_mem_cons hother).2
      rw [hc, ih hname' hother' htail]

end

/-! ## Pieces of a template -/

inductive Piece where
  | text (chars : List Char)
  | slot (name : String)

namespace Piece

def chars : Piece → List Char
  | .text cs => cs
  | .slot name => placeholder name

/-- Nothing else begins in a piece. -/
def Plain : Piece → Prop
  | .text cs => '\x7b' ∉ cs
  | .slot name => '\x7b' ∉ name.toList ∧ '\x7d' ∉ name.toList

/-- A placeholder becomes its value if there is one. -/
def settle (value? : String → Option String) : Piece → Piece
  | .text cs => .text cs
  | .slot name =>
    match value? name with
    | some value => .text value.toList
    | none => .slot name

end Piece

def render (ps : List Piece) : List Char :=
  ps.flatMap Piece.chars

section

variable {value? other? : String → Option String} {ps : List Piece} {p : Piece}

@[simp] theorem render_nil : render [] = [] := rfl

@[simp] theorem render_cons : render (p :: ps) = p.chars ++ render ps := rfl

theorem exists_pieces_aux (cs : List Char) (hclosed : Closed cs) :
    (∃ ps, (∀ p ∈ ps, p.Plain) ∧ render ps = cs) ∧
    (firstBrace? cs = some '\x7d' → ∃ name ps, (∀ p ∈ Piece.slot name :: ps, p.Plain) ∧
      name.toList ++ '\x7d' :: render ps = cs) := by
  -- A text is cut into pieces from outside a placeholder and from within one; each way of reading
  -- it leads to the other, so both are shown at once.
  induction cs with
  | nil => exact ⟨⟨[], by simp, rfl⟩, fun h => by cases h⟩
  | cons c rest ih =>
    obtain ⟨hopen, hrest⟩ := hclosed
    obtain ⟨houtside, hinside⟩ := ih hrest
    constructor
    · by_cases hc : c = '\x7b'
      · obtain ⟨name, ps, hplain, heq⟩ := hinside (hopen hc)
        refine ⟨.slot name :: ps, hplain, ?_⟩
        rw [render_cons, Piece.chars, placeholder, hc, ← heq, List.cons_append, List.append_assoc]
        rfl
      · obtain ⟨ps, hplain, heq⟩ := houtside
        refine ⟨.text [c] :: ps, ?_, ?_⟩
        · rw [List.forall_mem_cons]
          exact ⟨fun hmem => hc (List.mem_singleton.mp hmem).symm, hplain⟩
        · rw [render_cons, heq]
          rfl
    · intro hfirst
      by_cases hc : c = '\x7d'
      · obtain ⟨ps, hplain, heq⟩ := houtside
        refine ⟨"", ps, ?_, by rw [heq, hc]; rfl⟩
        rw [List.forall_mem_cons]
        exact ⟨by simp [Piece.Plain], hplain⟩
      · have hc' : c ≠ '\x7b' := by
          intro hc'
          rw [firstBrace?, hc', List.find?_cons_of_pos rfl] at hfirst
          exact absurd (Option.some.inj hfirst) (by decide)
        have hrest' : firstBrace? rest = some '\x7d' := by
          rw [← hfirst, firstBrace?, firstBrace?, List.find?_cons_of_neg]
          simp [hc, hc']
        obtain ⟨name, ps, hplain, heq⟩ := hinside hrest'
        obtain ⟨⟨hopens, hcloses⟩, hps⟩ := List.forall_mem_cons.mp hplain
        refine ⟨String.ofList (c :: name.toList), ps, ?_, ?_⟩
        · rw [List.forall_mem_cons, Piece.Plain, String.toList_ofList]
          exact ⟨⟨List.not_mem_cons_of_ne_of_not_mem hc'.symm hopens,
            List.not_mem_cons_of_ne_of_not_mem (Ne.symm hc) hcloses⟩, hps⟩
        · rw [String.toList_ofList, List.cons_append, heq]

theorem exists_pieces {cs : List Char} (h : Closed cs) :
    ∃ ps, (∀ p ∈ ps, p.Plain) ∧ render ps = cs :=
  (exists_pieces_aux cs h).1

/-- Whatever settles a plain piece and goes on settles the whole row. -/
theorem scan_render {scan : List Char → List Char} (hnil : scan [] = [])
    (hpiece : ∀ p rest, Piece.Plain p →
      scan (p.chars ++ rest) = (p.settle value?).chars ++ scan rest)
    (h : ∀ p ∈ ps, p.Plain) : scan (render ps) = render (ps.map (Piece.settle value?)) := by
  induction ps with
  | nil => exact hnil
  | cons p ps ih =>
    obtain ⟨hp, hps⟩ := List.forall_mem_cons.mp h
    rw [render_cons, hpiece p _ hp, ih hps, List.map_cons, render_cons]

/-! ## One pass -/

theorem fill_text {cs rest : List Char} (h : '\x7b' ∉ cs) :
    fill value? none (cs ++ rest) = cs ++ fill value? none rest := by
  induction cs with
  | nil => rfl
  | cons c cs ih =>
    obtain ⟨hc, hcs⟩ := List.ne_and_not_mem_of_not_mem_cons h
    rw [List.cons_append, fill, if_neg (Ne.symm hc), ih hcs]
    rfl

theorem fill_name {name rest : List Char} (opened : List Char) (h : '\x7d' ∉ name) :
    fill value? (some opened) (name ++ rest) =
      fill value? (some (name.reverse ++ opened)) rest := by
  induction name generalizing opened with
  | nil => rfl
  | cons c name ih =>
    obtain ⟨hc, hname⟩ := List.ne_and_not_mem_of_not_mem_cons h
    rw [List.cons_append, fill, if_neg (Ne.symm hc), ih (c :: opened) hname, List.reverse_cons,
      List.append_assoc]
    rfl

theorem fill_slot {name : String} {rest : List Char} (h : '\x7d' ∉ name.toList) :
    fill value? none (placeholder name ++ rest) =
      ((Piece.slot name).settle value?).chars ++ fill value? none rest := by
  rw [placeholder, List.cons_append, fill, if_pos rfl, List.append_assoc, fill_name [] h,
    List.append_nil, List.singleton_append, fill, if_pos rfl, List.reverse_reverse,
    String.ofList_toList, Piece.settle]
  cases value? name <;> rfl

theorem fill_piece (rest : List Char) (h : p.Plain) :
    fill value? none (p.chars ++ rest) = (p.settle value?).chars ++ fill value? none rest := by
  cases p with
  | text cs => exact fill_text h
  | slot name => exact fill_slot h.2

theorem fill_render (h : ∀ p ∈ ps, p.Plain) :
    fill value? none (render ps) = render (ps.map (Piece.settle value?)) :=
  scan_render rfl (fun _ rest hp => fill_piece rest hp) h

/-! ## One parameter after another -/

def only (value? : String → Option String) (name other : String) : Option String :=
  if other = name then value? other else none

theorem replaceFrom_piece {name value : String} (hvalue : value? name = some value)
    (hname : '\x7d' ∉ name.toList) (rest : List Char) (h : p.Plain) :
    replaceFrom (placeholder name) value.toList 0 (p.chars ++ rest) =
      (p.settle (only value? name)).chars ++
        replaceFrom (placeholder name) value.toList 0 rest := by
  cases p with
  | text cs => exact replaceFrom_placeholder_append name h
  | slot other =>
    by_cases hother : other = name
    · rw [Piece.settle, only, if_pos hother, hother, hvalue]
      exact replaceFrom_occurrence (List.cons_ne_nil _ _)
    · rw [Piece.settle, only, if_neg hother]
      -- The occurrence would have the other name, and behind the brace no placeholder begins.
      have hbegun : ¬ placeholder name <+: '\x7b' :: (other.toList ++ ['\x7d'] ++ rest) := by
        intro hp
        have hnames := (List.cons_prefix_cons.mp hp).2
        rw [List.append_assoc] at hnames
        exact hother (String.toList_inj.mp (eq_of_closed hname h.2 hnames)).symm
      have hcopied : '\x7b' ∉ other.toList ++ ['\x7d'] := by
        intro hmem
        rcases List.mem_append.mp hmem with hmem | hmem
        · exact h.1 hmem
        · exact absurd (List.mem_singleton.mp hmem) (by decide)
      show replaceFrom _ _ 0 ('\x7b' :: (other.toList ++ ['\x7d'] ++ rest)) = _
      rw [replaceFrom_of_not_begun hbegun, replaceFrom_placeholder_append name hcopied]
      rfl

theorem replaceFrom_render {name value : String} (hvalue : value? name = some value)
    (hname : '\x7d' ∉ name.toList) (h : ∀ p ∈ ps, p.Plain) :
    replaceFrom (placeholder name) value.toList 0 (render ps) =
      render (ps.map (Piece.settle (only value? name))) :=
  scan_render rfl (fun _ rest hp => replaceFrom_piece hvalue hname rest hp) h

theorem map_settle_none (h : ∀ name, value? name = none) : ps.map (Piece.settle value?) = ps := by
  have hsettle : ∀ p ∈ ps, p.settle value? = p := by
    intro p _
    cases p with
    | text cs => rfl
    | slot name => rw [Piece.settle, h name]
  rw [List.map_congr_left hsettle, List.map_id']

theorem settle_settle : (p.settle value?).settle other? =
    p.settle fun name => (value? name).or (other? name) := by
  cases p with
  | text cs => rfl
  | slot name =>
    rw [Piece.settle, Piece.settle]
    cases value? name <;> rfl

/-- A value without an opening brace is never taken for a placeholder. -/
theorem plain_settle (hvalue : ∀ name value, value? name = some value → '\x7b' ∉ value.toList)
    (h : p.Plain) : (p.settle value?).Plain := by
  cases p with
  | text cs => exact h
  | slot name =>
    rw [Piece.settle]
    cases hget : value? name with
    | none => exact h
    | some value => exact hvalue name value hget

theorem toList_substitute {template name : String} (hname : '\x7d' ∉ name.toList)
    (h : ∀ p ∈ ps, p.Plain) (htemplate : template.toList = render ps) :
    (substitute value? template name).toList =
      render (ps.map (Piece.settle (only (supplied? value?) name))) := by
  rw [substitute]
  cases hvalue : supplied? value? name with
  | some value =>
    show (String.ofList _).toList = _
    rw [String.toList_ofList, htemplate, replaceFrom_render hvalue hname h]
  | none =>
    have hnone : ∀ other, only (supplied? value?) name other = none := by
      intro other
      by_cases hother : other = name
      · rw [only, if_pos hother, hother, hvalue]
      · rw [only, if_neg hother]
    rw [map_settle_none hnone]
    exact htemplate

def among (value? : String → Option String) (names : List String) (name : String) :
    Option String :=
  if names.contains name then value? name else none

theorem only_or_among (name : String) (names : List String) :
    (fun other => (only value? name other).or (among value? names other)) =
      among value? (name :: names) := by
  funext other
  rw [only, among, among, List.contains_cons]
  by_cases hother : other = name
  · rw [if_pos hother, beq_iff_eq.mpr hother, Bool.true_or, if_pos rfl]
    cases hget : value? other with
    | some value => rfl
    | none => rw [ite_self, Option.none_or]
  · rw [if_neg hother, beq_eq_false_iff_ne.mpr hother, Bool.false_or, Option.none_or]

theorem toList_foldl_substitute {template : String} {order : List String}
    (hnames : ∀ name ∈ order, '\x7d' ∉ name.toList)
    (hvalues : ∀ name value, supplied? value? name = some value → '\x7b' ∉ value.toList)
    (h : ∀ p ∈ ps, p.Plain) (htemplate : template.toList = render ps) :
    (order.foldl (substitute value?) template).toList =
      render (ps.map (Piece.settle (among (supplied? value?) order))) := by
  -- Each parameter finds a row of plain pieces and leaves one, since no value opens a brace.
  induction order generalizing template ps with
  | nil =>
    have hnone : ∀ name, among (supplied? value?) [] name = none := fun _ => rfl
    rw [map_settle_none hnone]
    exact htemplate
  | cons name order ih =>
    obtain ⟨hname, horder⟩ := List.forall_mem_cons.mp hnames
    have hplain : ∀ p ∈ ps.map (Piece.settle (only (supplied? value?) name)), p.Plain := by
      intro p hp
      obtain ⟨q, hq, hpq⟩ := List.mem_map.mp hp
      rw [← hpq]
      refine plain_settle (fun other value hother => ?_) (h q hq)
      by_cases hsame : other = name
      · rw [only, if_pos hsame] at hother
        exact hvalues other value hother
      · rw [only, if_neg hsame] at hother
        cases hother
    rw [List.foldl_cons, ih horder hplain (toList_substitute hname h htemplate), List.map_map,
      ← only_or_among]
    congr 1
    apply List.map_congr_left
    intro p _
    exact settle_settle

theorem resolvePath_eq (template : String) (declared : List String) :
    resolvePath template declared value? =
      String.ofList (fill (among (supplied? value?) declared) none template.toList) := rfl

theorem supplied?_eq_some {name value : String} (h : supplied? value? name = some value) :
    value? name = some value :=
  (Option.filter_eq_some_iff.mp h).1

end

/-- One pass over a template does what replacing the parameters one by one does, in any order and
however often each of them is declared. -/
theorem foldl_substitute_eq_resolvePath {template : String} {declared order : List String}
    {value? : String → Option String} (hclosed : Closed template.toList)
    (hnames : ∀ name ∈ declared, '\x7d' ∉ name.toList)
    (hvalues : ∀ name value, value? name = some value → '\x7b' ∉ value.toList)
    (horder : ∀ name, name ∈ order ↔ name ∈ declared) :
    order.foldl (substitute value?) template = resolvePath template declared value? ∧
    resolvePath template order value? = resolvePath template declared value? := by
  obtain ⟨ps, hplain, hrender⟩ := exists_pieces hclosed
  have hsupplied : ∀ name value, supplied? value? name = some value → '\x7b' ∉ value.toList :=
    fun name value h => hvalues name value (supplied?_eq_some h)
  have hmembers : among (supplied? value?) order = among (supplied? value?) declared := by
    funext name
    have hcontains : order.contains name = declared.contains name := by
      rw [Bool.eq_iff_iff, List.contains_iff_mem, List.contains_iff_mem]
      exact horder name
    rw [among, among, hcontains]
  constructor
  · apply String.toList_inj.mp
    rw [toList_foldl_substitute (fun name h => hnames name ((horder name).mp h)) hsupplied hplain
      hrender.symm, hmembers, resolvePath_eq, String.toList_ofList, ← hrender, fill_render hplain]
  · rw [resolvePath_eq, resolvePath_eq, hmembers]

/-- Two placeholders of one name, one without a value, and a parameter declared twice. -/
theorem foldl_substitute_of_pets :
    let template := "/pets/\x7bid\x7d/photos/\x7bphoto\x7d/of/\x7bid\x7d"
    let value? := fun name => if name = "id" then some "42" else none
    Closed template.toList ∧
    ["photo", "id", "photo"].foldl (substitute value?) template =
      resolvePath template ["id", "photo"] value? ∧
    resolvePath template ["photo", "id", "photo"] value? =
      resolvePath template ["id", "photo"] value? := by
  intro template value?
  have hclosed : Closed template.toList := by decide +kernel
  refine ⟨hclosed, foldl_substitute_eq_resolvePath hclosed ?_ ?_ ?_⟩
  · decide +kernel
  · intro name value hvalue
    by_cases hname : name = "id"
    · simp only [value?, if_pos hname, Option.some.injEq] at hvalue
      rw [← hvalue]
      decide +kernel
    · simp only [value?, if_neg hname] at hvalue
      cases hvalue
  · intro name
    simp only [List.mem_cons, List.not_mem_nil, or_false]
    tauto

/-- A brace that is not closed before the next one hides the placeholder behind it. -/
example :
    let value? := fun name => if name = "id" then some "42" else none
    resolvePath "\x7b\x7bid\x7d" ["id"] value? = "\x7b\x7bid\x7d" ∧
      substitute value? "\x7b\x7bid\x7d" "id" = "\x7b42" := by
  decide +kernel

end Call
end SdkShelf
