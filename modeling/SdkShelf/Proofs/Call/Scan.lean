import SdkShelf.Proofs.Call.Path

/-!
# One pass over any template

A template may have braces anywhere: nested, closed too often or not at all.  The pass holds back
what it has read since an opening brace, and writes it or its value at the next closing one.  So
nothing is lost, what was written is never read again, and the pass starts afresh wherever no brace
is open.

An opening brace that is not closed takes what follows for a part of its name.  That is how a
placeholder that has a value can come through unfilled, and the only way.
-/

namespace SdkShelf
namespace Call

/-- What the pass has read and not written. -/
def held : Option (List Char) → List Char
  | none => []
  | some opened => '\x7b' :: opened.reverse

/-- The last opening brace, if there is one, is followed by a closing one. -/
def LastClosed (cs : List Char) : Prop :=
  ∀ before after, cs = before ++ '\x7b' :: after → '\x7b' ∉ after → '\x7d' ∈ after

/-- The placeholder stands behind an opening brace that is not closed in front of it. -/
def Shadowed (name : String) (cs : List Char) : Prop :=
  ∃ before between after, cs = before ++ '\x7b' :: (between ++ (placeholder name ++ after)) ∧
    '\x7d' ∉ between

section

variable {value? : String → Option String} {opened : Option (List Char)} {c : Char}
  {cs rest : List Char}

/-! ## Nothing is lost -/

theorem fill_of_none (h : ∀ name, value? name = none) (opened : Option (List Char))
    (cs : List Char) : fill value? opened cs = held opened ++ cs := by
  induction cs generalizing opened with
  | nil =>
    cases opened with
    | none => rfl
    | some name => rw [fill, List.append_nil]; rfl
  | cons c rest ih =>
    cases opened with
    | none =>
      rw [fill]
      by_cases hc : c = '\x7b'
      · rw [if_pos hc, ih, hc]
        rfl
      · rw [if_neg hc, ih]
        rfl
    | some name =>
      rw [fill]
      by_cases hc : c = '\x7d'
      · rw [if_pos hc, ih, h, hc]
        simp [held]
      · rw [if_neg hc, ih]
        simp [held]

/-! ## Where no brace is open -/

theorem LastClosed.tail (h : LastClosed (c :: cs)) : LastClosed cs := by
  intro before after hcs
  apply h (c :: before) after
  rw [hcs]
  rfl

theorem LastClosed.mem (h : LastClosed cs) (hopen : '\x7b' ∈ cs) : '\x7d' ∈ cs := by
  induction cs with
  | nil => exact absurd hopen List.not_mem_nil
  | cons c rest ih =>
    apply List.mem_cons_of_mem
    by_cases hrest : '\x7b' ∈ rest
    · exact ih h.tail hrest
    · have hc : c = '\x7b' := by
        rcases List.mem_cons.mp hopen with hc | hmem
        · exact hc.symm
        · exact absurd hmem hrest
      exact h [] rest (by rw [hc]; rfl) hrest

theorem LastClosed.mem_of_opened (h : LastClosed ('\x7b' :: cs)) : '\x7d' ∈ cs := by
  by_cases hcs : '\x7b' ∈ cs
  · exact h.tail.mem hcs
  · exact h [] cs rfl hcs

/-- Behind a part that leaves no brace open, the pass goes on as from the start. -/
theorem fill_append (hclosed : LastClosed cs) (hopened : opened ≠ none → '\x7d' ∈ cs) :
    fill value? opened (cs ++ rest) = fill value? opened cs ++ fill value? none rest := by
  induction cs generalizing opened with
  | nil =>
    cases opened with
    | none => rfl
    | some name => exact absurd (hopened (by simp)) List.not_mem_nil
  | cons c cs ih =>
    rw [List.cons_append]
    cases opened with
    | none =>
      rw [fill, fill]
      by_cases hc : c = '\x7b'
      · rw [if_pos hc, if_pos hc]
        subst hc
        exact ih hclosed.tail fun _ => hclosed.mem_of_opened
      · rw [if_neg hc, if_neg hc, ih hclosed.tail fun h => absurd rfl h]
        rfl
    | some name =>
      rw [fill, fill]
      by_cases hc : c = '\x7d'
      · rw [if_pos hc, if_pos hc, ih hclosed.tail fun h => absurd rfl h, List.append_assoc]
      · have hmem : '\x7d' ∈ cs := by
          rcases List.mem_cons.mp (hopened (by simp)) with h | h
          · exact absurd h.symm hc
          · exact h
        rw [if_neg hc, if_neg hc]
        exact ih hclosed.tail fun _ => hmem

theorem among_of_not_mem {names : List String} {name : String} (h : name ∉ names) :
    among value? names name = none := by
  rw [among, if_neg]
  intro hcontains
  exact h (List.contains_iff_mem.mp hcontains)

theorem among_of_mem {names : List String} {name : String} (h : name ∈ names) :
    among value? names name = value? name := by
  rw [among, if_pos (List.contains_iff_mem.mpr h)]

end

/-- A template is filled in part by part, cut wherever no brace is open; a filled placeholder is
its value, whatever braces that has; and without values the template stays as it is. -/
theorem resolvePath_scans_once (declared : List String) (value? : String → Option String) :
    (∀ first second : String, LastClosed first.toList →
      resolvePath (first ++ second) declared value? =
        resolvePath first declared value? ++ resolvePath second declared value?) ∧
    (∀ name value : String, '\x7d' ∉ name.toList → name ∈ declared →
      supplied? value? name = some value → ∀ second : String,
        resolvePath (String.ofList (placeholder name) ++ second) declared value? =
          value ++ resolvePath second declared value?) ∧
    ((∀ name ∈ declared, supplied? value? name = none) →
      ∀ template : String, resolvePath template declared value? = template) := by
  refine ⟨fun first second hclosed => ?_, fun name value hname hdeclared hvalue second => ?_,
    fun hnone template => ?_⟩
  · rw [resolvePath_eq, resolvePath_eq, resolvePath_eq, String.toList_append,
      fill_append hclosed fun h => absurd rfl h, String.ofList_append]
  · have hsettle : ((Piece.slot name).settle (among (supplied? value?) declared)).chars =
        value.toList := by
      rw [Piece.settle, among_of_mem hdeclared, hvalue]
      rfl
    rw [resolvePath_eq, resolvePath_eq, String.toList_append, String.toList_ofList, fill_slot hname,
      hsettle, String.ofList_append, String.ofList_toList]
  · have hamong : ∀ name, among (supplied? value?) declared name = none := by
      intro name
      by_cases hdeclared : name ∈ declared
      · rw [among_of_mem hdeclared, hnone name hdeclared]
      · exact among_of_not_mem hdeclared
    rw [resolvePath_eq, fill_of_none hamong]
    exact String.ofList_toList

/-- A value that looks like a placeholder is not filled in. -/
example :
    let value? := fun name => if name = "pet" then some "\x7bphoto\x7d" else some "9"
    resolvePath "/pets/\x7bpet\x7d/photos/\x7bphoto\x7d" ["pet", "photo"] value? =
      "/pets/\x7bphoto\x7d/photos/9" := by
  decide +kernel

/-! ## What comes through unfilled -/

section

variable {value? : String → Option String} {opened : Option (List Char)} {name : String}
  {cs rest : List Char}

theorem Shadowed.append_left (before : List Char) (h : Shadowed name cs) :
    Shadowed name (before ++ cs) := by
  obtain ⟨front, between, after, hcs, hbetween⟩ := h
  refine ⟨before ++ front, between, after, ?_, hbetween⟩
  rw [hcs, List.append_assoc]

theorem infix_of_not_mem (hcs : '\x7b' ∉ cs) (h : placeholder name <:+: cs ++ rest) :
    placeholder name <:+: rest := by
  induction cs with
  | nil => exact h
  | cons c cs ih =>
    obtain ⟨hc, hcs⟩ := List.ne_and_not_mem_of_not_mem_cons hcs
    rcases List.infix_cons_iff.mp h with hbegun | hlater
    · exact absurd (List.cons_prefix_cons.mp hbegun).1 hc
    · exact ih hcs hlater

/-- A placeholder that begins in front of a closing brace ends at it. -/
theorem ends_or_infix (hname : '\x7d' ∉ name.toList) (hcs : '\x7d' ∉ cs)
    (h : placeholder name <:+: cs ++ '\x7d' :: rest) :
    (∃ before, cs = before ++ '\x7b' :: name.toList) ∨ placeholder name <:+: rest := by
  induction cs with
  | nil =>
    rcases List.infix_cons_iff.mp h with hbegun | hlater
    · exact absurd (List.cons_prefix_cons.mp hbegun).1 (by decide)
    · exact Or.inr hlater
  | cons c cs ih =>
    obtain ⟨-, hcs⟩ := List.ne_and_not_mem_of_not_mem_cons hcs
    rcases List.infix_cons_iff.mp h with hbegun | hlater
    · obtain ⟨hc, hnames⟩ := List.cons_prefix_cons.mp hbegun
      exact Or.inl ⟨[], by rw [← hc, eq_of_closed hname hcs hnames]; rfl⟩
    · rcases ih hcs hlater with ⟨before, rfl⟩ | hlater
      · exact Or.inl ⟨c :: before, rfl⟩
      · exact Or.inr hlater

/-- What is kept for a name of its own has a placeholder in it only in the shadow of its brace. -/
theorem shadowed_or_infix_of_kept {read after : List Char} (hname : '\x7d' ∉ name.toList)
    (hread : '\x7d' ∉ read) (hother : String.ofList read.reverse ≠ name)
    (h : placeholder name <:+: held (some read) ++ '\x7d' :: after) :
    (∀ rest, Shadowed name (held (some read) ++ '\x7d' :: rest)) ∨
      placeholder name <:+: after := by
  have hopen : '\x7d' ∉ held (some read) := by simp [held, hread]
  rcases ends_or_infix hname hopen h with ⟨before, hends⟩ | hlater
  · left
    intro rest
    cases before with
    | nil =>
      have hsame : String.ofList read.reverse = name := by
        rw [(List.cons.inj hends).2, String.ofList_toList]
      exact absurd hsame hother
    | cons b before =>
      have hread' : read.reverse = before ++ '\x7b' :: name.toList := (List.cons.inj hends).2
      refine ⟨[], before, rest, ?_, fun hmem => hread ?_⟩
      · simp [held, hread', placeholder]
      · rw [← List.mem_reverse, hread']
        exact List.mem_append_left _ hmem
  · exact .inr hlater

theorem shadowed_of_infix_fill {value : String} (hname : '\x7d' ∉ name.toList)
    (hvalue : value? name = some value)
    (hvalues : ∀ other v, value? other = some v → '\x7b' ∉ v.toList)
    (hopened : ∀ read, opened = some read → '\x7d' ∉ read)
    (h : placeholder name <:+: fill value? opened cs) : Shadowed name (held opened ++ cs) := by
  -- What is held back is part of the template that is still to be written, so it belongs to the
  -- text in which the shadow is looked for.
  induction cs generalizing opened with
  | nil =>
    have hclose : '\x7d' ∈ placeholder name := by simp [placeholder]
    have hmem := h.subset hclose
    cases opened with
    | none => exact absurd hmem List.not_mem_nil
    | some read =>
      have hread := hopened read rfl
      rw [fill, List.mem_cons, List.mem_reverse] at hmem
      rcases hmem with hbrace | hmem
      · exact absurd hbrace (by decide)
      · exact absurd hmem hread
  | cons c rest ih =>
    cases opened with
    | none =>
      rw [fill] at h
      by_cases hc : c = '\x7b'
      · rw [if_pos hc] at h
        have hread : ∀ read, some [] = some read → '\x7d' ∉ read := by simp
        rw [hc]
        exact ih hread h
      · rw [if_neg hc] at h
        have hmem : '\x7b' ∉ [c] := by simpa using Ne.symm hc
        exact Shadowed.append_left [c] (ih (by simp) (infix_of_not_mem hmem h))
    | some read =>
      have hread := hopened read rfl
      rw [fill] at h
      by_cases hc : c = '\x7d'
      · rw [if_pos hc] at h
        have hlater (hrest : placeholder name <:+: fill value? none rest) :
            Shadowed name (held (some read) ++ c :: rest) := by
          have hshadowed : Shadowed name rest := ih (by simp) hrest
          rw [List.append_cons]
          exact hshadowed.append_left _
        cases hget : value? (String.ofList read.reverse) with
        | some v =>
          rw [hget] at h
          exact hlater (infix_of_not_mem (hvalues _ v hget) h)
        | none =>
          have hother : String.ofList read.reverse ≠ name := by
            rintro rfl
            rw [hvalue] at hget
            cases hget
          have hkept : placeholder name <:+:
              held (some read) ++ '\x7d' :: fill value? none rest := by
            simpa [hget, held] using h
          rcases shadowed_or_infix_of_kept hname hread hother hkept with hshadowed | hrest
          · rw [hc]
            exact hshadowed rest
          · exact hlater hrest
      · rw [if_neg hc] at h
        have hread' : ∀ more, some (c :: read) = some more → '\x7d' ∉ more := by
          simp [Ne.symm hc, hread]
        have hshadowed := ih hread' h
        simpa [held] using hshadowed

/-- What a brace takes for a name with a brace in it comes through, and the placeholder in it. -/
theorem infix_fill_of_opened (hundeclared : ∀ other, '\x7b' ∈ other.toList → value? other = none)
    (hname : '\x7d' ∉ name.toList) (read : List Char) {between : List Char}
    (hbetween : '\x7d' ∉ between) (after : List Char) :
    placeholder name <:+: fill value? (some read) (between ++ (placeholder name ++ after)) := by
  have hinside : '\x7d' ∉ between ++ '\x7b' :: name.toList := by simp [hbetween, hname]
  have hsplit : between ++ (placeholder name ++ after) =
      (between ++ '\x7b' :: name.toList) ++ '\x7d' :: after := by simp [placeholder]
  have hnone := hundeclared
    (String.ofList ((between ++ '\x7b' :: name.toList).reverse ++ read).reverse) (by simp)
  rw [hsplit, fill_name read hinside, fill, if_pos rfl]
  simp only [hnone]
  exact ⟨'\x7b' :: (read.reverse ++ between), fill value? none after, by simp [placeholder]⟩

theorem infix_fill_of_shadowed
    (hundeclared : ∀ other, '\x7b' ∈ other.toList → value? other = none)
    (hname : '\x7d' ∉ name.toList) (h : Shadowed name cs) :
    placeholder name <:+: fill value? opened cs := by
  obtain ⟨before, between, after, rfl, hbetween⟩ := h
  induction before generalizing opened with
  | nil =>
    rw [List.nil_append]
    cases opened with
    | none =>
      rw [fill, if_pos rfl]
      exact infix_fill_of_opened hundeclared hname [] hbetween after
    | some read =>
      rw [fill, if_neg (by decide)]
      exact infix_fill_of_opened hundeclared hname ('\x7b' :: read) hbetween after
  | cons c before ih =>
    rw [List.cons_append]
    cases opened with
    | none =>
      rw [fill]
      by_cases hc : c = '\x7b'
      · rw [if_pos hc]
        exact ih
      · rw [if_neg hc]
        exact List.infix_cons ih
    | some read =>
      rw [fill]
      by_cases hc : c = '\x7d'
      · rw [if_pos hc]
        exact ih.trans (List.suffix_append _ _).isInfix
      · rw [if_neg hc]
        exact ih

end

/-- A declared placeholder that has a value comes through unfilled exactly where an opening brace
in front of it is not closed before it. -/
theorem infix_resolvePath_iff {template : String} {declared : List String}
    {value? : String → Option String} {name value : String}
    (hnames : ∀ n ∈ declared, '\x7b' ∉ n.toList ∧ '\x7d' ∉ n.toList)
    (hvalues : ∀ n v, value? n = some v → '\x7b' ∉ v.toList) (hname : name ∈ declared)
    (hvalue : supplied? value? name = some value) :
    placeholder name <:+: (resolvePath template declared value?).toList ↔
      Shadowed name template.toList := by
  have hplain := (hnames name hname).2
  rw [resolvePath_eq, String.toList_ofList]
  constructor
  · intro h
    have hopened : ∀ read : List Char, none = some read → '\x7d' ∉ read := nofun
    refine shadowed_of_infix_fill hplain (by rw [among_of_mem hname, hvalue])
      (fun other v hother => ?_) hopened h
    by_cases hmem : other ∈ declared
    · rw [among_of_mem hmem] at hother
      exact hvalues other v (supplied?_eq_some hother)
    · rw [among_of_not_mem hmem] at hother
      cases hother
  · intro h
    refine infix_fill_of_shadowed (fun other hbrace => ?_) hplain h
    exact among_of_not_mem fun hmem => (hnames other hmem).1 hbrace

/-- A brace left open in front of a placeholder, and the same placeholder once more behind it. -/
theorem infix_resolvePath_of_tail :
    let template := "/a/\x7btail/\x7bid\x7d/\x7bid\x7d"
    let value? := fun name => if name = "id" then some "1" else none
    supplied? value? "id" = some "1" ∧
    placeholder "id" <:+: (resolvePath template ["id"] value?).toList := by
  intro template value?
  have hvalues : ∀ n v, value? n = some v → '\x7b' ∉ v.toList := by
    intro n v hv
    obtain ⟨-, hv⟩ := Option.ite_none_right_eq_some.mp hv
    rw [← Option.some.inj hv]
    decide +kernel
  have hvalue : supplied? value? "id" = some "1" := by decide +kernel
  have hshadowed : Shadowed "id" template.toList :=
    ⟨"/a/".toList, "tail/".toList, "/\x7bid\x7d".toList, by decide +kernel, by decide +kernel⟩
  refine ⟨hvalue, (infix_resolvePath_iff ?_ hvalues List.mem_cons_self hvalue).mpr hshadowed⟩
  decide +kernel

/-- No name and no value has a brace, and still the placeholder is not filled in. -/
theorem infix_resolvePath_tail_id :
    let value? := fun name => if name = "id" then some "1" else none
    (∀ n ∈ ["id"], '\x7b' ∉ n.toList ∧ '\x7d' ∉ n.toList) ∧
    (∀ n v, value? n = some v → '\x7b' ∉ v.toList ∧ '\x7d' ∉ v.toList) ∧
    supplied? value? "id" = some "1" ∧
    placeholder "id" <:+: (resolvePath "/a/\x7btail/\x7bid\x7d" ["id"] value?).toList := by
  intro value?
  refine ⟨by decide +kernel, fun n v hv => ?_, by decide +kernel, ?_⟩
  · obtain ⟨-, hv⟩ := Option.ite_none_right_eq_some.mp hv
    rw [← Option.some.inj hv]
    decide +kernel
  · exact ⟨"/a/\x7btail/".toList, [], by decide +kernel⟩

end Call
end SdkShelf
