import SdkShelf.Proofs.Json.Descent

/-!
# What is read was written

Whatever the reader passes, strictly or not, stands in the text as the grammar has it, from where
the reading began to where it stopped.  So the value of a text is one whose text it is, and the only
one.
-/

namespace SdkShelf
namespace Json

namespace Reader

theorem blank_of_skipSpace (c : Cursor) : ∃ gap, Blank gap ∧ c.rest = gap ++ c.skipSpace.rest := by
  refine ⟨c.rest.takeWhile Cursor.isSpace, List.all_eq_true.mp List.all_takeWhile, ?_⟩
  rw [Cursor.skipSpace, Cursor.rest_skipWhile, List.takeWhile_append_dropWhile]

section

variable {c c' : Cursor}

theorem rest_pass {x : Char} {tail : List Char} (h : c.rest = x :: tail) : c.pass.rest = tail := by
  rw [Cursor.pass, h]

theorem rest_of_word {letters : List Char} (h : word letters c = .ok c') :
    c.rest = letters ++ c'.rest := by
  induction letters generalizing c with
  | nil =>
    rw [← Except.ok.inj h]
    rfl
  | cons x letters ih =>
    rw [word] at h
    split at h
    · exact absurd h nofun
    · rename_i y tail hc
      split at h
      · rename_i hxy
        rw [hc, ← hxy, List.cons_append, ← ih h, rest_pass hc]
      · exact absurd h nofun

theorem enclosed_of_read {rest : List Char} {r : Except Flawed String} {place : Place}
    (h : Literal.read .plain [] none place rest = .ok (r, c')) :
    ∃ cs, '"' :: rest = cs ++ c'.rest ∧ Literal.Encloses cs r.toOption := by
  obtain ⟨body, rfl, hbody⟩ := Literal.shaped_of_read .plain h
  exact ⟨'"' :: (body ++ ['"']), by simp, Literal.encloses_of_read hbody h⟩

theorem forms_of_number {negative : Bool} {result : Except Flawed Number} (start : Mark)
    (stop : Place) (h : Numeral.read negative c = .ok (result, c')) :
    ∃ cs d, (if negative then '-' :: c.rest else c.rest) = cs ++ c'.rest ∧ Forms cs d ∧
      Depicts (.scalar start (.number result) stop) d := by
  obtain ⟨n, cs, power, stop', rfl, hcs, hrest, rfl⟩ := Numeral.spells_of_read h
  refine ⟨_, _, ?_, .number hcs, .number (Numeral.toOption_placed _ _ _)⟩
  rw [hrest]
  split <;> rfl

theorem forms_of_scalar {s : Scalar} (start : Mark) (stop : Place) (h : scalar c = .ok (s, c')) :
    ∃ cs d, c.rest = cs ++ c'.rest ∧ Forms cs d ∧ Depicts (.scalar start s stop) d := by
  unfold scalar at h
  have hword : ∀ {x : Char} {letters tail : List Char} {value : Scalar}, c.rest = x :: tail →
      (do
        let c ← word letters c.pass
        .ok (value, c)) = Except.ok (s, c') → c.rest = (x :: letters) ++ c'.rest ∧ s = value := by
    intro x letters tail value hc h
    obtain ⟨behind, hword, h⟩ := exists_of_bind_eq_ok h
    obtain ⟨rfl, rfl⟩ := Prod.mk.inj (Except.ok.inj h)
    refine ⟨?_, rfl⟩
    rw [hc, List.cons_append, ← rest_of_word hword, rest_pass hc]
  split at h
  · exact absurd h nofun
  · rename_i hc
    obtain ⟨hrest, rfl⟩ := hword hc h
    exact ⟨_, _, hrest, .null, .null⟩
  · rename_i hc
    obtain ⟨hrest, rfl⟩ := hword hc h
    exact ⟨_, _, hrest, .bool true, .bool true⟩
  · rename_i hc
    obtain ⟨hrest, rfl⟩ := hword hc h
    exact ⟨_, _, hrest, .bool false, .bool false⟩
  · rename_i rest hc
    obtain ⟨⟨result, behind⟩, hread, h⟩ := exists_of_bind_eq_ok h
    obtain ⟨rfl, rfl⟩ := Prod.mk.inj (Except.ok.inj h)
    obtain ⟨cs, hrest, hcs⟩ := enclosed_of_read hread
    exact ⟨cs, _, hc.trans hrest, .string hcs, .string rfl⟩
  · rename_i hc
    obtain ⟨⟨result, behind⟩, hread, h⟩ := exists_of_bind_eq_ok h
    obtain ⟨rfl, rfl⟩ := Prod.mk.inj (Except.ok.inj h)
    have hforms := forms_of_number start stop hread
    rw [if_pos rfl, rest_pass hc, ← hc] at hforms
    exact hforms
  · split at h
    · obtain ⟨⟨result, behind⟩, hread, h⟩ := exists_of_bind_eq_ok h
      obtain ⟨rfl, rfl⟩ := Prod.mk.inj (Except.ok.inj h)
      exact forms_of_number start stop hread
    · exact absurd h nofun

theorem names_of_label {l : Label} {rest : List Char} (h : label c = .ok (l, .ok (), c'))
    (hc : c.rest = '"' :: rest) : ∃ cs, c.rest = cs ++ c'.rest ∧ Names cs l.name.toOption := by
  obtain ⟨⟨name, behind⟩, hread, h⟩ := exists_of_bind_eq_ok h
  obtain ⟨gap, hgap, hbehind⟩ := blank_of_skipSpace behind
  simp only at h
  split at h
  · rename_i tail hcolon
    obtain ⟨rfl, hrest⟩ := Prod.mk.inj (Except.ok.inj h)
    obtain ⟨-, rfl⟩ := Prod.mk.inj hrest
    obtain ⟨space, hspace, hpass⟩ := blank_of_skipSpace behind.skipSpace.pass
    rw [rest_pass hc] at hread
    obtain ⟨cs, hcs, henclosed⟩ := enclosed_of_read hread
    refine ⟨cs ++ (gap ++ ':' :: space), ?_, cs, gap, space, henclosed, hgap, hspace, rfl⟩
    rw [rest_pass hcolon] at hpass
    rw [hc, hcs, hbehind, hcolon, hpass]
    simp
  · obtain ⟨-, hrest⟩ := Prod.mk.inj (Except.ok.inj h)
    exact absurd (Prod.mk.inj hrest).1 nofun
  · obtain ⟨-, hrest⟩ := Prod.mk.inj (Except.ok.inj h)
    exact absurd (Prod.mk.inj hrest).1 nofun

end

section

variable {fuel : Nat} {c c' : Cursor} {e : Ending}

theorem fault_of_eq {α : Type} {parts parts' : α} {e' : Ending} {fault? : Ending → Option Fault}
    (h : (parts', e', c) = (parts, e, c')) (he : fault? e = none) : fault? e' = none := by
  obtain ⟨-, hrest⟩ := Prod.mk.inj h
  rw [(Prod.mk.inj hrest).1]
  exact he

/-- What a list that ends well was read from: its last item and its bracket, or an item, a comma and
the rest of the list.  It ends well, too, if reading stopped at an item that is broken. -/
theorem items_cases {ts : List Tree} (h : items (fuel + 1) c = (ts, e, c'))
    (he : e.listFault? = none) :
    ∃ t behind gap, value fuel c = (t, behind) ∧ Blank gap ∧
      ((isWhole t = false ∧ ts = [t]) ∨
        (∃ bracket, e = .closed bracket ∧ ts = [t] ∧ behind.rest = gap ++ ']' :: c'.rest) ∨
        ∃ next here rest, Blank next ∧ ts = t :: rest ∧
          behind.rest = gap ++ ',' :: (next ++ here.rest) ∧ items fuel here = (rest, e, c')) := by
  rw [items] at h
  generalize hvalue : value fuel c = read at h
  obtain ⟨t, behind⟩ := read
  obtain ⟨gap, hgap, hbehind⟩ := blank_of_skipSpace behind
  refine ⟨t, behind, gap, rfl, hgap, ?_⟩
  simp only at h
  split at h
  · rename_i hwhole
    exact .inl ⟨by simpa using hwhole, (Prod.mk.inj h).1.symm⟩
  · right
    split at h
    · exact absurd (fault_of_eq h he) (Option.some_ne_none _)
    · rename_i tail hbracket
      simp only [Prod.mk.injEq] at h
      obtain ⟨rfl, rfl, rfl⟩ := h
      exact .inl ⟨_, rfl, rfl, by rw [rest_pass hbracket, ← hbracket, ← hbehind]⟩
    · rename_i tail hcomma
      obtain ⟨next, hnext, hpass⟩ := blank_of_skipSpace behind.skipSpace.pass
      split at h
      · exact absurd (fault_of_eq h he) (Option.some_ne_none _)
      · simp only [Prod.mk.injEq] at h
        obtain ⟨rfl, rfl, rfl⟩ := h
        refine .inr ⟨next, behind.skipSpace.pass.skipSpace, _, hnext, rfl, ?_, rfl⟩
        rw [hbehind, ← hpass, rest_pass hcomma, hcomma]
    · exact absurd (fault_of_eq h he) (Option.some_ne_none _)

/-- So it is with an object's members. -/
theorem members_cases {ts : List (Label × Tree)} (h : members (fuel + 1) c = (ts, e, c'))
    (he : e.objectFault? = none) :
    (∃ l f behind, label c = .ok (l, .error f, behind) ∧ ts = [(l, .broken behind.mark f)]) ∨
    ∃ l here t behind gap after, label c = .ok (l, .ok (), here) ∧ value fuel here = (t, behind) ∧
      Blank gap ∧
      ((isWhole t = false ∧ ts = [(l, t)]) ∨
        (∃ bracket, e = .closed bracket ∧ ts = [({ l with after := after }, t)] ∧
          after.next = some '\x7d' ∧ behind.rest = gap ++ '\x7d' :: c'.rest) ∨
        ∃ next here rest tail, Blank next ∧ ts = ({ l with after := after }, t) :: rest ∧
          after.next = some ',' ∧ behind.rest = gap ++ ',' :: (next ++ here.rest) ∧
          here.rest = '"' :: tail ∧ members fuel here = (rest, e, c')) := by
  rw [members] at h
  split at h
  · exact absurd (fault_of_eq h he) (Option.some_ne_none _)
  · rename_i l f behind hlabel
    exact .inl ⟨l, f, behind, hlabel, (Prod.mk.inj h).1.symm⟩
  · rename_i l here hlabel
    right
    generalize hvalue : value fuel here = read at h
    obtain ⟨t, behind⟩ := read
    obtain ⟨gap, hgap, hbehind⟩ := blank_of_skipSpace behind
    refine ⟨l, here, t, behind, gap, behind.skipSpace.mark, hlabel, hvalue, hgap, ?_⟩
    simp only at h
    split at h
    · rename_i hwhole
      exact .inl ⟨by simpa using hwhole, (Prod.mk.inj h).1.symm⟩
    · right
      split at h
      · exact absurd (fault_of_eq h he) (Option.some_ne_none _)
      · rename_i tail hbracket
        simp only [Prod.mk.injEq] at h
        obtain ⟨rfl, rfl, rfl⟩ := h
        exact .inl ⟨_, rfl, rfl, congrArg List.head? hbracket,
          by rw [rest_pass hbracket, ← hbracket, ← hbehind]⟩
      · rename_i tail hcomma
        obtain ⟨next, hnext, hpass⟩ := blank_of_skipSpace behind.skipSpace.pass
        split at h
        · rename_i hquote
          simp only [Prod.mk.injEq] at h
          obtain ⟨rfl, rfl, rfl⟩ := h
          refine .inr ⟨next, behind.skipSpace.pass.skipSpace, _, _, hnext, rfl,
            congrArg List.head? hcomma, ?_, hquote, rfl⟩
          rw [hbehind, ← hpass, rest_pass hcomma, hcomma]
        · exact absurd (fault_of_eq h he) (Option.some_ne_none _)
      · exact absurd (fault_of_eq h he) (Option.some_ne_none _)

end

-- The induction is on the fuel.  That what is passed is whole is part of it: a list ends well, too,
-- behind an item that is broken, and only because that item stops the reading is this not the case.
mutual

/-- What is passed was written so, and read whole. -/
theorem forms_of_value : (fuel : Nat) → {c c' : Cursor} → {t : Tree} → value fuel c = (t, c') →
    t.skim = .ok () →
      isWhole t = true ∧ ∃ cs d, c.rest = cs ++ c'.rest ∧ Forms cs d ∧ Depicts t d
  | 0, _, _, _, h, hskim => by
    obtain ⟨rfl, rfl⟩ := Prod.mk.inj h
    exact absurd hskim nofun
  | fuel + 1, c, c', t, h, hskim => by
    rw [value] at h
    split at h
    · rename_i tail hc
      obtain ⟨gap, hgap, hpass⟩ := blank_of_skipSpace c.pass
      rw [rest_pass hc] at hpass
      simp only at h
      split at h
      · obtain ⟨rfl, rfl⟩ := Prod.mk.inj h
        exact absurd hskim nofun
      · rename_i rest hbracket
        obtain ⟨rfl, rfl⟩ := Prod.mk.inj h
        refine ⟨rfl, _, _, ?_, .noItems hgap, .array .nil⟩
        rw [hc, hpass, hbracket, rest_pass hbracket]
        simp
      · obtain ⟨rfl, rfl⟩ := Prod.mk.inj h
        obtain ⟨hskim, hfault⟩ := Tree.skim_array_eq_ok.mp hskim
        obtain ⟨⟨bracket, hclosed⟩, cs, ds, hcs, hitems, hdepicts⟩ :=
          forms_of_items fuel rfl hskim hfault
        rw [hclosed]
        refine ⟨rfl, _, _, ?_, .array hgap hitems, .array hdepicts⟩
        rw [hc, hpass, hcs]
        simp
    · rename_i tail hc
      obtain ⟨gap, hgap, hpass⟩ := blank_of_skipSpace c.pass
      rw [rest_pass hc] at hpass
      simp only at h
      split at h
      · rename_i rest hbracket
        obtain ⟨rfl, rfl⟩ := Prod.mk.inj h
        refine ⟨rfl, _, _, ?_, .noMembers hgap, .object .nil⟩
        rw [hc, hpass, hbracket, rest_pass hbracket]
        simp
      · rename_i rest hquote
        obtain ⟨rfl, rfl⟩ := Prod.mk.inj h
        obtain ⟨hskim, hfault⟩ := Tree.skim_object_eq_ok.mp hskim
        obtain ⟨⟨bracket, hclosed⟩, cs, ms, hcs, hmembers, hdepicts⟩ :=
          forms_of_members fuel hquote rfl hskim hfault
        rw [hclosed]
        refine ⟨rfl, _, _, ?_, .object hgap hmembers, .object hdepicts⟩
        rw [hc, hpass, hcs]
        simp
      · obtain ⟨rfl, rfl⟩ := Prod.mk.inj h
        exact absurd hskim nofun
    · rw [leaf] at h
      split at h
      · rename_i s behind hscalar
        obtain ⟨rfl, rfl⟩ := Prod.mk.inj h
        exact ⟨rfl, forms_of_scalar _ _ hscalar⟩
      · obtain ⟨rfl, rfl⟩ := Prod.mk.inj h
        exact absurd hskim nofun

theorem forms_of_items : (fuel : Nat) → {c c' : Cursor} → {ts : List Tree} → {e : Ending} →
    items fuel c = (ts, e, c') → Tree.skimItems ts = .ok () → e.listFault? = none →
      (∃ bracket, e = .closed bracket) ∧
        ∃ cs ds, c.rest = cs ++ ']' :: c'.rest ∧ FormsItems cs ds ∧ DepictsItems ts ds
  | 0, _, _, _, _, h, _, he => by
    rw [items] at h
    exact absurd (fault_of_eq h he) (Option.some_ne_none _)
  | fuel + 1, c, c', ts, e, h, hskim, he => by
    obtain ⟨t, behind, gap, hvalue, hgap, hcases⟩ := items_cases h he
    have hitem : t.skim = .ok () → isWhole t = true ∧
        ∃ cs d, c.rest = cs ++ behind.rest ∧ Forms cs d ∧ Depicts t d :=
      forms_of_value fuel hvalue
    rcases hcases with ⟨hwhole, rfl⟩ | ⟨bracket, rfl, rfl, hbehind⟩ |
      ⟨next, here, rest, hnext, rfl, hbehind, hitems⟩
    · exact absurd (hitem (Tree.skimItems_cons_eq_ok.mp hskim).1).1 (by rw [hwhole]; decide)
    · obtain ⟨-, cs, d, hcs, hd, ht⟩ := hitem (Tree.skimItems_cons_eq_ok.mp hskim).1
      refine ⟨⟨bracket, rfl⟩, cs ++ gap, [d], ?_, .last hd hgap, .cons ht .nil⟩
      rw [hcs, hbehind, List.append_assoc]
    · obtain ⟨hfirst, hskims⟩ := Tree.skimItems_cons_eq_ok.mp hskim
      obtain ⟨-, cs, d, hcs, hd, ht⟩ := hitem hfirst
      obtain ⟨hclosed, more, ds, hmore, hds, hrest⟩ := forms_of_items fuel hitems hskims he
      refine ⟨hclosed, _, _, ?_, .more hd hgap hnext hds, .cons ht hrest⟩
      rw [hcs, hbehind, hmore]
      simp

theorem forms_of_members : (fuel : Nat) → {c c' : Cursor} → {ts : List (Label × Tree)} →
    {e : Ending} → {quoted : List Char} → c.rest = '"' :: quoted →
    members fuel c = (ts, e, c') → Tree.skimMembers ts = .ok () → e.objectFault? = none →
      (∃ bracket, e = .closed bracket) ∧
        ∃ cs ms, c.rest = cs ++ '\x7d' :: c'.rest ∧ FormsMembers cs ms ∧ DepictsMembers ts ms
  | 0, _, _, _, _, _, _, h, _, he => by
    rw [members] at h
    exact absurd (fault_of_eq h he) (Option.some_ne_none _)
  | fuel + 1, c, c', ts, e, quoted, hc, h, hskim, he => by
    rcases members_cases h he with ⟨l, f, behind, -, rfl⟩ |
      ⟨l, here, t, behind, gap, after, hlabel, hvalue, hgap, hcases⟩
    · exact absurd (Tree.skimMembers_cons_eq_ok.mp hskim).1 nofun
    obtain ⟨key, hkey, hnames⟩ := names_of_label hlabel hc
    have hitem : t.skim = .ok () → isWhole t = true ∧
        ∃ cs d, here.rest = cs ++ behind.rest ∧ Forms cs d ∧ Depicts t d :=
      forms_of_value fuel hvalue
    rcases hcases with ⟨hwhole, rfl⟩ | ⟨bracket, rfl, rfl, hafter, hbehind⟩ |
      ⟨next, there, rest, tail, hnext, rfl, hafter, hbehind, hquote, hmembers⟩
    · exact absurd (hitem (Tree.skimMembers_cons_eq_ok.mp hskim).1).1 (by rw [hwhole]; decide)
    · obtain ⟨-, cs, d, hcs, hd, ht⟩ := hitem (Tree.skimMembers_cons_eq_ok.mp hskim).1
      refine ⟨⟨bracket, rfl⟩, _, _, ?_, .last hnames hd hgap,
        .cons rfl (iff_of_true hafter rfl) ht .nil⟩
      rw [hkey, hcs, hbehind]
      simp
    · obtain ⟨hfirst, hskims⟩ := Tree.skimMembers_cons_eq_ok.mp hskim
      obtain ⟨-, cs, d, hcs, hd, ht⟩ := hitem hfirst
      obtain ⟨hclosed, more, ms, hmore, hms, hrest⟩ :=
        forms_of_members fuel hquote hmembers hskims he
      have hne : rest ≠ [] := by
        rintro rfl
        cases hrest
        exact nomatch hms
      refine ⟨hclosed, _, _, ?_, .more hnames hd hgap hnext hms,
        .cons rfl (iff_of_false ?_ hne) ht hrest⟩
      · rw [hkey, hcs, hbehind, hmore]
        simp
      · rw [hafter]
        decide

end

end Reader

open Reader in
/-- A text that is passed to its end says a document. -/
theorem exists_isDocument_of_skim {text : String} {t : Tree} {behind : Mark}
    (h : Tree.ofText text = (t, behind)) (hskim : t.skim = .ok ()) (hbehind : behind.next = none) :
    ∃ d, IsDocument text d ∧ Depicts t d := by
  rw [Tree.ofText] at h
  generalize hvalue : Reader.value (2 * text.toList.length + 2)
    (Cursor.start text.toList).skipSpace = result at h
  obtain ⟨t', c⟩ := result
  obtain ⟨rfl, rfl⟩ := Prod.mk.inj h
  obtain ⟨before, hbefore, hstart⟩ := blank_of_skipSpace (Cursor.start text.toList)
  obtain ⟨after, hafter, hrest⟩ := blank_of_skipSpace c
  obtain ⟨-, cs, d, hcs, hforms, hdepicts⟩ := forms_of_value _ hvalue hskim
  refine ⟨d, ⟨before, cs, after, hbefore, hforms, hafter, ?_⟩, hdepicts⟩
  have hnil : c.skipSpace.rest = [] := List.head?_eq_none_iff.mp hbehind
  rw [hnil, List.append_nil] at hrest
  rw [← hrest, ← hcs]
  exact hstart

/-- A text is a value's if its tree is read as the value and nothing is left behind it. -/
theorem isText_of_read {text : String} {t : Tree} {behind : Mark} {v : Json}
    (h : Tree.ofText text = (t, behind)) (hread : t.read .value = .ok v)
    (hbehind : behind.next = none) : IsText text v := by
  obtain ⟨d, hdocument, ht⟩ := exists_isDocument_of_skim h (Tree.skim_of_read t hread) hbehind
  rw [(Reader.read_eq_ok_iff ht v).mp hread] at hdocument
  exact isDocument_ofJson_iff.mp hdocument

/-- A text stands for one value at most. -/
theorem IsText.unique {text : String} {v w : Json} (hv : IsText text v) (hw : IsText text w) :
    v = w := by
  obtain ⟨t, behind, ht, ⟨-, hread⟩, -⟩ := hv.stands
  obtain ⟨t', behind', ht', ⟨-, hread'⟩, -⟩ := hw.stands
  obtain ⟨rfl, rfl⟩ := Prod.mk.inj (ht.symm.trans ht')
  exact Except.ok.inj (hread.symm.trans hread')

end Json
end SdkShelf
