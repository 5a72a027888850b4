import SdkShelf.Proofs.Json.Grammar
import SdkShelf.Proofs.Json.Holds

/-!
# The descent

Whatever the grammar allows is read to its end, wherever it stands: a text that says a document is
read as a tree of the document, and a value's text as a tree of the value.
-/

namespace SdkShelf
namespace Json

namespace Ending

theorem checkList_eq_ok_iff {e : Ending} : e.checkList = .ok () ↔ e.listFault? = none := by
  rw [checkList]
  cases e.listFault? with
  | none => simp
  | some f => simp

theorem checkObject_eq_ok_iff {e : Ending} : e.checkObject = .ok () ↔ e.objectFault? = none := by
  rw [checkObject]
  cases e.objectFault? with
  | none => simp
  | some f => simp

end Ending

namespace Tree

variable {o : Origin} {start : Mark} {e : Ending} {v : Json}

theorem read_array_eq_ok {ts : List Tree} : (Tree.array start ts e).read o = .ok v ↔
    ∃ inner vs, o.enter start = .ok inner ∧ readItems inner ts = .ok vs ∧ e.listFault? = none ∧
      v = .array vs := by
  simp only [← Ending.checkList_eq_ok_iff]
  constructor
  · intro h
    rw [read] at h
    obtain ⟨inner, henter, h⟩ := exists_of_bind_eq_ok h
    obtain ⟨vs, hread, h⟩ := exists_of_bind_eq_ok h
    obtain ⟨⟨⟩, hcheck, h⟩ := exists_of_bind_eq_ok h
    exact ⟨inner, vs, henter, hread, hcheck, (Except.ok.inj h).symm⟩
  · rintro ⟨inner, vs, henter, hread, hcheck, rfl⟩
    simp [read, henter, hread, hcheck, bind, Except.bind]

theorem read_object_eq_ok {ts : List (Label × Tree)} : (Tree.object start ts e).read o = .ok v ↔
    ∃ inner ms, o.enter start = .ok inner ∧ readMembers inner ts = .ok ms ∧
      e.objectFault? = none ∧ v = .object ms := by
  simp only [← Ending.checkObject_eq_ok_iff]
  constructor
  · intro h
    rw [read] at h
    obtain ⟨inner, henter, h⟩ := exists_of_bind_eq_ok h
    obtain ⟨ms, hread, h⟩ := exists_of_bind_eq_ok h
    obtain ⟨⟨⟩, hcheck, h⟩ := exists_of_bind_eq_ok h
    exact ⟨inner, ms, henter, hread, hcheck, (Except.ok.inj h).symm⟩
  · rintro ⟨inner, ms, henter, hread, hcheck, rfl⟩
    simp [read, henter, hread, hcheck, bind, Except.bind]

theorem readItems_cons_eq_ok {t : Tree} {ts : List Tree} {vs : List Json} :
    readItems o (t :: ts) = .ok vs ↔
      ∃ v rest, t.read o = .ok v ∧ readItems o ts = .ok rest ∧ vs = v :: rest := by
  constructor
  · intro h
    obtain ⟨v, hread, h⟩ := exists_of_bind_eq_ok h
    obtain ⟨rest, hrest, h⟩ := exists_of_bind_eq_ok h
    exact ⟨v, rest, hread, hrest, (Except.ok.inj h).symm⟩
  · rintro ⟨v, rest, hread, hrest, rfl⟩
    simp [readItems, hread, hrest, bind, Except.bind]

theorem readMembers_cons_eq_ok {l : Label} {t : Tree} {ts : List (Label × Tree)}
    {ms : List (String × Json)} : readMembers o ((l, t) :: ts) = .ok ms ↔
      ∃ k v rest, l.name = .ok k ∧ t.read o = .ok v ∧ readMembers o ts = .ok rest ∧
        ms = (k, v) :: rest := by
  constructor
  · intro h
    obtain ⟨k, hkey, h⟩ := exists_of_bind_eq_ok h
    obtain ⟨v, hread, h⟩ := exists_of_bind_eq_ok h
    obtain ⟨rest, hrest, h⟩ := exists_of_bind_eq_ok h
    exact ⟨k, v, rest, mapError_eq_ok_iff.mp hkey, hread, hrest, (Except.ok.inj h).symm⟩
  · rintro ⟨k, v, rest, hkey, hread, hrest, rfl⟩
    simp [readMembers, Label.key, hkey, hread, hrest, bind, Except.bind, Except.mapError]

theorem skim_array_eq_ok {ts : List Tree} :
    (Tree.array start ts e).skim = .ok () ↔ skimItems ts = .ok () ∧ e.listFault? = none := by
  rw [skim]
  cases skimItems ts with
  | error f => exact iff_of_false nofun fun h => nomatch h.1
  | ok _ =>
    cases e.listFault? with
    | none => exact iff_of_true rfl ⟨rfl, rfl⟩
    | some f => exact iff_of_false nofun fun h => nomatch h.2

theorem skim_object_eq_ok {ts : List (Label × Tree)} :
    (Tree.object start ts e).skim = .ok () ↔ skimMembers ts = .ok () ∧ e.objectFault? = none := by
  rw [skim]
  cases skimMembers ts with
  | error f => exact iff_of_false nofun fun h => nomatch h.1
  | ok _ =>
    cases e.objectFault? with
    | none => exact iff_of_true rfl ⟨rfl, rfl⟩
    | some f => exact iff_of_false nofun fun h => nomatch h.2

theorem skimItems_cons_eq_ok {t : Tree} {ts : List Tree} :
    skimItems (t :: ts) = .ok () ↔ t.skim = .ok () ∧ skimItems ts = .ok () := by
  rw [skimItems]
  cases t.skim with
  | error f => exact iff_of_false nofun fun h => nomatch h.1
  | ok _ => exact (and_iff_right rfl).symm

theorem skimMembers_cons_eq_ok {l : Label} {t : Tree} {ts : List (Label × Tree)} :
    skimMembers ((l, t) :: ts) = .ok () ↔ t.skim = .ok () ∧ skimMembers ts = .ok () := by
  rw [skimMembers]
  cases t.skim with
  | error f => exact iff_of_false nofun fun h => nomatch h.1
  | ok _ => exact (and_iff_right rfl).symm

mutual

/-- Skipping objects to nothing that a strict reading lets pass. -/
theorem skim_of_read : (t : Tree) → {o : Origin} → {v : Json} → t.read o = .ok v → t.skim = .ok ()
  | .scalar _ _ _, _, _, _ => rfl
  | .array _ ts _, _, _, h => by
    obtain ⟨inner, vs, -, hread, hfault, -⟩ := read_array_eq_ok.mp h
    exact skim_array_eq_ok.mpr ⟨skimItems_of_read ts hread, hfault⟩
  | .object _ ts _, _, _, h => by
    obtain ⟨inner, ms, -, hread, hfault, -⟩ := read_object_eq_ok.mp h
    exact skim_object_eq_ok.mpr ⟨skimMembers_of_read ts hread, hfault⟩
  | .broken _ _, _, _, h => nomatch h

theorem skimItems_of_read : (ts : List Tree) → {o : Origin} → {vs : List Json} →
    readItems o ts = .ok vs → skimItems ts = .ok ()
  | [], _, _, _ => rfl
  | t :: ts, _, _, h => by
    obtain ⟨v, rest, hread, hrest, -⟩ := readItems_cons_eq_ok.mp h
    exact skimItems_cons_eq_ok.mpr ⟨skim_of_read t hread, skimItems_of_read ts hrest⟩

theorem skimMembers_of_read : (ts : List (Label × Tree)) → {o : Origin} →
    {ms : List (String × Json)} → readMembers o ts = .ok ms → skimMembers ts = .ok ()
  | [], _, _, _ => rfl
  | (l, t) :: ts, _, _, h => by
    obtain ⟨k, v, rest, -, hread, hrest, -⟩ := readMembers_cons_eq_ok.mp h
    exact skimMembers_cons_eq_ok.mpr ⟨skim_of_read t hread, skimMembers_of_read ts hrest⟩

end

end Tree

/-! ## Trees of documents -/

mutual

/-- `Depicts t d`: the tree has the document's shape, with the values and the characters that its
numbers and strings have.  Behind the last member of an object stands the bracket, and behind no
other. -/
inductive Depicts : Tree → Document → Prop
  | null {start : Mark} {stop : Place} : Depicts (.scalar start .null stop) .null
  | bool {start : Mark} {stop : Place} (b : Bool) : Depicts (.scalar start (.bool b) stop) (.bool b)
  | number {start : Mark} {stop : Place} {r : Except Flawed Number} {n : Option Number}
      (h : r.toOption = n) : Depicts (.scalar start (.number r) stop) (.number n)
  | string {start : Mark} {stop : Place} {r : Except Flawed String} {s : Option String}
      (h : r.toOption = s) : Depicts (.scalar start (.string r) stop) (.string s)
  | array {start bracket : Mark} {ts : List Tree} {ds : List Document} (h : DepictsItems ts ds) :
      Depicts (.array start ts (.closed bracket)) (.array ds)
  | object {start bracket : Mark} {ts : List (Label × Tree)}
      {ms : List (Option String × Document)} (h : DepictsMembers ts ms) :
      Depicts (.object start ts (.closed bracket)) (.object ms)

inductive DepictsItems : List Tree → List Document → Prop
  | nil : DepictsItems [] []
  | cons {t : Tree} {d : Document} {ts : List Tree} {ds : List Document} (h : Depicts t d)
      (hrest : DepictsItems ts ds) : DepictsItems (t :: ts) (d :: ds)

inductive DepictsMembers : List (Label × Tree) → List (Option String × Document) → Prop
  | nil : DepictsMembers [] []
  | cons {l : Label} {k : Option String} {t : Tree} {d : Document} {ts : List (Label × Tree)}
      {ms : List (Option String × Document)} (hl : l.name.toOption = k)
      (hafter : l.after.next = some '\x7d' ↔ ts = []) (h : Depicts t d)
      (hrest : DepictsMembers ts ms) : DepictsMembers ((l, t) :: ts) ((k, d) :: ms)

end

theorem Depicts.exists_array {t : Tree} {ds : List Document} (h : Depicts t (.array ds)) :
    ∃ start ts bracket, t = .array start ts (.closed bracket) ∧ DepictsItems ts ds := by
  cases h with
  | array h => exact ⟨_, _, _, rfl, h⟩

theorem Depicts.exists_object {t : Tree} {ms : List (Option String × Document)}
    (h : Depicts t (.object ms)) :
    ∃ start ts bracket, t = .object start ts (.closed bracket) ∧ DepictsMembers ts ms := by
  cases h with
  | object h => exact ⟨_, _, _, rfl, h⟩

mutual

/-- A tree depicts one document. -/
theorem Depicts.unique : {t : Tree} → {d d' : Document} → Depicts t d → Depicts t d' → d = d'
  | _, _, _, .null, .null => rfl
  | _, _, _, .bool _, .bool _ => rfl
  | _, _, _, .number h, .number h' => by rw [← h, ← h']
  | _, _, _, .string h, .string h' => by rw [← h, ← h']
  | _, _, _, .array h, .array h' => by rw [h.unique h']
  | _, _, _, .object h, .object h' => by rw [h.unique h']

theorem DepictsItems.unique : {ts : List Tree} → {ds ds' : List Document} → DepictsItems ts ds →
    DepictsItems ts ds' → ds = ds'
  | _, _, _, .nil, .nil => rfl
  | _, _, _, .cons h hrest, .cons h' hrest' => by rw [h.unique h', hrest.unique hrest']

theorem DepictsMembers.unique : {ts : List (Label × Tree)} →
    {ms ms' : List (Option String × Document)} → DepictsMembers ts ms → DepictsMembers ts ms' →
    ms = ms'
  | _, _, _, .nil, .nil => rfl
  | _, _, _, .cons hl _ h hrest, .cons hl' _ h' hrest' => by
    rw [← hl, ← hl', h.unique h', hrest.unique hrest']

end

namespace Reader

theorem isWhole_of_depicts {t : Tree} {d : Document} (h : Depicts t d) : isWhole t = true := by
  cases h <;> rfl

/-- The tree has the value's shape, and is read as the value. -/
def Stands (t : Tree) (v : Json) : Prop := t.Holds v ∧ t.read .value = .ok v

mutual

theorem holds_of_depicts : (v : Json) → {t : Tree} → Depicts t (.ofJson v) → t.Holds v
  | .null, _, .null => trivial
  | .bool _, _, .bool _ => rfl
  | .number (.int _ _), _, .number h => toOption_eq_some_iff.mp h
  | .number (.float _), _, .number h => fun _ _ hn => by
    rw [toOption_eq_some_iff.mp h] at hn
    exact Number.noConfusion (Except.ok.inj hn)
  | .string _, _, .string h => toOption_eq_some_iff.mp h
  | .array vs, _, .array h => holdItems_of_depicts vs h
  | .object ms, _, .object h => holdMembers_of_depicts ms h

theorem holdItems_of_depicts : (vs : List Json) → {ts : List Tree} →
    DepictsItems ts (Document.ofItems vs) → Tree.HoldItems ts vs
  | [], _, .nil => trivial
  | v :: vs, _, .cons h hrest => ⟨holds_of_depicts v h, holdItems_of_depicts vs hrest⟩

theorem holdMembers_of_depicts : (ms : List (String × Json)) → {ts : List (Label × Tree)} →
    DepictsMembers ts (Document.ofMembers ms) → Tree.HoldMembers ts ms
  | [], _, .nil => trivial
  | (_, v) :: ms, _, .cons hl _ h hrest =>
    ⟨toOption_eq_some_iff.mp hl, holds_of_depicts v h, holdMembers_of_depicts ms hrest⟩

end

mutual

/-- A tree is read as a value exactly if its document is the value's. -/
theorem read_eq_ok_iff : {t : Tree} → {d : Document} → Depicts t d → (v : Json) →
    (t.read .value = .ok v ↔ d = .ofJson v)
  | _, _, .null, v => by
    cases v <;> simp [Tree.read, Scalar.json, Except.mapError, Document.ofJson]
  | _, _, .bool b, v => by
    cases v <;> simp [Tree.read, Scalar.json, Except.mapError, Document.ofJson]
  | _, _, .number (r := r) h, v => by
    subst h
    cases r <;> cases v <;>
      simp [Tree.read, Scalar.json, Except.mapError, Except.map, Except.toOption, Document.ofJson]
  | _, _, .string (r := r) h, v => by
    subst h
    cases r <;> cases v <;>
      simp [Tree.read, Scalar.json, Except.mapError, Except.map, Except.toOption, Document.ofJson]
  | _, _, .array h, v => by
    have hitems := readItems_eq_ok_iff h
    rw [Tree.read_array_eq_ok]
    constructor
    · rintro ⟨_, vs, ⟨⟩, hread, -, rfl⟩
      rw [Document.ofJson, (hitems vs).mp hread]
    · intro hd
      cases v with
      | array vs => exact ⟨.value, vs, rfl, (hitems vs).mpr (Document.array.inj hd), rfl, rfl⟩
      | null | bool _ | number _ | string _ | object _ => exact Document.noConfusion hd
  | _, _, .object h, v => by
    have hmembers := readMembers_eq_ok_iff h
    rw [Tree.read_object_eq_ok]
    constructor
    · rintro ⟨_, ms, ⟨⟩, hread, -, rfl⟩
      rw [Document.ofJson, (hmembers ms).mp hread]
    · intro hd
      cases v with
      | object ms => exact ⟨.value, ms, rfl, (hmembers ms).mpr (Document.object.inj hd), rfl, rfl⟩
      | null | bool _ | number _ | string _ | array _ => exact Document.noConfusion hd

theorem readItems_eq_ok_iff : {ts : List Tree} → {ds : List Document} → DepictsItems ts ds →
    (vs : List Json) → (Tree.readItems .value ts = .ok vs ↔ ds = Document.ofItems vs)
  | _, _, .nil, vs => by cases vs <;> simp [Tree.readItems, Document.ofItems]
  | _, _, .cons h hrest, vs => by
    simp only [Tree.readItems_cons_eq_ok, read_eq_ok_iff h, readItems_eq_ok_iff hrest]
    constructor
    · rintro ⟨v, rest, rfl, rfl, rfl⟩
      rfl
    · intro hds
      cases vs with
      | nil => exact absurd hds (List.cons_ne_nil _ _)
      | cons v vs => exact ⟨v, vs, (List.cons.inj hds).1, (List.cons.inj hds).2, rfl⟩

theorem readMembers_eq_ok_iff : {ts : List (Label × Tree)} →
    {ds : List (Option String × Document)} → DepictsMembers ts ds → (ms : List (String × Json)) →
    (Tree.readMembers .value ts = .ok ms ↔ ds = Document.ofMembers ms)
  | _, _, .nil, ms => by cases ms <;> simp [Tree.readMembers, Document.ofMembers]
  | _, _, .cons hl _ h hrest, ms => by
    have hmembers := readMembers_eq_ok_iff hrest
    rw [Tree.readMembers_cons_eq_ok]
    constructor
    · rintro ⟨k, v, rest, hk, hv, hms, rfl⟩
      rw [← hl, hk, (read_eq_ok_iff h v).mp hv, (hmembers rest).mp hms]
      rfl
    · intro hds
      cases ms with
      | nil => exact absurd hds (List.cons_ne_nil _ _)
      | cons m ms =>
        obtain ⟨hm, hms⟩ := List.cons.inj hds
        obtain ⟨hk, hv⟩ := Prod.mk.inj hm
        exact ⟨m.1, m.2, ms, toOption_eq_some_iff.mp (hl.trans hk), (read_eq_ok_iff h _).mpr hv,
          (hmembers ms).mpr hms, rfl⟩

end

theorem stands_of_depicts {t : Tree} {v : Json} (h : Depicts t (.ofJson v)) : Stands t v :=
  ⟨holds_of_depicts v h, (read_eq_ok_iff h v).mpr rfl⟩

mutual

/-- Nothing in the tree of a document stops a reading that skips it. -/
theorem skim_of_depicts : {t : Tree} → {d : Document} → Depicts t d → t.skim = .ok ()
  | _, _, .null => rfl
  | _, _, .bool _ => rfl
  | _, _, .number _ => rfl
  | _, _, .string _ => rfl
  | _, _, .array h => Tree.skim_array_eq_ok.mpr ⟨skimItems_of_depicts h, rfl⟩
  | _, _, .object h => Tree.skim_object_eq_ok.mpr ⟨skimMembers_of_depicts h, rfl⟩

theorem skimItems_of_depicts : {ts : List Tree} → {ds : List Document} → DepictsItems ts ds →
    Tree.skimItems ts = .ok ()
  | _, _, .nil => rfl
  | _, _, .cons h hrest =>
    Tree.skimItems_cons_eq_ok.mpr ⟨skim_of_depicts h, skimItems_of_depicts hrest⟩

theorem skimMembers_of_depicts : {ts : List (Label × Tree)} →
    {ms : List (Option String × Document)} → DepictsMembers ts ms → Tree.skimMembers ts = .ok ()
  | _, _, .nil => rfl
  | _, _, .cons _ _ h hrest =>
    Tree.skimMembers_cons_eq_ok.mpr ⟨skim_of_depicts h, skimMembers_of_depicts hrest⟩

end

/-! ## What is written is read -/

theorem scalar_digit {c : Char} (h : c.isDigit = true) (rest : List Char) (place : Place) :
    scalar ⟨c :: rest, place⟩ = (do
      let (n, c) ← Numeral.read false ⟨c :: rest, place⟩
      .ok (.number n, c)) := by
  unfold scalar
  split
  · rename_i heq
    exact absurd heq (by simp)
  · rename_i heq
    exact absurd (List.cons.inj heq).1 (isDigit_ne h rfl)
  · rename_i heq
    exact absurd (List.cons.inj heq).1 (isDigit_ne h rfl)
  · rename_i heq
    exact absurd (List.cons.inj heq).1 (isDigit_ne h rfl)
  · rename_i heq
    exact absurd (List.cons.inj heq).1 (isDigit_ne h rfl)
  · rename_i heq
    exact absurd (List.cons.inj heq).1 (isDigit_ne h rfl)
  · rename_i heq
    rw [← (List.cons.inj heq).1, if_pos h]

theorem scalar_numeral {cs rest : List Char} {n : Numeral} (hcs : n.Spells cs)
    (hrest : Text.StopsAt Numeral.continues rest) (place : Place) :
    ∃ s behind, scalar ⟨(if n.negative then '-' :: cs else cs) ++ rest, place⟩ =
      .ok (s, ⟨rest, behind⟩) ∧ ∃ power stop, s = .number (Numeral.placed n power stop) := by
  split
  · rename_i hnegative
    obtain ⟨power, stop, behind, hread⟩ := Numeral.read_of_spells hcs hrest (place.pass '-')
    rw [hnegative] at hread
    refine ⟨_, behind, ?_, power, stop, rfl⟩
    simp only [List.cons_append, scalar, Cursor.pass, hread, bind, Except.bind]
  · rename_i hnegative
    obtain ⟨power, stop, behind, hread⟩ := Numeral.read_of_spells hcs hrest place
    rw [Bool.eq_false_iff.mpr hnegative] at hread
    obtain @⟨negative, whole, fraction, power', f, p, hwhole, -, -⟩ := hcs
    obtain ⟨d, ds, rfl⟩ := List.exists_cons_of_ne_nil hwhole.1.1
    refine ⟨_, behind, ?_, power, stop, rfl⟩
    simp only [List.cons_append] at hread ⊢
    rw [scalar_digit (hwhole.1.2 d List.mem_cons_self), hread]
    rfl

theorem scalar_enclosed {cs : List Char} {s : Option String} (hcs : Literal.Encloses cs s)
    (rest : List Char) (place : Place) :
    ∃ result behind, scalar ⟨cs ++ rest, place⟩ = .ok (result, ⟨rest, behind⟩) ∧
      ∃ r, result = .string r ∧ r.toOption = s := by
  obtain ⟨body, r, behind, rfl, hr, hread⟩ := Literal.read_of_encloses hcs rest (place.pass '"')
  refine ⟨_, behind, ?_, r, rfl, hr⟩
  simp only [List.cons_append, List.append_assoc, List.nil_append, scalar, Cursor.pass, hread,
    bind, Except.bind]

/-- A key and its colon are read up to what stands behind them. -/
theorem label_of_names {cs : List Char} {k : Option String} (h : Names cs k) {c : Char}
    (hc : begins c = true) (rest : List Char) (place : Place) :
    ∃ l behind, label ⟨cs ++ c :: rest, place⟩ = .ok (l, .ok (), ⟨c :: rest, behind⟩) ∧
      l.name.toOption = k := by
  obtain ⟨quoted, gap, space, hquoted, hgap, hspace, rfl⟩ := h
  obtain ⟨body, r, mid, rfl, hr, hread⟩ :=
    Literal.read_of_encloses hquoted (gap ++ ':' :: (space ++ c :: rest)) (place.pass '"')
  have hcolon := skipSpace_of_blank hgap (c := ':') rfl (space ++ c :: rest) mid
  have hskip := skipSpace_of_blank hspace (isSpace_of_begins hc) rest
    ((mid.passAll gap).pass ':')
  refine ⟨⟨r, mid, ⟨mid.passAll gap, some ':'⟩, ⟨mid.passAll gap, some ':'⟩⟩,
    ((mid.passAll gap).pass ':').passAll space, ?_, hr⟩
  simp only [List.cons_append, List.append_assoc, List.nil_append]
  simp [label, Cursor.pass, hread, bind, Except.bind, hcolon, hskip, Cursor.mark]

/-- The text, wherever it stands, is read up to its end, as a tree that satisfies `R`.  Two steps
down take at least one character, which bounds the descent. -/
def Taken (cs : List Char) (R : Tree → Prop) : Prop :=
  ∀ (fuel : Nat) (rest : List Char) (place : Place), 2 * cs.length ≤ fuel →
    Text.StopsAt Numeral.continues rest →
    ∃ t behind, value fuel ⟨cs ++ rest, place⟩ = (t, ⟨rest, behind⟩) ∧ R t

theorem Taken.imp {cs : List Char} {R R' : Tree → Prop} (h : Taken cs R)
    (himp : ∀ t, R t → R' t) : Taken cs R' := by
  intro fuel rest place hfuel hrest
  obtain ⟨t, behind, hvalue, ht⟩ := h fuel rest place hfuel hrest
  exact ⟨t, behind, hvalue, himp t ht⟩

/-- What is neither a list nor an object is read as a scalar. -/
theorem taken_scalar {c : Char} {tail : List Char} {S : Scalar → Prop} (hlist : c ≠ '[')
    (hobject : c ≠ '\x7b')
    (hscalar : ∀ rest place, Text.StopsAt Numeral.continues rest →
      ∃ s behind, scalar ⟨c :: tail ++ rest, place⟩ = .ok (s, ⟨rest, behind⟩) ∧ S s) :
    Taken (c :: tail) fun t => ∃ start s stop, t = .scalar start s stop ∧ S s := by
  intro fuel rest place hfuel hrest
  obtain ⟨s, behind, hscalar, hs⟩ := hscalar rest place hrest
  cases fuel with
  | zero => exact absurd hfuel (by simp)
  | succ fuel =>
    refine ⟨.scalar (Cursor.mark ⟨c :: tail ++ rest, place⟩) s behind, behind, ?_, _, _, _, rfl, hs⟩
    rw [value]
    split
    · rename_i heq
      exact absurd (List.cons.inj heq).1 hlist
    · rename_i heq
      exact absurd (List.cons.inj heq).1 hobject
    · rw [leaf, hscalar]

/-- A numeral is read as the number that it stands for, if it stands for one. -/
theorem taken_numeral {cs : List Char} {n : Numeral} (hcs : n.Spells cs) :
    Taken (if n.negative then '-' :: cs else cs) fun t => ∃ start s stop,
      t = .scalar start s stop ∧ ∃ power stop, s = .number (Numeral.placed n power stop) := by
  have hscalar := fun rest place (hrest : Text.StopsAt Numeral.continues rest) =>
    scalar_numeral hcs hrest place
  split at hscalar
  · rename_i hnegative
    rw [if_pos hnegative]
    exact taken_scalar (by decide) (by decide) hscalar
  · rename_i hnegative
    rw [if_neg hnegative]
    obtain @⟨negative, whole, fraction, power, f, p, hwhole, -, -⟩ := hcs
    obtain ⟨d, ds, rfl⟩ := List.exists_cons_of_ne_nil hwhole.1.1
    have hd := hwhole.1.2 d List.mem_cons_self
    exact taken_scalar (isDigit_ne hd rfl) (isDigit_ne hd rfl) hscalar

theorem taken_enclosed {cs : List Char} {s : Option String} (hcs : Literal.Encloses cs s) :
    Taken cs fun t => ∃ start result stop, t = .scalar start result stop ∧
      ∃ r, result = .string r ∧ r.toOption = s := by
  have hscalar := fun rest place (_ : Text.StopsAt Numeral.continues rest) =>
    scalar_enclosed hcs rest place
  obtain ⟨body, rfl, -⟩ := hcs
  exact taken_scalar (by decide) (by decide) hscalar

theorem taken_null : Taken ['n', 'u', 'l', 'l'] fun t => ∃ start s stop,
    t = .scalar start s stop ∧ s = .null :=
  taken_scalar (by decide) (by decide) fun _ _ _ => ⟨_, _, rfl, rfl⟩

theorem taken_bool (b : Bool) : Taken (boolText b) fun t => ∃ start s stop,
    t = .scalar start s stop ∧ s = .bool b := by
  cases b with
  | true => exact taken_scalar (by decide) (by decide) fun _ _ _ => ⟨_, _, rfl, rfl⟩
  | false => exact taken_scalar (by decide) (by decide) fun _ _ _ => ⟨_, _, rfl, rfl⟩

/-! One step of the descent, at each of the places where it may stand. -/

section

variable {gap next rest tail : List Char} {c : Char}

theorem value_noItems (fuel : Nat) (hgap : Blank gap) (rest : List Char) (place : Place) :
    ∃ start bracket behind, value (fuel + 1) ⟨'[' :: (gap ++ ']' :: rest), place⟩ =
      (.array start [] (.closed bracket), ⟨rest, behind⟩) := by
  refine ⟨⟨place, some '['⟩, ⟨(place.pass '[').passAll gap, some ']'⟩,
    ((place.pass '[').passAll gap).pass ']', ?_⟩
  have hskip := skipSpace_of_blank hgap (c := ']') rfl rest (place.pass '[')
  simp [value, Cursor.pass, hskip, Cursor.mark]

theorem value_items (fuel : Nat) (hgap : Blank gap) (hc : begins c = true) (tail : List Char)
    (place : Place) :
    ∃ start inner, value (fuel + 1) ⟨'[' :: (gap ++ c :: tail), place⟩ =
      (.array start (items fuel ⟨c :: tail, inner⟩).1 (items fuel ⟨c :: tail, inner⟩).2.1,
        (items fuel ⟨c :: tail, inner⟩).2.2) := by
  refine ⟨⟨place, some '['⟩, (place.pass '[').passAll gap, ?_⟩
  have hskip := skipSpace_of_blank hgap (isSpace_of_begins hc) tail (place.pass '[')
  simp [value, Cursor.pass, hskip, Cursor.mark, ne_bracket_of_begins hc]

theorem value_noMembers (fuel : Nat) (hgap : Blank gap) (rest : List Char) (place : Place) :
    ∃ start bracket behind, value (fuel + 1) ⟨'\x7b' :: (gap ++ '\x7d' :: rest), place⟩ =
      (.object start [] (.closed bracket), ⟨rest, behind⟩) := by
  refine ⟨⟨place, some '\x7b'⟩, ⟨(place.pass '\x7b').passAll gap, some '\x7d'⟩,
    ((place.pass '\x7b').passAll gap).pass '\x7d', ?_⟩
  have hskip := skipSpace_of_blank hgap (c := '\x7d') rfl rest (place.pass '\x7b')
  simp [value, Cursor.pass, hskip, Cursor.mark]

theorem value_members (fuel : Nat) (hgap : Blank gap) (tail : List Char) (place : Place) :
    ∃ start inner, value (fuel + 1) ⟨'\x7b' :: (gap ++ '"' :: tail), place⟩ =
      (.object start (members fuel ⟨'"' :: tail, inner⟩).1 (members fuel ⟨'"' :: tail, inner⟩).2.1,
        (members fuel ⟨'"' :: tail, inner⟩).2.2) := by
  refine ⟨⟨place, some '\x7b'⟩, (place.pass '\x7b').passAll gap, ?_⟩
  have hskip := skipSpace_of_blank hgap (c := '"') rfl tail (place.pass '\x7b')
  simp [value, Cursor.pass, hskip, Cursor.mark]

variable {fuel : Nat} {here : Cursor} {t : Tree} {mid : Place}

theorem items_last (hvalue : value fuel here = (t, ⟨gap ++ ']' :: rest, mid⟩))
    (ht : isWhole t = true) (hgap : Blank gap) :
    ∃ bracket behind, items (fuel + 1) here = ([t], .closed bracket, ⟨rest, behind⟩) := by
  refine ⟨⟨mid.passAll gap, some ']'⟩, (mid.passAll gap).pass ']', ?_⟩
  have hskip := skipSpace_of_blank hgap (c := ']') rfl rest mid
  rw [items, hvalue]
  simp [ht, hskip, Cursor.mark, Cursor.pass]

theorem items_more (hvalue : value fuel here = (t, ⟨gap ++ ',' :: (next ++ c :: tail), mid⟩))
    (ht : isWhole t = true) (hgap : Blank gap) (hnext : Blank next) (hc : begins c = true) :
    ∃ behind, items (fuel + 1) here =
      (t :: (items fuel ⟨c :: tail, behind⟩).1, (items fuel ⟨c :: tail, behind⟩).2) := by
  refine ⟨((mid.passAll gap).pass ',').passAll next, ?_⟩
  have hcomma := skipSpace_of_blank hgap (c := ',') rfl (next ++ c :: tail) mid
  have hskip := skipSpace_of_blank hnext (isSpace_of_begins hc) tail ((mid.passAll gap).pass ',')
  rw [items, hvalue]
  simp [ht, hcomma, hskip, Cursor.pass, ne_bracket_of_begins hc]

variable {l : Label} {inner : Cursor}

theorem members_last (hlabel : label here = .ok (l, .ok (), inner))
    (hvalue : value fuel inner = (t, ⟨gap ++ '\x7d' :: rest, mid⟩)) (ht : isWhole t = true)
    (hgap : Blank gap) :
    ∃ after bracket behind, members (fuel + 1) here =
      ([({ l with after := after }, t)], .closed bracket, ⟨rest, behind⟩) ∧
        after.next = some '\x7d' := by
  refine ⟨⟨mid.passAll gap, some '\x7d'⟩, ⟨mid.passAll gap, some '\x7d'⟩,
    (mid.passAll gap).pass '\x7d', ?_, rfl⟩
  have hskip := skipSpace_of_blank hgap (c := '\x7d') rfl rest mid
  rw [members, hlabel]
  simp [hvalue, ht, hskip, Cursor.mark, Cursor.pass]

theorem members_more (hlabel : label here = .ok (l, .ok (), inner))
    (hvalue : value fuel inner = (t, ⟨gap ++ ',' :: (next ++ '"' :: tail), mid⟩))
    (ht : isWhole t = true) (hgap : Blank gap) (hnext : Blank next) :
    ∃ after behind, members (fuel + 1) here =
      (({ l with after := after }, t) :: (members fuel ⟨'"' :: tail, behind⟩).1,
        (members fuel ⟨'"' :: tail, behind⟩).2) ∧ after.next = some ',' := by
  refine ⟨⟨mid.passAll gap, some ','⟩, ((mid.passAll gap).pass ',').passAll next, ?_, rfl⟩
  have hcomma := skipSpace_of_blank hgap (c := ',') rfl (next ++ '"' :: tail) mid
  have hskip := skipSpace_of_blank hnext (c := '"') rfl tail ((mid.passAll gap).pass ',')
  rw [members, hlabel]
  simp [hvalue, ht, hcomma, hskip, Cursor.mark, Cursor.pass]

end

/-! The steps together.  A list at fuel `n + 1` leaves `n` for its items and `n - 1` for the first
of them, so the items ask for one more than twice their length. -/

/-- The items of a list, and the blanks behind them, are read up to the bracket. -/
def TakenItems (cs : List Char) (R : List Tree → Prop) : Prop :=
  ∀ (fuel : Nat) (rest : List Char) (place : Place), 2 * cs.length + 1 ≤ fuel →
    ∃ ts bracket behind, items fuel ⟨cs ++ ']' :: rest, place⟩ =
      (ts, .closed bracket, ⟨rest, behind⟩) ∧ R ts

/-- The members of an object, and the blanks behind them, are read up to the bracket. -/
def TakenMembers (cs : List Char) (R : List (Label × Tree) → Prop) : Prop :=
  ∀ (fuel : Nat) (rest : List Char) (place : Place), 2 * cs.length + 1 ≤ fuel →
    ∃ ts bracket behind, members fuel ⟨cs ++ '\x7d' :: rest, place⟩ =
      (ts, .closed bracket, ⟨rest, behind⟩) ∧ R ts

theorem TakenItems.imp {cs : List Char} {R R' : List Tree → Prop} (h : TakenItems cs R)
    (himp : ∀ ts, R ts → R' ts) : TakenItems cs R' := by
  intro fuel rest place hfuel
  obtain ⟨ts, bracket, behind, hitems, hts⟩ := h fuel rest place hfuel
  exact ⟨ts, bracket, behind, hitems, himp ts hts⟩

theorem TakenMembers.imp {cs : List Char} {R R' : List (Label × Tree) → Prop}
    (h : TakenMembers cs R) (himp : ∀ ts, R ts → R' ts) : TakenMembers cs R' := by
  intro fuel rest place hfuel
  obtain ⟨ts, bracket, behind, hmembers, hts⟩ := h fuel rest place hfuel
  exact ⟨ts, bracket, behind, hmembers, himp ts hts⟩

section

variable {gap next cs key more : List Char} {k : Option String} {R : Tree → Prop}
  {Rs : List Tree → Prop} {Rms : List (Label × Tree) → Prop}

theorem taken_noItems (hgap : Blank gap) : Taken ('[' :: (gap ++ [']'])) fun t =>
    ∃ start bracket, t = .array start [] (.closed bracket) := by
  intro fuel rest place hfuel _
  cases fuel with
  | zero => exact absurd hfuel (by simp)
  | succ fuel =>
    obtain ⟨start, bracket, behind, hvalue⟩ := value_noItems fuel hgap rest place
    refine ⟨_, behind, ?_, start, bracket, rfl⟩
    rw [← hvalue]
    simp

theorem taken_array (hgap : Blank gap) (hhead : ∃ c tail, cs = c :: tail ∧ begins c = true)
    (hcs : TakenItems cs Rs) : Taken ('[' :: (gap ++ (cs ++ [']']))) fun t =>
      ∃ start ts bracket, t = .array start ts (.closed bracket) ∧ Rs ts := by
  intro fuel rest place hfuel _
  cases fuel with
  | zero => exact absurd hfuel (by simp)
  | succ fuel =>
    obtain ⟨c, tail, hhead, hc⟩ := hhead
    obtain ⟨start, inner, hvalue⟩ := value_items fuel hgap hc (tail ++ ']' :: rest) place
    obtain ⟨ts, bracket, behind, hitems, hts⟩ := hcs fuel rest inner (by simp at hfuel; omega)
    rw [hhead, List.cons_append] at hitems
    rw [hitems] at hvalue
    refine ⟨_, behind, ?_, start, ts, bracket, rfl, hts⟩
    rw [← hvalue, hhead]
    simp

theorem taken_noMembers (hgap : Blank gap) : Taken ('\x7b' :: (gap ++ ['\x7d'])) fun t =>
    ∃ start bracket, t = .object start [] (.closed bracket) := by
  intro fuel rest place hfuel _
  cases fuel with
  | zero => exact absurd hfuel (by simp)
  | succ fuel =>
    obtain ⟨start, bracket, behind, hvalue⟩ := value_noMembers fuel hgap rest place
    refine ⟨_, behind, ?_, start, bracket, rfl⟩
    rw [← hvalue]
    simp

theorem taken_object (hgap : Blank gap) (hhead : ∃ tail, cs = '"' :: tail)
    (hcs : TakenMembers cs Rms) : Taken ('\x7b' :: (gap ++ (cs ++ ['\x7d']))) fun t =>
      ∃ start ts bracket, t = .object start ts (.closed bracket) ∧ Rms ts := by
  intro fuel rest place hfuel _
  cases fuel with
  | zero => exact absurd hfuel (by simp)
  | succ fuel =>
    obtain ⟨tail, hhead⟩ := hhead
    obtain ⟨start, inner, hvalue⟩ := value_members fuel hgap (tail ++ '\x7d' :: rest) place
    obtain ⟨ts, bracket, behind, hmembers, hts⟩ := hcs fuel rest inner (by simp at hfuel; omega)
    rw [hhead, List.cons_append] at hmembers
    rw [hmembers] at hvalue
    refine ⟨_, behind, ?_, start, ts, bracket, rfl, hts⟩
    rw [← hvalue, hhead]
    simp

theorem takenItems_last (hcs : Taken cs R) (hR : ∀ t, R t → isWhole t = true) (hgap : Blank gap) :
    TakenItems (cs ++ gap) fun ts => ∃ t, ts = [t] ∧ R t := by
  intro fuel rest place hfuel
  cases fuel with
  | zero => exact absurd hfuel (by simp)
  | succ fuel =>
    obtain ⟨t, mid, hvalue, ht⟩ := hcs fuel (gap ++ ']' :: rest) place
      (by simp at hfuel; omega) (stopsAt_gap hgap (by decide) rest)
    obtain ⟨bracket, behind, hitems⟩ := items_last hvalue (hR t ht) hgap
    refine ⟨[t], bracket, behind, ?_, t, rfl, ht⟩
    rw [← hitems, List.append_assoc]

theorem takenItems_more (hcs : Taken cs R) (hR : ∀ t, R t → isWhole t = true) (hgap : Blank gap)
    (hnext : Blank next) (hhead : ∃ c tail, more = c :: tail ∧ begins c = true)
    (hmore : TakenItems more Rs) : TakenItems (cs ++ (gap ++ ',' :: (next ++ more))) fun ts =>
      ∃ t rest, ts = t :: rest ∧ R t ∧ Rs rest := by
  intro fuel rest place hfuel
  cases fuel with
  | zero => exact absurd hfuel (by simp)
  | succ fuel =>
    obtain ⟨c, tail, hhead, hc⟩ := hhead
    obtain ⟨t, mid, hvalue, ht⟩ := hcs fuel
      (gap ++ ',' :: (next ++ c :: (tail ++ ']' :: rest))) place
      (by simp at hfuel; omega) (stopsAt_gap hgap (by decide) _)
    obtain ⟨between, hstep⟩ := items_more hvalue (hR t ht) hgap hnext hc
    obtain ⟨ts, bracket, behind, hitems, hts⟩ := hmore fuel rest between (by simp at hfuel; omega)
    rw [hhead, List.cons_append] at hitems
    rw [hitems] at hstep
    refine ⟨t :: ts, bracket, behind, ?_, t, ts, rfl, ht, hts⟩
    rw [← hstep, hhead]
    simp

theorem takenMembers_last (hk : Names key k) (hhead : ∃ c tail, cs = c :: tail ∧ begins c = true)
    (hcs : Taken cs R) (hR : ∀ t, R t → isWhole t = true) (hgap : Blank gap) :
    TakenMembers (key ++ (cs ++ gap)) fun ts => ∃ l t, ts = [(l, t)] ∧ l.name.toOption = k ∧
      l.after.next = some '\x7d' ∧ R t := by
  intro fuel rest place hfuel
  cases fuel with
  | zero => exact absurd hfuel (by simp)
  | succ fuel =>
    obtain ⟨c, tail, rfl, hc⟩ := hhead
    obtain ⟨l, inner, hlabel, hl⟩ := label_of_names hk hc (tail ++ (gap ++ '\x7d' :: rest)) place
    obtain ⟨t, mid, hvalue, ht⟩ := hcs fuel (gap ++ '\x7d' :: rest) inner
      (by simp at hfuel ⊢; omega) (stopsAt_gap hgap (by decide) rest)
    obtain ⟨after, bracket, behind, hmembers, hafter⟩ := members_last hlabel hvalue (hR t ht) hgap
    refine ⟨_, bracket, behind, ?_, { l with after }, t, rfl, hl, hafter, ht⟩
    rw [← hmembers]
    simp

theorem takenMembers_more (hk : Names key k) (hhead : ∃ c tail, cs = c :: tail ∧ begins c = true)
    (hcs : Taken cs R) (hR : ∀ t, R t → isWhole t = true) (hgap : Blank gap) (hnext : Blank next)
    (hquote : ∃ tail, more = '"' :: tail) (hmore : TakenMembers more Rms) :
    TakenMembers (key ++ (cs ++ (gap ++ ',' :: (next ++ more)))) fun ts =>
      ∃ l t rest, ts = (l, t) :: rest ∧ l.name.toOption = k ∧ l.after.next = some ',' ∧ R t ∧
        Rms rest := by
  intro fuel rest place hfuel
  cases fuel with
  | zero => exact absurd hfuel (by simp)
  | succ fuel =>
    obtain ⟨c, tail, rfl, hc⟩ := hhead
    obtain ⟨behind, hquote⟩ := hquote
    obtain ⟨l, inner, hlabel, hl⟩ := label_of_names hk hc
      (tail ++ (gap ++ ',' :: (next ++ '"' :: (behind ++ '\x7d' :: rest)))) place
    obtain ⟨t, mid, hvalue, ht⟩ := hcs fuel
      (gap ++ ',' :: (next ++ '"' :: (behind ++ '\x7d' :: rest))) inner
      (by simp at hfuel ⊢; omega) (stopsAt_gap hgap (by decide) _)
    obtain ⟨after, between, hstep, hafter⟩ := members_more hlabel hvalue (hR t ht) hgap hnext
    obtain ⟨ts, bracket, stop, hmembers, hts⟩ := hmore fuel rest between (by simp at hfuel; omega)
    rw [hquote, List.cons_append] at hmembers
    rw [hmembers] at hstep
    refine ⟨_, bracket, stop, ?_, { l with after }, t, ts, rfl, hl, hafter, ht, hts⟩
    rw [← hstep, hquote]
    simp

end

/-- The text is read as a tree of the document. -/
def Depicted (cs : List Char) (d : Document) : Prop := Taken cs fun t => Depicts t d

-- The induction is on how the text is written.
mutual

theorem depicted_of_forms : {cs : List Char} → {d : Document} → Forms cs d → Depicted cs d
  | _, _, .null => taken_null.imp fun _ ⟨_, _, _, ht, hs⟩ => ht ▸ hs ▸ .null
  | _, _, .bool b => (taken_bool b).imp fun _ ⟨_, _, _, ht, hs⟩ => ht ▸ hs ▸ .bool b
  | _, _, .number hcs => (taken_numeral hcs).imp fun _ ⟨_, _, _, ht, _, _, hs⟩ =>
    ht ▸ hs ▸ .number (Numeral.toOption_placed _ _ _)
  | _, _, .string hcs => (taken_enclosed hcs).imp fun _ ⟨_, _, _, ht, _, hs, hr⟩ =>
    ht ▸ hs ▸ .string hr
  | _, _, .noItems hgap => (taken_noItems hgap).imp fun _ ⟨_, _, ht⟩ => ht ▸ .array .nil
  | _, _, .array hgap hcs =>
    (taken_array hgap (head_of_formsItems hcs) (items_of_forms hcs)).imp
      fun _ ⟨_, _, _, ht, hts⟩ => ht ▸ .array hts
  | _, _, .noMembers hgap => (taken_noMembers hgap).imp fun _ ⟨_, _, ht⟩ => ht ▸ .object .nil
  | _, _, .object hgap hcs =>
    (taken_object hgap (head_of_formsMembers hcs) (members_of_forms hcs)).imp
      fun _ ⟨_, _, _, ht, hts⟩ => ht ▸ .object hts.2

theorem items_of_forms : {cs : List Char} → {ds : List Document} → FormsItems cs ds →
    TakenItems cs fun ts => DepictsItems ts ds
  | _, _, .last hd hgap =>
    (takenItems_last (depicted_of_forms hd) (fun _ => isWhole_of_depicts) hgap).imp
      fun _ ⟨_, hts, ht⟩ => hts ▸ .cons ht .nil
  | _, _, .more hd hgap hnext hds =>
    (takenItems_more (depicted_of_forms hd) (fun _ => isWhole_of_depicts) hgap hnext
      (head_of_formsItems hds) (items_of_forms hds)).imp
      fun _ ⟨_, _, hts, ht, hrest⟩ => hts ▸ .cons ht hrest

theorem members_of_forms : {cs : List Char} → {ms : List (Option String × Document)} →
    FormsMembers cs ms → TakenMembers cs fun ts => ts ≠ [] ∧ DepictsMembers ts ms
  | _, _, .last hk hd hgap =>
    (takenMembers_last hk (head_of_forms hd) (depicted_of_forms hd) (fun _ => isWhole_of_depicts)
      hgap).imp fun _ ⟨_, _, hts, hl, hafter, ht⟩ =>
        hts ▸ ⟨List.cons_ne_nil _ _, .cons hl (iff_of_true hafter rfl) ht .nil⟩
  | _, _, .more hk hd hgap hnext hms =>
    (takenMembers_more hk (head_of_forms hd) (depicted_of_forms hd) (fun _ => isWhole_of_depicts)
      hgap hnext (head_of_formsMembers hms) (members_of_forms hms)).imp
      fun _ ⟨_, _, _, hts, hl, hafter, ht, hne, hrest⟩ =>
        hts ▸ ⟨List.cons_ne_nil _ _,
          .cons hl (iff_of_false (by rw [hafter]; decide) hne) ht hrest⟩

end

/-- The text is read as a tree of the value. -/
def Read (cs : List Char) (v : Json) : Prop := Taken cs fun t => Stands t v

theorem read_of_writes {cs : List Char} {v : Json} (h : Writes cs v) : Read cs v :=
  (depicted_of_forms (forms_of_writes h)).imp fun _ => stands_of_depicts

end Reader

open Reader in
/-- What is taken, with blanks around it, is the whole text. -/
theorem Tree.ofText_of_taken {text : String} {before cs after : List Char} {R : Tree → Prop}
    (hcs : Taken cs R) (hhead : ∃ c tail, cs = c :: tail ∧ begins c = true)
    (hbefore : Blank before) (hafter : Blank after)
    (htext : text.toList = before ++ (cs ++ after)) :
    ∃ t behind, Tree.ofText text = (t, behind) ∧ R t ∧ behind.next = none := by
  obtain ⟨c, tail, hhead, hc⟩ := hhead
  have hstop : Text.StopsAt Numeral.continues after := by
    cases after with
    | nil => exact Text.stopsAt_nil _
    | cons x cs =>
      exact Text.stopsAt_cons.mpr (continues_of_isSpace (hafter x List.mem_cons_self))
  have hskip : (Cursor.start text.toList).skipSpace =
      ⟨cs ++ after, Place.passAll ⟨1, 0⟩ before⟩ := by
    rw [Cursor.start, htext, hhead]
    exact skipSpace_of_blank hbefore (isSpace_of_begins hc) (tail ++ after) ⟨1, 0⟩
  have hlength : text.toList.length = before.length + (cs.length + after.length) := by
    rw [htext, List.length_append, List.length_append]
  obtain ⟨t, place, hvalue, ht⟩ := hcs (2 * text.toList.length + 2) after
    (Place.passAll ⟨1, 0⟩ before) (by omega) hstop
  have hend : Cursor.skipSpace ⟨after, place⟩ = ⟨[], place.passAll after⟩ := by
    have hall := Cursor.skipWhile_append hafter (Text.stopsAt_nil Cursor.isSpace) place
    rw [List.append_nil] at hall
    exact hall
  refine ⟨t, ⟨place.passAll after, none⟩, ?_, ht, rfl⟩
  rw [Tree.ofText]
  simp only [hskip, hvalue, hend, Cursor.mark, List.head?_nil]

open Reader in
/-- The tree of a document's text depicts the document, and nothing is left of the text behind
it. -/
theorem IsDocument.depicts {text : String} {d : Document} (h : IsDocument text d) :
    ∃ t behind, Tree.ofText text = (t, behind) ∧ Depicts t d ∧ behind.next = none := by
  obtain ⟨before, cs, after, hbefore, hcs, hafter, htext⟩ := h
  exact Tree.ofText_of_taken (depicted_of_forms hcs) (head_of_forms hcs) hbefore hafter htext

/-- A text is one document's at most. -/
theorem IsDocument.unique {text : String} {d d' : Document} (h : IsDocument text d)
    (h' : IsDocument text d') : d = d' := by
  obtain ⟨t, behind, htree, ht, -⟩ := h.depicts
  obtain ⟨t', behind', htree', ht', -⟩ := h'.depicts
  obtain ⟨rfl, -⟩ := Prod.mk.inj (htree.symm.trans htree')
  exact ht.unique ht'

open Reader in
/-- The tree of a text has the value's shape, and nothing is left of the text behind it. -/
theorem IsText.stands {text : String} {v : Json} (h : IsText text v) :
    ∃ t behind, Tree.ofText text = (t, behind) ∧ Stands t v ∧ behind.next = none := by
  obtain ⟨t, behind, htext, ht, hbehind⟩ := (isDocument_ofJson_iff.mpr h).depicts
  exact ⟨t, behind, htext, stands_of_depicts ht, hbehind⟩

end Json
end SdkShelf
