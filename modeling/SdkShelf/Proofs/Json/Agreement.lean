import SdkShelf.Proofs.Json.Double
import SdkShelf.Proofs.Json.RoundTrip

/-!
# Reading a value and reading its text

A value can be decoded as it stands, or written down and decoded from its text.  Both ways accept
the same values and give the same results, for every schema that takes in no double: the text of a
double need not read back as the same one.

The two readings run over two trees of one shape.  The one from the text has room for only so many
containers, and knows from its punctuation whether an object goes on.
-/

namespace SdkShelf
namespace Json

/-! ## Trees of one shape -/

/-- The number is read, but not as a whole one, or not read at all. -/
def NotWhole (n : Except Flawed Number) : Prop := ∀ i h, n ≠ .ok (.int i h)

mutual

/-- `Alike room t t'`: the trees have the same shape and the same scalars, but for doubles.  In the
first one containers nest no deeper than `room`, and a member of an object is followed by the
bracket if no other member comes. -/
inductive Alike : Nat → Tree → Tree → Prop
  | scalar {room : Nat} {start start' : Mark} (s : Scalar) {stop stop' : Place} :
      Alike room (.scalar start s stop) (.scalar start' s stop')
  | double {room : Nat} {start start' : Mark} {n n' : Except Flawed Number} {stop stop' : Place}
      (hn : NotWhole n) (hn' : NotWhole n') :
      Alike room (.scalar start (.number n) stop) (.scalar start' (.number n') stop')
  | array {room : Nat} {start start' bracket bracket' : Mark} {ts ts' : List Tree}
      (h : AlikeItems room ts ts') :
      Alike (room + 1) (.array start ts (.closed bracket)) (.array start' ts' (.closed bracket'))
  | object {room : Nat} {start start' bracket bracket' : Mark} {ts ts' : List (Label × Tree)}
      (h : AlikeMembers room ts ts') :
      Alike (room + 1) (.object start ts (.closed bracket)) (.object start' ts' (.closed bracket'))

inductive AlikeItems : Nat → List Tree → List Tree → Prop
  | nil {room : Nat} : AlikeItems room [] []
  | cons {room : Nat} {t t' : Tree} {ts ts' : List Tree} (h : Alike room t t')
      (hrest : AlikeItems room ts ts') : AlikeItems room (t :: ts) (t' :: ts')

inductive AlikeMembers : Nat → List (Label × Tree) → List (Label × Tree) → Prop
  | nil {room : Nat} : AlikeMembers room [] []
  | cons {room : Nat} {l l' : Label} {k : String} {t t' : Tree} {ts ts' : List (Label × Tree)}
      (hl : l.name = .ok k) (hl' : l'.name = .ok k)
      (hafter : l.after.next = some '\x7d' ↔ ts = []) (h : Alike room t t')
      (hrest : AlikeMembers room ts ts') : AlikeMembers room ((l, t) :: ts) ((l', t') :: ts')

end

/-! ## The tree of a compact text -/

namespace Reader

/-- The tree is like the one that stands for the value without a text. -/
def Shows (v : Json) (t : Tree) : Prop :=
  ∀ room, v.depth ≤ room → Alike room t (Tree.ofJson v)

theorem isWhole_of_alike {room : Nat} {t t' : Tree} (h : Alike room t t') : isWhole t = true := by
  cases h <;> rfl

theorem isWhole_of_shows {v : Json} (t : Tree) (h : Shows v t) : isWhole t = true :=
  isWhole_of_alike (h v.depth (Nat.le_refl _))

theorem shows_of_scalar {s : Scalar} {v : Json} (h : Tree.ofJson v = Tree.ofScalar s) (t : Tree) :
    (∃ start s' stop, t = .scalar start s' stop ∧ s' = s) → Shows v t := by
  rintro ⟨start, _, stop, rfl, rfl⟩ room _
  rw [h]
  exact .scalar _

/-- A character begins the text of a value. -/
theorem head_of_compact (v : Json) :
    ∃ c tail, compactChars v = c :: tail ∧ begins c = true := by
  have hnumeral : ∀ {n : Numeral} {cs : List Char}, n.Spells cs →
      ∃ c tail, (if n.negative then '-' :: cs else cs) = c :: tail ∧ begins c = true := by
    rintro n cs @⟨negative, whole, fraction, power, f, p, hwhole, -, -⟩
    split
    · exact ⟨'-', _, rfl, by decide⟩
    · obtain ⟨d, ds, rfl⟩ := List.exists_cons_of_ne_nil hwhole.1.1
      exact ⟨d, _, rfl, begins_of_isDigit (hwhole.1.2 d List.mem_cons_self)⟩
  cases v with
  | null => exact ⟨_, _, rfl, by decide⟩
  | bool b => cases b <;> exact ⟨_, _, rfl, by decide⟩
  | number n =>
    cases n with
    | int i hi => exact head_of_writes (writes_intText hi)
    | float x =>
      obtain ⟨n, cs, hcs, -, htext⟩ := Decimal.exists_spells_floatText x
      obtain ⟨c, tail, hhead, hc⟩ := hnumeral hcs
      exact ⟨c, tail, htext.trans hhead, hc⟩
  | string s => exact ⟨_, _, rfl, by decide⟩
  | array items => cases items <;> exact ⟨_, _, rfl, by decide⟩
  | object members => cases members <;> exact ⟨_, _, rfl, by decide⟩

theorem names_stringText (k : String) : Names (stringText k ++ [':']) (some k) :=
  names_some_iff.mpr ⟨stringText k, [], [], quoted_stringText k, blank_nil, blank_nil, rfl⟩

theorem head_of_label (k : String) (rest : List Char) :
    ∃ tail, stringText k ++ [':'] ++ rest = '"' :: tail :=
  ⟨_, rfl⟩

theorem taken_number (n : Number) : Taken n.text (Shows (.number n)) := by
  cases n with
  | int i hi =>
    refine (read_of_writes (writes_intText hi)).imp fun t ht => ?_
    obtain ⟨start, stop, rfl⟩ := Tree.holds_int ht.1
    exact fun _ _ => .scalar _
  | float x =>
    obtain ⟨n, cs, hcs, hdecimal, htext⟩ := Decimal.exists_spells_floatText x
    rw [Number.text, htext]
    refine (taken_numeral hcs).imp ?_
    rintro _ ⟨start, _, stop, rfl, power, stop', rfl⟩ room -
    refine .double (fun i hi hn => ?_) fun i hi hn => Number.noConfusion (Except.ok.inj hn)
    exact Numeral.value_ne_int hdecimal i hi (Numeral.placed_eq_ok_iff.mp hn)

theorem takenItems_compact {v : Json} {vs : List Json}
    (h : ∀ w ∈ v :: vs, Taken (compactChars w) (Shows w)) :
    TakenItems (compactChars v ++ compactItems vs) fun ts =>
      ∀ room, depthItems (v :: vs) ≤ room → AlikeItems room ts (Tree.ofItems (v :: vs)) := by
  induction vs generalizing v with
  | nil =>
    refine (takenItems_last (h v List.mem_cons_self) isWhole_of_shows blank_nil).imp ?_
    rintro _ ⟨t, rfl, ht⟩ room hroom
    exact .cons (ht room (Nat.max_le.mp hroom).1) .nil
  | cons w vs ih =>
    have hrest := ih fun x hx => h x (List.mem_cons_of_mem _ hx)
    have hhead : ∃ c tail, compactChars w ++ compactItems vs = c :: tail ∧ begins c = true := by
      obtain ⟨c, tail, hw, hc⟩ := head_of_compact w
      exact ⟨c, tail ++ compactItems vs, by rw [hw, List.cons_append], hc⟩
    refine (takenItems_more (h v List.mem_cons_self) isWhole_of_shows blank_nil blank_nil hhead
      hrest).imp ?_
    rintro _ ⟨t, ts, rfl, ht, hts⟩ room hroom
    exact .cons (ht room (Nat.max_le.mp hroom).1) (hts room (Nat.max_le.mp hroom).2)

theorem takenMembers_compact {k : String} {v : Json} {ms : List (String × Json)}
    (h : ∀ m ∈ (k, v) :: ms, Taken (compactChars m.2) (Shows m.2)) :
    TakenMembers (stringText k ++ [':'] ++ (compactChars v ++ compactMembers ms)) fun ts =>
      ts ≠ [] ∧ ∀ room, depthMembers ((k, v) :: ms) ≤ room →
        AlikeMembers room ts (Tree.ofMembers ((k, v) :: ms)) := by
  induction ms generalizing k v with
  | nil =>
    refine (takenMembers_last (names_stringText k) (head_of_compact v) (h _ List.mem_cons_self)
      isWhole_of_shows blank_nil).imp ?_
    rintro _ ⟨l, t, rfl, hl, hafter, ht⟩
    refine ⟨List.cons_ne_nil _ _, fun room hroom => ?_⟩
    exact .cons (toOption_eq_some_iff.mp hl) rfl (iff_of_true hafter rfl)
      (ht room (Nat.max_le.mp hroom).1) .nil
  | cons m ms ih =>
    obtain ⟨k', w⟩ := m
    have hrest := ih fun x hx => h x (List.mem_cons_of_mem _ hx)
    have hmore := takenMembers_more (names_stringText k) (head_of_compact v)
      (h _ List.mem_cons_self) isWhole_of_shows blank_nil blank_nil (head_of_label k' _) hrest
    simp only [compactMembers, List.append_assoc, List.cons_append, List.nil_append] at hmore ⊢
    refine hmore.imp ?_
    rintro _ ⟨l, t, ts, rfl, hl, hafter, ht, hne, hts⟩
    refine ⟨List.cons_ne_nil _ _, fun room hroom => ?_⟩
    refine .cons (toOption_eq_some_iff.mp hl) rfl (iff_of_false ?_ hne)
      (ht room (Nat.max_le.mp hroom).1) (hts room (Nat.max_le.mp hroom).2)
    rw [hafter]
    decide

/-- The compact text of a value is read to its end, as a tree like that of the value itself. -/
theorem taken_compact (v : Json) : Taken (compactChars v) (Shows v) := by
  induction v using byParts with
  | null => exact taken_null.imp (shows_of_scalar rfl)
  | bool b => exact (taken_bool b).imp (shows_of_scalar rfl)
  | number n => exact taken_number n
  | string s =>
    refine (taken_enclosed (Literal.encloses_some_iff.mpr (quoted_stringText s))).imp ?_
    rintro t ⟨start, _, stop, rfl, r, rfl, hr⟩
    rw [toOption_eq_some_iff.mp hr]
    exact fun _ _ => .scalar _
  | array items ih =>
    cases items with
    | nil =>
      refine (taken_noItems blank_nil).imp ?_
      rintro _ ⟨start, bracket, rfl⟩ room hroom
      obtain ⟨room, rfl⟩ := Nat.exists_eq_add_of_le' hroom
      exact .array .nil
    | cons v vs =>
      have hhead : ∃ c tail, compactChars v ++ compactItems vs = c :: tail ∧ begins c = true := by
        obtain ⟨c, tail, hv, hc⟩ := head_of_compact v
        exact ⟨c, tail ++ compactItems vs, by rw [hv, List.cons_append], hc⟩
      have harray := taken_array blank_nil hhead (takenItems_compact ih)
      refine harray.imp ?_
      rintro _ ⟨start, ts, bracket, rfl, hts⟩ room hroom
      obtain ⟨room, rfl⟩ := Nat.exists_eq_add_of_le' (Nat.le_of_add_left_le hroom)
      exact .array (hts room (Nat.le_of_succ_le_succ hroom))
  | object members ih =>
    cases members with
    | nil =>
      refine (taken_noMembers blank_nil).imp ?_
      rintro _ ⟨start, bracket, rfl⟩ room hroom
      obtain ⟨room, rfl⟩ := Nat.exists_eq_add_of_le' hroom
      exact .object .nil
    | cons m ms =>
      obtain ⟨k, v⟩ := m
      have hobject := taken_object blank_nil (head_of_label k _) (takenMembers_compact ih)
      simp only [compactChars, List.append_assoc, List.cons_append, List.nil_append] at hobject ⊢
      refine hobject.imp ?_
      rintro _ ⟨start, ts, bracket, rfl, -, hts⟩ room hroom
      obtain ⟨room, rfl⟩ := Nat.exists_eq_add_of_le' (Nat.le_of_add_left_le hroom)
      exact .object (hts room (Nat.le_of_succ_le_succ hroom))

theorem exists_ofText_compact (v : Json) :
    ∃ t behind, Tree.ofText v.compact = (t, behind) ∧ Shows v t ∧ behind.next = none := by
  have htext : v.compact.toList = [] ++ (compactChars v ++ []) := by
    rw [compact, String.toList_ofList, List.append_nil, List.nil_append]
  exact Tree.ofText_of_taken (taken_compact v) (head_of_compact v) blank_nil blank_nil htext

end Reader

/-! ## Decoding like trees -/

section

variable {room : Nat} {t t' : Tree} {α : Type}

theorem Alike.isNull_eq (h : Alike room t t') : t.isNull = t'.isNull := by
  cases h with
  | scalar s => cases s <;> rfl
  | double _ _ | array _ | object _ => rfl

namespace Tree

theorem toOption_string (expected : String) (h : Alike room t t') :
    (t.string expected).toOption = (t'.string expected).toOption := by
  cases h with
  | scalar s =>
    cases s with
    | string s => cases s <;> rfl
    | null | bool _ | number _ => rfl
  | double _ _ | array _ | object _ => rfl

theorem toOption_bool (expected : String) (h : Alike room t t') :
    (t.bool expected).toOption = (t'.bool expected).toOption := by
  cases h with
  | scalar s => cases s <;> rfl
  | double _ _ | array _ | object _ => rfl

theorem toOption_whole_of_notWhole (expected : String) (fit : Int → Option α)
    {n : Except Flawed Number} (hn : NotWhole n) (start : Mark) (stop : Place) :
    ((Tree.scalar start (.number n) stop).whole expected fit).toOption = none := by
  cases n with
  | error f => rfl
  | ok x =>
    cases x with
    | int i hi => exact absurd rfl (hn i hi)
    | float x => rfl

theorem toOption_whole (expected : String) (fit : Int → Option α) (h : Alike room t t') :
    (t.whole expected fit).toOption = (t'.whole expected fit).toOption := by
  cases h with
  | scalar s =>
    cases s with
    | number n =>
      cases n with
      | error f => rfl
      | ok x =>
        cases x with
        | int i hi =>
          rw [whole, whole]
          cases fit i <;> rfl
        | float x => rfl
    | null | bool _ | string _ => rfl
  | double hn hn' => rw [toOption_whole_of_notWhole _ _ hn, toOption_whole_of_notWhole _ _ hn']
  | array _ | object _ => rfl

theorem toOption_spelled (expected : String) (readText : String → Except String α)
    (h : Alike room t t') :
    (t.spelled expected readText).toOption = (t'.spelled expected readText).toOption := by
  cases h with
  | scalar s =>
    cases s with
    | string s =>
      cases s with
      | error f => rfl
      | ok s =>
        rw [spelled, spelled]
        cases readText s <;> rfl
    | null | bool _ | number _ => rfl
  | double _ _ | array _ | object _ => rfl

theorem toOption_named (cases : List (String × α)) (name : String) (stop : Place) :
    (named cases name stop).toOption = (cases.find? fun c => c.1 = name).map (·.2) := by
  rw [named]
  cases cases.find? fun c => c.1 = name <;> rfl

theorem toOption_unit (t : Tree) : t.unit.toOption = if t.isNull then some () else none := by
  rw [unit]
  split <;> rfl

/-- The one member of an object names a case.  A text shows by the bracket behind it that no other
follows. -/
theorem toOption_choice_object (cases : List (String × α)) {start start' bracket bracket' : Mark}
    {ts ts' : List (Label × Tree)} (h : AlikeMembers room ts ts') :
    ((Tree.object start ts (.closed bracket)).choice cases (.text (room + 1))).toOption =
      ((Tree.object start' ts' (.closed bracket')).choice cases .value).toOption := by
  cases h with
  | nil => rfl
  | @cons _ l l' k t t' ts ts' hl hl' hafter ht hrest =>
    have hname : (named cases k l.stop).toOption = (named cases k l'.stop).toOption := by
      rw [toOption_named, toOption_named]
    have hunit : t.unit.toOption = t'.unit.toOption := by
      rw [toOption_unit, toOption_unit, ht.isNull_eq]
    cases hrest with
    | nil =>
      have hbracket := hafter.mpr rfl
      simp only [choice, Origin.enter, key_of_name hl, key_of_name hl', hbracket, toOption_bind,
        toOption_ok, Option.bind_some, hname, hunit]
    | cons _ _ _ _ _ =>
      simp only [choice, Origin.enter, key_of_name hl, toOption_bind, toOption_ok, toOption_error,
        Option.bind_some]
      refine Option.bind_eq_none_iff.mpr fun a _ => Option.bind_eq_none_iff.mpr fun _ _ => ?_
      split
      · rename_i hbracket
        exact absurd (hafter.mp hbracket) (List.cons_ne_nil _ _)
      · rfl
      · rfl

theorem toOption_choice (cases : List (String × α)) (h : Alike room t t') :
    (t.choice cases (.text room)).toOption = (t'.choice cases .value).toOption := by
  cases h with
  | scalar s =>
    cases s with
    | string s =>
      cases s with
      | error f => rfl
      | ok s =>
        simp only [choice, toOption_named]
    | null | bool _ | number _ => rfl
  | double _ _ | array _ => rfl
  | object h => exact toOption_choice_object cases h

/-! ### Lists and members -/

theorem toOption_eachItem_of_alike {item item' : Tree → Except DecodeError α} {ts ts' : List Tree}
    (h : AlikeItems room ts ts')
    (hitem : ∀ t t', Alike room t t' → (item t).toOption = (item' t').toOption) :
    (eachItem item ts).toOption = (eachItem item' ts').toOption := by
  induction ts generalizing ts' with
  | nil =>
    cases h
    rfl
  | cons t ts ih =>
    cases h with
    | cons h hrest => simp only [eachItem, toOption_bind, hitem _ _ h, ih hrest, toOption_ok]

theorem toOption_eachMember_of_alike {item item' : Tree → Except DecodeError α}
    {ts ts' : List (Label × Tree)} (h : AlikeMembers room ts ts')
    (hitem : ∀ t t', Alike room t t' → (item t).toOption = (item' t').toOption) :
    (eachMember item ts).toOption = (eachMember item' ts').toOption := by
  induction ts generalizing ts' with
  | nil =>
    cases h
    rfl
  | cons member ts ih =>
    cases h with
    | cons hl hl' _ h hrest =>
      simp only [eachMember, key_of_name hl, key_of_name hl', toOption_bind, toOption_ok,
        Option.bind_some, hitem _ _ h, ih hrest]

theorem toOption_eachSlot_of_alike {σ : Type}
    {fill fill' : Label → String → Tree → σ → Except DecodeError σ}
    {ts ts' : List (Label × Tree)} (h : AlikeMembers room ts ts')
    (hfill : ∀ l l' k t t' slots, Alike room t t' →
      (fill l k t slots).toOption = (fill' l' k t' slots).toOption) (slots : σ) :
    (eachSlot fill ts slots).toOption = (eachSlot fill' ts' slots).toOption := by
  induction ts generalizing ts' slots with
  | nil =>
    cases h
    rfl
  | cons member ts ih =>
    cases h with
    | @cons _ l l' k t t' _ _ hl hl' _ h hrest =>
      simp only [eachSlot, key_of_name hl, key_of_name hl', toOption_bind, toOption_ok,
        Option.bind_some, hfill l l' k t t' slots h, ih hrest]

mutual

/-- Nothing in a tree that is like another one stops a skipping reading. -/
theorem skim_of_alike : {room : Nat} → {t t' : Tree} → Alike room t t' →
    t.skim = .ok () ∧ t'.skim = .ok ()
  | _, _, _, .scalar _ => ⟨rfl, rfl⟩
  | _, _, _, .double _ _ => ⟨rfl, rfl⟩
  | _, _, _, .array h => by
    obtain ⟨hskim, hskim'⟩ := skimItems_of_alike h
    exact ⟨by rw [skim, hskim]; rfl, by rw [skim, hskim']; rfl⟩
  | _, _, _, .object h => by
    obtain ⟨hskim, hskim'⟩ := skimMembers_of_alike h
    exact ⟨by rw [skim, hskim]; rfl, by rw [skim, hskim']; rfl⟩

theorem skimItems_of_alike : {room : Nat} → {ts ts' : List Tree} → AlikeItems room ts ts' →
    skimItems ts = .ok () ∧ skimItems ts' = .ok ()
  | _, _, _, .nil => ⟨rfl, rfl⟩
  | _, _, _, .cons h hrest => by
    obtain ⟨hskim, hskim'⟩ := skim_of_alike h
    obtain ⟨hskims, hskims'⟩ := skimItems_of_alike hrest
    exact ⟨by rw [skimItems, hskim]; exact hskims, by rw [skimItems, hskim']; exact hskims'⟩

theorem skimMembers_of_alike : {room : Nat} → {ts ts' : List (Label × Tree)} →
    AlikeMembers room ts ts' → skimMembers ts = .ok () ∧ skimMembers ts' = .ok ()
  | _, _, _, .nil => ⟨rfl, rfl⟩
  | _, _, _, .cons _ _ _ h hrest => by
    obtain ⟨hskim, hskim'⟩ := skim_of_alike h
    obtain ⟨hskims, hskims'⟩ := skimMembers_of_alike hrest
    exact ⟨by rw [skimMembers, hskim]; exact hskims, by rw [skimMembers, hskim']; exact hskims'⟩

end

end Tree

theorem AlikeItems.length_eq {ts ts' : List Tree} (h : AlikeItems room ts ts') :
    ts.length = ts'.length := by
  match h with
  | .nil => rfl
  | .cons _ hrest => rw [List.length_cons, List.length_cons, hrest.length_eq]

/-- Whether a list goes on behind the items that are wanted of it is a matter of their number. -/
theorem Tree.toOption_checkSurplus (o : Origin) (size : Nat) (start bracket : Mark)
    (left : List Tree) : (checkSurplus o size start left (.closed bracket)).toOption =
      if left.length = 0 then some () else none := by
  cases left with
  | nil => rfl
  | cons t rest => cases o <;> rfl

end

mutual

/-- No part of the schema takes in a double. -/
def Schema.isExact : {α : Type} → Schema α → Bool
  | _, .json => false
  | _, .string => true
  | _, .bool => true
  | _, .uint16 => true
  | _, .uint64 => true
  | _, .int64 => true
  | _, .float => false
  | _, .spelled _ _ _ => true
  | _, .choice _ _ => true
  | _, .option inner => inner.isExact
  | _, .orNull _ inner => inner.isExact
  | _, .list inner => inner.isExact
  | _, .map inner => inner.isExact
  | _, .record _ fields _ _ => fields.isExact

def Fields.isExact : {γ σ : Type} → Fields γ σ → Bool
  | _, _, .nil => true
  | _, _, .cons _ _ schema _ _ rest => schema.isExact && rest.isExact

end

/-! ### Records that stand as lists -/

section

variable {α γ σ : Type}

/-- What a record takes of a list: its parts, and how many items are left over. -/
def Fields.taken (fields : Fields γ σ) (o : Origin) (short : Nat → DecodeError) (bracket : Mark)
    (i : Nat) (ts : List Tree) : Option (γ × Nat) :=
  (fields.gather o short (.closed bracket) i ts).toOption.map fun r => (r.1, r.2.length)

variable {name : String} {aliases : List String} {schema : Schema α} {absent : Option α}
  {hidden : α → Bool} {rest : Fields γ σ} {o : Origin} {short : Nat → DecodeError} {bracket : Mark}
  {i : Nat}

theorem Fields.taken_cons (t : Tree) (ts : List Tree) :
    (Fields.cons name aliases schema absent hidden rest).taken o short bracket i (t :: ts) =
      (schema.decode o t).toOption.bind fun a =>
        (rest.taken o short bracket (i + 1) ts).map fun r => ((a, r.1), r.2) := by
  rw [taken, gather]
  cases schema.decode o t with
  | error e => rfl
  | ok a =>
    rw [taken]
    show Option.map _ (Except.toOption (Except.bind
      (rest.gather o short (.closed bracket) (i + 1) ts) _)) = _
    cases rest.gather o short (.closed bracket) (i + 1) ts <;> rfl

theorem Fields.taken_absent :
    (Fields.cons name aliases schema absent hidden rest).taken o short bracket i [] =
      absent.bind fun a =>
        (rest.taken o short bracket (i + 1) []).map fun r => ((a, r.1), r.2) := by
  rw [taken]
  cases absent with
  | none => rfl
  | some a =>
    rw [taken, gather]
    show Option.map _ (Except.toOption (Except.bind
      (rest.gather o short (.closed bracket) (i + 1) []) _)) = _
    cases rest.gather o short (.closed bracket) (i + 1) [] <;> rfl

/-- A record is read from a list that it uses up. -/
theorem Tree.toOption_record_array (recordName : String) (fields : Fields γ σ)
    {fill : Origin → Label → String → Tree → σ → Except DecodeError σ} {o : Origin}
    {start bracket : Mark} (inner : Origin) (henter : o.enter start = .ok inner)
    (ts : List Tree) :
    ((Tree.array start ts (.closed bracket)).record recordName fields fill fields.gather
        o).toOption =
      (fields.taken inner
        (fun i => .ofMismatch (.length i (fields.countText recordName)) bracket.peeked) bracket 0
        ts).bind fun r => if r.2 = 0 then some r.1 else none := by
  simp only [record, henter, Fields.taken, toOption_bind, toOption_ok, Option.bind_some,
    toOption_checkSurplus, Option.bind_map, Ending.stop]
  congr 1
  funext r
  rw [Function.comp]
  split <;> rfl

theorem Schema.decode_record_array_iff {recordName : String} {fields : Fields γ σ} {make : γ → α}
    {parts : α → γ} {start : Mark} {ts : List Tree} {a : α} :
    (Schema.record recordName fields make parts).decode o (.array start ts (.closed bracket)) =
        .ok a ↔
      ∃ inner taken, o.enter start = .ok inner ∧
        fields.taken inner (fun i => .ofMismatch
          (.length i (fields.countText ("struct " ++ recordName))) bracket.peeked) bracket 0 ts =
            some (taken, 0) ∧ make taken = a := by
  rw [decode, ← toOption_eq_some_iff, toOption_map, Option.map_eq_some_iff]
  cases henter : o.enter start with
  | error e =>
    refine iff_of_false ?_ nofun
    rintro ⟨taken, h, -⟩
    rw [toOption_eq_some_iff, Tree.record, henter] at h
    exact nomatch h
  | ok inner =>
    simp only [Tree.toOption_record_array _ _ inner henter, Option.bind_eq_some_iff]
    constructor
    · rintro ⟨taken, ⟨⟨taken', left⟩, htaken, hleft⟩, rfl⟩
      split at hleft
      · rename_i hzero
        obtain rfl : left = 0 := hzero
        obtain rfl := Option.some.inj hleft
        exact ⟨inner, taken', rfl, htaken, rfl⟩
      · exact nomatch hleft
    · rintro ⟨_, taken, ⟨⟩, htaken, rfl⟩
      exact ⟨taken, ⟨(taken, 0), htaken, rfl⟩, rfl⟩

end

mutual

/-- Like trees are decoded alike. -/
theorem Schema.toOption_decode : {α : Type} → (s : Schema α) → s.isExact = true →
    {room : Nat} → {t t' : Tree} → Alike room t t' →
    (s.decode (.text room) t).toOption = (s.decode .value t').toOption
  | _, .json, hs, _, _, _, _ => Bool.noConfusion hs
  | _, .string, _, _, _, _, h => by
    rw [Schema.decode, Schema.decode, Tree.toOption_string _ h]
  | _, .bool, _, _, _, _, h => by
    rw [Schema.decode, Schema.decode, Tree.toOption_bool _ h]
  | _, .uint16, _, _, _, _, h => by
    rw [Schema.decode, Schema.decode, Tree.toOption_whole _ _ h]
  | _, .uint64, _, _, _, _, h => by
    rw [Schema.decode, Schema.decode, Tree.toOption_whole _ _ h]
  | _, .int64, _, _, _, _, h => by
    rw [Schema.decode, Schema.decode, Tree.toOption_whole _ _ h]
  | _, .float, hs, _, _, _, _ => Bool.noConfusion hs
  | _, .spelled _ _ _, _, _, _, _, h => by
    rw [Schema.decode, Schema.decode, Tree.toOption_spelled _ _ h]
  | _, .choice _ _, _, _, _, _, h => by
    rw [Schema.decode, Schema.decode, Tree.toOption_choice _ h]
  | _, .option inner, hs, _, _, _, h => by
    rw [Schema.decode, Schema.decode, h.isNull_eq]
    split
    · rfl
    · rw [toOption_map, toOption_map, inner.toOption_decode hs h]
  | _, .orNull _ inner, hs, _, _, _, h => by
    rw [Schema.decode, Schema.decode, h.isNull_eq]
    split
    · rfl
    · exact inner.toOption_decode hs h
  | _, .list inner, hs, _, _, _, h => by
    rw [Schema.decode, Schema.decode]
    cases h with
    | scalar _ | double _ _ | object _ => rfl
    | array h =>
      have hitems := Tree.toOption_eachItem_of_alike h fun _ _ h => inner.toOption_decode hs h
      simp only [Tree.list, Origin.enter, Ending.checkList, Ending.listFault?, toOption_bind,
        toOption_ok, Option.bind_some, hitems]
  | _, .map inner, hs, _, _, _, h => by
    rw [Schema.decode, Schema.decode]
    cases h with
    | scalar _ | double _ _ | array _ => rfl
    | object h =>
      have hmembers := Tree.toOption_eachMember_of_alike h fun _ _ h => inner.toOption_decode hs h
      simp only [Tree.map, Origin.enter, Ending.checkObject, Ending.objectFault?, toOption_bind,
        toOption_ok, Option.bind_some, hmembers]
  | _, .record name fields make _, hs, _, _, _, h => by
    rw [Schema.decode, Schema.decode, toOption_map, toOption_map]
    cases h with
    | scalar _ | double _ _ => rfl
    | array h =>
      rw [Tree.toOption_record_array _ _ (.text _) rfl, Tree.toOption_record_array _ _ .value rfl,
        fields.taken_eq hs h]
    | object h =>
      have hslots := Tree.toOption_eachSlot_of_alike h
        (fun l l' k _ _ slots h => fields.toOption_fill hs l l' k h slots) fields.unfilled
      simp only [Tree.record, Origin.enter, Ending.checkObject, Ending.objectFault?, toOption_bind,
        toOption_ok, Option.bind_some, hslots, toOption_mapError]

theorem Fields.toOption_fill : {γ σ : Type} → (fields : Fields γ σ) → fields.isExact = true →
    {room : Nat} → (l l' : Label) → (key : String) → {t t' : Tree} → Alike room t t' →
    (slots : σ) →
    (fields.fill (.text room) l key t slots).toOption =
      (fields.fill .value l' key t' slots).toOption
  | _, _, .nil, _, _, _, _, _, _, _, h, _ => by
    rw [Fields.fill, Fields.fill, (Tree.skim_of_alike h).1, (Tree.skim_of_alike h).2]
  | _, _, .cons name aliases schema _ _ rest, hs, _, l, l', key, _, _, h, (slot, slots) => by
    obtain ⟨hschema, hrest⟩ := Bool.and_eq_true_iff.mp hs
    by_cases hkey : key = name ∨ key ∈ aliases
    · cases slot with
      | some a =>
        rw [Fields.fill, Fields.fill, if_pos hkey, if_pos hkey]
        rfl
      | none =>
        rw [fill_own _ _ _ hkey, fill_own _ _ _ hkey, toOption_map, toOption_map,
          schema.toOption_decode hschema h]
    · rw [fill_other _ _ _ _ (not_or.mp hkey), fill_other _ _ _ _ (not_or.mp hkey), toOption_map,
        toOption_map, rest.toOption_fill hrest l l' key h]

theorem Fields.taken_eq : {γ σ : Type} → (fields : Fields γ σ) → fields.isExact = true →
    {room : Nat} → {ts ts' : List Tree} → AlikeItems room ts ts' →
    {short short' : Nat → DecodeError} → {bracket bracket' : Mark} → {i : Nat} →
    fields.taken (.text room) short bracket i ts = fields.taken .value short' bracket' i ts'
  | _, _, .nil, _, _, _, _, h, _, _, _, _, _ => by
    show some ((), _) = some ((), _)
    rw [h.length_eq]
  | _, _, .cons _ _ schema _ _ rest, hs, _, _, _, .nil, _, _, _, _, _ => by
    rw [Fields.taken_absent, Fields.taken_absent, rest.taken_eq (Bool.and_eq_true_iff.mp hs).2 .nil]
  | _, _, .cons _ _ schema _ _ rest, hs, _, _, _, .cons h hts, _, _, _, _, _ => by
    obtain ⟨hschema, hrest⟩ := Bool.and_eq_true_iff.mp hs
    rw [Fields.taken_cons, Fields.taken_cons, schema.toOption_decode hschema h,
      rest.taken_eq hrest hts]

end

/-! ## Values and their texts -/

/-- A schema without doubles reads the same from a value that nests no deeper than a text may as
from the value's compact text. -/
theorem Schema.toOption_ofText_compact {α : Type} {s : Schema α} (hs : s.isExact = true) {v : Json}
    (hdepth : v.canonical.depth ≤ depthLimit) :
    (s.ofText v.canonical.compact).toOption = (s.ofJson v).toOption := by
  obtain ⟨t, behind, htree, ht, hbehind⟩ := Reader.exists_ofText_compact v.canonical
  rw [ofText, ofJson, htree, toOption_mapError, toOption_bind,
    s.toOption_decode hs (ht depthLimit hdepth)]
  simp only [hbehind, toOption_ok, Option.bind_fun_some]

end Json
end SdkShelf
