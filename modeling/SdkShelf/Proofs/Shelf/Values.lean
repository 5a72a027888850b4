import SdkShelf.Proofs.Json.Quoted
import SdkShelf.Proofs.Shelf.Collection

/-!
# Saved values

A value that is accepted by the store is loaded again.  Most values are stored as JSON and read by
the first attempt; methods and points in time are stored as bare texts, which only the second
attempt reads.
-/

namespace SdkShelf
namespace Shelf

/-- The types of the values that are given back as they were saved. -/
inductive Kind : Type → Type where
  | word : Kind UInt64
  | signed : Kind Int64
  | flag : Kind Bool
  | texts : Kind (List String)
  | method : Kind Http.Method
  | time : Kind Timestamp
  | endpoint : Kind Api.Endpoint
  | spec : Kind Api.Spec
  | projects : Kind (List Project)
  | json : Kind Json

namespace Kind

variable {α : Type}

def schema : {α : Type} → Kind α → Json.Schema α
  | _, word => .uint64
  | _, signed => .int64
  | _, flag => .bool
  | _, texts => .list .string
  | _, method => Http.Method.schema
  | _, time => Timestamp.schema
  | _, endpoint => Api.Endpoint.schema
  | _, spec => Api.Spec.schema
  | _, projects => Project.listSchema
  | _, json => .json

/-- A JSON value must be no string, may nest as deep as a text allows, and has whole numbers only.
Its objects have their members in order, each key once. -/
def Admits : {α : Type} → Kind α → α → Prop
  | _, json, v => v.canonical = v ∧ v.Whole ∧ v.depth ≤ Json.depthLimit ∧ ∀ text, v ≠ .string text
  | _, _, _ => True

/-- The bare text under which a value is stored, if it is stored without quotes. -/
def bare? : {α : Type} → Kind α → α → Option String
  | _, method, m => some m.name
  | _, time, t => some t.text
  | _, _, _ => none

theorem faithful {kind : Kind α} {a : α} (h : kind.Admits a) : kind.schema.Faithful a := by
  cases kind with
  | word | signed | flag => trivial
  | texts => exact fun _ _ => trivial
  | method => exact a.faithful
  | time => exact a.faithful
  | endpoint => exact a.faithful
  | spec => exact a.faithful
  | projects => exact Project.faithful_list a
  | json =>
    obtain ⟨hcanonical, hwhole, _, _⟩ := h
    have hplain : a.canonical.Plain := Json.plain_canonical_of_whole hwhole
    rw [hcanonical] at hplain
    exact ⟨hplain, hcanonical⟩

theorem depth_encode_le {kind : Kind α} {a : α} (h : kind.Admits a) :
    (kind.schema.encode a).depth ≤ Json.depthLimit := by
  have hbound : ∀ {β : Type} (s : Json.Schema β) (b : β) {n : Nat}, s.height = some n →
      n ≤ Json.depthLimit → (s.encode b).depth ≤ Json.depthLimit :=
    fun s b _ hheight hn => Nat.le_trans (s.depth_encode_le hheight b) hn
  cases kind with
  | word | signed | flag | method | time => exact Nat.zero_le _
  | texts => exact hbound (.list .string) a rfl (by decide)
  | endpoint => exact hbound Api.Endpoint.schema a rfl (by decide)
  | spec => exact hbound Api.Spec.schema a rfl (by decide)
  | projects => exact Project.depth_encode_list a
  | json => exact h.2.2.1

/-- What is not stored bare is no string as JSON. -/
theorem encode_ne_string {kind : Kind α} {a : α} (h : kind.Admits a) (hbare : kind.bare? a = none)
    (text : String) : kind.schema.encode a ≠ .string text := by
  cases kind with
  | word | signed | flag | texts | endpoint | spec | projects => exact Json.noConfusion
  | method | time => exact absurd hbare (Option.some_ne_none _)
  | json => exact h.2.2.2 text

theorem encode_of_bare {kind : Kind α} {a : α} {text : String} (h : kind.bare? a = some text) :
    kind.schema.encode a = .string text := by
  cases kind with
  | method => exact congrArg Json.string (Option.some.inj h)
  | time => exact congrArg Json.string (Option.some.inj h)
  | word | signed | flag | texts | endpoint | spec | projects | json =>
    exact absurd h.symm (Option.some_ne_none _)

/-- A bare text is no JSON of the value's type: it begins like a number or like nothing at all. -/
theorem ofText_bare {kind : Kind α} {a : α} {text : String} (h : kind.bare? a = some text) :
    text ≠ "" ∧ ∃ e, kind.schema.ofText text = .error e := by
  cases kind with
  | method =>
    rw [← Option.some.inj h]
    cases a <;> exact ⟨by decide, _, rfl⟩
  | time =>
    rw [← Option.some.inj h]
    obtain ⟨c, rest, hc, hfirst⟩ := a.text_head
    refine ⟨fun hempty => ?_, ?_⟩
    · rw [hempty] at hc
      exact absurd hc (by simp)
    · cases hread : Timestamp.schema.ofText a.text with
      | error e => exact ⟨e, hread⟩
      | ok t =>
        obtain ⟨s, hs⟩ := Json.Schema.quotes_of_ofText_spelled hread
        have hc' : c = '"' ∨ Json.Cursor.isSpace c = true := hs.head hc
        rcases hfirst with hdigit | rfl | rfl
        · have hbegins := Json.Reader.begins_of_isDigit hdigit
          rcases hc' with rfl | hspace
          · exact absurd hdigit (by decide)
          · rw [Json.Reader.begins, hspace] at hbegins
            exact Bool.noConfusion hbegins
        · exact absurd hc' (by decide)
        · exact absurd hc' (by decide)
  | word | signed | flag | texts | endpoint | spec | projects | json =>
    exact absurd h.symm (Option.some_ne_none _)

end Kind

theorem textOf_of_ne_string {v : Json} (h : ∀ text, v ≠ .string text) : textOf v = v.compact := by
  cases v with
  | string text => exact absurd rfl (h text)
  | null | bool _ | number _ | array _ | object _ => rfl

variable {α σ : Type} [Store σ] [ReadsBack σ]

/-- A value whose first write is accepted is saved and loaded again, whatever the default.  A bare
text is refused by the first attempt to read it and read by the second; any other text is read by
the first. -/
theorem load_saveAs_of_accepted {kind : Kind α} {a : α} {s : Shelf σ} {key : String}
    (ha : kind.Admits a)
    (hfirst : (s.write key (textOf (kind.schema.encode a).canonical)).1 = .ok ()) :
    let after := (s.saveAs kind.schema key a).2
    (s.saveAs kind.schema key a).1 = true ∧
    (∀ default, after.load kind.schema key default = a) ∧
    ∃ text, after.loadText key = some text ∧
      match kind.bare? a with
      | some bare => text = bare ∧ (∃ e, kind.schema.ofText text = .error e) ∧
          kind.schema.ofJson (.string text) = .ok a
      | none => kind.schema.ofText text = .ok a := by
  intro after
  have hsave : s.saveAs kind.schema key a =
      (true, (s.write key (textOf (kind.schema.encode a).canonical)).2) := save_of_accepted hfirst
  have hafter : after = (s.write key (textOf (kind.schema.encode a).canonical)).2 :=
    congrArg Prod.snd hsave
  have htext : after.loadText key = some (textOf (kind.schema.encode a).canonical) := by
    rw [hafter]
    exact loadText_of_accepted hfirst
  have hfaithful := Kind.faithful ha
  refine ⟨congrArg Prod.fst hsave, ?_⟩
  cases hbare : kind.bare? a with
  | some bare =>
    obtain ⟨hne, e, herror⟩ := Kind.ofText_bare hbare
    have hencode := Kind.encode_of_bare hbare
    have hsecond : kind.schema.ofJson (.string bare) = .ok a := by
      have h := Json.Schema.ofJson_canonical hfaithful
      rw [hencode] at h
      exact h
    rw [hencode] at htext
    replace htext : after.loadText key = some bare := htext
    have hvalue : valueOf? kind.schema bare = some a := by
      rw [valueOf?, if_neg (by simpa using hne), herror, hsecond]
      rfl
    exact ⟨load_of_loadText htext hvalue, bare, htext, rfl, ⟨e, herror⟩, hsecond⟩
  | none =>
    have hstring : ∀ text, (kind.schema.encode a).canonical ≠ .string text := fun text h =>
      Kind.encode_ne_string ha hbare text (Json.eq_string_of_canonical h)
    rw [textOf_of_ne_string hstring] at htext
    have hread := Json.Schema.ofText_canonical hfaithful (Kind.depth_encode_le ha)
    have hplain := Json.plain_canonical (kind.schema.plain_encode hfaithful)
    exact ⟨load_of_loadText htext (valueOf?_of_ofText (Json.compact_ne_empty hplain) hread), _,
      htext, hread⟩

/-- A leap second of a year before the first is stored bare and comes back. -/
theorem load_saveAs_of_leap_second :
    let s : Shelf MemoryStore := ⟨MemoryStore.empty 64, projectsKey⟩
    let t : Timestamp := ⟨⟨-5, 2, 28, by decide⟩, 23, 59, 59, 1500000000, by decide⟩
    let after := (s.saveAs Timestamp.schema "k" t).2
    Kind.time.Admits t ∧ (s.write "k" "-0005-02-28T23:59:60.500Z").1 = .ok () ∧
    (s.saveAs Timestamp.schema "k" t).1 = true ∧
    (∀ default, after.load Timestamp.schema "k" default = t) ∧
    ∃ text, after.loadText "k" = some text ∧ text = "-0005-02-28T23:59:60.500Z" ∧
      (∃ e, Timestamp.schema.ofText text = .error e) ∧
      Timestamp.schema.ofJson (.string text) = .ok t :=
  ⟨trivial, rfl, @load_saveAs_of_accepted _ _ _ _ .time _ _ _ trivial rfl⟩

end Shelf
end SdkShelf
