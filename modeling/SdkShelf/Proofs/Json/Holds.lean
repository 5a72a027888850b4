import Mathlib.Data.List.Forall2
import SdkShelf.Json.Decode
import SdkShelf.Proofs.Results

/-!
# Trees that hold values

A tree holds a value if it has the value's shape and its scalars, whatever its marks are.  What is
read from a tree depends on the value that it holds, and on the marks only where it fails.
-/

namespace SdkShelf
namespace Json

namespace Tree

mutual

/-- The tree has the shape and the scalars of the value, and is closed everywhere.  The text of a
double need not read back exactly, but never reads back as a whole number. -/
def Holds : Tree → Json → Prop
  | .scalar _ .null _, .null => True
  | .scalar _ (.bool b) _, .bool b' => b = b'
  | .scalar _ (.number n) _, .number (.int i h) => n = .ok (.int i h)
  | .scalar _ (.number n) _, .number (.float _) => ∀ i h, n ≠ .ok (.int i h)
  | .scalar _ (.string s) _, .string s' => s = .ok s'
  | .array _ items (.closed _), .array vs => HoldItems items vs
  | .object _ members (.closed _), .object ms => HoldMembers members ms
  | _, _ => False

def HoldItems : List Tree → List Json → Prop
  | [], [] => True
  | t :: rest, v :: vs => Holds t v ∧ HoldItems rest vs
  | _, _ => False

def HoldMembers : List (Label × Tree) → List (String × Json) → Prop
  | [], [] => True
  | (l, t) :: rest, (k, v) :: ms => l.name = .ok k ∧ Holds t v ∧ HoldMembers rest ms
  | _, _ => False

end

theorem holdItems_iff {items : List Tree} {vs : List Json} :
    HoldItems items vs ↔ List.Forall₂ Holds items vs := by
  induction items generalizing vs with
  | nil => cases vs <;> simp [HoldItems]
  | cons t rest ih => cases vs <;> simp [HoldItems, ih]

/-- A labelled tree holds a member: the key is read, and the tree holds the member's value. -/
def HoldsMember (m : Label × Tree) (n : String × Json) : Prop :=
  m.1.name = .ok n.1 ∧ Holds m.2 n.2

theorem holdMembers_iff {members : List (Label × Tree)} {ms : List (String × Json)} :
    HoldMembers members ms ↔ List.Forall₂ HoldsMember members ms := by
  induction members generalizing ms with
  | nil => cases ms <;> simp [HoldMembers]
  | cons m rest ih => cases ms <;> simp [HoldMembers, HoldsMember, ih, and_assoc]

/-- What is seen of a tree that holds a value. -/
def Shaped (t : Tree) : Json → Prop
  | .null => ∃ start stop, t = .scalar start .null stop
  | .bool b => ∃ start stop, t = .scalar start (.bool b) stop
  | .number (.int i h) => ∃ start stop, t = .scalar start (.number (.ok (.int i h))) stop
  | .number (.float _) => ∃ start n stop, t = .scalar start (.number n) stop
  | .string s => ∃ start stop, t = .scalar start (.string (.ok s)) stop
  | .array vs => ∃ start items bracket, t = .array start items (.closed bracket) ∧
      List.Forall₂ Holds items vs
  | .object ms => ∃ start members bracket, t = .object start members (.closed bracket) ∧
      List.Forall₂ HoldsMember members ms

theorem shaped_of_holds {t : Tree} {v : Json} (h : t.Holds v) : t.Shaped v := by
  unfold Holds at h
  split at h <;> simp_all [Shaped, holdItems_iff, holdMembers_iff]

section

variable {t : Tree}

theorem holds_array {vs : List Json} (h : t.Holds (.array vs)) :
    ∃ start items bracket, t = .array start items (.closed bracket) ∧
      List.Forall₂ Holds items vs :=
  shaped_of_holds h

theorem holds_object {ms : List (String × Json)} (h : t.Holds (.object ms)) :
    ∃ start members bracket, t = .object start members (.closed bracket) ∧
      List.Forall₂ HoldsMember members ms :=
  shaped_of_holds h

theorem holds_string {s : String} (h : t.Holds (.string s)) :
    ∃ start stop, t = .scalar start (.string (.ok s)) stop :=
  shaped_of_holds h

theorem holds_bool {b : Bool} (h : t.Holds (.bool b)) :
    ∃ start stop, t = .scalar start (.bool b) stop :=
  shaped_of_holds h

theorem holds_null (h : t.Holds .null) : ∃ start stop, t = .scalar start .null stop :=
  shaped_of_holds h

theorem holds_int {i : Int} {hi : _} (h : t.Holds (.number (.int i hi))) :
    ∃ start stop, t = .scalar start (.number (.ok (.int i hi))) stop :=
  shaped_of_holds h

theorem isNull_of_holds {v : Json} (h : t.Holds v) : t.isNull = true ↔ v = .null := by
  unfold Holds at h
  split at h <;> simp_all [isNull]

end

mutual

/-- The tree that stands for a value without a text holds it. -/
theorem holds_ofJson : ∀ v : Json, (ofJson v).Holds v
  | .null => trivial
  | .bool _ => rfl
  | .number (.int _ _) => rfl
  | .number (.float _) => fun _ _ h => by injection h with h; cases h
  | .string _ => rfl
  | .array items => holds_ofItems items
  | .object members => holds_ofMembers members

theorem holds_ofItems : ∀ vs : List Json, HoldItems (ofItems vs) vs
  | [] => trivial
  | v :: rest => ⟨holds_ofJson v, holds_ofItems rest⟩

theorem holds_ofMembers : ∀ ms : List (String × Json), HoldMembers (ofMembers ms) ms
  | [] => trivial
  | (_, v) :: rest => ⟨rfl, holds_ofJson v, holds_ofMembers rest⟩

end

end Tree

/-- A text is read to its end, and its tree has the value that is wanted. -/
theorem Schema.ofText_eq_ok_iff {α : Type} {s : Schema α} {text : String} {a : α} :
    s.ofText text = .ok a ↔ ∃ t behind, Tree.ofText text = (t, behind) ∧
      s.decode (.text depthLimit) t = .ok a ∧ behind.next = none := by
  rw [Schema.ofText]
  generalize Tree.ofText text = result
  obtain ⟨t, behind⟩ := result
  constructor
  · intro h
    obtain ⟨a', hdecode, h⟩ := exists_of_bind_eq_ok h
    split at h
    · rename_i hnext
      rw [← Except.ok.inj h]
      exact ⟨t, behind, rfl, hdecode, hnext⟩
    · exact absurd h nofun
  · rintro ⟨t', behind', htree, hdecode, hnext⟩
    obtain ⟨rfl, rfl⟩ := Prod.mk.inj htree
    simp only [hdecode, bind, Except.bind, hnext]

end Json
end SdkShelf
