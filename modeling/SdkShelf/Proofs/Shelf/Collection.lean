import SdkShelf.Proofs.Project.Layout
import SdkShelf.Proofs.Store.ReadBack
import SdkShelf.Shelf

/-!
# Saved collections

The texts under which a collection may be saved, and that each of them is loaded as the collection
it was written for.
-/

namespace SdkShelf
namespace Shelf

variable {σ α : Type} [Store σ]

theorem valueOf?_of_ofText {schema : Json.Schema α} {text : String} {a : α} (hne : text ≠ "")
    (h : schema.ofText text = .ok a) : valueOf? schema text = some a := by
  rw [valueOf?, if_neg (by simpa using hne), h]

theorem load_of_loadText {s : Shelf σ} {schema : Json.Schema α} {key text : String} {a : α}
    (htext : s.loadText key = some text) (hvalue : valueOf? schema text = some a) (default : α) :
    s.load schema key default = a := by
  rw [load, htext, Option.bind_some, hvalue, Option.getD_some]

/-- A save whose first write is accepted makes no other. -/
theorem save_of_accepted {s : Shelf σ} {key : String} {v : Json}
    (h : (s.write key (textOf v)).1 = .ok ()) : s.save key v = (true, (s.write key (textOf v)).2) := by
  have hwrite : s.write key (textOf v) = (.ok (), (s.write key (textOf v)).2) := Prod.ext h rfl
  rw [save, hwrite]

/-- What was saved without a lack of room was saved by the first write. -/
theorem accepted_of_save {s : Shelf σ} {key : String} {v : Json} (hsaved : (s.save key v).1 = true)
    (hquota : ∀ e, (s.write key (textOf v)).1 = .error e → e.isQuotaExceeded = false) :
    (s.write key (textOf v)).1 = .ok () := by
  cases hwrite : (s.write key (textOf v)).1 with
  | ok _ => rfl
  | error e =>
    have hpair : s.write key (textOf v) = (.error e, (s.write key (textOf v)).2) :=
      Prod.ext hwrite rfl
    rw [save, hpair] at hsaved
    simp only [hquota e hwrite] at hsaved
    exact Bool.noConfusion hsaved

theorem loadText_of_read {s : Shelf σ} {key : String} {text? : Option String}
    (h : Store.read s.store key = .ok text?) : s.loadText key = text? := by
  rw [loadText, h]

theorem loadText_of_accepted [ReadsBack σ] {s : Shelf σ} {key text : String}
    (h : (s.write key text).1 = .ok ()) : (s.write key text).2.loadText key = some text := by
  have hwrite : (Store.write s.store key text).1 = .ok () := h
  exact loadText_of_read (ReadsBack.read_write (Prod.ext hwrite rfl))

/-- The text of a whole collection: its JSON with the members of every object in order. -/
def plainText (ps : List Project) : String := textOf (Project.listSchema.encode ps).canonical

/-- The text of the first shrunk projects. -/
def reducedText (ps : List Project) (m : Nat) : String :=
  Project.listSchema.text ((ps.map Project.shrink).take m)

theorem plainText_eq (ps : List Project) :
    plainText ps = (Project.listSchema.encode ps).canonical.compact := rfl

theorem valueOf?_plainText (ps : List Project) :
    valueOf? Project.listSchema (plainText ps) = some ps := by
  have hfaithful := Project.faithful_list ps
  rw [plainText_eq]
  exact valueOf?_of_ofText
    (Json.compact_ne_empty (Json.plain_canonical (Json.Schema.plain_encode _ hfaithful)))
    (Json.Schema.ofText_canonical hfaithful (Project.depth_encode_list ps))

theorem valueOf?_text (ps : List Project) :
    valueOf? Project.listSchema (Project.listSchema.text ps) = some ps := by
  have hfaithful := Project.faithful_list ps
  exact valueOf?_of_ofText (Json.compact_ne_empty (Json.Schema.plain_encode _ hfaithful))
    (Json.Schema.ofText_text hfaithful (Project.depth_encode_list ps))

theorem valueOf?_reducedText (ps : List Project) (m : Nat) :
    valueOf? Project.listSchema (reducedText ps m) = some ((ps.map Project.shrink).take m) :=
  valueOf?_text _

theorem ofJson_collection (ps : List Project) :
    Project.listSchema.ofJson (Project.listSchema.encode ps).canonical = .ok ps :=
  Json.Schema.ofJson_canonical (Project.faithful_list ps)

end Shelf
end SdkShelf
