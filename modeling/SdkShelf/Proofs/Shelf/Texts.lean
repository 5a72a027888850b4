import SdkShelf.Proofs.Json.Quoted
import SdkShelf.Proofs.Shelf.Collection

/-!
# Saved texts

A text is stored as it is, but it is loaded as JSON first.  So a text comes back unchanged unless it
is itself a quoted string, which comes back without its quotes.
-/

namespace SdkShelf
namespace Shelf

theorem valueOf?_of_quotes {text t : String} (h : Json.Quotes text t) :
    valueOf? .string text = some t := by
  refine valueOf?_of_ofText (fun hempty => ?_) (Json.Schema.ofText_string_iff.mpr h)
  obtain ⟨before, body, behind, _, _, _, htext⟩ := h
  rw [hempty] at htext
  exact absurd htext.symm (by simp)

theorem valueOf?_of_not_quotes {text : String} (hne : text ≠ "") (h : ∀ t, ¬ Json.Quotes text t) :
    valueOf? .string text = some text := by
  rw [valueOf?, if_neg (by simpa using hne)]
  cases hread : Json.Schema.string.ofText text with
  | error e => rfl
  | ok t => exact absurd (Json.Schema.ofText_string_iff.mp hread) (h t)

/-- A text is never taken for a collection, so its save is a single write. -/
theorem saveText_eq {σ : Type} [Store σ] (s : Shelf σ) (key text : String) :
    s.saveText key text = ((s.write key text).1.isOk, (s.write key text).2) := by
  have hreduced : ∀ after : Shelf σ, after.saveReduced key (.string text) = (false, after) := by
    intro after
    obtain ⟨e, hlist⟩ : ∃ e, Project.listSchema.ofJson (.string text) = .error e := ⟨_, rfl⟩
    rw [saveReduced, hlist]
    exact ite_self _
  show s.save key (.string text) = _
  rw [save, show textOf (.string text) = text from rfl]
  rcases s.write key text with ⟨e | ⟨⟩, after⟩
  · simp only [hreduced, ite_self]
    rfl
  · rfl

section

variable {σ : Type} [Store σ] [ReadsBack σ]

theorem loadText_saveText {s : Shelf σ} {key text : String}
    (hsaved : (s.saveText key text).1 = true) :
    (s.saveText key text).2.loadText key = some text := by
  rw [saveText_eq] at hsaved ⊢
  replace hsaved : (s.write key text).1.isOk = true := hsaved
  have hwrite : (s.write key text).1 = .ok () := by
    cases hresult : (s.write key text).1 with
    | error e =>
      rw [hresult] at hsaved
      exact Bool.noConfusion hsaved
    | ok _ => rfl
  exact loadText_of_accepted hwrite

/-- A saved text comes back unchanged exactly if it is no quoted string, and a quoted string comes
back without its quotes. -/
theorem load_saveText {s : Shelf σ} {key text : String} (hne : text ≠ "")
    (hsaved : (s.saveText key text).1 = true) :
    ((∀ default, (s.saveText key text).2.load .string key default = text) ↔
      ∀ t, ¬ Json.Quotes text t) ∧
    ∀ t, Json.Quotes text t → ∀ default, (s.saveText key text).2.load .string key default = t := by
  have hquoted : ∀ t, Json.Quotes text t →
      ∀ default, (s.saveText key text).2.load .string key default = t := fun t ht =>
    load_of_loadText (loadText_saveText hsaved) (valueOf?_of_quotes ht)
  refine ⟨⟨fun hload t ht => ?_, fun hnone => ?_⟩, hquoted⟩
  · exact ht.ne ((hquoted t ht "").symm.trans (hload ""))
  · exact load_of_loadText (loadText_saveText hsaved) (valueOf?_of_not_quotes hne hnone)

end

theorem load_saveText_of_unquoted :
    let s : Shelf MemoryStore := ⟨MemoryStore.empty 4096, projectsKey⟩
    "hello" ≠ "" ∧ (s.saveText "k" "hello").1 = true ∧
    (((∀ default, (s.saveText "k" "hello").2.load .string "k" default = "hello") ↔
        ∀ t, ¬ Json.Quotes "hello" t) ∧
      ∀ t, Json.Quotes "hello" t →
        ∀ default, (s.saveText "k" "hello").2.load .string "k" default = t) :=
  ⟨by decide, by decide, load_saveText (by decide) (by decide)⟩

/-- A text that is a quoted string does not come back. -/
theorem load_saveText_ne_quoted :
    let s : Shelf MemoryStore := ⟨MemoryStore.empty 4096, projectsKey⟩
    "\"abc\"" ≠ "" ∧ (s.saveText "k" "\"abc\"").1 = true ∧
      (s.saveText "k" "\"abc\"").2.load .string "k" "" ≠ "\"abc\"" := by
  decide

end Shelf
end SdkShelf
