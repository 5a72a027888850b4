import SdkShelf.Backend.Message
import SdkShelf.Call.Outcome
import SdkShelf.Proofs.Json.Tagged
import SdkShelf.Proofs.Shelf.Collection

/-!
# Records come back

Every record of the data model is read back from the two texts and the JSON value that it may be
written as.  So the two texts of a collection, the one saved whole and the one saved after a
reduction, stand for the same projects.
-/

namespace SdkShelf

namespace Json

/-- A value is read back from its layout: from the text with the members in the order of their
fields, from the JSON value, and from the text with the members in the order of their keys. -/
structure ComesBack {α : Type} (ofText : String → Except DecodeError α)
    (ofJson : Json → Except DecodeError α) (layout : Json) (a : α) : Prop where
  ofText_compact : ofText layout.compact = .ok a
  ofJson_canonical : ofJson layout.canonical = .ok a
  ofText_canonical : ofText layout.canonical.compact = .ok a

theorem Schema.comesBack {α : Type} {s : Schema α} {a : α} {n : Nat} (h : s.Faithful a)
    (hheight : s.height = some n) (hn : n ≤ depthLimit) :
    ComesBack s.ofText s.ofJson (s.encode a) a := by
  have hdepth : (s.encode a).depth ≤ depthLimit :=
    Nat.le_trans (s.depth_encode_le hheight a) hn
  exact ⟨ofText_text h hdepth, ofJson_canonical h, ofText_canonical h hdepth⟩

section

variable {α γ σ : Type} {u : Tagged α} {name label : String} {fields : Fields γ σ}
  {make : γ → α} {parts : γ} {n : Nat}
  (hcase : u.cases.find? (fun c => c.name = name) = some (.ofFields name label fields make))
  (htag : u.tag ∉ fields.names) (h : fields.Faithful parts) (hheight : fields.height = some n)
  (hn : n + 1 ≤ depthLimit)

omit hcase htag h in
include hheight hn in
theorem Tagged.depth_object_le : (object u.tag name fields parts).depth ≤ depthLimit := by
  refine Nat.le_trans (Nat.succ_le_succ (depthMembers_le_iff.mpr fun m hm => ?_)) hn
  rcases List.mem_cons.mp hm with rfl | hm
  · exact Nat.zero_le n
  · exact fields.depth_encode_le hheight parts m hm

include hcase htag h hheight hn

theorem Tagged.comesBack :
    ComesBack u.ofText u.ofJson (object u.tag name fields parts) (make parts) := by
  have hplain := plain_tagged name htag h
  have hdepth : (object u.tag name fields parts).depth ≤ depthLimit := depth_object_le hheight hn
  refine ⟨ofText_of_textOf hcase htag h (textOf_compact hplain) hplain hdepth rfl,
    ofJson_canonical hcase htag h, ?_⟩
  have hcanonical := plain_canonical hplain
  exact ofText_of_textOf hcase htag h (textOf_compact hcanonical) hcanonical
    (Nat.le_trans (depth_canonical_le _) hdepth) (canonical_canonical _)

theorem Tagged.ofText_pretty :
    u.ofText ((object u.tag name fields parts).pretty ++ "\n") = .ok (make parts) := by
  have hplain := plain_tagged name htag h
  exact ofText_of_textOf hcase htag h (textOf_pretty hplain) hplain
    (depth_object_le hheight hn) rfl

end

end Json

open Json.Fields

namespace Backend

theorem RemoteProject.faithful (p : RemoteProject) : RemoteProject.schema.Faithful p := by
  refine ⟨rfl, faithful_required (by decide) trivial <|
    faithful_required (by decide) trivial <|
    faithful_optional (by decide) Json.Schema.faithful_string <|
    faithful_optional (by decide) Json.Schema.faithful_string <|
    faithful_optional (by decide) Json.Schema.faithful_string <|
    faithful_optional (by decide) Json.Schema.faithful_string ?_⟩
  refine ⟨fun n hn => absurd hn List.not_mem_nil, ?_, trivial⟩
  by_cases hempty : p.endpoints.isEmpty
  · rw [if_pos hempty, List.isEmpty_iff.mp hempty]
  · rw [if_neg hempty]
    exact ⟨Json.noConfusion, fun e _ => e.faithful⟩

theorem Registration.faithful (r : Registration) : Registration.schema.Faithful r :=
  ⟨rfl, faithful_required (by decide) trivial <|
    faithful_required (by decide) trivial <|
    faithful_required (by decide) trivial trivial⟩

theorem TrialRequest.faithful (r : TrialRequest) : TrialRequest.schema.Faithful r :=
  ⟨rfl, faithful_required (by decide) trivial <|
    faithful_required (by decide) trivial <|
    faithful_defaulted (by decide) (fun _ _ => trivial) trivial⟩

end Backend

namespace Call
namespace Outcome

theorem case_success : tagged.cases.find? (fun c => c.name = successName) =
    some (.ofFields successName "struct variant RequestOutcome::Success" successFields
      fun (status, body, ()) => success status body) := rfl

theorem case_failure : tagged.cases.find? (fun c => c.name = failureName) =
    some (.ofFields failureName "struct variant RequestOutcome::Failure" failureFields
      fun (message, ()) => failure message) := rfl

theorem faithful_success (status : UInt16) (body : String) :
    successFields.Faithful (status, body, ()) :=
  faithful_required (by decide) trivial <| faithful_required (by decide) trivial trivial

theorem faithful_failure (message : String) : failureFields.Faithful (message, ()) :=
  faithful_required (by decide) trivial trivial

theorem comesBack (o : Outcome) : Json.ComesBack tagged.ofText tagged.ofJson o.json o := by
  cases o with
  | success status body =>
    exact Json.Tagged.comesBack case_success (by decide) (faithful_success status body) rfl
      (by decide)
  | failure message =>
    exact Json.Tagged.comesBack case_failure (by decide) (faithful_failure message) rfl (by decide)

theorem ofText_pretty (o : Outcome) : tagged.ofText (o.json.pretty ++ "\n") = .ok o := by
  cases o with
  | success status body =>
    exact Json.Tagged.ofText_pretty case_success (by decide) (faithful_success status body) rfl
      (by decide)
  | failure message =>
    exact Json.Tagged.ofText_pretty case_failure (by decide) (faithful_failure message) rfl
      (by decide)

end Outcome
end Call

theorem Project.ofText_pretty (p : Project) :
    Project.schema.ofText ((Project.schema.encode p).pretty ++ "\n") = .ok p :=
  Json.Schema.ofText_pretty p.faithful
    (Nat.le_trans (Project.schema.depth_encode_le rfl p) (by decide))

section

open Json.Schema

/-- Decoding undoes encoding for every record, and both texts of a collection are loaded as it. -/
theorem comesBack_of_record :
    (∀ p : Project, Json.ComesBack Project.schema.ofText Project.schema.ofJson
      (Project.schema.encode p) p) ∧
    (∀ ps : List Project, Json.ComesBack Project.listSchema.ofText Project.listSchema.ofJson
      (Project.listSchema.encode ps) ps) ∧
    (∀ s : Api.Spec, Json.ComesBack Api.Spec.schema.ofText Api.Spec.schema.ofJson
      (Api.Spec.schema.encode s) s) ∧
    (∀ e : Api.Endpoint, Json.ComesBack Api.Endpoint.schema.ofText Api.Endpoint.schema.ofJson
      (Api.Endpoint.schema.encode e) e) ∧
    (∀ p : Api.Parameter, Json.ComesBack Api.Parameter.schema.ofText Api.Parameter.schema.ofJson
      (Api.Parameter.schema.encode p) p) ∧
    (∀ p : Backend.RemoteProject, Json.ComesBack Backend.RemoteProject.schema.ofText
      Backend.RemoteProject.schema.ofJson (Backend.RemoteProject.schema.encode p) p) ∧
    (∀ r : Backend.Registration, Json.ComesBack Backend.Registration.schema.ofText
      Backend.Registration.schema.ofJson (Backend.Registration.schema.encode r) r) ∧
    (∀ r : Backend.TrialRequest, Json.ComesBack Backend.TrialRequest.schema.ofText
      Backend.TrialRequest.schema.ofJson (Backend.TrialRequest.schema.encode r) r) ∧
    (∀ o : Call.Outcome, Json.ComesBack Call.Outcome.tagged.ofText Call.Outcome.tagged.ofJson
      o.json o) ∧
    ∀ ps : List Project, Shelf.valueOf? Project.listSchema (Shelf.plainText ps) = some ps ∧
      Shelf.valueOf? Project.listSchema (Project.listSchema.text ps) = some ps := by
  refine ⟨?_, ?_, ?_, ?_, ?_, ?_, ?_, ?_, ?_, ?_⟩
  · intro p
    exact comesBack p.faithful rfl (by decide)
  · intro ps
    exact comesBack (Project.faithful_list ps) Project.height_listSchema (by decide)
  · intro s
    exact comesBack s.faithful rfl (by decide)
  · intro e
    exact comesBack e.faithful rfl (by decide)
  · intro p
    exact comesBack p.faithful rfl (by decide)
  · intro p
    exact comesBack p.faithful rfl (by decide)
  · intro r
    exact comesBack r.faithful rfl (by decide)
  · intro r
    exact comesBack r.faithful rfl (by decide)
  · intro o
    exact o.comesBack
  · intro ps
    exact ⟨Shelf.valueOf?_plainText ps, Shelf.valueOf?_text ps⟩

end

end SdkShelf
