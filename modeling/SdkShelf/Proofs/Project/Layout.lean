import SdkShelf.Project.Basic
import SdkShelf.Proofs.Json.Agreement
import SdkShelf.Proofs.Timestamp

/-!
# The layout of projects

Nothing of a project is lost in its layout, and the layout is never too deep for a text, so that
projects are read back from their texts and from their JSON values.  What was laid out otherwise,
with aliases, lists in place of records and unknown members, is read alike as a text and as a value.
-/

namespace SdkShelf

namespace Json
namespace Fields

variable {α γ σ : Type} {name : String} {schema : Schema α} {rest : Fields γ σ} {more : γ}

theorem faithful_required {a : α} (hname : name ∉ rest.names) (ha : schema.Faithful a)
    (hmore : rest.Faithful more) : (required name schema rest).Faithful (a, more) := by
  refine ⟨fun n hn => ⟨fun e => hname (e ▸ hn), List.not_mem_nil⟩, ?_, hmore⟩
  rw [if_neg Bool.false_ne_true]
  exact ha

theorem faithful_defaulted {absent a : α} (hname : name ∉ rest.names) (ha : schema.Faithful a)
    (hmore : rest.Faithful more) : (defaulted name schema absent rest).Faithful (a, more) := by
  refine ⟨fun n hn => ⟨fun e => hname (e ▸ hn), List.not_mem_nil⟩, ?_, hmore⟩
  rw [if_neg Bool.false_ne_true]
  exact ha

theorem faithful_optional {a : Option α} (hname : name ∉ rest.names)
    (ha : ∀ x, schema.encode x ≠ .null ∧ schema.Faithful x) (hmore : rest.Faithful more) :
    (optional name schema rest).Faithful (a, more) := by
  refine ⟨fun n hn => ⟨fun e => hname (e ▸ hn), List.not_mem_nil⟩, ?_, hmore⟩
  cases a with
  | none => rfl
  | some x => exact ha x

theorem faithful_flag {b : Bool} (hname : name ∉ rest.names) (hmore : rest.Faithful more) :
    (flag name rest).Faithful (b, more) := by
  refine ⟨fun n hn => ⟨fun e => hname (e ▸ hn), List.not_mem_nil⟩, ?_, hmore⟩
  cases b with
  | false => rfl
  | true => trivial

end Fields

theorem Schema.faithful_string (s : String) :
    Schema.string.encode s ≠ .null ∧ Schema.string.Faithful s :=
  ⟨Json.noConfusion, trivial⟩

end Json

open Json.Fields

theorem Http.Method.faithful (m : Method) : Method.schema.Faithful m := by
  cases m <;> rfl

theorem Timestamp.faithful (t : Timestamp) : Timestamp.schema.Faithful t := ofText_text t

namespace Api

theorem Parameter.faithful (p : Parameter) : Parameter.schema.Faithful p :=
  ⟨rfl, faithful_required (by decide) trivial <|
    faithful_defaulted (by decide) trivial <|
    faithful_defaulted (by decide) trivial <|
    faithful_optional (by decide) Json.Schema.faithful_string trivial⟩

theorem Endpoint.faithful (e : Endpoint) : Endpoint.schema.Faithful e := by
  refine ⟨rfl, faithful_required (by decide) (Http.Method.faithful e.method) <|
    faithful_required (by decide) trivial <|
    faithful_optional (by decide) Json.Schema.faithful_string <|
    faithful_optional (by decide) Json.Schema.faithful_string ?_⟩
  refine ⟨fun n hn => absurd hn List.not_mem_nil, ?_, trivial⟩
  split
  · rename_i hempty
    have hentries : e.parameters.entries = [] := List.isEmpty_iff.mp hempty
    rw [Dictionary.eq_of_entries (a := e.parameters) (b := Dictionary.empty) hentries]
  · exact ⟨Json.noConfusion, fun group _ p _ => p.faithful⟩

theorem Spec.faithful (s : Spec) : Spec.schema.Faithful s :=
  ⟨rfl, faithful_optional (by decide) Json.Schema.faithful_string <|
    faithful_optional (by decide) Json.Schema.faithful_string <|
    faithful_defaulted (by decide) trivial <|
    faithful_defaulted (by decide) (fun e _ => e.faithful) <|
    faithful_flag (by decide) trivial⟩

end Api

namespace Project

theorem faithful (p : Project) : schema.Faithful p := by
  refine ⟨rfl, faithful_required (by decide) trivial <|
    faithful_required (by decide) trivial <|
    ⟨by decide, ?_, faithful_required (by decide) p.spec.faithful <|
    faithful_defaulted (by decide) trivial <|
    faithful_required (by decide) p.createdAt.faithful <|
    faithful_optional (by decide) Json.Schema.faithful_string <|
    faithful_flag (by decide) <|
    faithful_optional (by decide) Json.Schema.faithful_string trivial⟩⟩
  rw [if_neg Bool.false_ne_true]
  trivial

theorem faithful_list (ps : List Project) : listSchema.Faithful ps := fun p _ => p.faithful

theorem height_listSchema : listSchema.height = some 8 := rfl

theorem depth_encode_list (ps : List Project) :
    (listSchema.encode ps).depth ≤ Json.depthLimit :=
  Nat.le_trans (listSchema.depth_encode_le height_listSchema ps) (by decide)

/-- Cutting a stored collection down and loading it read it by different decoders, which accept the
same collections and give the same projects. -/
theorem ofText_compact_eq_ok_iff {v : Json} (hdepth : v.canonical.depth ≤ Json.depthLimit)
    (ps : List Project) :
    listSchema.ofText v.canonical.compact = .ok ps ↔ listSchema.ofJson v = .ok ps := by
  rw [← toOption_eq_some_iff, ← toOption_eq_some_iff,
    Json.Schema.toOption_ofText_compact rfl hdepth]

theorem ofText_compact_of_irregular :
    let v : Json := .array [
      .object [("id", .string "p1"), ("name", .string "A"), ("source_url", .string "u"),
        ("created_at", .string "2025-01-01T00:00:00Z"),
        ("spec", .array [.null, .null, .string "b", .array [
          .object [("method", .object [("GET", .null)]), ("path", .string "/a"),
            ("parameters", .null)],
          .array [.string "PUT", .string "/b"]]]),
        ("unknown", .array [.number (.float 0.5)])],
      .array [.string "p2", .string "B", .string "w", .object [], .string "code",
        .string "2025-01-01T00:00:00Z"]]
    ∃ p q : Project, listSchema.ofText v.canonical.compact = .ok [p, q] ∧ p.sourceUrl = "u" ∧
      p.spec.endpoints.map (·.method) = [.get, .put] ∧ q.sdkCode = "code" ∧ q.spec = .empty := by
  intro v
  have hdepth : v.canonical.depth ≤ Json.depthLimit := by decide
  refine ⟨_, _, (ofText_compact_eq_ok_iff hdepth _).mpr rfl, rfl, rfl, rfl, rfl⟩

end Project
end SdkShelf
