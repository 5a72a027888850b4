import SdkShelf.Proofs.Json.Arrangement
import SdkShelf.Proofs.Project.Layout

/-!
# The arrangement of a project's text

A project does not depend on the order in which its text has the members, nor on what else the text
says of it.  The schema tells which members those are at each level: the project, its description,
the endpoints and their parameters are records, which ignore members that they do not know, while
every member of an endpoint's groups of parameters is a group.
-/

namespace SdkShelf
namespace Project

open Json

/-- Members of objects may change places, records may have further members, and the documentation's
address may go by its other name. -/
theorem ofText_of_rearranged_text {text text' : String} {d d' : Document} {p : Project}
    (htext : IsDocument text d) (hdistinct : d.Distinct) (h : schema.ofText text = .ok p)
    (hmove : schema.Rearranges d d') (htext' : IsDocument text' d') : schema.ofText text' = .ok p :=
  Schema.ofText_of_rearranges rfl htext hdistinct h hmove htext'

theorem ofText_of_reversed_members :
    let parameter : Json := .object [("name", .string "id"), ("required", .bool true)]
    let endpoint : Json := .object [("method", .string "GET"),
      ("parameters", .object [("path", .array [parameter]), ("query", .array [])]),
      ("path", .string "/a")]
    let v : Json := .object [("created_at", .string "2025-01-01T00:00:00Z"), ("id", .string "p1"),
      ("name", .string "A"), ("spec", .object [("endpoints", .array [endpoint])]),
      ("url", .string "u")]
    let parameter' : Json := .object [("in", .string "path"), ("required", .bool true),
      ("name", .string "id")]
    let endpoint' : Json := .object [("tags", .array [.null]), ("path", .string "/a"),
      ("parameters", .object [("query", .array []), ("path", .array [parameter'])]),
      ("method", .string "GET")]
    let v' : Json := .object [("rating", .object []), ("source_url", .string "u"),
      ("spec", .object [("servers", .bool false), ("endpoints", .array [endpoint'])]),
      ("name", .string "A"), ("id", .string "p1"), ("created_at", .string "2025-01-01T00:00:00Z")]
    ∃ p, schema.ofText v.compact = .ok p ∧ schema.ofText v'.compact = .ok p ∧
      p.sourceUrl = "u" := by
  intro parameter endpoint v parameter' endpoint' v'
  have hv : v.Plain := by
    simp [v, endpoint, parameter, Plain, Every, EveryMember, EveryItem, PlainNode]
  have hv' : v'.Plain := by
    simp [v', endpoint', parameter', Plain, Every, EveryMember, EveryItem, PlainNode]
  have hstring (s : String) :
      Schema.string.Rearranges (.ofJson (.string s)) (.ofJson (.string s)) := .string _
  have hparameter : Api.Parameter.schema.Rearranges (.ofJson parameter) (.ofJson parameter') := by
    refine Schema.rearranges_ofJson_object [("name", .string "id"), ("required", .bool true)]
      [("in", .string "path")] ?_ ?_ (List.reverse_perm _).symm
    · have hbool : Schema.bool.Rearranges (.ofJson (.bool true)) (.ofJson (.bool true)) := .bool _
      simp [Fields.RearrangesMember, answers, Fields.required, Fields.defaulted,
        Document.ofMembers, hstring, hbool]
    · simp [Fields.Unknown, Fields.required, Fields.defaulted, Fields.optional]
  have hgroups : (Schema.orNull Dictionary.empty (.map (.list Api.Parameter.schema))).Rearranges
      (.ofJson (.object [("path", .array [parameter]), ("query", .array [])]))
      (.ofJson (.object [("query", .array []), ("path", .array [parameter'])])) := by
    refine .inr ⟨_, Document.ofMembers [("path", .array [parameter']), ("query", .array [])], _,
      rfl, rfl, ?_, (List.reverse_perm _).symm⟩
    simp [Schema.Rearranges, Document.ofMembers, Document.ofJson, Document.ofItems, hparameter]
  have hendpoint : Api.Endpoint.schema.Rearranges (.ofJson endpoint) (.ofJson endpoint') := by
    refine Schema.rearranges_ofJson_object [("method", .string "GET"), ("parameters", .object
      [("query", .array []), ("path", .array [parameter'])]), ("path", .string "/a")]
      [("tags", .array [.null])] ?_ ?_ (List.reverse_perm _).symm
    · have hmethod : Http.Method.schema.Rearranges (.ofJson (.string "GET"))
          (.ofJson (.string "GET")) := .string _
      simp [Fields.RearrangesMember, answers, Fields.required, Fields.optional, Document.ofMembers,
        hstring, hmethod, hgroups]
    · simp [Fields.Unknown, Fields.required, Fields.optional]
  have hspec : Api.Spec.schema.Rearranges (.ofJson (.object [("endpoints", .array [endpoint])]))
      (.ofJson (.object [("servers", .bool false), ("endpoints", .array [endpoint'])])) := by
    refine Schema.rearranges_ofJson_object [("endpoints", .array [endpoint'])]
      [("servers", .bool false)] ?_ ?_ (List.reverse_perm _).symm
    · have hlist : (Schema.list Api.Endpoint.schema).Rearranges (.ofJson (.array [endpoint]))
          (.ofJson (.array [endpoint'])) := ⟨_, _, rfl, rfl, .cons hendpoint .nil⟩
      simp [Fields.RearrangesMember, answers, Fields.optional, Fields.defaulted,
        Document.ofMembers, hlist]
    · simp [Fields.Unknown, Fields.defaulted, Fields.optional, Fields.flag]
  have hmove : schema.Rearranges (.ofJson v) (.ofJson v') := by
    refine Schema.rearranges_ofJson_object [("created_at", .string "2025-01-01T00:00:00Z"),
      ("id", .string "p1"), ("name", .string "A"), ("spec", .object [("servers", .bool false),
      ("endpoints", .array [endpoint'])]), ("source_url", .string "u")] [("rating", .object [])]
      ?_ ?_ (List.reverse_perm _).symm
    · have hcreated : Timestamp.schema.Rearranges (.ofJson (.string "2025-01-01T00:00:00Z"))
          (.ofJson (.string "2025-01-01T00:00:00Z")) := .string _
      simp [Fields.RearrangesMember, answers, Fields.required, Fields.defaulted,
        Document.ofMembers, hstring, hcreated, hspec]
    · simp [Fields.Unknown, Fields.required, Fields.defaulted, Fields.optional, Fields.flag]
  have hdistinct : (Document.ofJson v).Distinct := by
    simp [v, endpoint, parameter, Document.Distinct, Document.DistinctMembers,
      Document.DistinctItems, Document.ofJson, Document.ofMembers, Document.ofItems]
  obtain ⟨p, hp, hurl⟩ : ∃ p, schema.ofJson v = .ok p ∧ p.sourceUrl = "u" := by
    unfold v endpoint parameter
    exact ⟨_, rfl, rfl⟩
  have hcanonical : v.canonical = v := by
    unfold v endpoint parameter
    rfl
  have htext : schema.ofText v.compact = .ok p := by
    rw [← toOption_eq_some_iff, ← hcanonical, Schema.toOption_ofText_compact rfl (by decide), hp]
    rfl
  exact ⟨p, htext, ofText_of_rearranged_text (isDocument_ofJson_iff.mpr (isText_compact hv))
    hdistinct htext hmove (isDocument_ofJson_iff.mpr (isText_compact hv')), hurl⟩

end Project
end SdkShelf
