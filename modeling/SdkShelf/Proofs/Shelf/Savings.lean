import Mathlib.Algebra.GroupWithZero.Nat
import SdkShelf.Proofs.Json.Size
import SdkShelf.Proofs.Shelf.Quota

/-!
# What shrinking saves

Shrinking takes code, endpoints and their details out of a collection's text, and puts a flag and a
marker into it.  The text gets longer exactly if these take more room than what was taken out, and
only then are projects given up for which there was room.
-/

namespace SdkShelf

open String (utf8Len)

namespace Json

/-- The bytes of a value's text. -/
def textSize (v : Json) : Nat := utf8Len (compactChars v)

/-- The bytes of a member, with the comma in front of it. -/
def memberSize (name : String) (v : Json) : Nat := utf8Len (stringText name) + textSize v + 2

/-- The bytes of characters that stand in a string. -/
def escapedSize (cs : List Char) : Nat := utf8Len (cs.flatMap escapeChar)

theorem escapedSize_append (cs ds : List Char) :
    escapedSize (cs ++ ds) = escapedSize cs + escapedSize ds := by
  rw [escapedSize, List.flatMap_append, String.utf8Len_append, escapedSize, escapedSize]

theorem textSize_string (s : String) : textSize (.string s) = escapedSize s.toList + 2 := by
  have hquote : '"'.utf8Size = 1 := rfl
  have hlast : utf8Len ['"'] = 1 := rfl
  rw [textSize, compactChars, stringText, String.utf8Len_cons, String.utf8Len_append, hquote, hlast,
    escapedSize]

/-- The bytes of an object's members, with a comma in front of each. -/
def membersSize (members : List (String × Json)) : Nat := utf8Len (compactMembers members)

theorem textSize_record {α γ σ : Type} {name : String} {fields : Fields γ σ} {make : γ → α}
    {parts : α → γ} {a : α} (h : fields.encode (parts a) ≠ []) :
    textSize ((Schema.record name fields make parts).encode a) =
      membersSize (fields.encode (parts a)) + 1 := by
  rw [Schema.encode]
  exact utf8Len_compactChars_object h

/-- The bytes of a member that is left out where there is no text. -/
def optionSize (name : String) : Option String → Nat
  | none => 0
  | some text => memberSize name (.string text)

section

variable {α γ σ : Type} (name : String) (schema : Schema α) (rest : Fields γ σ) (more : γ)

theorem membersSize_field (aliases : List String) (absent : Option α) (hidden : α → Bool) (a : α) :
    membersSize ((Fields.cons name aliases schema absent hidden rest).encode (a, more)) =
      (if hidden a then 0 else memberSize name (schema.encode a)) +
        membersSize (rest.encode more) := by
  rw [Fields.encode]
  split
  · rw [Nat.zero_add]
  · rw [membersSize, utf8Len_compactMembers_cons, memberSize, textSize, membersSize]
    dsimp only
    omega

theorem membersSize_shown (aliases : List String) (absent : Option α) (a : α) :
    membersSize ((Fields.cons name aliases schema absent (fun _ => false) rest).encode (a, more)) =
      memberSize name (schema.encode a) + membersSize (rest.encode more) := by
  rw [membersSize_field, if_neg Bool.false_ne_true]

theorem membersSize_optional (text? : Option String) :
    membersSize ((Fields.optional name .string rest).encode (text?, more)) =
      optionSize name text? + membersSize (rest.encode more) := by
  rw [Fields.optional, membersSize_field]
  cases text? <;> rfl

theorem membersSize_flag (b : Bool) :
    membersSize ((Fields.flag name rest).encode (b, more)) =
      (if b then memberSize name (.bool true) else 0) + membersSize (rest.encode more) := by
  rw [Fields.flag, membersSize_field]
  cases b <;> rfl

theorem membersSize_nil : membersSize (Fields.nil.encode ()) = 0 := rfl

end

/-- The bytes of a list's items, with a comma in front of each. -/
def itemsSize {α : Type} (s : Schema α) (as : List α) : Nat :=
  utf8Len (compactItems (as.map s.encode))

theorem itemsSize_cons {α : Type} (s : Schema α) (a : α) (as : List α) :
    itemsSize s (a :: as) = textSize (s.encode a) + itemsSize s as + 1 :=
  utf8Len_compactItems_cons _ _

theorem itemsSize_append {α : Type} (s : Schema α) (as bs : List α) :
    itemsSize s (as ++ bs) = itemsSize s as + itemsSize s bs := by
  rw [itemsSize, List.map_append, compactItems_append, String.utf8Len_append, itemsSize, itemsSize]

theorem textSize_list {α : Type} (s : Schema α) {as : List α} (h : as ≠ []) :
    textSize ((Schema.list s).encode as) = itemsSize s as + 1 :=
  utf8Len_compactChars_array fun hnil => h (List.map_eq_nil_iff.mp hnil)

/-- What is saved and spent item by item is saved and spent in the list. -/
theorem itemsSize_map_add {α : Type} {s : Schema α} {f : α → α} {saved spent : α → Nat}
    (h : ∀ a, textSize (s.encode (f a)) + saved a = textSize (s.encode a) + spent a) (as : List α) :
    itemsSize s (as.map f) + (as.map saved).sum = itemsSize s as + (as.map spent).sum := by
  induction as with
  | nil => rfl
  | cons a as ih =>
    have ha := h a
    simp only [List.map_cons, itemsSize_cons, List.sum_cons]
    omega

end Json

namespace Project

open Json (textSize memberSize membersSize optionSize escapedSize itemsSize)

/-! ## Endpoints -/

/-- The bytes of what an endpoint loses in outline. -/
def detailSize (e : Api.Endpoint) : Nat :=
  optionSize "description" e.description +
    if e.parameters.isEmpty then 0
    else memberSize "parameters"
      ((Json.Schema.map (.list Api.Parameter.schema)).encode e.parameters)

theorem textSize_endpoint (e : Api.Endpoint) :
    textSize (Api.Endpoint.schema.encode e) =
      memberSize "method" (Http.Method.schema.encode e.method) + memberSize "path" (.string e.path) +
        optionSize "summary" e.summary + detailSize e + 1 := by
  rw [Api.Endpoint.schema, Json.textSize_record]
  · rw [Json.Fields.required, Json.Fields.required, Json.membersSize_shown,
      Json.membersSize_shown, Json.membersSize_optional, Json.membersSize_optional,
      Json.membersSize_field, Json.membersSize_nil, detailSize]
    simp only [Nat.add_assoc]
    rfl
  · exact List.cons_ne_nil _ _

theorem textSize_outline (e : Api.Endpoint) :
    textSize (Api.Endpoint.schema.encode (outline e)) + detailSize e =
      textSize (Api.Endpoint.schema.encode e) := by
  have hnone : detailSize (outline e) = 0 := rfl
  rw [textSize_endpoint, textSize_endpoint e, hnone]
  dsimp only [outline]
  omega

/-- The bytes of what a project's endpoints lose: details of the first few, and the others. -/
def trimmedSize (es : List Api.Endpoint) : Nat :=
  ((es.take endpointLimit).map detailSize).sum +
    itemsSize Api.Endpoint.schema (es.drop endpointLimit)

theorem itemsSize_outlines (es : List Api.Endpoint) :
    itemsSize Api.Endpoint.schema ((es.take endpointLimit).map outline) + trimmedSize es =
      itemsSize Api.Endpoint.schema es := by
  have hkept : itemsSize Api.Endpoint.schema ((es.take endpointLimit).map outline) +
      ((es.take endpointLimit).map detailSize).sum =
        itemsSize Api.Endpoint.schema (es.take endpointLimit) +
          ((es.take endpointLimit).map fun _ => 0).sum :=
    Json.itemsSize_map_add textSize_outline _
  have hspent : ((es.take endpointLimit).map fun _ => 0).sum = 0 := by simp
  have hparts : itemsSize Api.Endpoint.schema es =
      itemsSize Api.Endpoint.schema (es.take endpointLimit) +
        itemsSize Api.Endpoint.schema (es.drop endpointLimit) := by
    rw [← Json.itemsSize_append, List.take_append_drop]
  rw [hparts, trimmedSize]
  omega

theorem textSize_endpoints (es : List Api.Endpoint) :
    textSize ((Json.Schema.list Api.Endpoint.schema).encode
        ((es.take endpointLimit).map outline)) + trimmedSize es =
      textSize ((Json.Schema.list Api.Endpoint.schema).encode es) := by
  cases es with
  | nil => rfl
  | cons e es =>
    have hkept : ((e :: es).take endpointLimit).map outline ≠ [] := List.cons_ne_nil _ _
    have hitems := itemsSize_outlines (e :: es)
    rw [Json.textSize_list _ hkept, Json.textSize_list _ (List.cons_ne_nil e es)]
    omega

/-! ## Specifications and code -/

/-- The bytes of the flag that marks a cut specification. -/
def flagSize : Nat := 17

theorem textSize_spec (s : Api.Spec) :
    textSize (Api.Spec.schema.encode s) =
      optionSize "name" s.name + optionSize "version" s.version +
        memberSize "base_url" (.string s.baseUrl) +
        memberSize "endpoints" ((Json.Schema.list Api.Endpoint.schema).encode s.endpoints) +
        (if s.truncated then flagSize else 0) + 1 := by
  rw [Api.Spec.schema, Json.textSize_record]
  · rw [Json.membersSize_optional, Json.membersSize_optional, Json.Fields.defaulted,
      Json.Fields.defaulted, Json.membersSize_shown, Json.membersSize_shown, Json.membersSize_flag,
      Json.membersSize_nil]
    simp only [Nat.add_assoc]
    rfl
  · obtain ⟨_ | _, _ | _, _, _, _⟩ := s <;> exact List.cons_ne_nil _ _

/-- The specification of a shrunk project. -/
theorem textSize_shrunk_spec (p : Project) :
    textSize (Api.Spec.schema.encode p.shrink.spec) + trimmedSize p.spec.endpoints =
      textSize (Api.Spec.schema.encode p.spec) + if p.spec.truncated then 0 else flagSize := by
  have hendpoints := textSize_endpoints p.spec.endpoints
  rw [textSize_spec, textSize_spec, shrink]
  simp only [memberSize, if_true]
  split <;> omega

/-- The bytes of the marker behind code that was cut. -/
def markerSize : Nat := 43

theorem escapedSize_cutMarker : escapedSize cutMarker.toList = markerSize := by decide

theorem textSize_cutCode (code : String) :
    textSize (.string (cutCode code)) + escapedSize (code.toList.drop codeLimit) =
      textSize (.string code) + if codeLimit < code.length then markerSize else 0 := by
  rw [Json.textSize_string, Json.textSize_string]
  by_cases h : codeLimit < code.length
  · have hcode : escapedSize code.toList = escapedSize (code.toList.take codeLimit) +
        escapedSize (code.toList.drop codeLimit) := by
      rw [← Json.escapedSize_append, List.take_append_drop]
    rw [toList_cutCode h, Json.escapedSize_append, escapedSize_cutMarker, if_pos h]
    omega
  · have hdrop : code.toList.drop codeLimit = [] := by
      rw [List.drop_eq_nil_iff, String.length_toList]
      omega
    rw [cutCode, if_neg h, if_neg h, hdrop]
    rfl

/-! ## Projects and collections -/

/-- The bytes of what shrinking takes out of a project. -/
def savedSize (p : Project) : Nat :=
  escapedSize (p.sdkCode.toList.drop codeLimit) + trimmedSize p.spec.endpoints

/-- The bytes of what shrinking puts into a project. -/
def spentSize (p : Project) : Nat :=
  (if codeLimit < p.sdkCode.length then markerSize else 0) +
    if p.spec.truncated then 0 else flagSize

/-- The bytes of a project beside its specification and its code. -/
def frameSize (p : Project) : Nat :=
  memberSize "id" (.string p.id) + memberSize "name" (.string p.name) +
    memberSize "url" (.string p.sourceUrl) +
    memberSize "created_at" (Timestamp.schema.encode p.createdAt) +
    optionSize "version" p.version + (if p.isMock then memberSize "is_mock" (.bool true) else 0) +
    optionSize "source" p.source + 1

theorem textSize_project (p : Project) :
    textSize (schema.encode p) =
      frameSize p + memberSize "spec" (Api.Spec.schema.encode p.spec) +
        memberSize "sdk_code" (.string p.sdkCode) := by
  rw [schema, Json.textSize_record]
  · simp only [Json.Fields.required, Json.Fields.defaulted, Json.membersSize_shown,
      Json.membersSize_optional, Json.membersSize_flag, Json.membersSize_nil, frameSize,
      Json.Schema.encode]
    omega
  · exact List.cons_ne_nil _ _

/-- The text of a shrunk project. -/
theorem textSize_shrink (p : Project) :
    textSize (schema.encode p.shrink) + savedSize p = textSize (schema.encode p) + spentSize p := by
  have hspec := textSize_shrunk_spec p
  have hcode := textSize_cutCode p.sdkCode
  have hframe : frameSize p.shrink = frameSize p := rfl
  have hcut : p.shrink.sdkCode = cutCode p.sdkCode := rfl
  rw [textSize_project, textSize_project p, hframe, hcut, savedSize, spentSize]
  simp only [memberSize]
  omega

theorem size_text (ps : List Project) :
    (listSchema.text ps).utf8ByteSize = textSize (listSchema.encode ps) :=
  Json.utf8ByteSize_compact _

/-- Shrinking changes the size of a collection's text by what it puts in and takes out. -/
theorem size_text_shrink (ps : List Project) :
    (listSchema.text (ps.map shrink)).utf8ByteSize + (ps.map savedSize).sum =
      (listSchema.text ps).utf8ByteSize + (ps.map spentSize).sum := by
  rw [size_text, size_text]
  cases ps with
  | nil => rfl
  | cons p ps =>
    have hshrunk : (p :: ps).map shrink ≠ [] := List.cons_ne_nil _ _
    have hitems := Json.itemsSize_map_add textSize_shrink (p :: ps)
    rw [listSchema, Json.textSize_list _ hshrunk, Json.textSize_list _ (List.cons_ne_nil p ps)]
    omega

end Project

namespace Shelf

open Project (savedSize spentSize)

variable {s : Shelf MemoryStore} {ps : List Project} {m : Nat}

/-- There is room for the first shrunk projects where there is room for them as they are, if they
shrink by what is put into them at least. -/
theorem fits_reducedText (hfits : s.Fits (Project.listSchema.text (ps.take m)))
    (hsaved : ((ps.take m).map spentSize).sum ≤ ((ps.take m).map savedSize).sum) :
    s.Fits (reducedText ps m) := by
  have hsize := Project.size_text_shrink (ps.take m)
  rw [reducedText, ← List.map_take]
  exact hfits.mono (by omega)

/-- No save gives up one of the first shrunk projects if there is room for them. -/
theorem load_saveAs_of_fits_reducedText (hm : 1 ≤ m) (hle : m ≤ ps.length)
    (hfits : s.Fits (reducedText ps m)) :
    (s.saveAs Project.listSchema s.collectionKey ps).1 = true ∧
      ∀ default, m ≤ ((s.saveAs Project.listSchema s.collectionKey ps).2.load Project.listSchema
        s.collectionKey default).length := by
  rcases saveAs_cases s ps with ⟨_, hsave⟩ | ⟨_, k, hlongest, hsave⟩ | ⟨_, hnone, _⟩
  · rw [hsave]
    refine ⟨rfl, fun default => ?_⟩
    rw [load_put (valueOf?_plainText ps)]
    exact hle
  · rw [hsave]
    refine ⟨rfl, fun default => ?_⟩
    have hk : m ≤ k := by
      by_contra hlt
      exact hlongest.longest m (Nat.not_le.mp hlt) hle hfits
    rw [load_put (valueOf?_reducedText ps k), List.length_take, List.length_map]
    exact Nat.le_min.mpr ⟨hk, hle⟩
  · exact absurd hfits (hnone m hm hle)

end Shelf

namespace Project

/-- The text of a shrunk collection takes exactly as much less room as is taken out of its projects,
and as much more as is put into them: it is no longer than before if and only if the former is no
less.  Where it is so for the first projects and there is room for them as they are, none of them is
given up. -/
theorem size_text_shrink_balanced (ps : List Project) :
    (listSchema.text (ps.map shrink)).utf8ByteSize + (ps.map savedSize).sum =
      (listSchema.text ps).utf8ByteSize + (ps.map spentSize).sum ∧
    ((listSchema.text (ps.map shrink)).utf8ByteSize ≤ (listSchema.text ps).utf8ByteSize ↔
      (ps.map spentSize).sum ≤ (ps.map savedSize).sum) ∧
    ∀ (s : Shelf MemoryStore) (m : Nat), 1 ≤ m → m ≤ ps.length →
      s.Fits (listSchema.text (ps.take m)) →
      ((ps.take m).map spentSize).sum ≤ ((ps.take m).map savedSize).sum →
      (s.saveAs listSchema s.collectionKey ps).1 = true ∧
      ∀ default, m ≤ ((s.saveAs listSchema s.collectionKey ps).2.load listSchema s.collectionKey
        default).length := by
  have hsize := size_text_shrink ps
  refine ⟨hsize, by omega, fun s m hm hle hfits hsaved => ?_⟩
  exact Shelf.load_saveAs_of_fits_reducedText hm hle (Shelf.fits_reducedText hfits hsaved)

/-- A project with nothing to take out gets longer by the flag. -/
theorem size_text_shrink_of_bare :
    ¬ ∀ ps : List Project,
      (listSchema.text (ps.map shrink)).utf8ByteSize ≤ (listSchema.text ps).utf8ByteSize := by
  intro hle
  let p : Project := ⟨"p1", "A", "u", .empty, "", ⟨⟨2025, 1, 1, by decide⟩, 0, 0, 0, 0, by decide⟩,
    none, false, none⟩
  have hsize := size_text_shrink [p]
  have hspent : ([p].map spentSize).sum = 17 := rfl
  have hsaved : ([p].map savedSize).sum = 0 := rfl
  have h := hle [p]
  omega

end Project
end SdkShelf
