import SdkShelf.Json.Decode
import SdkShelf.Project.Shrink

/-!
# Shrunk projects and shorter collections

What is shrunk already stays as it is when it is shrunk again, and a collection without its last
projects never takes more room.
-/

namespace SdkShelf

namespace Json

theorem compactItems_append (vs ws : List Json) :
    compactItems (vs ++ ws) = compactItems vs ++ compactItems ws := by
  induction vs with
  | nil => rfl
  | cons v vs ih =>
    rw [List.cons_append, compactItems, compactItems, ih, List.cons_append, List.append_assoc]

/-- The text of a list grows with every item behind the first. -/
theorem size_text_list_le {α : Type} (s : Schema α) (a : α) (as bs : List α) :
    ((Schema.list s).text (a :: as)).utf8ByteSize ≤
      ((Schema.list s).text (a :: (as ++ bs))).utf8ByteSize := by
  have hshort : (Schema.list s).text (a :: as) =
      String.ofList ('[' :: compactChars (s.encode a)) ++
        String.ofList (compactItems (as.map s.encode)) ++ String.ofList [']'] := by
    rw [← String.ofList_append, ← String.ofList_append]
    rfl
  have hlong : (Schema.list s).text (a :: (as ++ bs)) =
      String.ofList ('[' :: compactChars (s.encode a)) ++
        (String.ofList (compactItems (as.map s.encode)) ++
          String.ofList (compactItems (bs.map s.encode))) ++ String.ofList [']'] := by
    rw [← String.ofList_append, ← compactItems_append, ← List.map_append, ← String.ofList_append,
      ← String.ofList_append]
    rfl
  rw [hshort, hlong]
  simp only [String.utf8ByteSize_append]
  omega

end Json

namespace Project

theorem toList_cutCode {code : String} (h : codeLimit < code.length) :
    (cutCode code).toList = code.toList.take codeLimit ++ cutMarker.toList := by
  rw [cutCode, if_pos h, String.toList_append, String.toList_ofList]

theorem toList_cutCode_eq_ite (code : String) :
    (cutCode code).toList =
      if code.toList.length ≤ codeLimit then code.toList
      else code.toList.take codeLimit ++ cutMarker.toList := by
  rw [String.length_toList]
  split
  · rename_i h
    rw [cutCode, if_neg (Nat.not_lt.mpr h)]
  · rename_i h
    exact toList_cutCode (Nat.not_le.mp h)

theorem cutCode_cutCode (code : String) : cutCode (cutCode code) = cutCode code := by
  by_cases h : codeLimit < code.length
  · have hlen : (code.toList.take codeLimit).length = codeLimit := by
      rw [List.length_take, String.length_toList]
      omega
    have hlong : codeLimit < (cutCode code).length := by
      rw [← String.length_toList, toList_cutCode h, List.length_append, hlen]
      exact Nat.lt_add_of_pos_right (by decide)
    apply String.toList_injective
    rw [toList_cutCode hlong, toList_cutCode h, List.take_left' hlen]
  · have hcut : cutCode code = code := by
      rw [cutCode, if_neg h]
    rw [hcut, hcut]

theorem shrink_shrink (p : Project) : p.shrink.shrink = p.shrink := by
  have hcode : cutCode p.shrink.sdkCode = p.shrink.sdkCode := cutCode_cutCode p.sdkCode
  have hendpoints : (p.shrink.spec.endpoints.take endpointLimit).map outline =
      p.shrink.spec.endpoints := by
    show (((p.spec.endpoints.take endpointLimit).map outline).take endpointLimit).map outline = _
    rw [← List.map_take, List.take_take, Nat.min_self, List.map_map]
    rfl
  rw [shrink, hcode, hendpoints]
  rfl

theorem getElem?_endpoints_shrink (p : Project) (i : Nat) :
    p.shrink.spec.endpoints[i]? =
      if i < endpointLimit then p.spec.endpoints[i]?.map outline else none := by
  show ((p.spec.endpoints.take endpointLimit).map outline)[i]? = _
  rw [List.getElem?_map, List.getElem?_take]
  split <;> rfl

theorem length_endpoints_shrink (p : Project) :
    p.shrink.spec.endpoints.length = min endpointLimit p.spec.endpoints.length := by
  show ((p.spec.endpoints.take endpointLimit).map outline).length = _
  rw [List.length_map, List.length_take]

/-- Shrinking cuts the code between two characters and the endpoints to an outline of the first
ones, keeps everything else, and cuts nothing more when it is done again.  A shrunk collection
without its last projects is the shorter collection shrunk. -/
theorem shrink_cuts_once :
    (∀ p : Project,
      p.shrink.shrink = p.shrink ∧
      (p.shrink.sdkCode.toList =
        if p.sdkCode.toList.length ≤ 500 then p.sdkCode.toList
        else p.sdkCode.toList.take 500 ++ cutMarker.toList) ∧
      p.shrink.spec.endpoints.length = min 5 p.spec.endpoints.length ∧
      (∀ i, p.shrink.spec.endpoints[i]? =
        if i < 5 then
          p.spec.endpoints[i]?.map fun e => ⟨e.method, e.path, e.summary, none, Dictionary.empty⟩
        else none) ∧
      p.shrink.spec.truncated = true ∧
      ∃ code endpoints, p.shrink =
        { p with
          sdkCode := code
          spec := { p.spec with endpoints := endpoints, truncated := true } }) ∧
    ∀ (ps : List Project) (k : Nat), (ps.take k).map shrink = (ps.map shrink).take k := by
  refine ⟨fun p => ⟨p.shrink_shrink, toList_cutCode_eq_ite p.sdkCode, p.length_endpoints_shrink,
    p.getElem?_endpoints_shrink, rfl, p.shrink.sdkCode, p.shrink.spec.endpoints, rfl⟩, ?_⟩
  intro ps k
  exact List.map_take

theorem map_shrink_map_shrink (ps : List Project) :
    (ps.map shrink).map shrink = ps.map shrink := by
  rw [List.map_map]
  exact List.map_congr_left fun p _ => p.shrink_shrink

/-- A collection without its last projects takes no more room, as long as one project stays. -/
theorem size_text_take_le {m n : Nat} (hm : 1 ≤ m) (hmn : m ≤ n) (ps : List Project) :
    (listSchema.text (ps.take m)).utf8ByteSize ≤ (listSchema.text (ps.take n)).utf8ByteSize := by
  obtain ⟨k, rfl⟩ := Nat.exists_eq_add_of_le hmn
  cases ps with
  | nil => simp
  | cons p ps =>
    obtain ⟨i, rfl⟩ := Nat.exists_eq_add_of_le' hm
    rw [Nat.add_right_comm, List.take_succ_cons, List.take_succ_cons, List.take_add]
    exact Json.size_text_list_le schema p _ _

end Project
end SdkShelf
