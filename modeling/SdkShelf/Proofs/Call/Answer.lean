import SdkShelf.Proofs.Backend.Rejection

/-!
# What the relay brings back

The backend answers a relayed request with a status and a JSON value.  The value becomes a text, a
string standing for itself, and the text is read as JSON again where it can be.  So a value comes
back as it was sent, unless it is a string that itself is the text of a value: that value is what
comes back.
-/

namespace SdkShelf

open Json

namespace Backend

/-- An answer is read from an object of its two members, in either order. -/
theorem RelayAnswer.ofText_of_members {text : String} {status : UInt16} {v : Json}
    {ms : List (String × Json)} (htext : IsText text (.object ms))
    (hms : ms.Perm [("status_code", Schema.uint16.encode status), ("response", v)])
    (hdepth : v.depth < depthLimit) : schema.ofText text = .ok ⟨status, v.canonical⟩ := by
  refine Schema.ofText_of_isDocument (isDocument_ofJson_iff.mpr htext) fun t ht => ?_
  obtain ⟨start, ts, bracket, rfl, hts⟩ := ht.exists_object
  have hperm : (Document.ofMembers ms).Perm
      [(some "status_code", .ofJson (Schema.uint16.encode status)),
        (some "response", .ofJson v)] := by
    rw [Document.ofMembers_eq]
    exact hms.map _
  have hcodes : (Document.ofMembers ms).filter (fun m => answers "status_code" [] m.1) =
      [(some "status_code", .ofJson (Schema.uint16.encode status))] :=
    List.perm_singleton.mp (hperm.filter _)
  have hvalues : (Document.ofMembers ms).filter (fun m => !answers "status_code" [] m.1) =
      [(some "response", .ofJson v)] := List.perm_singleton.mp (hperm.filter _)
  obtain ⟨hown, hothers⟩ := depictsMember_filter (depictsMembers_forall₂ hts) "status_code" []
  rw [hcodes] at hown
  rw [hvalues] at hothers
  obtain ⟨x, hstatus, -, hx⟩ := exists_singleton_of_forall₂ hown
  obtain ⟨y, hresponse, hname, hy⟩ := exists_singleton_of_forall₂ hothers
  have hanswers : Label.answers "response" [] y = true := by
    rw [Label.answers, hname]
    rfl
  have hcode : Schema.uint16.decode (.text 126) x.2 = .ok status :=
    Schema.uint16.decode_of_holds trivial (Schema.uint16.plain_encode trivial) (Nat.zero_le 126)
      (Reader.holds_of_depicts _ hx) rfl
  have hvalue : Schema.json.decode (.text 126) y.2 = .ok v.canonical :=
    (Schema.decode_json_iff hy).mpr ⟨v, rfl, Nat.le_of_lt_succ hdepth, rfl⟩
  refine Schema.decode_record_object_iff.mpr ⟨.text 126, (status, v.canonical, ()), rfl,
    Fields.takes_required_iff.mpr ⟨⟨x, hstatus, hcode⟩, ?_⟩, rfl⟩
  rw [hresponse, Fields.defaulted, Fields.Takes, List.filter_cons_of_pos hanswers,
    List.filter_cons_of_neg (by simp [hanswers])]
  exact ⟨⟨_, .one hvalue, rfl⟩, fun m hm => absurd hm List.not_mem_nil⟩

theorem RelayAnswer.plain_encode {a : RelayAnswer} (h : a.response.Plain) :
    (Json.object [("status_code", Schema.uint16.encode a.statusCode),
      ("response", a.response)]).Plain := by
  refine plain_object.mpr ⟨by simp, fun m hm => ?_⟩
  rcases List.mem_pair.mp hm with rfl | rfl
  · exact Schema.uint16.plain_encode trivial
  · exact h

end Backend

namespace Call

namespace Transport

/-- What is no string stands in an answer as its compact text. -/
theorem text_responseOf {status : UInt16} {v : Json} (h : ∀ text, v ≠ .string text) :
    (responseOf ⟨status, v.canonical⟩).text = v.canonical.compact := by
  cases v with
  | string text => exact absurd rfl (h text)
  | null | bool _ | number _ | array _ | object _ => rfl

end Transport

theorem bodyJson?_of_isText {status : UInt16} {text : String} {w : Json} (h : IsText text w)
    (hdepth : w.depth ≤ depthLimit) :
    (Outcome.success status text).bodyJson? = some w.canonical := by
  rw [Outcome.bodyJson?, Schema.ofText_json_iff.mpr ⟨w, h, hdepth, rfl⟩]

theorem bodyJson?_of_not_isText {status : UInt16} {text : String}
    (h : ¬∃ w, IsText text w ∧ w.depth ≤ depthLimit) :
    (Outcome.success status text).bodyJson? = some (.string text) := by
  obtain ⟨cause, hcause⟩ := Schema.ofText_json_eq_error_iff.mpr h
  rw [Outcome.bodyJson?, hcause]

/-- The value of an answer is the body's, unless it is a string with JSON in it. -/
theorem bodyJson?_responseOf {status : UInt16} {v : Json} (hwhole : v.Whole)
    (hdepth : v.depth ≤ depthLimit)
    (hstring : ∀ text w, v = .string text → IsText text w → depthLimit < w.depth) :
    (Outcome.success status (Transport.responseOf ⟨status, v.canonical⟩).text).bodyJson? =
      some v.canonical := by
  by_cases h : ∃ text, v = .string text
  · obtain ⟨text, rfl⟩ := h
    exact bodyJson?_of_not_isText fun ⟨w, htext, hw⟩ =>
      absurd hw (Nat.not_le_of_lt (hstring text w rfl htext))
  · rw [Transport.text_responseOf (not_exists.mp h),
      bodyJson?_of_isText (isText_compact (plain_canonical_of_whole hwhole))
        (Nat.le_trans (depth_canonical_le v) hdepth), canonical_canonical]

section

variable {backend : Backend.Client} {baseUrl : String} {e : Api.Endpoint}
  {values : Dictionary String} {body : Option String} {r : Request} {n : Http.Network}
  {m : Http.Message} {u : Url} {reply : Http.Response} {status : UInt16} {v : Json}
  {ms : List (String × Json)}

theorem execute_relayed_of_answer (hprepare : Request.prepare baseUrl e values body = .ok r)
    (hbuild : backend.http.build (relayDraft backend r) = .ok (m, u))
    (hgets : Http.Client.Gets u m n reply) (hstatus : Http.Status.isSuccess reply.status = true)
    (htext : IsText reply.text (.object ms))
    (hms : ms.Perm [("status_code", Schema.uint16.encode status), ("response", v)])
    (hdepth : v.depth < depthLimit) :
    (execute (.relayed backend) baseUrl e values body n).1 =
      .success status (Transport.responseOf ⟨status, v.canonical⟩).text := by
  obtain ⟨given, hgoes, rfl⟩ := Http.Client.build_eq_ok_iff.mp hbuild
  exact execute_eq_success_iff.mpr ⟨r, hprepare, relayed_eq_ok_iff.mpr ⟨_, rfl, given, u, reply,
    hgoes, hgets, hstatus, Backend.RelayAnswer.ofText_of_members htext hms hdepth⟩⟩

/-- The answer of a relayed request has the status that the backend tells, and as its body the value
that the backend sends.  Only a string that is the text of a value comes back as that value. -/
theorem execute_relayed_bodyJson (hprepare : Request.prepare baseUrl e values body = .ok r)
    (hbuild : backend.http.build (relayDraft backend r) = .ok (m, u))
    (hgets : Http.Client.Gets u m n reply)
    (hstatus : 200 ≤ reply.status.toNat ∧ reply.status.toNat < 300)
    (htext : IsText reply.text (.object ms))
    (hms : ms.Perm [("status_code", Schema.uint16.encode status), ("response", v)])
    (hwhole : v.Whole) (hdepth : v.depth < depthLimit) :
    ∃ text, (execute (.relayed backend) baseUrl e values body n).1 = .success status text ∧
      ((∀ s w, v = .string s → IsText s w → depthLimit < w.depth) →
        (Outcome.success status text).bodyJson? = some v.canonical) ∧
      ∀ s w, v = .string s → IsText s w → w.depth ≤ depthLimit →
        (Outcome.success status text).bodyJson? = some w.canonical := by
  have hgood : Http.Status.isSuccess reply.status = true := by
    rw [Http.Status.isSuccess, Bool.and_eq_true_iff, decide_eq_true_iff, decide_eq_true_iff]
    exact hstatus
  refine ⟨_, execute_relayed_of_answer hprepare hbuild hgets hgood htext hms hdepth,
    bodyJson?_responseOf hwhole (Nat.le_of_lt hdepth), ?_⟩
  rintro s w rfl hs hw
  exact bodyJson?_of_isText hs hw

end

/-- A request for a pet. -/
def petRequest : Request := ⟨"https://api.example.com", "/pets", .get, .empty, .empty, none⟩

theorem prepare_petRequest : Request.prepare "https://api.example.com"
    ⟨.get, "/pets", none, none, .empty⟩ .empty none = .ok petRequest := by
  rfl

theorem build_petRequest : ∃ m u,
    Backend.Client.plain.http.build (relayDraft .plain petRequest) = .ok (m, u) ∧
      m.method = .post := by
  have haddress : Backend.Client.plain.addressOf "playground/execute" =
      "http://backend/api/playground/execute" := by
    decide +kernel
  have hurl : Url.parse (Backend.Client.plain.addressOf "playground/execute") = .ok
      ⟨"http", some ⟨"", none, some (.domain "backend"), none⟩,
        .segments ["api", "playground", "execute"], none, none⟩ := by
    rw [haddress]
    exact (Backend.Client.isPlainName_backend.parse "http" "/api/playground/execute".toList
      (by decide +kernel) (by decide) (by decide)).trans (congrArg Except.ok (by decide +kernel))
  rw [← relayDraft_eq]
  exact Backend.Client.exists_build hurl rfl (by decide +kernel)

theorem execute_relayed_bodyJson_of_pet :
    let v : Json := .object [("name", .string "Rex"), ("tags", .array [.null, .string "old"])]
    let reply := (Json.object [("status_code", Schema.uint16.encode 404), ("response", v)]).compact
    let n : Http.Network := .ofReplies true [.plain 200 (Text.bytes reply)]
    ∃ text, (execute (.relayed .plain) "https://api.example.com"
        ⟨.get, "/pets", none, none, .empty⟩ .empty none n).1 = .success 404 text ∧
      (Outcome.success 404 text).bodyJson? = some v := by
  intro v reply n
  obtain ⟨m, u, hbuild, hmethod⟩ := build_petRequest
  have hanswers : n.Answers u m ⟨200, reply⟩ :=
    Http.Network.answers_text rfl rfl (by rw [hmethod]; decide) (by decide)
  have hplain : v.Plain := by simp [v, Plain, Every, EveryMember, EveryItem, PlainNode]
  obtain ⟨text, houtcome, hbody, -⟩ := execute_relayed_bodyJson prepare_petRequest hbuild
    hanswers.gets (by decide)
    (isText_compact (Backend.RelayAnswer.plain_encode (a := ⟨404, v⟩) hplain)) (.refl _)
    (whole_of_plain hplain) (by decide)
  exact ⟨text, houtcome, hbody (by simp [v])⟩

/-- A string of digits comes back as a number. -/
theorem execute_relayed_digits :
    let reply := (Json.object [("status_code", Schema.uint16.encode 200),
      ("response", .string "123")]).compact
    let n : Http.Network := .ofReplies true [.plain 200 (Text.bytes reply)]
    ¬∃ text, (execute (.relayed .plain) "https://api.example.com"
        ⟨.get, "/pets", none, none, .empty⟩ .empty none n).1 = .success 200 text ∧
      (Outcome.success 200 text).bodyJson? = some (.string "123") := by
  rintro reply n ⟨text, houtcome, hbody⟩
  obtain ⟨m, u, hbuild, hmethod⟩ := build_petRequest
  have hanswers : n.Answers u m ⟨200, reply⟩ :=
    Http.Network.answers_text rfl rfl (by rw [hmethod]; decide) (by decide)
  have hdigits : IsText "123" (.number (.int 123 (by decide))) := by
    have htext : (Json.number (.int 123 (by decide))).compact = "123" := by decide +kernel
    rw [← htext]
    exact isText_compact (by simp [Plain, Every, PlainNode, Number.isInt])
  have hactual := execute_relayed_of_answer prepare_petRequest hbuild hanswers.gets (by decide)
    (isText_compact (Backend.RelayAnswer.plain_encode (a := ⟨200, .string "123"⟩) trivial))
    (.refl _) (by decide)
  obtain rfl : "123" = text := (Outcome.success.inj (hactual.symm.trans houtcome)).2
  rw [bodyJson?_of_isText hdigits (by decide)] at hbody
  cases hbody

end Call
end SdkShelf
