import SdkShelf.Proofs.Call.Body
import SdkShelf.Proofs.Call.Dispatch
import SdkShelf.Proofs.Project.Layout

/-!
# What the relay carries

The backend is sent a request as a text, and makes its call from what it reads there.  That is the
prepared request unless its body is null, which is written but read as no body at all, or nests so
deep that there is no room left for the request around it.  Sent straight to the API, either body
arrives.
-/

namespace SdkShelf

open Json.Fields

/-! ## The request that is written -/

namespace Backend.RelayRequest

/-- The layout in which a body is always written, and null stands for none. -/
def explicitSchema : Json.Schema RelayRequest :=
  .record "ExecuteRequest"
    (.required "base_url" .string <|
      .required "path" .string <|
      .required "method" Http.Method.schema <|
      .optional "params" (.map .string) <|
      .optional "headers" (.map .string) <|
      .defaulted "json_body" (.option .json) none .nil)
    (fun (baseUrl, path, method, params, headers, jsonBody, ()) =>
      ⟨baseUrl, path, method, params, headers, jsonBody⟩)
    (fun q => (q.baseUrl, q.path, q.method, q.params, q.headers, q.jsonBody, ()))

section

variable {q : RelayRequest}

theorem encode_null_body (h : q.jsonBody = some .null) :
    schema.encode q = explicitSchema.encode { q with jsonBody := none } := by
  obtain ⟨baseUrl, path, method, params, headers, jsonBody⟩ := q
  cases h
  rfl

theorem decode_explicitSchema (o : Json.Origin) (start : Json.Mark)
    (members : List (Json.Label × Json.Tree)) (ending : Json.Ending) :
    explicitSchema.decode o (.object start members ending) =
      schema.decode o (.object start members ending) := rfl

theorem faithful_map (d : Dictionary String) : (Json.Schema.map .string).encode d ≠ .null ∧
    (Json.Schema.map .string).Faithful d :=
  ⟨Json.noConfusion, fun _ _ => trivial⟩

theorem faithful (h : ∀ v, q.jsonBody = some v → v ≠ .null ∧ v.Plain ∧ v.canonical = v) :
    schema.Faithful q := by
  refine ⟨rfl, faithful_required (by decide) trivial <|
    faithful_required (by decide) trivial <|
    faithful_required (by decide) (Http.Method.faithful q.method) <|
    faithful_optional (by decide) faithful_map <|
    faithful_optional (by decide) faithful_map ?_⟩
  refine ⟨fun n hn => absurd hn List.not_mem_nil, ?_, trivial⟩
  cases hbody : q.jsonBody with
  | none => rfl
  | some v => exact h v hbody

theorem faithful_explicit (h : q.jsonBody = none) : explicitSchema.Faithful q := by
  refine ⟨rfl, faithful_required (by decide) trivial <|
    faithful_required (by decide) trivial <|
    faithful_required (by decide) (Http.Method.faithful q.method) <|
    faithful_optional (by decide) faithful_map <|
    faithful_optional (by decide) faithful_map <|
    faithful_defaulted (by decide) ?_ trivial⟩
  rw [h]
  trivial

/-- The maps of a request nest once, and the request is one container more. -/
theorem depth_encode_le {n : Nat} (hn : 1 < n) (h : ∀ v, q.jsonBody = some v → v.depth < n) :
    (schema.encode q).depth ≤ n := by
  cases n with
  | zero => exact absurd hn (Nat.not_lt_zero 1)
  | succ n =>
    have hmap : ∀ d : Option (Dictionary String),
        ((Json.Schema.option (.map .string)).encode d).depth ≤ n := fun d =>
      Nat.le_trans (Json.Schema.depth_encode_le _ rfl d) (Nat.le_of_lt_succ hn)
    have hbody : ((Json.Schema.option .json).encode q.jsonBody).depth ≤ n := by
      cases hbody : q.jsonBody with
      | none => exact Nat.zero_le n
      | some v => exact Nat.le_of_lt_succ (h v hbody)
    refine Nat.succ_le_succ (Json.depthMembers_le_iff.mpr <|
      depth_cons_le (Nat.zero_le n) <| depth_cons_le (Nat.zero_le n) <|
      depth_cons_le (Nat.zero_le n) <| depth_cons_le (hmap q.params) <|
      depth_cons_le (hmap q.headers) <| depth_cons_le hbody ?_)
    exact fun m hm => absurd hm List.not_mem_nil

theorem exists_members {v : Json} (h : q.jsonBody = some v) :
    ∃ ms, schema.encode q = .object ms ∧ ("json_body", v) ∈ ms := by
  have hbody : (Json.Schema.option .json).encode q.jsonBody = v := by
    rw [h]
    rfl
  rw [← hbody]
  refine ⟨_, rfl, mem_encode_rest <| mem_encode_rest <| mem_encode_rest <| mem_encode_rest <|
    mem_encode_rest <| mem_encode_own ?_⟩
  rw [h]
  rfl

/-- Where a request is read, there was room for its body. -/
theorem depth_of_decode {room : Nat} {start : Json.Mark} {ts : List (Json.Label × Json.Tree)}
    {ending : Json.Ending} {t : Json.Label × Json.Tree} {v : Json}
    (h : schema.decode (.text room) (.object start ts ending) = .ok q) (hmem : t ∈ ts)
    (ht : Json.Tree.HoldsMember t ("json_body", v)) : v.depth < room := by
  rw [schema, Json.Schema.decode] at h
  obtain ⟨parts, h, -⟩ := exists_of_map_eq_ok h
  rw [Json.Tree.record] at h
  obtain ⟨inner, henter, h⟩ := exists_of_bind_eq_ok h
  obtain ⟨left, rfl, rfl⟩ := Json.Origin.enter_text_eq_ok henter
  obtain ⟨slots, hslots, -⟩ := exists_of_bind_eq_ok h
  obtain ⟨key, before, after, hkey, hfill⟩ := Json.Tree.fill_of_eachSlot hslots t hmem
  have hname : t.1.key = .ok "json_body" := Json.key_of_name ht.1
  rw [hname] at hkey
  obtain rfl := Except.ok.inj hkey
  -- Five fields stand before the body, and the member belongs to none of them.
  obtain ⟨_, _, hfill⟩ := fill_rest (by decide) hfill
  obtain ⟨_, _, hfill⟩ := fill_rest (by decide) hfill
  obtain ⟨_, _, hfill⟩ := fill_rest (by decide) hfill
  obtain ⟨_, _, hfill⟩ := fill_rest (by decide) hfill
  obtain ⟨_, _, hfill⟩ := fill_rest (by decide) hfill
  obtain ⟨body, hbody⟩ := decode_of_fill hfill
  exact Nat.lt_succ_of_le (Json.Schema.depth_le_of_decode ht.2 hbody)

end

/-! ## The request that is read -/

section

variable {q : RelayRequest}

theorem ofText_text_of_body
    (h : ∀ v, q.jsonBody = some v → v ≠ .null ∧ v.Plain ∧ v.canonical = v)
    (hdepth : ∀ v, q.jsonBody = some v → v.depth < Json.depthLimit) :
    schema.ofText (schema.text q) = .ok q :=
  Json.Schema.ofText_text (faithful h) (depth_encode_le (by decide) hdepth)

/-- A body that is written as null is none once the request is read. -/
theorem ofText_text_of_null (h : q.jsonBody = some .null) :
    schema.ofText (schema.text q) = .ok { q with jsonBody := none } := by
  have hfaithful : explicitSchema.Faithful { q with jsonBody := none } := faithful_explicit rfl
  have hencode := encode_null_body h
  have hplain : (schema.encode q).Plain := by
    rw [hencode]
    exact explicitSchema.plain_encode hfaithful
  have hdepth : (schema.encode q).depth ≤ Json.depthLimit := by
    apply depth_encode_le (by decide)
    intro v hv
    rw [← Option.some.inj (h.symm.trans hv)]
    exact Nat.zero_lt_succ _
  -- The text is also that of a request without a body in the layout that always writes one, and
  -- an object is read alike in both layouts.
  obtain ⟨t, behind, htree, ht, hbehind⟩ := Json.textOf_compact hplain
  have hdecode : explicitSchema.decode (.text Json.depthLimit) t =
      .ok { q with jsonBody := none } :=
    explicitSchema.decode_of_holds hfaithful hplain hdepth ht (congrArg Json.canonical hencode)
  obtain ⟨ms, hms, -⟩ := exists_members h
  rw [hms] at ht
  obtain ⟨start, ts, bracket, rfl, -⟩ := Json.Tree.holds_object ht
  rw [decode_explicitSchema] at hdecode
  exact Json.Schema.ofText_eq_ok_iff.mpr ⟨_, behind, htree, hdecode, hbehind⟩

theorem depth_of_ofText {q' : RelayRequest} {v : Json} (hplain : (schema.encode q).Plain)
    (hbody : q.jsonBody = some v) (h : schema.ofText (schema.text q) = .ok q') :
    v.depth < Json.depthLimit := by
  obtain ⟨t, behind, htree, hdecode, -⟩ := Json.Schema.ofText_eq_ok_iff.mp h
  obtain ⟨t', behind', htree', ht, -⟩ := Json.textOf_compact hplain
  obtain ⟨rfl, rfl⟩ := Prod.mk.inj (htree.symm.trans htree')
  obtain ⟨ms, hms, hmem⟩ := exists_members hbody
  rw [hms] at ht
  obtain ⟨start, ts, bracket, rfl, hts⟩ := Json.Tree.holds_object ht
  obtain ⟨u, hu, hholds⟩ := Json.exists_mem_of_forall₂ hts hmem
  exact depth_of_decode hdecode hu hholds

end

end Backend.RelayRequest

namespace Call

open Backend (RelayRequest)

/-- The request that a backend makes of what it reads. -/
def Transport.requestOf (q : RelayRequest) : Request where
  baseUrl := q.baseUrl
  path := q.path
  method := q.method
  query := q.params.getD Dictionary.empty
  headers := q.headers.getD Dictionary.empty
  jsonBody := q.jsonBody

/-- The body, if there is one, is not null and leaves room for the request around it. -/
def Request.Carried (r : Request) : Prop :=
  ∀ v, r.jsonBody = some v → v ≠ .null ∧ v.depth < Json.depthLimit

open Transport

section

variable {r : Request} {baseUrl : String} {e : Api.Endpoint} {values : Dictionary String}
  {body : Option String}

theorem getD_of_isEmpty (d : Dictionary String) :
    (if d.isEmpty then none else some d).getD Dictionary.empty = d := by
  by_cases h : d.isEmpty = true
  · rw [if_pos h, Option.getD_none]
    apply Dictionary.eq_of_entries
    exact (List.isEmpty_iff.mp h).symm
  · rw [if_neg h, Option.getD_some]

/-- An absent map stands for an empty one. -/
theorem requestOf_relayOf (r : Request) : requestOf (relayOf r) = r := by
  rw [requestOf, relayOf, getD_of_isEmpty, getD_of_isEmpty]

theorem canonical_of_prepare (h : Request.prepare baseUrl e values body = .ok r) {v : Json}
    (hv : r.jsonBody = some v) : v.canonical = v := by
  have hbody := (Request.prepare_eq_ok_iff.mp h).1
  rw [hv] at hbody
  obtain ⟨-, text, -, w, -, -, rfl⟩ := Request.bodyOf_eq_some_iff.mp hbody
  exact Json.canonical_canonical w

theorem plain_of_prepare (h : Request.prepare baseUrl e values body = .ok r)
    (hwhole : ∀ v, r.jsonBody = some v → v.Whole) :
    ∀ v, r.jsonBody = some v → v.Plain ∧ v.canonical = v := by
  intro v hv
  have hcanonical := canonical_of_prepare h hv
  have hplain := Json.plain_canonical_of_whole (hwhole v hv)
  rw [hcanonical] at hplain
  exact ⟨hplain, hcanonical⟩

theorem prepare_of_body {text : String} {v : Json} (hparameters : e.hasParameters = false)
    (htrim : Text.trim text = v.compact) (hcanonical : v.canonical = v) (hwhole : v.Whole)
    (hdepth : v.depth ≤ Json.depthLimit) :
    ∃ r, Request.prepare baseUrl e values (some text) = .ok r ∧ r.jsonBody = some v := by
  have hplain : v.Plain := by
    rw [← hcanonical]
    exact Json.plain_canonical_of_whole hwhole
  have hread : Json.Schema.json.ofText v.compact = .ok v :=
    Json.Schema.ofText_text ⟨hplain, hcanonical⟩ hdepth
  have hgives : Request.GivesText (some text) v.compact :=
    ⟨text, rfl, htrim, Json.compact_ne_empty hplain⟩
  have hbody : Request.bodyOf e (some text) = .ok (some v) := by
    rw [Request.bodyOf_of_givesText hparameters hgives, hread]
    rfl
  exact ⟨Request.filled baseUrl e values (some v), Request.prepare_eq_ok_iff.mpr ⟨hbody, rfl⟩, rfl⟩

/-- What the backend is sent first is the text of the request. What follows is that again, or has no
body. -/
theorem posts_relayed (backend : Backend.Client) (r : Request) (n : Http.Network) :
    ((relayed backend).send r n).2 = n ∨ ∃ m further,
      ((relayed backend).send r n).2.sent = n.sent ++ m :: further ∧
      further.length ≤ n.referrals 10 ∧
      m.method = .post ∧ m.body = relayText r ∧
      ∀ m' ∈ further, (m'.method = .post ∧ m'.body = relayText r) ∨
        (m'.method = .get ∧ m'.body = "") := by
  obtain hsilent | ⟨given, u, further, -, hsent, hlength, hall⟩ :=
    (sends_relayed backend r n).silent_or_goesOut
  · exact .inl hsilent
  · exact .inr ⟨_, further, hsent, hlength, rfl, rfl, hall⟩

theorem ofText_relayText_of_carried
    (hplain : ∀ v, r.jsonBody = some v → v.Plain ∧ v.canonical = v) (h : r.Carried) :
    RelayRequest.schema.ofText (relayText r) = .ok (relayOf r) :=
  RelayRequest.ofText_text_of_body (fun v hv => ⟨(h v hv).1, hplain v hv⟩) fun v hv => (h v hv).2

theorem ofText_relayText_of_null (h : r.jsonBody = some .null) :
    RelayRequest.schema.ofText (relayText r) = .ok (relayOf { r with jsonBody := none }) :=
  RelayRequest.ofText_text_of_null h

theorem depth_of_ofText_relayText
    (hplain : ∀ v, r.jsonBody = some v → v.Plain ∧ v.canonical = v) {q : RelayRequest} {v : Json}
    (hv : r.jsonBody = some v) (h : RelayRequest.schema.ofText (relayText r) = .ok q) :
    v.depth < Json.depthLimit := by
  by_cases hnull : v = .null
  · rw [hnull]
    exact Nat.zero_lt_succ _
  · have hfaithful : RelayRequest.schema.Faithful (relayOf r) := by
      apply RelayRequest.faithful
      intro w hw
      obtain rfl := Option.some.inj (hv.symm.trans hw)
      exact ⟨hnull, hplain v hv⟩
    exact RelayRequest.depth_of_ofText (RelayRequest.schema.plain_encode hfaithful) hv h

end

/-- The relay posts the request as a text, and posts it again or only looks where it is referred to.
From that text the request is read back, and so the
same call is made as straight to the API, exactly if there is no body or it is neither null nor too
deep.  A null body is read as none, and straight to the API it would be sent; of a body that is too
deep nothing is read. -/
theorem relayed_request {baseUrl : String} {e : Api.Endpoint} {values : Dictionary String}
    {body : Option String} {r : Request} (hprepare : Request.prepare baseUrl e values body = .ok r)
    (hwhole : ∀ v, r.jsonBody = some v → v.Whole) :
    (∀ (backend : Backend.Client) (n : Http.Network),
      ((relayed backend).send r n).2 = n ∨ ∃ m further,
        ((relayed backend).send r n).2.sent = n.sent ++ m :: further ∧
        further.length ≤ n.referrals 10 ∧
        m.method = .post ∧ m.body = relayText r ∧
        ∀ m' ∈ further, (m'.method = .post ∧ m'.body = relayText r) ∨
          (m'.method = .get ∧ m'.body = "")) ∧
    (r.Carried → RelayRequest.schema.ofText (relayText r) = .ok (relayOf r) ∧
      requestOf (relayOf r) = r) ∧
    (r.jsonBody = some .null → ∃ q, RelayRequest.schema.ofText (relayText r) = .ok q ∧
      requestOf q = { r with jsonBody := none } ∧
      ∀ (client : Http.Client) (m : Http.Message) (u : Url),
        (client.build (draftOf r) = .ok (m, u) → m.body = "null") ∧
        (client.build (draftOf (requestOf q)) = .ok (m, u) → m.body = "")) ∧
    (∀ v, r.jsonBody = some v → Json.depthLimit ≤ v.depth →
      ∀ q, RelayRequest.schema.ofText (relayText r) ≠ .ok q) ∧
    ((∃ q, RelayRequest.schema.ofText (relayText r) = .ok q ∧ requestOf q = r) ↔ r.Carried) := by
  have hplain := plain_of_prepare hprepare hwhole
  have hcarried : r.Carried → RelayRequest.schema.ofText (relayText r) = .ok (relayOf r) ∧
      requestOf (relayOf r) = r := fun h =>
    ⟨ofText_relayText_of_carried hplain h, requestOf_relayOf r⟩
  refine ⟨fun backend n => posts_relayed backend r n, hcarried, fun hnull => ?_,
    fun v hv hdeep q hq => ?_, ?_⟩
  · refine ⟨_, ofText_relayText_of_null hnull, requestOf_relayOf _, fun client m u => ?_⟩
    constructor
    · intro hbuild
      have hbody : m.body = (r.jsonBody.map Json.compact).getD "" :=
        Http.Client.body_of_build hbuild
      rw [hbody, hnull]
      rfl
    · intro hbuild
      rw [requestOf_relayOf] at hbuild
      exact Http.Client.body_of_build hbuild
  · have hdepth := depth_of_ofText_relayText hplain hv hq
    omega
  · constructor
    · rintro ⟨q, hq, hsame⟩ v hv
      refine ⟨?_, depth_of_ofText_relayText hplain hv hq⟩
      rintro rfl
      rw [ofText_relayText_of_null hv] at hq
      have hnone : r.jsonBody = none := by
        rw [← hsame, ← Except.ok.inj hq, requestOf_relayOf]
      rw [hv] at hnone
      cases hnone
    · intro h
      exact ⟨_, hcarried h⟩

/-- A member without a value is carried. -/
theorem relayed_request_of_pet :
    let pet := Json.object [("name", .string "Rex"), ("tag", .null)]
    let text := "\x7b\"name\":\"Rex\",\"tag\":null\x7d\n"
    let e : Api.Endpoint := ⟨.post, "/pets", none, none, Dictionary.empty⟩
    ∃ r, Request.prepare "https://petstore.example.com/v1" e Dictionary.empty (some text) = .ok r ∧
      r.jsonBody = some pet ∧
      ∃ q, RelayRequest.schema.ofText (relayText r) = .ok q ∧ requestOf q = r := by
  intro pet text e
  have hwhole : pet.Whole := ⟨trivial, trivial, trivial, trivial⟩
  have hprepared : ∃ r, Request.prepare "https://petstore.example.com/v1" e Dictionary.empty
      (some text) = .ok r ∧ r.jsonBody = some pet :=
    prepare_of_body rfl (by decide +kernel) rfl hwhole (by decide)
  obtain ⟨r, hprepare, hbody⟩ := hprepared
  have hsame : ∀ v, r.jsonBody = some v → v = pet := by
    intro v hv
    exact Option.some.inj (hv.symm.trans hbody)
  have hcarried : r.Carried := by
    intro v hv
    rw [hsame v hv]
    exact ⟨Json.noConfusion, by decide⟩
  have hall : ∀ v, r.jsonBody = some v → v.Whole := by
    intro v hv
    rw [hsame v hv]
    exact hwhole
  exact ⟨r, hprepare, hbody, (relayed_request hprepare hall).2.2.2.2.mpr hcarried⟩

/-- A body that is null is prepared, and lost on the way to the backend. -/
theorem relayText_loses_null :
    let e : Api.Endpoint := ⟨.post, "/pets", none, none, Dictionary.empty⟩
    ∃ r, Request.prepare "https://petstore.example.com/v1" e Dictionary.empty (some "null") =
        .ok r ∧ r.jsonBody = some .null ∧
      (∃ q, RelayRequest.schema.ofText (relayText r) = .ok q ∧ q.jsonBody = none) ∧
      ¬ ∃ q, RelayRequest.schema.ofText (relayText r) = .ok q ∧ requestOf q = r := by
  intro e
  have hprepared : ∃ r, Request.prepare "https://petstore.example.com/v1" e Dictionary.empty
      (some "null") = .ok r ∧ r.jsonBody = some .null :=
    prepare_of_body rfl (by decide +kernel) rfl trivial (by decide)
  obtain ⟨r, hprepare, hbody⟩ := hprepared
  have hread := ofText_relayText_of_null hbody
  refine ⟨r, hprepare, hbody, ⟨_, hread, rfl⟩, ?_⟩
  rintro ⟨q, hq, hsame⟩
  rw [hread] at hq
  rw [← hsame, ← Except.ok.inj hq] at hbody
  cases hbody

end Call
end SdkShelf
