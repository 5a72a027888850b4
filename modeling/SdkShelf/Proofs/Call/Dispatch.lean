import SdkShelf.Call.Transport
import SdkShelf.Proofs.Http.Redirect

/-!
# How a call is dispatched

A request that can be prepared is given to the transport once, and the outcome is a success exactly
if the transport brings an answer.  The two transports differ in what counts as one.
-/

namespace SdkShelf

namespace Backend.Client

def draftOf (c : Client) (method : Http.Method) (path : String) (json : Option Json) : Http.Draft :=
  ⟨method, c.addressOf path, none, [], json⟩

variable {α : Type} {c : Client} {method : Http.Method} {path : String} {json : Option Json}
  {schema : Json.Schema α} {n : Http.Network}

theorem call_eq : c.call method path json schema n =
    (do
      let a ← (c.http.send (c.draftOf method path json) n).1.mapError
        (.request method (c.addressOf path))
      let r ← a.read.mapError .body
      read schema (c.addressOf path) r,
    (c.http.send (c.draftOf method path json) n).2) := by
  rewrite [call, draftOf]
  rcases c.http.send ⟨method, c.addressOf path, none, [], json⟩ n with ⟨result, n'⟩
  rfl

theorem network_call : (c.call method path json schema n).2 =
    (c.http.send (c.draftOf method path json) n).2 := by
  rw [call_eq]

theorem read_eq_ok_iff {address : String} {r : Http.Response} {a : α} :
    read schema address r = .ok a ↔
      Http.Status.isSuccess r.status = true ∧ schema.ofText r.text = .ok a := by
  rw [read]
  by_cases hstatus : Http.Status.isSuccess r.status
  · rw [if_pos hstatus, mapError_eq_ok_iff]
    exact (and_iff_right hstatus).symm
  · rw [if_neg hstatus]
    simp [hstatus]

/-- Of a call that is answered, the answer is read. -/
theorem call_of_read {a : Http.Answer} {r : Http.Response}
    (hsend : (c.http.send (c.draftOf method path json) n).1 = .ok a) (hread : a.read = .ok r) :
    (c.call method path json schema n).1 = read schema (c.addressOf path) r := by
  rw [call_eq, hsend]
  show a.read.mapError _ >>= _ = _
  rw [hread]
  rfl

/-- A call succeeds exactly if its message is answered well, by a text of the wanted kind. -/
theorem call_eq_ok_iff {x : α} : (c.call method path json schema n).1 = .ok x ↔
    ∃ a r, (c.http.send (c.draftOf method path json) n).1 = .ok a ∧ a.read = .ok r ∧
      Http.Status.isSuccess r.status = true ∧ schema.ofText r.text = .ok x := by
  constructor
  · intro h
    rw [call_eq] at h
    obtain ⟨a, hsend, h⟩ := exists_of_bind_eq_ok h
    obtain ⟨r, hread, h⟩ := exists_of_bind_eq_ok h
    exact ⟨a, r, mapError_eq_ok_iff.mp hsend, mapError_eq_ok_iff.mp hread, read_eq_ok_iff.mp h⟩
  · rintro ⟨a, r, hsend, hread, hgood⟩
    rw [call_of_read hsend hread]
    exact read_eq_ok_iff.mpr hgood

end Backend.Client

namespace Call

/-- The failure, the circumstances first. -/
def Request.Error.chain : Request.Error → List String
  | body cause => ["parse request body as JSON", cause.message]

theorem Request.Error.message_eq (e : Request.Error) : e.message = Text.chainText e.chain := by
  obtain ⟨cause⟩ := e
  show "parse request body as JSON: " ++ cause.message =
    "parse request body as JSON" ++ ": " ++ cause.message
  rw [String.append_assoc]
  rfl

/-- The transport, with a log of the requests that it is given. -/
def Transport.recorded {σ : Type} (t : Transport σ) : Transport (σ × List Request) where
  send r state := ((t.send r state.1).1, (t.send r state.1).2, state.2 ++ [r])

section

variable {σ : Type} {t : Transport σ} {baseUrl : String} {e : Api.Endpoint}
  {values : Dictionary String} {body : Option String} {state : σ}

theorem execute_of_unprepared {cause : Request.Error}
    (h : Request.prepare baseUrl e values body = .error cause) :
    execute t baseUrl e values body state = (.failure (Text.chainText cause.chain), state) := by
  rw [execute, h, ← cause.message_eq]

theorem execute_of_prepared {r : Request} (h : Request.prepare baseUrl e values body = .ok r) :
    execute t baseUrl e values body state = (match (t.send r state).1 with
      | .ok response => .success response.status response.text
      | .error causes => .failure (Text.chainText causes), (t.send r state).2) := by
  rewrite [execute, h]
  rfl

theorem state_of_prepared {r : Request} (h : Request.prepare baseUrl e values body = .ok r) :
    (execute t baseUrl e values body state).2 = (t.send r state).2 := by
  rw [execute_of_prepared h]

theorem execute_eq_success_iff {status : UInt16} {text : String} :
    (execute t baseUrl e values body state).1 = .success status text ↔
      ∃ r, Request.prepare baseUrl e values body = .ok r ∧
        (t.send r state).1 = .ok ⟨status, text⟩ := by
  cases hprepare : Request.prepare baseUrl e values body with
  | error cause =>
    rw [execute_of_unprepared hprepare]
    simp
  | ok r =>
    rw [execute_of_prepared hprepare]
    simp only [Except.ok.injEq, exists_eq_left']
    cases (t.send r state).1 with
    | error causes => simp
    | ok response =>
      obtain ⟨status', text'⟩ := response
      simp

end

/-! ## The two transports -/

/-- The text that the backend is sent for a request. -/
def Transport.relayText (r : Request) : String :=
  Backend.RelayRequest.schema.text (Transport.relayOf r)

/-- What the backend is sent for a request that it shall send on. -/
def relayDraft (backend : Backend.Client) (r : Request) : Http.Draft where
  method := .post
  address := String.ofList (Text.dropEndWhile (· = '/') backend.apiUrl.toList) ++
    "/playground/execute"
  query := none
  headers := []
  json := some (Backend.RelayRequest.schema.encode (Transport.relayOf r))

/-- What the API itself is sent. -/
def directDraft (r : Request) : Http.Draft where
  method := r.method
  address := joinUrl r.baseUrl r.path
  query := some r.query.entries
  headers := r.headers.entries
  json := r.jsonBody

section

variable {r : Request} {n : Http.Network} {client : Http.Client} {backend : Backend.Client}

theorem relayDraft_eq (backend : Backend.Client) (r : Request) :
    backend.draftOf .post "playground/execute"
      (some (Backend.RelayRequest.schema.encode (Transport.relayOf r))) = relayDraft backend r := by
  have haddress : backend.addressOf "playground/execute" = (relayDraft backend r).address :=
    String.append_assoc ..
  rw [Backend.Client.draftOf, haddress]
  rfl

theorem draftOf_eq (r : Request) : Transport.draftOf r = directDraft r := rfl

theorem direct_send : (Transport.direct client).send r n =
    (do
      let a ← (client.send (directDraft r) n).1.mapError
        fun e => (r.method.name ++ " " ++ r.url) :: e.chain
      a.read.mapError fun e => "read response body" :: e.chain,
    (client.send (directDraft r) n).2) := by
  rw [Transport.direct, ← draftOf_eq]

theorem network_direct :
    ((Transport.direct client).send r n).2 = (client.send (directDraft r) n).2 := by
  rw [direct_send]

theorem relayed_send : (Transport.relayed backend).send r n =
    (((backend.relay (Transport.relayOf r) n).1.map Transport.responseOf).mapError
      Backend.Error.chain, (backend.relay (Transport.relayOf r) n).2) := by
  rw [Transport.relayed]

theorem relayed_eq_ok_iff {response : Http.Response} :
    ((Transport.relayed backend).send r n).1 = .ok response ↔
      ∃ a, Transport.responseOf a = response ∧ ∃ given u reply,
        (relayDraft backend r).GoesTo given u ∧
        Http.Client.Gets u (backend.http.messageOf (relayDraft backend r) given u) n reply ∧
        Http.Status.isSuccess reply.status = true ∧
        Backend.RelayAnswer.schema.ofText reply.text = .ok a := by
  rw [relayed_send, mapError_eq_ok_iff, ← relayDraft_eq]
  constructor
  · intro h
    obtain ⟨a, hcall, hresponse⟩ := exists_of_map_eq_ok h
    obtain ⟨answer, reply, hsent, hread, hgood⟩ := Backend.Client.call_eq_ok_iff.mp hcall
    obtain ⟨given, u, hgoes, hbrings⟩ := Http.Client.send_eq_ok_iff.mp hsent
    exact ⟨a, hresponse, given, u, reply, hgoes, ⟨answer, hbrings, hread⟩, hgood⟩
  · rintro ⟨a, rfl, given, u, reply, hgoes, ⟨answer, hbrings, hread⟩, hgood⟩
    have hsent := Http.Client.send_eq_ok_iff.mpr ⟨given, u, hgoes, hbrings⟩
    have hcall : (backend.relay (Transport.relayOf r) n).1 = .ok a :=
      Backend.Client.call_eq_ok_iff.mpr ⟨answer, reply, hsent, hread, hgood⟩
    rw [hcall]
    rfl

theorem sends_direct (client : Http.Client) (r : Request) (n : Http.Network) :
    client.Sends (directDraft r) n ((Transport.direct client).send r n).2 := by
  rw [network_direct]
  exact Http.Client.sends_send ..

theorem network_relayed : ((Transport.relayed backend).send r n).2 =
    (backend.http.send (relayDraft backend r) n).2 := by
  rw [relayed_send, Backend.Client.relay, Backend.Client.network_call, relayDraft_eq]

theorem sends_relayed (backend : Backend.Client) (r : Request) (n : Http.Network) :
    backend.http.Sends (relayDraft backend r) n ((Transport.relayed backend).send r n).2 := by
  rw [network_relayed]
  exact Http.Client.sends_send ..

end

end Call
end SdkShelf
