import SdkShelf.Proofs.Call.Dispatch
import SdkShelf.Proofs.Url.Domain

/-!
# Requests on their way to the API

A prepared request goes out as a message to the place that its address names. Its query is read
there as the pairs of the address followed by those of the request, whatever characters they have.
-/

namespace SdkShelf

namespace Call

variable {client : Http.Client} {r : Request} {u : Url}

/-- A request whose address is one of the web and can be sent to, and whose headers are valid, goes
out as a message of its own; if the reply to that is not followed, nothing else goes out.  The
message has the method and the body of the request.  What stands in front of its query is the
address without its query, and also without the name and password that go into a header: scheme,
host, socket number and path are those of the address alone.  Its query is read as the pairs of the
address's query followed by those of the request, in the order of their names. -/
theorem direct_sends_pairs (client : Http.Client) (hurl : Url.parse r.url = .ok u)
    (hweb : u.isWeb = true) (hheaders : Http.Client.checkHeaders r.headers.entries = .ok ())
    (htarget :
      Http.Client.isTarget ((Http.Client.recipient u).withPairs r.query.entries) = true) :
    ∃ m : Http.Message,
      (∀ n : Http.Network, n.reachable = true → ∃ further,
        ((Transport.direct client).send r n).2.sent = n.sent ++ m :: further ∧
          further.length ≤ n.referrals 10) ∧
      (∀ n : Http.Network, n.Settles ((Http.Client.recipient u).withPairs r.query.entries) →
        ((Transport.direct client).send r n).2 = (n.send m).2 ∧
        (n.reachable = true →
          ((Transport.direct client).send r n).2.sent = n.sent ++ [m])) ∧
      m.method = r.method ∧
      m.body = (r.jsonBody.map Json.compact).getD "" ∧
      u.SamePlace (Http.Client.recipient u) ∧
      (Url.splitQuery m.url).1 =
        ({ Http.Client.recipient u with query := none } : Url).textWithoutFragment ∧
      Url.Form.decode (Url.splitQuery m.url).2 =
        Url.Form.decode (u.query.getD "") ++ r.query.entries ∧
      Ascending r.query.entries := by
  have hsound := Url.isSound_of_parse hurl hweb
  have hsplit := ((Http.Client.isSound_recipient hsound).withPairs
    r.query.entries).splitQuery_textWithoutFragment
  have hgoes : (directDraft r).GoesTo u ((Http.Client.recipient u).withPairs r.query.entries) :=
    ⟨hurl, hweb, hheaders, rfl, htarget⟩
  refine ⟨client.messageOf (directDraft r) u _, fun n hreachable => ?_, fun n hsettles => ?_,
    rfl, rfl, Http.Client.samePlace_recipient u, congrArg Prod.fst hsplit, ?_, r.query.ascending⟩
  · obtain ⟨further, hsent, hlength, -⟩ :=
      (sends_direct client r n).goesOut u _ hgoes hreachable
    exact ⟨further, hsent, hlength⟩
  · have hnetwork : ((Transport.direct client).send r n).2 =
        (n.send (client.messageOf (directDraft r) u
          ((Http.Client.recipient u).withPairs r.query.entries))).2 := by
      rw [network_direct, Http.Client.network_send_of_settles hgoes hsettles]
    refine ⟨hnetwork, fun hreachable => ?_⟩
    rw [hnetwork, Http.Network.network_send hreachable]
    rfl
  · rw [Http.Client.messageOf, hsplit, Url.query_withPairs, Http.Client.query_recipient,
      Url.Form.decode_append]

/-- A search whose address has a query and a fragment already. Its own pair has the signs of queries
in name and value. -/
def search : Request where
  baseUrl := "https://api.example.com/v1/"
  path := "/search?lang=en#top"
  method := .post
  query := Dictionary.empty.insert "a&b" "c=d +%é"
  headers := Dictionary.empty.insert "x-key" "1"
  jsonBody := some (.bool true)

theorem direct_sends_search :
    ∃ (u : Url) (m : Http.Message),
      Url.parse search.url = .ok u ∧ u.isWeb = true ∧
      Http.Client.checkHeaders search.headers.entries = .ok () ∧
      Http.Client.isTarget ((Http.Client.recipient u).withPairs search.query.entries) = true ∧
      ((Transport.direct ⟨none⟩).send search (.ofReplies true [])).2.sent = [m] ∧
      m.method = .post ∧ m.body = "true" ∧
      Url.Form.decode (Url.splitQuery m.url).2 = [("lang", "en"), ("a&b", "c=d +%é")] := by
  have hname : Url.Host.IsPlainName "api.example.com".toList :=
    ⟨by decide, by decide, by decide, by decide⟩
  have hurl : Url.parse search.url = .ok
      ⟨"https", some ⟨"", none, some (.domain "api.example.com"), none⟩,
        .segments ["v1", "search"], some "lang=en", some "top"⟩ :=
    (hname.parse "https" "/v1/search?lang=en#top".toList (by decide +kernel) (by decide)
      (by decide)).trans (congrArg Except.ok (by decide +kernel))
  have hheaders : Http.Client.checkHeaders search.headers.entries = .ok () :=
    toOption_eq_some_iff.mp (by decide +kernel)
  obtain ⟨m, -, hsettled, hmethod, hbody, -, -, hpairs, -⟩ :=
    direct_sends_pairs ⟨none⟩ hurl rfl hheaders (by decide +kernel)
  have hsent := (hsettled (.ofReplies true []) (Http.Network.settles_of_refers rfl)).2 rfl
  have hgiven : Url.Form.decode "lang=en" = [("lang", "en")] := by decide +kernel
  refine ⟨_, m, hurl, rfl, hheaders, by decide +kernel, hsent, hmethod, ?_, ?_⟩
  · rw [hbody]
    decide +kernel
  · rw [hpairs, Option.getD_some, hgiven]
    rfl

/-- A request to a host with a quotation mark in its name. -/
def quotedHost : Request := ⟨"http://b\"x", "/q", .get, .empty, .empty, none⟩

/-- The address is one of the web, but no client sends anything to it. -/
theorem direct_refuses_quotedHost :
    ∃ u, Url.parse quotedHost.url = .ok u ∧ u.isWeb = true ∧
      Http.Client.checkHeaders quotedHost.headers.entries = .ok () ∧
      ∀ client n, ((Transport.direct client).send quotedHost n).2.sent = n.sent := by
  have hname : Url.Host.IsPlainName ['b', '"', 'x'] := ⟨by decide, by decide, by decide, by decide⟩
  have hurl : Url.parse quotedHost.url = .ok
      ⟨"http", some ⟨"", none, some (.domain "b\"x"), none⟩, .segments ["q"], none, none⟩ :=
    (hname.parse "http" ['/', 'q'] (by decide +kernel) (by decide) (by decide)).trans
      (congrArg Except.ok (by decide +kernel))
  refine ⟨_, hurl, rfl, rfl, fun client n => ?_⟩
  have hnowhere : ∀ given u, ¬(directDraft quotedHost).GoesTo given u := by
    intro given u hgoes
    obtain rfl := Except.ok.inj (hurl.symm.trans hgoes.address)
    have hrefused := hgoes.sendable
    rw [hgoes.target] at hrefused
    exact absurd hrefused (by decide +kernel)
  rw [(sends_direct client quotedHost n).staysSilent (.inl hnowhere)]

end Call
end SdkShelf
