import SdkShelf.Http.Client
import SdkShelf.Proofs.Url.Text

/-!
# What a client builds

A draft becomes a message exactly if its address is one of the web that can be sent to and its
headers are valid.  The message goes to that address with the pairs of the draft added.
-/

namespace SdkShelf

namespace Url

/-- Both addresses have the same scheme, host, socket number and path. -/
structure SamePlace (u v : Url) : Prop where
  scheme : v.scheme = u.scheme
  host : v.authority.bind (·.host) = u.authority.bind (·.host)
  socket : v.authority.bind (·.socket) = u.authority.bind (·.socket)
  path : v.path = u.path

theorem samePlace_withoutUser (u : Url) : u.SamePlace u.withoutUser := by
  refine ⟨rfl, ?_, ?_, rfl⟩ <;>
  · rw [withoutUser]
    cases u.authority <;> rfl

theorem query_withPairs (u : Url) (pairs : List (String × String)) :
    (u.withPairs pairs).query.getD "" = Form.append (u.query.getD "") pairs := by
  rw [withPairs]
  dsimp only
  split
  · rename_i hempty
    rw [String.isEmpty_iff.mp hempty, Option.getD_none]
  · rw [Option.getD_some]

end Url

namespace Http
namespace Client

/-- The address without name and password, where these go into a header. -/
def recipient (u : Url) : Url := if (credentials? u).isSome then u.withoutUser else u

theorem samePlace_recipient (u : Url) : u.SamePlace (recipient u) := by
  rw [recipient]
  split
  · exact u.samePlace_withoutUser
  · exact ⟨rfl, rfl, rfl, rfl⟩

theorem query_recipient (u : Url) : (recipient u).query = u.query := by
  rw [recipient]
  split <;> rfl

theorem isSound_recipient {u : Url} (h : u.IsSound) : (recipient u).IsSound := by
  rw [recipient]
  split
  · exact h.withoutUser
  · exact h

end Client

/-- Where a draft with this address goes. -/
def Draft.target (d : Draft) (given : Url) : Url :=
  match d.query with
  | some pairs => (Client.recipient given).withPairs pairs
  | none => Client.recipient given

/-- The draft can be sent: its address reads as `given`, and `u` is where it goes. -/
structure Draft.GoesTo (d : Draft) (given u : Url) : Prop where
  address : Url.parse d.address = .ok given
  web : given.isWeb = true
  headers : Client.checkHeaders d.headers = .ok ()
  target : u = d.target given
  sendable : Client.isTarget u = true

namespace Client

/-- The message of a draft. -/
def messageOf (c : Client) (d : Draft) (given u : Url) : Message where
  method := d.method
  url := u.textWithoutFragment
  headers := c.headersOf given d
  body := (d.json.map Json.compact).getD ""

variable {c : Client} {d : Draft} {given u : Url} {m : Message}

theorem scheme_target : (d.target given).scheme = given.scheme := by
  rw [Draft.target]
  split
  · exact (samePlace_recipient given).scheme
  · exact (samePlace_recipient given).scheme

theorem isWeb_target : (d.target given).isWeb = given.isWeb := by
  rw [Url.isWeb, scheme_target, Url.isWeb]

theorem addressOf_eq_ok_iff : addressOf d = .ok u ↔
    ∃ given, Url.parse d.address = .ok given ∧ given.hasHost = true ∧ u = d.target given := by
  rw [addressOf]
  constructor
  · intro h
    obtain ⟨given, hparse, h⟩ := exists_of_bind_eq_ok h
    refine ⟨given, mapError_eq_ok_iff.mp hparse, ?_⟩
    cases hhost : given.hasHost with
    | false =>
      rw [hhost] at h
      exact nomatch h
    | true =>
      rw [hhost] at h
      exact ⟨rfl, (Except.ok.inj h).symm⟩
  · rintro ⟨given, hparse, hhost, rfl⟩
    rw [hparse]
    show (if (!given.hasHost) = true then _ else _) = _
    rw [hhost]
    rfl

theorem build_eq_ok_iff : c.build d = .ok (m, u) ↔
    ∃ given, d.GoesTo given u ∧ m = c.messageOf d given u := by
  rw [build]
  constructor
  · intro h
    obtain ⟨v, haddress, h⟩ := exists_of_bind_eq_ok h
    obtain ⟨given, hparse, -, htarget⟩ := addressOf_eq_ok_iff.mp haddress
    obtain ⟨_, hheaders, h⟩ := exists_of_bind_eq_ok h
    cases hweb : v.isWeb with
    | false =>
      rw [hweb] at h
      exact nomatch h
    | true =>
      cases hsendable : isTarget v with
      | false =>
        rw [hweb, hsendable] at h
        exact nomatch h
      | true =>
        rw [hweb, hsendable, hparse] at h
        obtain ⟨rfl, rfl⟩ := Prod.mk.inj (Except.ok.inj h)
        rw [htarget, isWeb_target] at hweb
        exact ⟨given, ⟨hparse, hweb, hheaders, htarget, hsendable⟩, rfl⟩
  · rintro ⟨given, hgoes, rfl⟩
    have haddress : addressOf d = .ok u := addressOf_eq_ok_iff.mpr
      ⟨given, hgoes.address, (Url.isSound_of_parse hgoes.address hgoes.web).hasHost, hgoes.target⟩
    have hweb : u.isWeb = true := by
      rw [hgoes.target, isWeb_target]
      exact hgoes.web
    rw [haddress, hgoes.headers, hgoes.address]
    show (if (!u.isWeb) = true then _ else if (!isTarget u) = true then _ else _) = _
    rw [hweb, hgoes.sendable]
    rfl

theorem exists_error_of_build (h : ∀ given u, ¬d.GoesTo given u) : ∃ e, c.build d = .error e := by
  cases hbuild : c.build d with
  | error e => exact ⟨e, rfl⟩
  | ok built =>
    obtain ⟨given, hgoes, -⟩ := build_eq_ok_iff.mp hbuild
    exact absurd hgoes (h given _)

theorem body_of_build (h : c.build d = .ok (m, u)) :
    m.body = (d.json.map Json.compact).getD "" := by
  obtain ⟨given, -, rfl⟩ := build_eq_ok_iff.mp h
  rfl

end Client

end Http
end SdkShelf
