import SdkShelf.Http.Redirect
import SdkShelf.Proofs.Http.Client
import SdkShelf.Proofs.Text.Utf8

/-!
# What a client sends

Of a draft one message goes out, and behind it one more for each answer that is followed.  An answer
is followed only if it refers to another address, so no more messages follow than replies in a row
do that, and no more than ten.
-/

namespace SdkShelf
namespace Http

/-- The reply refers to another address. -/
def Reply.refers : Reply → Bool
  | .answer a =>
    (Status.asksToLook a.status || Status.asksToRepeat a.status) && a.location.isSome
  | .drop => false

/-- The second message is the first one over again, or only a look at another address. -/
def Message.Repeats (m m' : Message) : Prop :=
  (m'.method = m.method ∧ m'.body = m.body) ∨
    (m'.method = (if m.method = .head then .head else .get) ∧ m'.body = "")

theorem Message.Repeats.trans {m₁ m₂ m₃ : Message} (h : m₁.Repeats m₂) (h' : m₂.Repeats m₃) :
    m₁.Repeats m₃ := by
  obtain ⟨hmethod, hbody⟩ | ⟨hmethod, hbody⟩ := h
  · rw [Repeats, hmethod, hbody] at h'
    exact h'
  · obtain ⟨hmethod', hbody'⟩ | ⟨hmethod', hbody'⟩ := h'
    · exact .inr ⟨hmethod'.trans hmethod, hbody'.trans hbody⟩
    · refine .inr ⟨?_, hbody'⟩
      rw [hmethod', hmethod]
      by_cases hhead : m₁.method = .head
      · rw [if_pos hhead, if_pos rfl]
      · rw [if_neg hhead]
        rfl

namespace Network

/-- The network once a message was sent through it. -/
def after (n : Network) (m : Message) : Network :=
  { n with replies := n.replies.tail, sent := n.sent ++ [m] }

/-- How many replies in a row refer to another address, counted up to a limit. -/
def referrals (limit : Nat) (n : Network) : Nat :=
  min limit (n.replies.takeWhile Reply.refers).length

variable {limit : Nat} {n : Network} {m : Message} {a : Answer}

theorem send_of_unreachable (h : n.reachable = false) : n.send m = (.error .unreachable, n) := by
  rw [send, h]
  rfl

theorem send_of_drop (h : n.reachable = true) (hreply : n.replies.headD Reply.default = .drop) :
    n.send m = (.error .dropped, n.after m) := by
  obtain ⟨reachable, replies, sent⟩ := n
  cases h
  rw [send, hreply]
  rfl

theorem send_of_answer (h : n.reachable = true)
    (hreply : n.replies.headD Reply.default = .answer a) :
    n.send m = (.ok (a.received m.method), n.after m) := by
  obtain ⟨reachable, replies, sent⟩ := n
  cases h
  rw [send, hreply]
  rfl

theorem network_send (h : n.reachable = true) : (n.send m).2 = n.after m := by
  cases hreply : n.replies.headD Reply.default with
  | drop => rw [send_of_drop h hreply]
  | answer a => rw [send_of_answer h hreply]

theorem send_eq_ok_iff : (n.send m).1 = .ok a ↔ n.reachable = true ∧
    ∃ b, n.replies.headD Reply.default = .answer b ∧ a = b.received m.method := by
  cases hreachable : n.reachable with
  | false =>
    rw [send_of_unreachable hreachable]
    simp
  | true =>
    cases hreply : n.replies.headD Reply.default with
    | drop =>
      rw [send_of_drop hreachable hreply]
      simp
    | answer b =>
      rw [send_of_answer hreachable hreply]
      simp [eq_comm]

/-- The reply that is there when no other is set does not refer to another address. -/
theorem referrals_after (h : (n.replies.headD Reply.default).refers = true) :
    n.referrals (limit + 1) = (n.after m).referrals limit + 1 := by
  obtain ⟨reachable, replies, sent⟩ := n
  cases replies with
  | nil => exact nomatch h
  | cons reply rest =>
    replace h : reply.refers = true := h
    show min (limit + 1) ((reply :: rest).takeWhile Reply.refers).length =
      min limit (rest.takeWhile Reply.refers).length + 1
    rw [List.takeWhile_cons_of_pos h, List.length_cons, Nat.add_min_add_right]

end Network

theorem Answer.received_status (a : Answer) (method : Method) :
    (a.received method).status = a.status := by
  rw [received]
  split <;> rfl

theorem Answer.received_location (a : Answer) (method : Method) :
    (a.received method).location = a.location := by
  rw [received]
  split <;> rfl

namespace Client

variable {limit : Nat} {u v : Url} {m m' : Message} {n : Network} {a b : Answer} {r : Response}

theorem referral?_received (method : Method) : referral? u (a.received method) = referral? u a := by
  rw [referral?, a.received_status, a.received_location, referral?]

theorem refers_of_referral? (h : referral? u a = some v) : (Reply.answer a).refers = true := by
  rw [referral?] at h
  split at h
  · rename_i hstatus
    obtain ⟨text, hlocation, -⟩ := Option.bind_eq_some_iff.mp h
    rw [Reply.refers, hstatus, hlocation]
    rfl
  · exact nomatch h

theorem repeats_onward (m : Message) (u v : Url) (status : UInt16) :
    m.Repeats (onward m u v status) := by
  rw [Message.Repeats, onward]
  cases Status.asksToLook status with
  | false => exact .inl ⟨by simp, by simp⟩
  | true => exact .inr ⟨by by_cases h : m.method = .head <;> simp [h], by simp⟩

/-! ## Steps -/

theorem follow_of_unreachable (h : n.reachable = false) :
    follow limit u m n = (.error (.link u.text .unreachable), n) := by
  unfold follow
  rw [Network.send_of_unreachable h]

section

variable (h : n.reachable = true)

include h

theorem follow_of_drop (hreply : n.replies.headD Reply.default = .drop) :
    follow limit u m n = (.error (.link u.text .dropped), n.after m) := by
  unfold follow
  rw [Network.send_of_drop h hreply]

theorem follow_of_final (hreply : n.replies.headD Reply.default = .answer a)
    (hfinal : referral? u a = none) :
    follow limit u m n = (.ok (a.received m.method), n.after m) := by
  unfold follow
  rw [Network.send_of_answer h hreply]
  dsimp only
  rw [referral?_received, hfinal]

theorem follow_of_referral (hreply : n.replies.headD Reply.default = .answer a)
    (hrefers : referral? u a = some v) :
    follow limit u m n =
      match limit with
      | 0 => (.error (.redirects u.text), n.after m)
      | limit + 1 =>
        if v.isWeb then follow limit v (onward m u v a.status) (n.after m)
        else (.error (.scheme v.text), n.after m) := by
  conv => lhs; unfold follow
  rw [Network.send_of_answer h hreply]
  cases limit <;> simp only [referral?_received, hrefers, a.received_status]

/-- Either the message is the last one, and what comes back is the answer to it, or that answer is
followed. -/
theorem follow_cases (limit : Nat) (u : Url) (m : Message) :
    ((follow limit u m n).2 = n.after m ∧ ∀ b, (follow limit u m n).1 = .ok b →
      (n.send m).1 = .ok b ∧ referral? u b = none) ∨
    ∃ rest a v, limit = rest + 1 ∧ n.replies.headD Reply.default = .answer a ∧
      referral? u a = some v ∧ v.isWeb = true ∧
      follow limit u m n = follow rest v (onward m u v a.status) (n.after m) := by
  cases hreply : n.replies.headD Reply.default with
  | drop =>
    rw [follow_of_drop h hreply]
    exact .inl ⟨rfl, fun b hb => nomatch hb⟩
  | answer a =>
    cases hrefers : referral? u a with
    | none =>
      rw [follow_of_final h hreply hrefers, Network.send_of_answer h hreply]
      refine .inl ⟨rfl, fun b hb => ?_⟩
      obtain rfl := Except.ok.inj hb
      exact ⟨rfl, (referral?_received m.method).trans hrefers⟩
    | some v =>
      rw [follow_of_referral h hreply hrefers]
      cases limit with
      | zero => exact .inl ⟨rfl, fun b hb => nomatch hb⟩
      | succ rest =>
        dsimp only
        split
        · rename_i hweb
          exact .inr ⟨rest, a, v, rfl, rfl, hrefers, hweb, rfl⟩
        · exact .inl ⟨rfl, fun b hb => nomatch hb⟩

end

/-! ## Messages that go out -/

/-- The message itself goes out first, whatever comes back. -/
theorem sent_follow (limit : Nat) (u : Url) (m : Message) (h : n.reachable = true) : ∃ further,
    (follow limit u m n).2.sent = n.sent ++ m :: further ∧
      further.length ≤ n.referrals limit ∧ ∀ m' ∈ further, m.Repeats m' := by
  induction limit generalizing u m n with
  | zero =>
    obtain ⟨hlast, -⟩ | ⟨rest, a, v, hlimit, -⟩ := follow_cases h 0 u m
    · rw [hlast]
      exact ⟨[], rfl, Nat.zero_le _, fun _ hm' => absurd hm' List.not_mem_nil⟩
    · exact nomatch hlimit
  | succ limit ih =>
    obtain ⟨hlast, -⟩ | ⟨rest, a, v, hlimit, hreply, hrefers, -, hfollow⟩ :=
      follow_cases h (limit + 1) u m
    · rw [hlast]
      exact ⟨[], rfl, Nat.zero_le _, fun _ hm' => absurd hm' List.not_mem_nil⟩
    · obtain rfl := Nat.succ.inj hlimit
      have hrepeats := repeats_onward m u v a.status
      have hreferrals : n.referrals (limit + 1) = (n.after m).referrals limit + 1 := by
        refine Network.referrals_after ?_
        rw [hreply]
        exact refers_of_referral? hrefers
      obtain ⟨further, hsent, hlength, hall⟩ :=
        ih v (onward m u v a.status) (n := n.after m) h
      rw [hfollow]
      refine ⟨_ :: further, hsent.trans (List.append_assoc _ _ _), ?_, fun m' hm' => ?_⟩
      · rw [hreferrals]
        exact Nat.succ_le_succ hlength
      · rcases List.mem_cons.mp hm' with rfl | hm'
        · exact hrepeats
        · exact hrepeats.trans (hall m' hm')

/-! ## Answers -/

/-- What a message for `u` brings in the end: the answer to it, or what a message for the address
that the answer refers to brings. -/
inductive Brings : Nat → Url → Message → Network → Answer → Prop
  | last {limit : Nat} {u : Url} {m : Message} {n : Network} {a : Answer} :
    (n.send m).1 = .ok a → referral? u a = none → Brings limit u m n a
  | onward {limit : Nat} {u v : Url} {m : Message} {n : Network} {a b : Answer} :
    (n.send m).1 = .ok a → referral? u a = some v → v.isWeb = true →
      Brings limit v (onward m u v a.status) (n.send m).2 b → Brings (limit + 1) u m n b

theorem follow_of_brings (h : Brings limit u m n b) : (follow limit u m n).1 = .ok b := by
  induction h with
  | last hsend hfinal =>
    obtain ⟨hreachable, a, hreply, rfl⟩ := Network.send_eq_ok_iff.mp hsend
    rw [referral?_received] at hfinal
    rw [follow_of_final hreachable hreply hfinal]
  | onward hsend hrefers hweb _ ih =>
    obtain ⟨hreachable, a, hreply, rfl⟩ := Network.send_eq_ok_iff.mp hsend
    rw [referral?_received] at hrefers
    rw [Network.network_send hreachable, a.received_status] at ih
    rw [follow_of_referral hreachable hreply hrefers]
    dsimp only
    rw [if_pos hweb]
    exact ih

theorem reachable_of_follow (h : (follow limit u m n).1 = .ok b) : n.reachable = true := by
  cases hreachable : n.reachable with
  | false =>
    rw [follow_of_unreachable hreachable] at h
    exact nomatch h
  | true => rfl

theorem brings_of_follow (h : (follow limit u m n).1 = .ok b) : Brings limit u m n b := by
  induction limit generalizing u m n with
  | zero =>
    obtain ⟨-, hlast⟩ | ⟨rest, a, v, hlimit, -⟩ := follow_cases (reachable_of_follow h) 0 u m
    · obtain ⟨hsend, hfinal⟩ := hlast b h
      exact .last hsend hfinal
    · exact nomatch hlimit
  | succ limit ih =>
    have hreachable := reachable_of_follow h
    obtain ⟨-, hlast⟩ | ⟨rest, a, v, hlimit, hreply, hrefers, hweb, hfollow⟩ :=
      follow_cases hreachable (limit + 1) u m
    · obtain ⟨hsend, hfinal⟩ := hlast b h
      exact .last hsend hfinal
    · obtain rfl := Nat.succ.inj hlimit
      rw [hfollow] at h
      have hsend := Network.send_of_answer (m := m) hreachable hreply
      refine .onward (congrArg Prod.fst hsend) ((referral?_received m.method).trans hrefers) hweb ?_
      rw [hsend, a.received_status]
      exact ih h

theorem follow_eq_ok_iff : (follow limit u m n).1 = .ok b ↔ Brings limit u m n b :=
  ⟨brings_of_follow, follow_of_brings⟩

/-- What is read in the end for a message for `u`. -/
def Gets (u : Url) (m : Message) (n : Network) (r : Response) : Prop :=
  ∃ a, Brings 10 u m n a ∧ a.read = .ok r

theorem Brings.reachable (h : Brings limit u m n a) : n.reachable = true := by
  cases h with
  | last hsend => exact (Network.send_eq_ok_iff.mp hsend).1
  | onward hsend => exact (Network.send_eq_ok_iff.mp hsend).1

theorem Gets.reachable (h : Gets u m n r) : n.reachable = true := by
  obtain ⟨a, hbrings, -⟩ := h
  exact hbrings.reachable

end Client

/-! ## Replies that are not followed -/

namespace Network

variable {limit : Nat} {n : Network} {u : Url} {m : Message} {r : Response}

/-- The next reply is none that is followed from `u`. -/
def Settles (n : Network) (u : Url) : Prop :=
  ∀ a, n.replies.headD Reply.default = .answer a → Client.referral? u a = none

/-- The next reply is read as an answer and not followed. -/
def Answers (n : Network) (u : Url) (m : Message) (r : Response) : Prop :=
  n.reachable = true ∧ ∃ a, n.replies.headD Reply.default = .answer a ∧
    Client.referral? u a = none ∧ (a.received m.method).read = .ok r

theorem settles_of_refers (h : (n.replies.headD Reply.default).refers = false) : n.Settles u := by
  intro a hreply
  cases hrefers : Client.referral? u a with
  | none => rfl
  | some v =>
    rw [hreply, Client.refers_of_referral? hrefers] at h
    exact nomatch h

theorem Answers.gets (h : n.Answers u m r) : Client.Gets u m n r := by
  obtain ⟨hreachable, a, hreply, hfinal, hread⟩ := h
  refine ⟨_, .last (send_eq_ok_iff.mpr ⟨hreachable, a, hreply, rfl⟩) ?_, hread⟩
  rw [Client.referral?_received, hfinal]

/-- Then nothing goes out but the message. -/
theorem Settles.network_follow (h : n.Settles u) :
    (Client.follow limit u m n).2 = (n.send m).2 := by
  cases hreachable : n.reachable with
  | false => rw [Client.follow_of_unreachable hreachable, send_of_unreachable hreachable]
  | true =>
    rw [network_send hreachable]
    cases hreply : n.replies.headD Reply.default with
    | drop => rw [Client.follow_of_drop hreachable hreply]
    | answer a => rw [Client.follow_of_final hreachable hreply (h a hreply)]

/-- A text arrives as it was sent. -/
theorem answers_text {status : UInt16} {text : String} (hreachable : n.reachable = true)
    (hreply : n.replies.headD Reply.default = .plain status (Text.bytes text))
    (hmethod : m.method ≠ .head) (hstatus : Status.isBodiless status = false) :
    n.Answers u m ⟨status, text⟩ := by
  have hbody : ¬(m.method = .head ∨ Status.isBodiless status = true) := by
    rw [hstatus]
    exact fun h => h.elim hmethod Bool.noConfusion
  refine ⟨hreachable, _, hreply, ?_, ?_⟩
  · rw [Client.referral?]
    split <;> rfl
  · rw [Answer.received, if_neg hbody, Answer.read]
    dsimp only
    rw [Text.Utf8.decodeLossy_bytes]

end Network

/-! ## Drafts -/

namespace Client

variable {c : Client} {d : Draft} {given u : Url} {m : Message} {n : Network} {a : Answer}

/-- All that goes out of a draft: its message if that can be sent, and behind it at most one for
every reply in a row that refers to another address, ten at most. -/
structure Sends (c : Client) (d : Draft) (n after : Network) : Prop where
  goesOut : ∀ given u, d.GoesTo given u → n.reachable = true → ∃ further,
    after.sent = n.sent ++ c.messageOf d given u :: further ∧
      further.length ≤ n.referrals 10 ∧ (n.Settles u → further = []) ∧
      ∀ m ∈ further, (c.messageOf d given u).Repeats m
  staysSilent : (∀ given u, ¬d.GoesTo given u) ∨ n.reachable = false → after = n

theorem Sends.silent_or_goesOut {after : Network} (h : c.Sends d n after) :
    after = n ∨ ∃ given u further, d.GoesTo given u ∧
      after.sent = n.sent ++ c.messageOf d given u :: further ∧
      further.length ≤ n.referrals 10 ∧ ∀ m ∈ further, (c.messageOf d given u).Repeats m := by
  by_cases hgoes : ∃ given u, d.GoesTo given u
  · cases hreachable : n.reachable with
    | false => exact .inl (h.staysSilent (.inr hreachable))
    | true =>
      obtain ⟨given, u, hgoes⟩ := hgoes
      obtain ⟨further, hsent, hlength, -, hall⟩ := h.goesOut given u hgoes hreachable
      exact .inr ⟨given, u, further, hgoes, hsent, hlength, hall⟩
  · exact .inl (h.staysSilent (.inl fun given u h => hgoes ⟨given, u, h⟩))

/-- All in all, no more messages go out than one, and one for each reply in a row that refers to
another address. -/
theorem Sends.exists_sent {after : Network} (h : c.Sends d n after) :
    ∃ sent, after.sent = n.sent ++ sent ∧ sent.length ≤ 1 + n.referrals 10 := by
  obtain rfl | ⟨given, u, further, -, hsent, hlength, -⟩ := h.silent_or_goesOut
  · exact ⟨[], (List.append_nil _).symm, Nat.zero_le _⟩
  · refine ⟨_, hsent, ?_⟩
    rw [List.length_cons, Nat.add_comm]
    exact Nat.add_le_add_left hlength 1

theorem send_of_build (h : c.build d = .ok (m, u)) :
    c.send d n = follow redirectLimit u m n := by
  rw [send, h]

theorem send_of_goesTo (h : d.GoesTo given u) :
    c.send d n = follow redirectLimit u (c.messageOf d given u) n :=
  send_of_build (build_eq_ok_iff.mpr ⟨given, h, rfl⟩)

theorem network_send_of_settles (h : d.GoesTo given u) (hsettles : n.Settles u) :
    (c.send d n).2 = (n.send (c.messageOf d given u)).2 := by
  rw [send_of_goesTo h, hsettles.network_follow]

theorem sends_send (c : Client) (d : Draft) (n : Network) : c.Sends d n (c.send d n).2 := by
  refine ⟨fun given u hgoes hreachable => ?_, ?_⟩
  · obtain ⟨further, hsent, hlength, hall⟩ :=
      sent_follow redirectLimit u (c.messageOf d given u) hreachable
    rw [← send_of_goesTo hgoes] at hsent
    refine ⟨further, hsent, hlength, fun hsettles => ?_, hall⟩
    rw [network_send_of_settles hgoes hsettles, Network.network_send hreachable] at hsent
    exact (List.cons.inj (List.append_cancel_left hsent)).2.symm
  · rintro (hnone | hunreachable)
    · obtain ⟨e, hbuild⟩ := exists_error_of_build hnone (c := c)
      rw [send, hbuild]
    · cases hbuild : c.build d with
      | error e => rw [send, hbuild]
      | ok built => rw [send_of_build hbuild, follow_of_unreachable hunreachable]

/-- A draft is answered exactly if a message can be made of it and that brings an answer. -/
theorem send_eq_ok_iff : (c.send d n).1 = .ok a ↔
    ∃ given u, d.GoesTo given u ∧ Brings 10 u (c.messageOf d given u) n a := by
  cases hbuild : c.build d with
  | error e =>
    rw [send, hbuild]
    refine ⟨nofun, ?_⟩
    rintro ⟨given, u, hgoes, -⟩
    rw [build_eq_ok_iff.mpr ⟨given, hgoes, rfl⟩] at hbuild
    exact nomatch hbuild
  | ok built =>
    obtain ⟨m, u⟩ := built
    rw [send_of_build hbuild, follow_eq_ok_iff]
    constructor
    · intro hbrings
      obtain ⟨given, hgoes, rfl⟩ := build_eq_ok_iff.mp hbuild
      exact ⟨given, u, hgoes, hbrings⟩
    · rintro ⟨given, v, hgoes, hbrings⟩
      rw [build_eq_ok_iff.mpr ⟨given, hgoes, rfl⟩] at hbuild
      obtain ⟨rfl, rfl⟩ := Prod.mk.inj (Except.ok.inj hbuild)
      exact hbrings

end Client
end Http
end SdkShelf
