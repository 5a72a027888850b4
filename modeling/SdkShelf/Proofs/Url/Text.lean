import SdkShelf.Proofs.Results
import SdkShelf.Proofs.Text.Cells
import SdkShelf.Proofs.Url.Form

/-!
# Written addresses

Nothing in front of the query of a web address that was read looks like the beginning of a query,
and nothing in the query like that of a fragment.  So the query that a reader finds in the written
address is the query of the address.  No control character stands anywhere in it.
-/

namespace SdkShelf
namespace Url

/-- No character of the text is of the kind. -/
def Lacks (kind : Char → Bool) (cs : List Char) : Prop := ∀ c ∈ cs, kind c = false

instance (kind : Char → Bool) (cs : List Char) : Decidable (Lacks kind cs) :=
  List.decidableBAll (fun c => kind c = false) cs

theorem lacks_toList_append {kind : Char → Bool} {s t : String} :
    Lacks kind (s ++ t).toList ↔ Lacks kind s.toList ∧ Lacks kind t.toList := by
  rw [String.toList_append]
  exact List.forall_mem_append

/-- The character begins a query or a fragment. -/
def endsPath (c : Char) : Bool := c = '?' || c = '#'

/-- Neither a query nor a fragment begins in the text. -/
def Bare (cs : List Char) : Prop := ∀ c ∈ cs, endsPath c = false

instance (cs : List Char) : Decidable (Bare cs) :=
  List.decidableBAll (fun c => endsPath c = false) cs

theorem bare_nil : Bare [] := fun _ h => absurd h List.not_mem_nil

theorem bare_toList_append {s t : String} :
    Bare (s ++ t).toList ↔ Bare s.toList ∧ Bare t.toList :=
  lacks_toList_append

theorem endsPath_of_isAlphanum {c : Char} (h : c.isAlphanum = true) : endsPath c = false := by
  rw [endsPath, Bool.or_eq_false_iff, decide_eq_false_iff_not, decide_eq_false_iff_not]
  constructor <;> rintro rfl <;> exact absurd h (by decide)

theorem bare_iff {cs : List Char} : Bare cs ↔ '?' ∉ cs ∧ '#' ∉ cs := by
  refine ⟨fun h => ⟨fun hc => ?_, fun hc => ?_⟩, fun ⟨hquery, hfragment⟩ c hc => ?_⟩
  · exact absurd (h _ hc) (by decide)
  · exact absurd (h _ hc) (by decide)
  · rw [endsPath, Bool.or_eq_false_iff, decide_eq_false_iff_not, decide_eq_false_iff_not]
    exact ⟨fun e => hquery (e ▸ hc), fun e => hfragment (e ▸ hc)⟩

/-! ## Encoded parts -/

theorem Percent.mem_encode {special : Char → Bool} {cs : List Char} {c : Char}
    (h : c ∈ Percent.encode special cs) :
    special c = false ∨ c = '%' ∨ c.isAlphanum = true := by
  obtain ⟨d, -, hc⟩ := List.mem_flatMap.mp h
  split at hc
  · rename_i hd
    rw [List.mem_singleton.mp hc]
    exact .inl (by simpa using hd.2)
  · exact .inr (Percent.mem_encodeChar hc)

theorem Percent.not_mem_encode {special : Char → Bool} {sep : Char} (hsep : special sep = true)
    (hends : endsPath sep = true) (cs : List Char) : sep ∉ Percent.encode special cs := fun h => by
  rcases Percent.mem_encode h with hplain | rfl | hdigit
  · exact absurd (hplain.symm.trans hsep) Bool.false_ne_true
  · exact absurd hends (by decide)
  · exact absurd ((endsPath_of_isAlphanum hdigit).symm.trans hends) Bool.false_ne_true

/-! ## Signs that no part is written with -/

/-- Neither letters nor digits nor the signs that join the parts of an address are of the kind.
What is of the kind is encoded in names and stands in no domain. -/
structure IsForeign (kind : Char → Bool) : Prop where
  alphanum : ∀ c, c.isAlphanum = true → kind c = false
  joints : Lacks kind ['%', ':', '@', '/', '.', '[', ']']
  encoded : ∀ c, kind c = true → Percent.path c = true
  forbidden : ∀ c, kind c = true → Domain.isForbidden c = true

/-- An encoding that encodes what is foreign leaves none of it. -/
theorem IsForeign.lacks_encode {kind special : Char → Bool} (hkind : IsForeign kind)
    (hspecial : ∀ c, kind c = true → special c = true) (cs : List Char) :
    Lacks kind (Percent.encode special cs) := by
  intro c hc
  rcases Percent.mem_encode hc with hplain | rfl | hdigit
  · exact Bool.eq_false_iff.mpr fun hforeign =>
      Bool.false_ne_true (hplain.symm.trans (hspecial c hforeign))
  · exact hkind.joints '%' (by decide)
  · exact hkind.alphanum c hdigit

theorem isForeign_endsPath : IsForeign endsPath where
  alphanum _ h := endsPath_of_isAlphanum h
  joints := by decide
  encoded c h := by
    rw [endsPath, Bool.or_eq_true, decide_eq_true_eq, decide_eq_true_eq] at h
    rcases h with rfl | rfl <;> decide
  forbidden c h := by
    rw [endsPath, Bool.or_eq_true, decide_eq_true_eq, decide_eq_true_eq] at h
    rcases h with rfl | rfl <;> decide

theorem control_of_isAlphanum {c : Char} (h : c.isAlphanum = true) : Percent.control c = false := by
  have hbetween : ∀ {low high : UInt32}, low ≤ c.val ∧ c.val ≤ high →
      low.toNat ≤ c.toNat ∧ c.toNat ≤ high.toNat :=
    fun ⟨hlow, hhigh⟩ => ⟨UInt32.le_iff_toNat_le.mp hlow, UInt32.le_iff_toNat_le.mp hhigh⟩
  have hbounds : 48 ≤ c.toNat ∧ c.toNat ≤ 122 := by
    rcases Bool.or_eq_true_iff.mp h with hletter | hdigit
    · rcases Bool.or_eq_true_iff.mp hletter with hupper | hlower
      · have hrange : 65 ≤ c.toNat ∧ c.toNat ≤ 90 := hbetween (of_decide_eq_true hupper)
        omega
      · have hrange : 97 ≤ c.toNat ∧ c.toNat ≤ 122 := hbetween
          ((Bool.and_eq_true_iff.mp hlower).imp of_decide_eq_true of_decide_eq_true)
        omega
    · have hrange : 48 ≤ c.toNat ∧ c.toNat ≤ 57 := hbetween
        ((Bool.and_eq_true_iff.mp hdigit).imp of_decide_eq_true of_decide_eq_true)
      omega
  rw [Percent.control, Bool.or_eq_false_iff, decide_eq_false_iff_not, decide_eq_false_iff_not]
  omega

theorem isForeign_control : IsForeign Percent.control where
  alphanum _ h := control_of_isAlphanum h
  joints := by decide
  encoded c h := by rw [Percent.path, Percent.fragment, h, Bool.true_or, Bool.true_or]
  forbidden c h := by
    rw [Percent.control, Bool.or_eq_true, decide_eq_true_eq, decide_eq_true_eq] at h
    rw [Domain.isForbidden, Bool.or_eq_true, Bool.or_eq_true, decide_eq_true_eq, decide_eq_true_eq]
    exact .inl (h.imp (fun hlow => by omega) id)

/-! ## Hosts -/

theorem isAlphanum_hexDigits (n : Nat) : ∀ c ∈ Text.hexDigits n, c.isAlphanum = true := by
  have hdigit : ∀ d < 16, d.digitChar.isAlphanum = true := by decide
  rw [Text.hexDigits]
  induction n using Nat.strongRecOn with
  | ind n ih =>
    by_cases hn : n < 16
    · rw [Nat.toDigits_of_lt_base hn]
      exact List.forall_mem_singleton.mpr (hdigit n hn)
    · rw [Nat.toDigits_of_base_le (by decide) (by omega), List.forall_mem_append]
      exact ⟨ih (n / 16) (by omega), List.forall_mem_singleton.mpr (hdigit _ (by omega))⟩

section

variable {kind : Char → Bool} (hkind : IsForeign kind)

include hkind

theorem IsForeign.lacks_toString (n : Nat) : Lacks kind (toString n).toList := by
  rw [Nat.toString_eq_ofList_toDigits, String.toList_ofList]
  intro c hc
  exact hkind.alphanum c (by simp [Char.isAlphanum, Text.isDigit_toDigits n c hc])

namespace Host

theorem lacks_hexPieces (pieces : List Nat) : Lacks kind (hexPieces pieces).toList := by
  refine Text.forall_mem_intercalate ?_ fun text htext => ?_
  · exact List.forall_mem_singleton.mpr (hkind.joints ':' (by decide))
  · obtain ⟨n, -, rfl⟩ := List.mem_map.mp htext
    rw [String.toList_ofList]
    exact fun c hc => hkind.alphanum c (isAlphanum_hexDigits n c hc)

theorem lacks_ipv6Text (pieces : List Nat) : Lacks kind (ipv6Text pieces).toList := by
  have hcolon : kind ':' = false := hkind.joints ':' (by decide)
  rw [ipv6Text]
  split
  split
  · exact lacks_hexPieces hkind _
  · rw [lacks_toList_append, lacks_toList_append]
    refine ⟨⟨lacks_hexPieces hkind _, ?_⟩, lacks_hexPieces hkind _⟩
    exact List.forall_mem_cons.mpr ⟨hcolon, List.forall_mem_singleton.mpr hcolon⟩

theorem lacks_text_ipv6 (pieces : List Nat) : Lacks kind (ipv6 pieces).text.toList := by
  rw [text, lacks_toList_append, lacks_toList_append]
  exact ⟨⟨List.forall_mem_singleton.mpr (hkind.joints '[' (by decide)),
    lacks_ipv6Text hkind pieces⟩, List.forall_mem_singleton.mpr (hkind.joints ']' (by decide))⟩

theorem lacks_text_ipv4 (address : Nat) : Lacks kind (ipv4 address).text.toList := by
  refine Text.forall_mem_intercalate ?_ fun text htext => ?_
  · exact List.forall_mem_singleton.mpr (hkind.joints '.' (by decide))
  · obtain ⟨n, -, rfl⟩ := List.mem_map.mp htext
    exact hkind.lacks_toString n

theorem lacks_of_ofText? {text name : String} (h : Domain.ofText? text = some name) :
    Lacks kind name.toList := by
  rw [Domain.ofText?] at h
  obtain ⟨small, -, h⟩ := Option.bind_eq_some_iff.mp h
  obtain ⟨labels, -, h⟩ := Option.bind_eq_some_iff.mp h
  split at h
  · exact nomatch h
  · dsimp only at h
    split at h
    · exact nomatch h
    · rename_i hallowed
      rw [← Option.some.inj h, String.toList_ofList]
      exact fun c hc => Bool.eq_false_iff.mpr fun hforeign =>
        hallowed (List.any_eq_true.mpr ⟨c, hc, hkind.forbidden c hforeign⟩)

omit hkind in
theorem exists_of_ofBracket {rest : List Char} {host : Host} (h : ofBracket rest = .ok host) :
    ∃ pieces, host = .ipv6 pieces := by
  rw [ofBracket] at h
  split at h
  · split at h
    · exact ⟨_, (Except.ok.inj h).symm⟩
    · exact nomatch h
  · exact nomatch h

/-- A host that was read is not the empty name, and no foreign character stands in its text. -/
theorem lacks_of_ofSpecial {cs : List Char} {host : Host} (h : ofSpecial cs = .ok host) :
    host ≠ .domain "" ∧ Lacks kind host.text.toList := by
  rw [ofSpecial.eq_def] at h
  split at h
  · obtain ⟨pieces, rfl⟩ := exists_of_ofBracket h
    exact ⟨nofun, lacks_text_ipv6 hkind pieces⟩
  · split at h
    · exact nomatch h
    · exact nomatch h
    · rename_i name hne hname
      obtain ⟨text, -, htext⟩ := Option.bind_eq_some_iff.mp hname
      split at h
      · split at h
        · rw [← Except.ok.inj h]
          exact ⟨nofun, lacks_text_ipv4 hkind _⟩
        · exact nomatch h
      · rw [← Except.ok.inj h]
        exact ⟨fun e => hne (Host.domain.inj e), lacks_of_ofText? hkind htext⟩

end Host

/-! ## Authorities -/

/-- An authority with a host, in whose parts nothing else begins. -/
structure Authority.IsSound (a : Authority) : Prop where
  username : Bare a.username.toList
  password : ∀ password ∈ a.password, Bare password.toList
  host : ∃ host, a.host = some host ∧ Bare host.text.toList

theorem Authority.lacks_text {a : Authority} (husername : Lacks kind a.username.toList)
    (hpassword : ∀ password ∈ a.password, Lacks kind password.toList) {host : Host}
    (hhost : a.host = some host) (hname : Lacks kind host.text.toList) :
    Lacks kind a.text.toList := by
  have hat : Lacks kind "@".toList := List.forall_mem_singleton.mpr (hkind.joints '@' (by decide))
  have hcolon : Lacks kind ":".toList :=
    List.forall_mem_singleton.mpr (hkind.joints ':' (by decide))
  have huser : Lacks kind a.userinfoText.toList := by
    rw [Authority.userinfoText]
    cases hsome : a.password with
    | some password =>
      rw [lacks_toList_append, lacks_toList_append, lacks_toList_append]
      exact ⟨⟨⟨husername, hcolon⟩, hpassword password hsome⟩, hat⟩
    | none =>
      dsimp only
      split
      · exact List.forall_mem_nil _
      · rw [lacks_toList_append]
        exact ⟨husername, hat⟩
  rw [Authority.text, hhost, lacks_toList_append, lacks_toList_append]
  refine ⟨⟨huser, hname⟩, ?_⟩
  cases a.socket with
  | none => exact List.forall_mem_nil _
  | some socket =>
    rw [lacks_toList_append]
    exact ⟨hcolon, hkind.lacks_toString socket⟩

omit hkind in
theorem Authority.IsSound.bare_text {a : Authority} (h : a.IsSound) : Bare a.text.toList := by
  obtain ⟨host, hhost, hbare⟩ := h.host
  exact Authority.lacks_text isForeign_endsPath h.username h.password hhost hbare

namespace Parser

theorem lacks_userinfo (cs : List Char) :
    Lacks kind (String.ofList (Percent.encode Percent.userinfo cs)).toList := by
  rw [String.toList_ofList]
  refine hkind.lacks_encode (fun c hc => ?_) cs
  rw [Percent.userinfo, hkind.encoded c hc, Bool.true_or]

theorem lacks_username (cs : List Char) : Lacks kind (userOf cs).1.toList := lacks_userinfo hkind _

theorem lacks_password {cs : List Char} {password : String} (h : password ∈ (userOf cs).2) :
    Lacks kind password.toList := by
  rw [userOf] at h
  dsimp only at h
  split at h
  · exact nomatch h
  · rw [← Option.some.inj h]
    exact lacks_userinfo hkind _

omit hkind in
/-- What an authority is read from: a user, a host, and a socket number behind it. -/
theorem exists_of_authority {scheme : String} {cs rest : List Char} {a : Authority}
    (h : authority scheme .web cs = .ok (a, rest)) :
    ∃ user hostText host socket, Host.ofSpecial hostText = .ok host ∧
      a = ⟨(userOf user).1, (userOf user).2, if host = .domain "" then none else some host,
        socket⟩ := by
  rw [authority] at h
  dsimp only at h
  split at h
  · exact nomatch h
  · split at h
    · exact nomatch h
    · obtain ⟨host, hhost, h⟩ := exists_of_bind_eq_ok h
      generalize hhost? : (if host = .domain "" then none else some host) = host? at h
      split at h
      · exact nomatch h
      · -- Without a socket number the rest is what stood behind the host, and else what stands
        -- behind the number; the authority is put together in the same way.
        split at h <;>
        · obtain ⟨⟨socket, behind⟩, -, h⟩ := exists_of_bind_eq_ok h
          split at h
          · exact nomatch h
          · have ha := (Prod.mk.inj (Except.ok.inj h)).1.symm
            rw [← hhost?] at ha
            exact ⟨_, _, host, _, hhost, ha⟩

omit hkind in
theorem isSound_of_authority {scheme : String} {cs rest : List Char} {a : Authority}
    (h : authority scheme .web cs = .ok (a, rest)) : a.IsSound := by
  obtain ⟨user, hostText, host, socket, hhost, rfl⟩ := exists_of_authority h
  obtain ⟨hne, hbare⟩ := Host.lacks_of_ofSpecial isForeign_endsPath hhost
  exact ⟨lacks_username isForeign_endsPath user, fun _ => lacks_password isForeign_endsPath, host,
    if_neg hne, hbare⟩

theorem lacks_text_of_authority {scheme : String} {cs rest : List Char} {a : Authority}
    (h : authority scheme .web cs = .ok (a, rest)) : Lacks kind a.text.toList := by
  obtain ⟨user, hostText, host, socket, hhost, rfl⟩ := exists_of_authority h
  obtain ⟨hne, hname⟩ := Host.lacks_of_ofSpecial hkind hhost
  exact Authority.lacks_text hkind (lacks_username hkind user) (fun _ => lacks_password hkind)
    (if_neg hne) hname

/-! ## Paths and queries -/

omit hkind in
/-- Every name of a web path is one that it was given, or empty. -/
theorem forall_mem_follow {P : String → Prop} (hempty : P "") {names : List String}
    (h : ∀ name ∈ names, P name) {path : List String} (hpath : ∀ name ∈ path, P name) :
    ∀ name ∈ follow .web path names, P name := by
  -- The path so far stays arbitrary: a name may be put on it, taken off it, or left out.
  induction names generalizing path with
  | nil =>
    rw [follow]
    exact fun name hname => hpath name (List.mem_reverse.mp hname)
  | cons segment rest ih =>
    obtain ⟨hsegment, hrest⟩ := List.forall_mem_cons.mp h
    have hshorten : ∀ name ∈ shorten path, P name := by
      intro name hname
      cases path with
      | nil => exact absurd hname List.not_mem_nil
      | cons last path =>
        rw [shorten] at hname
        split at hname
        · exact hpath name hname
        · exact hpath name (List.mem_cons_of_mem _ hname)
    rw [follow]
    split
    · refine ih hrest ?_
      split
      · exact List.forall_mem_cons.mpr ⟨hempty, hshorten⟩
      · exact hshorten
    · split
      · refine ih hrest ?_
        split
        · exact List.forall_mem_cons.mpr ⟨hempty, hpath⟩
        · exact hpath
      · rw [if_neg fun hfile => nomatch hfile.1]
        exact ih hrest (List.forall_mem_cons.mpr ⟨hsegment, hpath⟩)

theorem lacks_pathOf (cs : List Char) : ∀ name ∈ pathOf .web cs, Lacks kind name.toList := by
  have hsegments : ∀ cs, ∀ name ∈ segments .web cs, Lacks kind name.toList := fun cs => by
    rw [segments]
    refine forall_mem_follow (P := fun name => Lacks kind name.toList) (List.forall_mem_nil _) ?_
      (List.forall_mem_nil _)
    intro name hname
    obtain ⟨segment, -, rfl⟩ := List.mem_map.mp hname
    rw [String.toList_ofList]
    exact hkind.lacks_encode hkind.encoded segment
  rw [pathOf.eq_def]
  split
  · exact List.forall_mem_singleton.mpr (List.forall_mem_nil _)
  · split
    · exact hsegments _
    · exact hsegments _

end Parser

theorem Path.lacks_text {names : List String} (h : ∀ name ∈ names, Lacks kind name.toList) :
    Lacks kind (segments names).text.toList := by
  rw [text, String.toList_join]
  intro c hc
  obtain ⟨piece, hpiece, hc⟩ := List.mem_flatMap.mp hc
  obtain ⟨name, hname, rfl⟩ := List.mem_map.mp hpiece
  have hslash : Lacks kind "/".toList :=
    List.forall_mem_singleton.mpr (hkind.joints '/' (by decide))
  exact lacks_toList_append.mpr ⟨hslash, h name hname⟩ c hc

end

/-! ## Addresses -/

/-- A web address with a host, in whose parts the next one does not begin. -/
structure IsSound (u : Url) : Prop where
  isWeb : u.isWeb = true
  authority : ∃ a, u.authority = some a ∧ a.IsSound
  path : Bare u.path.text.toList
  query : ∀ query ∈ u.query, '#' ∉ query.toList

theorem scheme_of_isWeb {u : Url} (h : u.isWeb = true) :
    u.scheme = "http" ∨ u.scheme = "https" := by
  rwa [isWeb, Bool.or_eq_true, decide_eq_true_eq, decide_eq_true_eq] at h

namespace Parser

theorem not_mem_splitTail {cs : List Char} {query : String}
    (h : query ∈ (splitTail .web cs).2.1) : '#' ∉ query.toList := by
  obtain ⟨q, -, rfl⟩ := Option.map_eq_some_iff.mp h
  rw [String.toList_ofList]
  exact Percent.not_mem_encode (by decide) (by decide) q

theorem lacks_query {cs : List Char} {query : String} (h : query ∈ (splitTail .web cs).2.1) :
    Lacks Percent.control query.toList := by
  obtain ⟨q, -, rfl⟩ := Option.map_eq_some_iff.mp h
  rw [String.toList_ofList]
  refine isForeign_control.lacks_encode (fun c hc => ?_) q
  show Percent.specialQuery c = true
  rw [Percent.specialQuery, Percent.query, hc, Bool.true_or, Bool.true_or]

theorem lacks_fragment {cs : List Char} {fragment : String}
    (h : fragment ∈ (splitTail .web cs).2.2) : Lacks Percent.control fragment.toList := by
  obtain ⟨f, -, rfl⟩ := Option.map_eq_some_iff.mp h
  rw [String.toList_ofList]
  refine isForeign_control.lacks_encode (fun c hc => ?_) f
  rw [Percent.fragment, hc, Bool.true_or]

theorem kindOf_of_isWeb {u : Url} (h : u.isWeb = true) : Kind.of u.scheme = .web := by
  rcases scheme_of_isWeb h with h | h <;> rw [h] <;> decide

theorem scheme_of_fileUrl {cs : List Char} {u : Url} (h : fileUrl cs = .ok u) :
    u.scheme = "file" := by
  rw [fileUrl] at h
  split at h
  dsimp only at h
  split at h
  · split at h
    · split at h
      · rw [← Except.ok.inj h]
      · obtain ⟨host, -, h⟩ := exists_of_bind_eq_ok h
        split at h <;> rw [← Except.ok.inj h]
    · rw [← Except.ok.inj h]
  · rw [← Except.ok.inj h]

/-- A web address has what its authority and the rest behind it were read as. -/
theorem exists_of_ofScheme {scheme : String} {cs : List Char} {u : Url}
    (h : ofScheme scheme cs = .ok u) (hweb : u.isWeb = true) :
    ∃ part a rest, authority scheme .web part = .ok (a, rest) ∧
      u = ⟨scheme, some a, .segments (pathOf .web (splitTail .web rest).1),
        (splitTail .web rest).2.1, (splitTail .web rest).2.2⟩ := by
  have hkind := kindOf_of_isWeb hweb
  rw [ofScheme.eq_def] at h
  split at h
  · rw [scheme_of_fileUrl h] at hkind
    exact absurd hkind (by decide)
  · obtain ⟨⟨a, rest⟩, ha, h⟩ := exists_of_bind_eq_ok h
    exact ⟨_, a, rest, ha, (Except.ok.inj h).symm⟩
  · rename_i hother
    split at h
    · obtain ⟨⟨a, rest⟩, ha, h⟩ := exists_of_bind_eq_ok h
      obtain rfl := Except.ok.inj h
      exact nomatch hother.symm.trans hkind
    · obtain rfl := Except.ok.inj h
      exact nomatch hother.symm.trans hkind
    · obtain rfl := Except.ok.inj h
      exact nomatch hother.symm.trans hkind

end Parser

theorem exists_ofScheme_of_parse {text : String} {u : Url} (h : parse text = .ok u) :
    ∃ scheme rest, Parser.ofScheme scheme rest = .ok u := by
  rw [parse] at h
  split at h
  · exact nomatch h
  · exact ⟨_, _, h⟩

theorem isSound_of_parse {text : String} {u : Url} (h : parse text = .ok u)
    (hweb : u.isWeb = true) : u.IsSound := by
  obtain ⟨scheme, rest, h⟩ := exists_ofScheme_of_parse h
  obtain ⟨part, a, behind, ha, rfl⟩ := Parser.exists_of_ofScheme h hweb
  exact ⟨hweb, ⟨a, rfl, Parser.isSound_of_authority ha⟩,
    Path.lacks_text isForeign_endsPath (Parser.lacks_pathOf isForeign_endsPath _),
    fun _ => Parser.not_mem_splitTail⟩

/-- No control character stands in a web address that was read. -/
theorem lacks_control_text {text : String} {u : Url} (h : parse text = .ok u)
    (hweb : u.isWeb = true) : Lacks Percent.control u.text.toList := by
  obtain ⟨scheme, rest, h⟩ := exists_ofScheme_of_parse h
  obtain ⟨part, a, behind, ha, rfl⟩ := Parser.exists_of_ofScheme h hweb
  have hscheme : Lacks Percent.control scheme.toList := by
    rcases scheme_of_isWeb hweb with rfl | rfl <;> decide
  have hauthority := Parser.lacks_text_of_authority isForeign_control ha
  have hpath := Path.lacks_text isForeign_control
    (Parser.lacks_pathOf isForeign_control (Parser.splitTail .web behind).1)
  rw [Url.text, textWithoutFragment]
  simp only [lacks_toList_append]
  refine ⟨⟨⟨⟨⟨hscheme, by decide⟩, by decide, hauthority⟩, hpath⟩, ?_⟩, ?_⟩
  · cases hquery : (Parser.splitTail .web behind).2.1 with
    | none => exact List.forall_mem_nil _
    | some query => exact lacks_toList_append.mpr ⟨by decide, Parser.lacks_query hquery⟩
  · cases hfragment : (Parser.splitTail .web behind).2.2 with
    | none => exact List.forall_mem_nil _
    | some fragment => exact lacks_toList_append.mpr ⟨by decide, Parser.lacks_fragment hfragment⟩

namespace IsSound

variable {u : Url}

theorem hasHost (h : u.IsSound) : u.hasHost = true := by
  obtain ⟨a, ha, hsound⟩ := h.authority
  obtain ⟨host, hhost, -⟩ := hsound.host
  rw [Url.hasHost, ha, Option.bind_some, hhost, Option.isSome_some]

/-- Leaving out name and password brings in no sign. -/
theorem withoutUser (h : u.IsSound) : u.withoutUser.IsSound := by
  obtain ⟨a, ha, hsound⟩ := h.authority
  refine ⟨h.isWeb, ⟨{ a with username := "", password := none }, ?_, ?_⟩, h.path, h.query⟩
  · rw [Url.withoutUser, ha, Option.map_some]
  · exact ⟨bare_nil, fun _ hp => (nomatch hp), hsound.host⟩

/-- More pairs bring in no sign. -/
theorem withPairs (h : u.IsSound) (pairs : List (String × String)) :
    (u.withPairs pairs).IsSound := by
  refine ⟨h.isWeb, h.authority, h.path, fun query hquery => ?_⟩
  rw [Url.withPairs] at hquery
  dsimp only at hquery
  split at hquery
  · exact nomatch hquery
  · rw [← Option.some.inj hquery]
    refine Form.not_mem_append (by decide) (by decide) (by decide) ?_ pairs
    cases hu : u.query with
    | none => exact List.not_mem_nil
    | some query => exact h.query query hu

end IsSound

/-! ## The query of a written address -/

/-- What stands in front of the query of a written address, and the query, which is empty where
there is none. -/
def splitQuery (text : String) : String × String :=
  let (front, query) := Parser.splitFirst '?' (Parser.splitFirst '#' text.toList).1
  (String.ofList front, String.ofList (query.getD []))

theorem IsSound.bare_withoutQuery {u : Url} (h : u.IsSound) :
    Bare ({ u with query := none } : Url).textWithoutFragment.toList := by
  obtain ⟨a, ha, hsound⟩ := h.authority
  have hscheme : Bare u.scheme.toList := by
    rcases scheme_of_isWeb h.isWeb with hscheme | hscheme <;> rw [hscheme] <;> decide
  rw [textWithoutFragment, ha]
  simp only [bare_toList_append]
  exact ⟨⟨⟨⟨hscheme, by decide⟩, by decide, hsound.bare_text⟩, h.path⟩, bare_nil⟩

/-- The query that a reader finds in the written address is the query, and what stands in front of
it is the address without the query. -/
theorem IsSound.splitQuery_textWithoutFragment {u : Url} (h : u.IsSound) :
    splitQuery u.textWithoutFragment =
      (({ u with query := none } : Url).textWithoutFragment, u.query.getD "") := by
  obtain ⟨hquery, hfragment⟩ := bare_iff.mp h.bare_withoutQuery
  cases hu : u.query with
  | none =>
    have htext : u.textWithoutFragment = ({ u with query := none } : Url).textWithoutFragment := by
      rw [← hu]
    rw [splitQuery, htext, Parser.splitFirst_of_not_mem hfragment,
      Parser.splitFirst_of_not_mem hquery]
    exact Prod.ext String.ofList_toList rfl
  | some query =>
    have htext : u.textWithoutFragment.toList =
        ({ u with query := none } : Url).textWithoutFragment.toList ++ '?' :: query.toList := by
      simp only [textWithoutFragment, hu, String.toList_append]
      simp
    have hnone : '#' ∉ u.textWithoutFragment.toList := by
      rw [htext, List.mem_append, List.mem_cons]
      rintro (hmem | hmem | hmem)
      · exact hfragment hmem
      · exact absurd hmem (by decide)
      · exact h.query query hu hmem
    rw [splitQuery, Parser.splitFirst_of_not_mem hnone, htext, Parser.splitFirst_append hquery]
    exact Prod.ext String.ofList_toList String.ofList_toList

end Url
end SdkShelf
