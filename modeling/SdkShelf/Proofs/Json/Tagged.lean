import SdkShelf.Json.Tagged
import SdkShelf.Proofs.Json.RoundTrip

/-!
# Reading tagged values back

A tagged value is read back from every tree that holds its object.  The tag may stand anywhere among
the members; what stands beside it is kept until the case is known.
-/

namespace SdkShelf
namespace Json
namespace Tagged

variable {α γ σ : Type} {u : Tagged α} {o : Origin} {c : Case α}

theorem eachMember_of_others {ts : List (Label × Tree)} {ms : List (String × Json)}
    (hts : List.Forall₂ Tree.HoldsMember ts ms) (htag : ∀ m ∈ ms, m.1 ≠ u.tag)
    (hv : ∀ m ∈ ms, m.2.Plain) (ho : ∀ m ∈ ms, o.HasRoom m.2.depth) (found : Option (Case α)) :
    u.eachMember o ts found = .ok (found, ms) := by
  induction hts with
  | nil => rfl
  | @cons t m ts ms ht hts ih =>
    rw [List.forall_mem_cons] at htag hv ho
    have hread : t.2.read o = .ok m.2 := Tree.read_of_holds hv.1 ho.1 ht.2
    have hrest : u.eachMember o ts found = .ok (found, ms) := ih htag.2 hv.2 ho.2
    cases found with
    | none =>
      rw [eachMember]
      simp only [key_of_name ht.1, bind, Except.bind, if_neg htag.1, hread, hrest]
    | some c =>
      rw [eachMember]
      simp only [key_of_name ht.1, bind, Except.bind, if_neg htag.1, hread, hrest]

/-- The tag decides the case wherever it stands among the members. -/
theorem eachMember_of_tag {before after : List (Label × Tree)} {ms ns : List (String × Json)}
    {t : Label × Tree} (hbefore : List.Forall₂ Tree.HoldsMember before ms)
    (hafter : List.Forall₂ Tree.HoldsMember after ns) (hname : t.1.name = .ok u.tag)
    (hcase : u.case t.2 = .ok c) (htag : ∀ m ∈ ms ++ ns, m.1 ≠ u.tag)
    (hv : ∀ m ∈ ms ++ ns, m.2.Plain) (ho : ∀ m ∈ ms ++ ns, o.HasRoom m.2.depth) :
    u.eachMember o (before ++ t :: after) none = .ok (some c, ms ++ ns) := by
  induction hbefore with
  | nil =>
    have hrest : u.eachMember o after (some c) = .ok (some c, ns) :=
      eachMember_of_others hafter htag hv ho (some c)
    rw [List.nil_append, eachMember]
    simp only [key_of_name hname, bind, Except.bind, if_true, hcase, hrest]
    rfl
  | @cons s m before ms hs hbefore ih =>
    rw [List.cons_append, List.forall_mem_cons] at htag hv ho
    have hread : s.2.read o = .ok m.2 := Tree.read_of_holds hv.1 ho.1 hs.2
    have hrest : u.eachMember o (before ++ t :: after) none = .ok (some c, ms ++ ns) :=
      ih htag.2 hv.2 ho.2
    rw [List.cons_append, eachMember]
    simp only [key_of_name hs.1, bind, Except.bind, if_neg htag.1, hread, hrest]
    rfl

/-- The tag is no field's name, so a tagged object has no key twice. -/
theorem nodup_keys_object {tag name : String} {fields : Fields γ σ} {parts : γ}
    (htag : tag ∉ fields.names) (h : fields.Faithful parts) :
    (((tag, Json.string name) :: fields.encode parts).map Prod.fst).Nodup := by
  rw [List.map_cons, List.nodup_cons]
  refine ⟨fun hmem => ?_, fields.nodup_keys h⟩
  obtain ⟨m, hm, hkey⟩ := List.mem_map.mp hmem
  have hname : m.1 = tag := hkey
  exact htag (hname ▸ fields.key_mem_names parts m hm)

theorem plain_tagged {tag : String} (name : String) {fields : Fields γ σ} {parts : γ}
    (htag : tag ∉ fields.names) (h : fields.Faithful parts) :
    (object tag name fields parts).Plain := by
  rw [object, plain_object, List.forall_mem_cons]
  exact ⟨nodup_keys_object htag h, trivial, fields.plain_encode h⟩

theorem case_of_holds {t : Tree} {name : String} (ht : t.Holds (.string name))
    (hc : u.cases.find? (fun c => c.name = name) = some c) : u.case t = .ok c := by
  obtain ⟨start, stop, rfl⟩ := Tree.holds_string ht
  have hfind : (u.cases.map fun c => (c.name, c)).find? (fun e => e.1 = name) =
      some (c.name, c) := by
    rw [List.find?_map]
    show (u.cases.find? fun c => c.name = name).map _ = _
    rw [hc, Option.map_some]
  rw [case, Tree.named, hfind]

theorem decode_ofFields (name label : String) {fields : Fields γ σ} (make : γ → α) {parts : γ}
    (h : fields.Faithful parts) {ms : List (String × Json)} (hv : ∀ m ∈ ms, m.2.Plain)
    (hperm : (ms.map canonicalMember).Perm ((fields.encode parts).map canonicalMember)) :
    (Case.ofFields name label fields make).decode (.object ms) = .ok (make parts) := by
  have hts : List.Forall₂ Tree.HoldsMember (Tree.ofMembers ms) ms :=
    Tree.holdMembers_iff.mp (Tree.holds_ofMembers ms)
  obtain ⟨slots, hslots, hfilled⟩ :=
    fields.filled_of_holds (o := .value) h hts hv (fun _ _ => trivial) hperm
  simp only [Case.ofFields, Tree.ofJson, Tree.record, Origin.enter, bind, Except.bind, hslots]
  show Except.map make ((fields.filled slots).mapError _) = _
  rw [hfilled]
  rfl

section

variable {name label : String} {fields : Fields γ σ} {make : γ → α} {parts : γ}
  (hcase : u.cases.find? (fun c => c.name = name) = some (.ofFields name label fields make))
  (htag : u.tag ∉ fields.names) (h : fields.Faithful parts)

include hcase htag h

/-- A tagged value is read back from every tree that holds its object, whatever the order of
members. -/
theorem decode_of_holds {v : Json} {t : Tree} (hv : v.Plain) (ho : o.HasRoom v.depth)
    (ht : t.Holds v) (heq : v.canonical = (object u.tag name fields parts).canonical) :
    u.decode o t = .ok (make parts) := by
  obtain ⟨members, rfl⟩ := eq_object_of_canonical heq
  obtain ⟨start, ts, bracket, rfl, hts⟩ := Tree.holds_object ht
  obtain ⟨inner, henter, hroom⟩ := Origin.enter_of_hasRoom ho start
  replace hroom : ∀ m ∈ members, inner.HasRoom m.2.depth := fun m hm =>
    hroom.mono (depthMembers_le_iff.mp (Nat.le_refl _) m hm)
  rw [plain_object] at hv
  have hperm := perm_of_canonical_eq hv.1 (nodup_keys_object htag h) heq
  rw [List.map_cons] at hperm
  obtain ⟨m, hm, hmeq⟩ := List.mem_map.mp (hperm.symm.subset List.mem_cons_self)
  obtain ⟨ms, ns, rfl⟩ := List.append_of_mem hm
  obtain ⟨before, t, after, rfl, hbefore, ht, hafter⟩ := exists_split_of_holdsMember hts
  obtain ⟨key, w⟩ := m
  rw [canonicalMember, canonicalMember, Prod.mk.injEq] at hmeq
  obtain ⟨rfl, hw⟩ := hmeq
  obtain rfl := eq_string_of_canonical hw
  have hbeside : ((ms ++ ns).map canonicalMember).Perm
      ((fields.encode parts).map canonicalMember) := by
    have hmiddle : (ms ++ (u.tag, Json.string name) :: ns).Perm
        ((u.tag, Json.string name) :: (ms ++ ns)) := List.perm_middle
    exact ((hmiddle.map canonicalMember).symm.trans hperm).cons_inv
  have hsub : ∀ n ∈ ms ++ ns, n ∈ ms ++ (u.tag, Json.string name) :: ns := fun n hn =>
    List.perm_middle.symm.subset (List.mem_cons_of_mem _ hn)
  have hothers : ∀ n ∈ ms ++ ns, n.1 ≠ u.tag := by
    intro n hn hkey
    obtain ⟨e, he, hne⟩ := List.mem_map.mp (hbeside.subset (List.mem_map_of_mem hn))
    have hname : e.1 = u.tag := (Prod.mk.inj hne).1.trans hkey
    exact htag (hname ▸ fields.key_mem_names parts e he)
  have hmembers := eachMember_of_tag hbefore hafter ht.1 (case_of_holds ht.2 hcase) hothers
    (fun n hn => hv.2 n (hsub n hn)) (fun n hn => hroom n (hsub n hn))
  have hdecode := decode_ofFields name label make h
    (fun n hn => hv.2 n (hsub n hn)) hbeside
  simp only [decode, split, henter, bind, Except.bind, hmembers]
  show ((Case.ofFields name label fields make).decode _).mapError _ = _
  rw [hdecode]
  rfl

theorem ofText_of_textOf {v : Json} {text : String} (htext : TextOf text v) (hv : v.Plain)
    (hdepth : v.depth ≤ depthLimit)
    (heq : v.canonical = (object u.tag name fields parts).canonical) :
    u.ofText text = .ok (make parts) := by
  obtain ⟨t, behind, htree, ht, hbehind⟩ := htext
  have hdecode : u.decode (.text depthLimit) t = .ok (make parts) :=
    decode_of_holds hcase htag h hv hdepth ht heq
  simp only [ofText, htree, bind, Except.bind, hdecode, hbehind]

theorem ofJson_canonical :
    u.ofJson (object u.tag name fields parts).canonical = .ok (make parts) := by
  have hplain := plain_canonical (plain_canonical (plain_tagged name htag h))
  have hdecode := decode_of_holds (o := .value) hcase htag h hplain trivial (Tree.holds_ofJson _)
    (by rw [canonical_canonical, canonical_canonical])
  rw [ofJson, hdecode]
  rfl

end

end Tagged
end Json
end SdkShelf
