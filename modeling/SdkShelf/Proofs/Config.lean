import SdkShelf.Proofs.Program.Frame
import SdkShelf.Proofs.Results
import SdkShelf.Proofs.Text.Word

/-!
# Settings in layers

Each setting is that of its flag, else what its own variable says, else the standing one.  The other
settings have no part in it; together they only decide whether they are accepted.
-/

namespace SdkShelf
namespace Config

/-- Where a setting comes from: the flag wins, then the variable without blanks around it, if it can
be read, and the standing value is left. -/
inductive Chosen {α : Type} (given : Option α) (spelled? : Option String)
    (reads : String → α → Prop) (standing : α) : α → Prop where
  | given {a : α} (h : given = some a) : Chosen given spelled? reads standing a
  | read {text : String} {a : α} (hgiven : given = none) (htext : spelled? = some text)
      (hread : reads (Text.trim text) a) : Chosen given spelled? reads standing a
  | standing (hgiven : given = none)
      (hnone : ∀ text a, spelled? = some text → ¬ reads (Text.trim text) a) :
      Chosen given spelled? reads standing standing

/-- A text is read as it is, unless it is empty. -/
def IsGivenText (text value : String) : Prop := text ≠ "" ∧ value = text

/-- The settings that flags and variables choose, each of them by itself. -/
structure Layered (flags : Flags) (env : String → Option String) (c : Config) : Prop where
  dataDir : Chosen flags.dataDir (env dataDirVariable) IsGivenText defaultDataDir c.dataDir
  quotaBytes : Chosen flags.quotaBytes (env quotaVariable) Text.IsWord defaultQuota c.quotaBytes
  apiUrl : Chosen flags.apiUrl (env apiUrlVariable) IsGivenText Backend.Client.defaultUrl c.apiUrl

section

variable {α : Type} {given : Option α} {spelled? : Option String} {reads : String → α → Prop}
  {standing : α}

/-- A variable that is read by a function chooses one value. -/
theorem chosen_iff {read? : String → Option α} (h : ∀ text a, reads text a ↔ read? text = some a)
    {a : α} : Chosen given spelled? reads standing a ↔
      a = (given.or (spelled?.bind fun text => read? (Text.trim text))).getD standing := by
  constructor
  · rintro (hgiven | ⟨hgiven, htext, hread⟩ | ⟨hgiven, hnone⟩)
    · rw [hgiven]
      rfl
    · rw [hgiven, htext, Option.none_or, Option.bind_some, (h _ _).mp hread]
      rfl
    · have hread : (spelled?.bind fun text => read? (Text.trim text)) = none := by
        rw [Option.bind_eq_none_iff]
        intro text htext
        exact Option.eq_none_iff_forall_ne_some.mpr fun a ha => hnone text a htext ((h _ _).mpr ha)
      rw [hgiven, hread]
      rfl
  · rintro rfl
    cases given with
    | some a => exact .given rfl
    | none =>
      cases hread : spelled?.bind fun text => read? (Text.trim text) with
      | some a =>
        obtain ⟨text, htext, ha⟩ := Option.bind_eq_some_iff.mp hread
        exact .read rfl htext ((h _ _).mpr ha)
      | none =>
        refine .standing rfl fun text a htext ha => ?_
        have hnone := Option.bind_eq_none_iff.mp hread text htext
        rw [(h _ _).mp ha] at hnone
        exact absurd hnone (Option.some_ne_none a)

end

/-! ## The three settings -/

theorem lookup_eq (env : String → Option String) (name : String) :
    lookup env name =
      (env name).bind fun text => (some (Text.trim text)).filter fun v => !v.isEmpty := by
  rw [lookup]
  cases env name <;> rfl

theorem isGivenText_iff (text value : String) :
    IsGivenText text value ↔ (some text).filter (fun v => !v.isEmpty) = some value := by
  rw [IsGivenText, Option.filter_some]
  by_cases h : text = ""
  · have hempty : (!text.isEmpty) = false := by rw [h]; rfl
    rw [hempty, if_neg Bool.false_ne_true]
    exact ⟨fun hvalue => absurd h hvalue.1, nofun⟩
  · have hfull : (!text.isEmpty) = true := by simpa using h
    rw [hfull, if_pos rfl, Option.some.injEq]
    exact ⟨fun hvalue => hvalue.2.symm, fun hvalue => ⟨h, hvalue.symm⟩⟩

theorem chosen_text_iff {given : Option String} {env : String → Option String}
    {name standing value : String} :
    Chosen given (env name) IsGivenText standing value ↔
      value = (given.or (lookup env name)).getD standing := by
  rw [chosen_iff isGivenText_iff, lookup_eq]

theorem isWord_iff (text : String) (n : Nat) :
    Text.IsWord text n ↔ (Text.readWord text).toOption = some n := by
  rw [toOption_eq_some_iff, Text.readWord_eq_ok_iff]

theorem chosen_quota_iff {flags : Flags} {env : String → Option String} {n : Nat} :
    Chosen flags.quotaBytes (env quotaVariable) Text.IsWord defaultQuota n ↔
      n = selectQuota flags env := by
  have hread : ((lookup env quotaVariable).bind fun v => (Text.readWord v).toOption) =
      (env quotaVariable).bind fun text => (Text.readWord (Text.trim text)).toOption := by
    rw [lookup_eq, Option.bind_assoc]
    congr 1
    funext text
    rw [Option.filter_some]
    by_cases h : Text.trim text = ""
    · rw [h]
      rfl
    · have hfull : (!(Text.trim text).isEmpty) = true := by simpa using h
      rw [hfull]
      rfl
  rw [chosen_iff isWord_iff, selectQuota, hread]

/-- The settings that are chosen. -/
def chosen (flags : Flags) (env : String → Option String) : Config :=
  ⟨selectDataDir flags env, selectQuota flags env, selectApiUrl flags env⟩

theorem layered_iff {flags : Flags} {env : String → Option String} {c : Config} :
    Layered flags env c ↔ c = chosen flags env := by
  constructor
  · intro h
    obtain ⟨dataDir, quotaBytes, apiUrl⟩ := c
    obtain rfl : dataDir = selectDataDir flags env := chosen_text_iff.mp h.dataDir
    obtain rfl : quotaBytes = selectQuota flags env := chosen_quota_iff.mp h.quotaBytes
    obtain rfl : apiUrl = selectApiUrl flags env := chosen_text_iff.mp h.apiUrl
    rfl
  · rintro rfl
    exact ⟨chosen_text_iff.mpr rfl, chosen_quota_iff.mpr rfl, chosen_text_iff.mpr rfl⟩

/-! ## Accepted settings -/

theorem isWeb_iff {url : Url} : url.isWeb = true ↔ url.scheme = "http" ∨ url.scheme = "https" := by
  rw [Url.isWeb, Bool.or_eq_true, decide_eq_true_iff, decide_eq_true_iff]

theorem resolve_of_accepted {flags : Flags} {env : String → Option String}
    (hquota : 1024 ≤ (chosen flags env).quotaBytes) (hweb : IsWebAddress (chosen flags env).apiUrl) :
    resolve flags env = .ok (chosen flags env) := by
  have hroom : ¬ selectQuota flags env < minQuota := Nat.not_lt.mpr hquota
  obtain ⟨url, hparse, hscheme⟩ := hweb
  replace hparse : Url.parse (selectApiUrl flags env) = .ok url := hparse
  simp only [resolve, if_neg hroom, hparse, if_pos (isWeb_iff.mpr hscheme)]
  rfl

theorem accepted_of_resolve {flags : Flags} {env : String → Option String} {c : Config}
    (h : resolve flags env = .ok c) :
    1024 ≤ (chosen flags env).quotaBytes ∧ IsWebAddress (chosen flags env).apiUrl := by
  rw [resolve] at h
  split at h
  · exact absurd h nofun
  · rename_i hroom
    split at h
    · exact absurd h nofun
    · rename_i url hparse
      split at h
      · rename_i hweb
        exact ⟨Nat.not_lt.mp hroom, url, hparse, isWeb_iff.mp hweb⟩
      · exact absurd h nofun

/-- Only the variables of settings without a flag matter. -/
theorem chosen_congr {flags : Flags} {env env' : String → Option String}
    (hdir : flags.dataDir = none → env dataDirVariable = env' dataDirVariable)
    (hquota : flags.quotaBytes = none → env quotaVariable = env' quotaVariable)
    (hurl : flags.apiUrl = none → env apiUrlVariable = env' apiUrlVariable) :
    chosen flags env = chosen flags env' := by
  obtain ⟨dataDir?, quota?, apiUrl?⟩ := flags
  have hlookup : ∀ {name}, env name = env' name → lookup env name = lookup env' name := by
    intro name h
    rw [lookup, lookup, h]
  have hdirs : selectDataDir ⟨dataDir?, quota?, apiUrl?⟩ env =
      selectDataDir ⟨dataDir?, quota?, apiUrl?⟩ env' := by
    cases dataDir? with
    | some d => rfl
    | none => rw [selectDataDir, selectDataDir, hlookup (hdir rfl)]
  have hquotas : selectQuota ⟨dataDir?, quota?, apiUrl?⟩ env =
      selectQuota ⟨dataDir?, quota?, apiUrl?⟩ env' := by
    cases quota? with
    | some n => rfl
    | none => rw [selectQuota, selectQuota, hlookup (hquota rfl)]
  have hurls : selectApiUrl ⟨dataDir?, quota?, apiUrl?⟩ env =
      selectApiUrl ⟨dataDir?, quota?, apiUrl?⟩ env' := by
    cases apiUrl? with
    | some u => rfl
    | none => rw [selectApiUrl, selectApiUrl, hlookup (hurl rfl)]
  rw [chosen, chosen, hdirs, hquotas, hurls]

theorem resolve_eq_chosen (flags : Flags) (env : String → Option String) :
    resolve flags env =
      let c := chosen flags env
      if c.quotaBytes < minQuota then .error (.quota c.quotaBytes)
      else
        match Url.parse c.apiUrl with
        | .error cause => .error (.address c.apiUrl cause)
        | .ok url => if url.isWeb then .ok c else .error (.scheme c.apiUrl) := rfl

/-- Flags and variables choose one value for each setting.  The settings are accepted exactly if
the chosen quota is not too small and the chosen address is one on the web, wherever they come from,
and then they are those that were chosen.  What the variable of a setting says makes no difference
where there is a flag for it. -/
theorem resolve_layered (flags : Flags) (env : String → Option String) :
    ∃ c, (∀ c', Layered flags env c' ↔ c' = c) ∧
      ((∃ c', resolve flags env = .ok c') ↔ 1024 ≤ c.quotaBytes ∧ IsWebAddress c.apiUrl) ∧
      (∀ c', resolve flags env = .ok c' → c' = c) ∧
      ∀ env' : String → Option String,
        (flags.dataDir = none → env dataDirVariable = env' dataDirVariable) →
        (flags.quotaBytes = none → env quotaVariable = env' quotaVariable) →
        (flags.apiUrl = none → env apiUrlVariable = env' apiUrlVariable) →
        resolve flags env' = resolve flags env := by
  refine ⟨chosen flags env, fun c' => layered_iff, ⟨?_, ?_⟩, fun c' h => ?_, ?_⟩
  · rintro ⟨c', h⟩
    exact accepted_of_resolve h
  · rintro ⟨hquota, hweb⟩
    exact ⟨_, resolve_of_accepted hquota hweb⟩
  · obtain ⟨hquota, hweb⟩ := accepted_of_resolve h
    exact Except.ok.inj (h.symm.trans (resolve_of_accepted hquota hweb))
  · intro env' hdir hquota hurl
    rw [resolve_eq_chosen, resolve_eq_chosen, chosen_congr hdir hquota hurl]

end Config
end SdkShelf
