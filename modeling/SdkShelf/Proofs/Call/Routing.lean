import SdkShelf.Call.Request
import SdkShelf.Proofs.Call.Scan
import SdkShelf.Proofs.Dictionary
import SdkShelf.Proofs.Results

/-!
# Where values go

A request carries the value of a parameter where some group declares it.  The groups may be many,
in any order, and name a parameter twice: what is carried in a place is decided by the names that
are declared there, and a value under any other name makes no difference at all.
-/

namespace SdkShelf

namespace Api.Endpoint

/-- The parameters of all groups whose location satisfies `here`. -/
def parametersAt (e : Endpoint) (here : String → Bool) : List Parameter :=
  (e.parameters.entries.filter fun group => here group.1).flatMap (·.2)

/-- Some group whose location satisfies `here` has a parameter of the name. -/
def Declares (e : Endpoint) (here : String → Prop) (name : String) : Prop :=
  ∃ location parameters, (location, parameters) ∈ e.parameters.entries ∧ here location ∧
    ∃ p ∈ parameters, p.name = name

section

variable {e : Endpoint} {here there : String → Prop} {name : String}

theorem Declares.mono (h : e.Declares here name) (hthere : ∀ l, here l → there l) :
    e.Declares there name := by
  obtain ⟨location, parameters, hgroup, hlocation, hname⟩ := h
  exact ⟨location, parameters, hgroup, hthere location hlocation, hname⟩

theorem mem_names_parametersAt [DecidablePred here] :
    name ∈ (e.parametersAt fun l => here l).map (·.name) ↔ e.Declares here name := by
  rw [List.mem_map]
  constructor
  · rintro ⟨p, hp, hname⟩
    obtain ⟨⟨location, parameters⟩, hgroup, hmem⟩ := List.mem_flatMap.mp hp
    obtain ⟨hgroup, hlocation⟩ := List.mem_filter.mp hgroup
    exact ⟨location, parameters, hgroup, of_decide_eq_true hlocation, p, hmem, hname⟩
  · rintro ⟨location, parameters, hgroup, hlocation, p, hmem, hname⟩
    refine ⟨p, List.mem_flatMap.mpr ⟨(location, parameters), ?_, hmem⟩, hname⟩
    exact List.mem_filter.mpr ⟨hgroup, decide_eq_true hlocation⟩

theorem declares_of_mem_parametersIn {location : String}
    (h : name ∈ (e.parametersIn location).map (·.name)) :
    e.Declares (· = location) name := by
  obtain ⟨p, hp, hname⟩ := List.mem_map.mp h
  rw [parametersIn] at hp
  cases hget : e.parameters.get? location with
  | none =>
    rw [hget] at hp
    exact absurd hp List.not_mem_nil
  | some parameters =>
    rw [hget] at hp
    exact ⟨location, parameters, Dictionary.get?_eq_some_iff.mp hget, rfl, p, hp, hname⟩

end

end Api.Endpoint

namespace Call

open Api (Endpoint)

section

variable {value? other? : String → Option String} {names : List String} {name value : String}

theorem supplied?_eq_some_iff :
    supplied? value? name = some value ↔ value? name = some value ∧ value ≠ "" := by
  rw [supplied?, Option.filter_eq_some_iff, Bool.not_eq_true', ← Bool.not_eq_true,
    String.isEmpty_iff]

theorem among_eq_some_iff : among value? names name = some value ↔
    name ∈ names ∧ value? name = some value := by
  by_cases hname : name ∈ names
  · rw [among_of_mem hname]
    exact ⟨fun h => ⟨hname, h⟩, fun h => h.2⟩
  · rw [among_of_not_mem hname]
    exact ⟨nofun, fun h => absurd h.1 hname⟩

theorem among_congr (h : ∀ name ∈ names, value? name = other? name) :
    among value? names = among other? names := by
  funext name
  by_cases hname : name ∈ names
  · rw [among_of_mem hname, among_of_mem hname, h name hname]
  · rw [among_of_not_mem hname, among_of_not_mem hname]

end

namespace Request

section

variable {values other : Dictionary String} {parameters : List Api.Parameter} {name : String}
  {e : Endpoint}

theorem get?_supplied_one (p : Api.Parameter) (into : Dictionary String) :
    (supplied values [p] into).get? name =
      (only (supplied? values.get?) p.name name).or (into.get? name) := by
  rw [supplied, List.foldl_cons, List.foldl_nil, only]
  by_cases hname : name = p.name
  · rw [if_pos hname, hname, supplied?]
    cases values.get? p.name with
    | none => rfl
    | some value =>
      rw [Option.filter_some]
      by_cases hvalue : value.isEmpty = true
      · simp [hvalue]
      · simp [hvalue, Dictionary.get?_insert]
  · rw [if_neg hname, Option.none_or]
    cases values.get? p.name with
    | none => rfl
    | some value =>
      by_cases hvalue : value.isEmpty = true
      · simp [hvalue]
      · simp [hvalue, Dictionary.get?_insert, Ne.symm hname]

/-- Each name that is listed has its value, however often it is listed. -/
theorem get?_supplied (into : Dictionary String) :
    (supplied values parameters into).get? name =
      (among (supplied? values.get?) (parameters.map (·.name)) name).or (into.get? name) := by
  induction parameters generalizing into with
  | nil => rfl
  | cons p rest ih =>
    -- A later parameter of the name writes over an earlier one, but it writes the same value.
    have hcomm : (among (supplied? values.get?) (rest.map (·.name)) name).or
          (only (supplied? values.get?) p.name name) =
        (only (supplied? values.get?) p.name name).or
          (among (supplied? values.get?) (rest.map (·.name)) name) := by
      rw [among, only]
      split <;> split <;> simp
    show (supplied values rest (supplied values [p] into)).get? name = _
    rw [ih, get?_supplied_one, ← Option.or_assoc, hcomm, List.map_cons, ← only_or_among]

theorem suppliedIn_eq (here : String → Bool) :
    suppliedIn values here e = supplied values (e.parametersAt here) Dictionary.empty := by
  rw [suppliedIn, supplied, Endpoint.parametersAt, List.foldl_flatMap]
  rfl

theorem get?_suppliedIn (here : String → Bool) :
    (suppliedIn values here e).get? name =
      among (supplied? values.get?) ((e.parametersAt here).map (·.name)) name := by
  rw [suppliedIn_eq, get?_supplied, Dictionary.get?_empty, Option.or_none]

theorem suppliedIn_congr {here : String → Bool}
    (h : ∀ name ∈ (e.parametersAt here).map (·.name),
      supplied? values.get? name = supplied? other.get? name) :
    suppliedIn values here e = suppliedIn other here e := by
  apply Dictionary.ext_get?
  intro name
  rw [get?_suppliedIn, get?_suppliedIn, among_congr h]

end

open Api.Endpoint (pathLocation headerLocation)

/-- The request with a body that is settled already. -/
def filled (baseUrl : String) (e : Endpoint) (values : Dictionary String)
    (jsonBody : Option Json) : Request where
  baseUrl := baseUrl
  path := resolvePath e.path ((e.parametersIn pathLocation).map (·.name)) values.get?
  method := e.method
  query := suppliedIn values (fun l => l ≠ pathLocation ∧ l ≠ headerLocation) e
  headers := suppliedIn values (· = headerLocation) e
  jsonBody := jsonBody

section

variable {values other : Dictionary String} {e : Endpoint} {name value : String}

/-- Only the body can be in the way of a request, and it depends on no value. -/
theorem prepare_eq (baseUrl : String) (e : Endpoint) (values : Dictionary String)
    (body : Option String) :
    prepare baseUrl e values body = (bodyOf e body).map (filled baseUrl e values) := by
  rw [prepare]
  cases bodyOf e body <;> rfl

theorem prepare_eq_ok_iff {baseUrl : String} {body : Option String} {r : Request} :
    prepare baseUrl e values body = .ok r ↔
      bodyOf e body = .ok r.jsonBody ∧ filled baseUrl e values r.jsonBody = r := by
  rw [prepare_eq]
  constructor
  · intro h
    obtain ⟨jsonBody, hbody, rfl⟩ := exists_of_map_eq_ok h
    exact ⟨hbody, rfl⟩
  · rintro ⟨hbody, hr⟩
    rw [hbody]
    exact congrArg Except.ok hr

theorem mem_suppliedIn {here : String → Prop} [DecidablePred here] :
    (name, value) ∈ (suppliedIn values (fun l => here l) e).entries ↔
      e.Declares here name ∧ values.get? name = some value ∧ value ≠ "" := by
  rw [← Dictionary.get?_eq_some_iff, get?_suppliedIn, among_eq_some_iff, supplied?_eq_some_iff,
    Endpoint.mem_names_parametersAt]

theorem filled_congr
    (h : ∀ name, e.Declares (fun _ => True) name →
      supplied? values.get? name = supplied? other.get? name) (baseUrl : String) :
    filled baseUrl e values = filled baseUrl e other := by
  have hpath : resolvePath e.path ((e.parametersIn pathLocation).map (·.name)) values.get? =
      resolvePath e.path ((e.parametersIn pathLocation).map (·.name)) other.get? := by
    rw [resolvePath_eq, resolvePath_eq, among_congr]
    intro name hname
    exact h name ((Endpoint.declares_of_mem_parametersIn hname).mono fun _ _ => trivial)
  have hplace : ∀ here : String → Prop, [DecidablePred here] →
      suppliedIn values (fun l => here l) e = suppliedIn other (fun l => here l) e := by
    intro here _
    apply suppliedIn_congr
    intro name hname
    exact h name ((Endpoint.mem_names_parametersAt.mp hname).mono fun _ _ => trivial)
  funext jsonBody
  rw [filled, filled, hpath, hplace, hplace]

end

/-- What a request carries in its query and its headers are the values, other than empty ones, of
the names that are declared there.  Values that differ only where nothing is declared make the same
request, or fail alike. -/
theorem prepare_routes (baseUrl : String) (e : Endpoint) (values : Dictionary String)
    (body : Option String) :
    (∀ r, prepare baseUrl e values body = .ok r →
      (∀ name value, (name, value) ∈ r.query.entries ↔
        e.Declares (fun l => l ≠ pathLocation ∧ l ≠ headerLocation) name ∧
          values.get? name = some value ∧ value ≠ "") ∧
      (∀ name value, (name, value) ∈ r.headers.entries ↔
        e.Declares (· = headerLocation) name ∧ values.get? name = some value ∧ value ≠ "")) ∧
    (∀ other : Dictionary String,
      (∀ name, e.Declares (fun _ => True) name →
        supplied? values.get? name = supplied? other.get? name) →
      prepare baseUrl e values body = prepare baseUrl e other body) := by
  constructor
  · intro r h
    rw [← (prepare_eq_ok_iff.mp h).2]
    exact ⟨fun _ _ => mem_suppliedIn, fun _ _ => mem_suppliedIn⟩
  · intro other hagree
    rw [prepare_eq, prepare_eq, filled_congr hagree]

end Request

end Call
end SdkShelf
