import SdkShelf.Proofs.Call.Routing
import SdkShelf.Proofs.Json.Room

/-!
# When a body is sent

An endpoint takes a body only where no group declares a parameter.  Then a text that is not blank
must be JSON, and the request carries its value and nothing else; a blank text is no body at all.
An endpoint that declares a parameter does not look at the text.

How deep a body may nest is bounded, so the text of a value that nests deeper is refused as well.
-/

namespace SdkShelf

theorem Api.Endpoint.hasParameters_eq_false_iff {e : Endpoint} :
    e.hasParameters = false ↔ ∀ group ∈ e.parameters.entries, group.2 = [] := by
  simp only [hasParameters, List.any_eq_false, Bool.not_eq_true', Bool.not_eq_false,
    List.isEmpty_iff]

namespace Call

open Api (Endpoint)
open Json (IsText)

namespace Request

section

variable {e : Endpoint} {body : Option String} {text : String}

/-- The text of a body that is given and not blank. -/
def GivesText (body : Option String) (text : String) : Prop :=
  ∃ given, body = some given ∧ Text.trim given = text ∧ text ≠ ""

theorem bodyOf_of_hasParameters (h : e.hasParameters = true) : bodyOf e body = .ok none := by
  rw [bodyOf]
  cases body with
  | none => rfl
  | some given =>
    show (if _ then _ else _) = _
    rw [if_pos (.inr h)]

theorem bodyOf_of_not_givesText (h : ∀ text, ¬ GivesText body text) : bodyOf e body = .ok none := by
  rw [bodyOf]
  cases body with
  | none => rfl
  | some given =>
    have hempty : Text.trim given = "" := by
      by_contra hne
      exact h (Text.trim given) ⟨given, rfl, rfl, hne⟩
    show (if _ then _ else _) = _
    rw [if_pos (.inl (String.isEmpty_iff.mpr hempty))]

theorem bodyOf_of_givesText (h : e.hasParameters = false) (htext : GivesText body text) :
    bodyOf e body = ((Json.Schema.json.ofText text).map some).mapError .body := by
  obtain ⟨given, rfl, rfl, hne⟩ := htext
  have hread : ¬((Text.trim given).isEmpty = true ∨ e.hasParameters = true) := by
    rw [String.isEmpty_iff, h]
    exact fun hor => hor.elim hne Bool.false_ne_true
  show (if _ then _ else _) = _
  rw [if_neg hread]

/-- A body is read only for an endpoint without parameters, from a text that is not blank. -/
theorem bodyOf_cases (e : Endpoint) (body : Option String) :
    (bodyOf e body = .ok none ∧ ¬(e.hasParameters = false ∧ ∃ text, GivesText body text)) ∨
      e.hasParameters = false ∧ ∃ text, GivesText body text ∧
        bodyOf e body = ((Json.Schema.json.ofText text).map some).mapError .body := by
  by_cases he : e.hasParameters = true
  · left
    exact ⟨bodyOf_of_hasParameters he, fun h => absurd (he.symm.trans h.1) nofun⟩
  · rw [Bool.not_eq_true] at he
    by_cases htext : ∃ text, GivesText body text
    · right
      obtain ⟨text, htext⟩ := htext
      exact ⟨he, text, htext, bodyOf_of_givesText he htext⟩
    · left
      exact ⟨bodyOf_of_not_givesText (not_exists.mp htext), fun h => htext h.2⟩

theorem GivesText.unique {other : String} (h : GivesText body text)
    (hother : GivesText body other) : text = other := by
  obtain ⟨given, rfl, rfl, -⟩ := h
  obtain ⟨given', hgiven, rfl, -⟩ := hother
  rw [Option.some.inj hgiven]

/-- What is sent as a body is the value of the text that was given. -/
theorem bodyOf_eq_some_iff {v : Json} : bodyOf e body = .ok (some v) ↔
    e.hasParameters = false ∧ ∃ text, GivesText body text ∧
      ∃ w, IsText text w ∧ w.depth ≤ Json.depthLimit ∧ w.canonical = v := by
  rcases bodyOf_cases e body with ⟨hbody, hnone⟩ | ⟨he, text, htext, hbody⟩
  · rw [hbody]
    exact ⟨nofun, fun ⟨he, text, htext, _⟩ => absurd ⟨he, text, htext⟩ hnone⟩
  · rw [hbody, mapError_eq_ok_iff]
    constructor
    · intro h
      obtain ⟨v', hread, hv⟩ := exists_of_map_eq_ok h
      obtain rfl := Option.some.inj hv
      exact ⟨he, text, htext, Json.Schema.ofText_json_iff.mp hread⟩
    · rintro ⟨-, other, hother, hvalue⟩
      obtain rfl := htext.unique hother
      rw [Json.Schema.ofText_json_iff.mpr hvalue]
      rfl

/-- The only texts that are refused are those of no value, and of values that nest too deep. -/
theorem bodyOf_eq_error_iff : (∃ cause, bodyOf e body = .error cause) ↔
    e.hasParameters = false ∧ ∃ text, GivesText body text ∧
      ¬ ∃ w, IsText text w ∧ w.depth ≤ Json.depthLimit := by
  rcases bodyOf_cases e body with ⟨hbody, hnone⟩ | ⟨he, text, htext, hbody⟩
  · rw [hbody]
    refine ⟨fun ⟨_, h⟩ => absurd h nofun, ?_⟩
    exact fun ⟨he, text, htext, _⟩ => absurd ⟨he, text, htext⟩ hnone
  · rw [hbody]
    constructor
    · rintro ⟨cause, h⟩
      refine ⟨he, text, htext, Json.Schema.ofText_json_eq_error_iff.mp ?_⟩
      cases hread : Json.Schema.json.ofText text with
      | error cause => exact ⟨cause, rfl⟩
      | ok v =>
        rw [hread] at h
        exact nomatch h
    · rintro ⟨-, other, hother, hnone⟩
      obtain rfl := htext.unique hother
      obtain ⟨cause, hread⟩ := Json.Schema.ofText_json_eq_error_iff.mpr hnone
      rw [hread]
      exact ⟨.body cause, rfl⟩

end

section

variable {e : Endpoint} {values : Dictionary String}

open Api.Endpoint (pathLocation)

theorem parametersIn_of_not_hasParameters (h : e.hasParameters = false) (location : String) :
    e.parametersIn location = [] := by
  rw [Endpoint.parametersIn]
  cases hget : e.parameters.get? location with
  | none => rfl
  | some parameters =>
    exact Endpoint.hasParameters_eq_false_iff.mp h _ (Dictionary.get?_eq_some_iff.mp hget)

theorem suppliedIn_of_not_hasParameters (h : e.hasParameters = false) (here : String → Bool) :
    suppliedIn values here e = Dictionary.empty := by
  have hnone : e.parametersAt here = [] := by
    refine List.flatMap_eq_nil_iff.mpr fun group hgroup => ?_
    exact Endpoint.hasParameters_eq_false_iff.mp h group (List.mem_of_mem_filter hgroup)
  rw [suppliedIn_eq, hnone]
  rfl

/-- Where nothing is declared, the values do not matter and the path stays as it is. -/
theorem filled_of_not_hasParameters (h : e.hasParameters = false) (baseUrl : String)
    (jsonBody : Option Json) :
    filled baseUrl e values jsonBody =
      ⟨baseUrl, e.path, e.method, Dictionary.empty, Dictionary.empty, jsonBody⟩ := by
  have hpath : resolvePath e.path [] values.get? = e.path := by
    have hnone : ∀ name, among (supplied? values.get?) [] name = none :=
      fun _ => among_of_not_mem List.not_mem_nil
    rw [resolvePath_eq, fill_of_none hnone]
    exact String.ofList_toList
  rw [filled, parametersIn_of_not_hasParameters h, suppliedIn_of_not_hasParameters h,
    suppliedIn_of_not_hasParameters h, List.map_nil, hpath]

theorem prepare_eq_error_iff (baseUrl : String) {body : Option String} :
    (∃ cause, prepare baseUrl e values body = .error cause) ↔
      ∃ cause, bodyOf e body = .error cause := by
  rw [prepare_eq]
  cases bodyOf e body with
  | error cause => exact ⟨fun _ => ⟨cause, rfl⟩, fun _ => ⟨cause, rfl⟩⟩
  | ok jsonBody => exact ⟨fun ⟨_, h⟩ => absurd h nofun, fun ⟨_, h⟩ => absurd h nofun⟩

end

/-- A request fails exactly if no group declares a parameter and a text was given that is not the
text of a JSON value, or of one that nests too deep.  The body that it carries is the value of the
text, and then it carries nothing else.  Where a parameter is declared, the text makes no
difference. -/
theorem prepare_decides_body (baseUrl : String) (e : Endpoint) (values : Dictionary String)
    (body : Option String) :
    ((∃ cause, prepare baseUrl e values body = .error cause) ↔
      (∀ group ∈ e.parameters.entries, group.2 = []) ∧ ∃ text, GivesText body text ∧
        ¬ ∃ v, IsText text v ∧ v.depth ≤ Json.depthLimit) ∧
    (∀ r v, prepare baseUrl e values body = .ok r → r.jsonBody = some v →
      (∃ text w, GivesText body text ∧ IsText text w ∧ w.canonical = v) ∧
        r.query = Dictionary.empty ∧ r.headers = Dictionary.empty ∧ r.path = e.path) ∧
    ((∃ group ∈ e.parameters.entries, group.2 ≠ []) → ∀ other,
      prepare baseUrl e values other = prepare baseUrl e values body) := by
  refine ⟨?_, ?_, ?_⟩
  · rw [prepare_eq_error_iff, bodyOf_eq_error_iff, Endpoint.hasParameters_eq_false_iff]
  · intro r v h hv
    obtain ⟨hbody, hr⟩ := prepare_eq_ok_iff.mp h
    rw [hv] at hbody
    obtain ⟨he, text, htext, w, hw, -, hvalue⟩ := bodyOf_eq_some_iff.mp hbody
    rw [← hr, filled_of_not_hasParameters he]
    exact ⟨⟨text, w, htext, hw, hvalue⟩, rfl, rfl, rfl⟩
  · rintro ⟨group, hgroup, hne⟩ other
    have he : e.hasParameters = true := by
      by_contra hfalse
      rw [Bool.not_eq_true] at hfalse
      exact hne (Endpoint.hasParameters_eq_false_iff.mp hfalse group hgroup)
    rw [prepare_eq, prepare_eq, bodyOf_of_hasParameters he, bodyOf_of_hasParameters he]

/-! ## Bodies that nest deep -/

/-- An empty list inside so many others. -/
def nested : Nat → Json
  | 0 => .array []
  | n + 1 => .array [nested n]

def nestedText (n : Nat) : String :=
  String.ofList (List.replicate (n + 1) '[' ++ List.replicate (n + 1) ']')

theorem depth_nested (n : Nat) : (nested n).depth = n + 1 := by
  induction n with
  | zero => rfl
  | succ n ih =>
    show max (nested n).depth 0 + 1 = _
    rw [ih, Nat.max_zero]

theorem isText_nested (n : Nat) : IsText (nestedText n) (nested n) := by
  have hblank : Json.Reader.Blank [] := Json.Reader.blank_nil
  have hwrites : Json.Writes (List.replicate (n + 1) '[' ++ List.replicate (n + 1) ']')
      (nested n) := by
    induction n with
    | zero => exact .noItems hblank
    | succ n ih =>
      have hlist := Json.Writes.array hblank (.last ih hblank)
      rw [List.replicate_succ, List.replicate_succ' (n := n + 1)]
      simp only [List.nil_append, List.append_nil, List.append_assoc, List.cons_append] at hlist ⊢
      exact hlist
  refine ⟨[], _, [], hblank, hwrites, hblank, ?_⟩
  rw [nestedText, String.toList_ofList, List.append_nil, List.nil_append]

theorem trim_nestedText (n : Nat) : Text.trim (nestedText n) = nestedText n := by
  have hopen : Text.isBlank '[' = false := by decide
  have hclose : Text.isBlank ']' = false := by decide
  have hends : nestedText n = String.ofList ('[' :: (List.replicate n '[' ++
      List.replicate n ']' ++ [']'])) := by
    rw [nestedText, List.replicate_succ, List.replicate_succ' (a := ']'), List.cons_append,
      List.append_assoc]
  rw [hends, Text.trim, String.toList_ofList, List.dropWhile_cons_of_neg (by simp [hopen]),
    Text.dropEndWhile, List.reverse_cons, List.reverse_append, List.reverse_singleton]
  simp [hclose]

/-- A body that nests too deep is refused, though it is the text of a JSON value. -/
theorem prepare_refuses_nested_body :
    let e : Endpoint := ⟨.post, "/pets", none, none, Dictionary.empty⟩
    let body := some (nestedText 127)
    ¬((∃ cause, prepare "https://api.example.com" e Dictionary.empty body = .error cause) ↔
      (∀ group ∈ e.parameters.entries, group.2 = []) ∧ ∃ text, GivesText body text ∧
        ¬ ∃ v, IsText text v) := by
  intro e body h
  have hgives : GivesText body (nestedText 127) := by
    refine ⟨nestedText 127, rfl, trim_nestedText 127, fun hempty => ?_⟩
    have hchars := congrArg String.toList hempty
    rw [nestedText, String.toList_ofList] at hchars
    exact absurd hchars (List.cons_ne_nil _ _)
  have hfails : ∃ cause, prepare "https://api.example.com" e Dictionary.empty body =
      .error cause := by
    rw [prepare_eq_error_iff, bodyOf_eq_error_iff]
    refine ⟨rfl, nestedText 127, hgives, fun ⟨v, htext, hdepth⟩ => ?_⟩
    -- The text has no other value, and that one nests one container too deep.
    rw [htext.unique (isText_nested 127), depth_nested] at hdepth
    exact absurd hdepth (by decide)
  obtain ⟨-, text, htext, hnone⟩ := h.mp hfails
  rw [htext.unique hgives] at hnone
  exact hnone ⟨nested 127, isText_nested 127⟩

end Request
end Call
end SdkShelf
