import SdkShelf.Catalog
import SdkShelf.Proofs.Json.Room
import SdkShelf.Proofs.Shelf.Collection

/-!
# What survives the creation of a project

A new project is put in front of the list that is read back.  A stored list of which one element is
no project is read back as the empty list, so its other projects are overwritten.
-/

namespace SdkShelf

namespace Json

/-- The elements of a text that is a JSON array. -/
def elements? (text : String) : Option (List Tree) :=
  match Tree.ofText text with
  | (.array _ items (.closed _), behind) => if behind.next = none then some items else none
  | _ => none

theorem exists_tree_of_elements {text : String} {items : List Tree}
    (h : elements? text = some items) :
    ∃ start bracket behind, Tree.ofText text = (.array start items (.closed bracket), behind) ∧
      behind.next = none := by
  unfold elements? at h
  split at h
  · rename_i start ts bracket behind htree
    by_cases hbehind : behind.next = none
    · rw [if_pos hbehind] at h
      rw [Option.some.inj h] at htree
      exact ⟨start, bracket, behind, htree, hbehind⟩
    · rw [if_neg hbehind] at h
      exact absurd h (by simp)
  · exact absurd h (by simp)

/-- A list is read if each of its items is, and not at all otherwise. -/
theorem Tree.toOption_eachItem {α : Type} (item : Tree → Except DecodeError α)
    (items : List Tree) : (eachItem item items).toOption =
      if ∀ t ∈ items, (item t).toOption.isSome then some (items.filterMap fun t => (item t).toOption)
      else none := by
  induction items with
  | nil => rfl
  | cons t rest ih =>
    cases ht : item t with
    | error e =>
      have hfails : ¬ ∀ x ∈ t :: rest, (item x).toOption.isSome := fun hall => by
        have hhead := hall t List.mem_cons_self
        rw [ht] at hhead
        exact Bool.noConfusion hhead
      rw [if_neg hfails, eachItem, ht]
      rfl
    | ok a =>
      have hhead : (item t).toOption = some a := by
        rw [ht]
        rfl
      have hall : (∀ x ∈ t :: rest, (item x).toOption.isSome) ↔
          ∀ x ∈ rest, (item x).toOption.isSome := by
        rw [List.forall_mem_cons, hhead]
        exact and_iff_right rfl
      have hcons : (eachItem item (t :: rest)).toOption =
          (eachItem item rest).toOption.map (a :: ·) := by
        rw [eachItem, ht]
        cases eachItem item rest <;> rfl
      rw [hcons, ih, List.filterMap_cons, hhead]
      by_cases hrest : ∀ x ∈ rest, (item x).toOption.isSome
      · rw [if_pos hrest, if_pos (hall.mpr hrest)]
        rfl
      · rw [if_neg hrest, if_neg fun h => hrest (hall.mp h)]
        rfl

theorem toOption_ofText_list {α : Type} {inner : Schema α} {text : String} {items : List Tree}
    (h : elements? text = some items) : ((Schema.list inner).ofText text).toOption =
      (Tree.eachItem (inner.decode (.text (depthLimit - 1))) items).toOption := by
  obtain ⟨start, bracket, behind, htree, hbehind⟩ := exists_tree_of_elements h
  rw [Schema.ofText, htree]
  show Except.toOption (Except.bind (Except.bind
    (Tree.eachItem (inner.decode (.text (depthLimit - 1))) items) _) _) = _
  cases Tree.eachItem (inner.decode (.text (depthLimit - 1))) items with
  | error e => rfl
  | ok as =>
    simp only [Except.bind, hbehind]
    rfl

end Json

/-- A bare string is no list, so only JSON is read as one. -/
theorem Shelf.valueOf?_listSchema {text : String} (hne : text ≠ "") :
    valueOf? Project.listSchema text = (Project.listSchema.ofText text).toOption := by
  rw [valueOf?, if_neg (by simpa using hne)]
  cases Project.listSchema.ofText text with
  | error e => rfl
  | ok ps => rfl

namespace Catalog

/-- The project that an element of a stored list is on its own. -/
def ownProject? (t : Json.Tree) : Option Project :=
  (Project.schema.decode (.text Json.depthLimit) t).toOption

/-- The projects that are listed for the elements of a stored list. -/
def listed (items : List Json.Tree) : List Project :=
  if ∀ t ∈ items, (ownProject? t).isSome then items.filterMap ownProject? else []

theorem valueOf?_elements {text : String} {items : List Json.Tree}
    (h : Json.elements? text = some items) :
    (Shelf.valueOf? Project.listSchema text).getD [] = listed items := by
  have hne : text ≠ "" := fun hempty => by
    have hnone : Json.elements? "" = none := rfl
    rw [hempty, hnone] at h
    exact absurd h (by simp)
  -- An element has one container less to open than a text of its own.
  have hroom : Project.schema.decode (.text (Json.depthLimit - 1)) =
      Project.schema.decode (.text Json.depthLimit) :=
    funext (Project.schema.decode_room rfl (by decide) (by decide))
  have hread : (Project.listSchema.ofText text).toOption =
      if ∀ t ∈ items, (ownProject? t).isSome then some (items.filterMap ownProject?) else none := by
    rw [Project.listSchema, Json.toOption_ofText_list h, hroom]
    exact Json.Tree.toOption_eachItem _ items
  rw [Shelf.valueOf?_listSchema hne, hread, listed]
  by_cases hall : ∀ t ∈ items, (ownProject? t).isSome
  · rw [if_pos hall, if_pos hall]
    rfl
  · rw [if_neg hall, if_neg hall]
    rfl

/-- All projects of a stored list are listed exactly if all of its elements are projects, or none
is. -/
theorem mem_listed_iff (items : List Json.Tree) :
    (∀ t ∈ items, ∀ q, ownProject? t = some q → q ∈ listed items) ↔
      (∀ t ∈ items, (ownProject? t).isSome) ∨ ∀ t ∈ items, ownProject? t = none := by
  constructor
  · intro hmem
    by_cases hall : ∀ t ∈ items, (ownProject? t).isSome
    · exact Or.inl hall
    · refine Or.inr fun t ht => ?_
      cases hq : ownProject? t with
      | none => rfl
      | some q =>
        have hlisted := hmem t ht q hq
        rw [listed, if_neg hall] at hlisted
        exact absurd hlisted List.not_mem_nil
  · rintro (hall | hnone) t ht q hq
    · rw [listed, if_pos hall]
      exact List.mem_filterMap.mpr ⟨t, ht, hq⟩
    · rw [hnone t ht] at hq
      exact absurd hq (by simp)

section

variable {σ : Type} [Store σ]

/-- The text that the creation of a project writes first, and the only one if there is room. -/
def createdText (c : Catalog σ) (id : String) (now : Timestamp) (name : Option String)
    (sourceUrl : String) (g : Backend.Generation) : String :=
  Shelf.plainText (projectOf id now name sourceUrl g :: c.list)

variable {c : Catalog σ} {id : String} {now : Timestamp} {name : Option String}
  {sourceUrl : String} {g : Backend.Generation}

theorem saved_of_accepted (h : (c.shelf.write c.shelf.collectionKey
      (c.createdText id now name sourceUrl g)).1 = .ok ()) :
    (c.create id now name sourceUrl g).2.1 = true :=
  congrArg Prod.fst (Shelf.save_of_accepted
    (v := (Project.listSchema.encode (projectOf id now name sourceUrl g :: c.list)).canonical) h)

variable [ReadsBack σ]

theorem list_create_of_accepted (h : (c.shelf.write c.shelf.collectionKey
      (c.createdText id now name sourceUrl g)).1 = .ok ()) :
    (c.create id now name sourceUrl g).2.2.list = projectOf id now name sourceUrl g :: c.list := by
  have hsave := Shelf.save_of_accepted
    (v := (Project.listSchema.encode (projectOf id now name sourceUrl g :: c.list)).canonical) h
  have hafter : (c.create id now name sourceUrl g).2.2 =
      ⟨(c.shelf.write c.shelf.collectionKey (c.createdText id now name sourceUrl g)).2⟩ :=
    congrArg Catalog.mk (congrArg Prod.snd hsave)
  have htext := Shelf.loadText_of_accepted h
  have hvalue : Shelf.valueOf? Project.listSchema (c.createdText id now name sourceUrl g) =
      some (projectOf id now name sourceUrl g :: c.list) := Shelf.valueOf?_plainText _
  rw [hafter]
  exact Shelf.load_of_loadText htext hvalue []

/-- The projects of a stored list stay behind a new one, unchanged and in order, if every element of
the list is a project.  Otherwise none of them stays, and so some project is lost unless there was
none. -/
theorem create_keeps_iff {text : String} {items : List Json.Tree}
    (htext : c.shelf.loadText c.shelf.collectionKey = some text)
    (hitems : Json.elements? text = some items)
    (hsaved : (c.create id now name sourceUrl g).2.1 = true)
    (hquota : ∀ e, (c.shelf.write c.shelf.collectionKey
      (c.createdText id now name sourceUrl g)).1 = .error e → e.isQuotaExceeded = false) :
    let after := (c.create id now name sourceUrl g).2.2.list
    after = projectOf id now name sourceUrl g ::
        (if ∀ t ∈ items, (ownProject? t).isSome then items.filterMap ownProject? else []) ∧
      ((∀ t ∈ items, ∀ q, ownProject? t = some q → q ∈ after.tail) ↔
        (∀ t ∈ items, (ownProject? t).isSome) ∨ ∀ t ∈ items, ownProject? t = none) := by
  intro after
  have hlist : c.list = listed items := by
    rw [list, Shelf.load, htext, Option.bind_some]
    exact valueOf?_elements hitems
  have haccepted := Shelf.accepted_of_save
    (v := (Project.listSchema.encode (projectOf id now name sourceUrl g :: c.list)).canonical)
    hsaved hquota
  have hafter : after = projectOf id now name sourceUrl g :: listed items := by
    rw [← hlist]
    exact list_create_of_accepted haccepted
  refine ⟨hafter, ?_⟩
  rw [hafter, List.tail_cons]
  exact mem_listed_iff items

end

/-- A list by another hand, with a member and a name of a member that are not the usual ones, stays
behind a new project. -/
theorem create_keeps_foreign_list :
    let text := "[\x7b\"id\":\"p1\",\"source_url\":\"u\",\"name\":\"A\",\"x\":[null]," ++
      "\"spec\":\x7b\x7d,\"created_at\":\"2025-01-01T00:00:00Z\"\x7d]"
    let c : Catalog MemoryStore :=
      ⟨⟨(MemoryStore.empty 4096).put Shelf.projectsKey text, Shelf.projectsKey⟩⟩
    let now : Timestamp := ⟨⟨2025, 2, 1, by decide⟩, 12, 0, 0, 0, by decide⟩
    let g : Backend.Generation := ⟨"Pets", none, Api.Spec.empty, "code", false, none⟩
    let old : Project := ⟨"p1", "A", "u", Api.Spec.empty, "",
      ⟨⟨2025, 1, 1, by decide⟩, 0, 0, 0, 0, by decide⟩, none, false, none⟩
    (Json.elements? text).map (fun items => items.map ownProject?) = some [some old] ∧
      (c.create "p2" now none "docs" g).2.1 = true ∧
      old ∈ (c.create "p2" now none "docs" g).2.2.list.tail := by
  intro text c now g old
  have hown : (Json.elements? text).map (fun items => items.map ownProject?) = some [some old] := by
    decide +kernel
  obtain ⟨items, hitems, hmap⟩ := Option.map_eq_some_iff.mp hown
  obtain ⟨t, rfl, ht⟩ := List.map_eq_singleton_iff.mp hmap
  have hall : ∀ x ∈ [t], (ownProject? x).isSome := by
    intro x hx
    rw [List.mem_singleton.mp hx, ht]
    rfl
  have htext : c.shelf.loadText c.shelf.collectionKey = some text := by decide +kernel
  have hlist : c.list = [old] := by decide +kernel
  have haccepted : (c.shelf.write c.shelf.collectionKey
      (c.createdText "p2" now none "docs" g)).1 = .ok () := by
    rw [createdText, hlist]
    decide +kernel
  have hquota : ∀ e, (c.shelf.write c.shelf.collectionKey
      (c.createdText "p2" now none "docs" g)).1 = .error e → e.isQuotaExceeded = false := by
    intro e he
    rw [haccepted] at he
    exact absurd he (by simp)
  have hsaved := saved_of_accepted haccepted
  have hkeeps := create_keeps_iff htext hitems hsaved hquota
  exact ⟨hown, hsaved, hkeeps.2.mpr (Or.inl hall) t List.mem_cons_self old ht⟩

/-- One element that is no project, and the project beside it is lost although nothing was refused
for lack of room. -/
theorem create_loses_project :
    let text := "[\x7b\"id\":\"p1\",\"name\":\"A\",\"url\":\"u\",\"spec\":\x7b\x7d," ++
      "\"created_at\":\"2025-01-01T00:00:00Z\"\x7d,null]"
    let c : Catalog MemoryStore :=
      ⟨⟨(MemoryStore.empty 4096).put Shelf.projectsKey text, Shelf.projectsKey⟩⟩
    let now : Timestamp := ⟨⟨2025, 2, 1, by decide⟩, 12, 0, 0, 0, by decide⟩
    let g : Backend.Generation := ⟨"Pets", none, Api.Spec.empty, "code", false, none⟩
    let old : Project := ⟨"p1", "A", "u", Api.Spec.empty, "",
      ⟨⟨2025, 1, 1, by decide⟩, 0, 0, 0, 0, by decide⟩, none, false, none⟩
    (Json.elements? text).map (fun items => items.filterMap ownProject?) = some [old] ∧
      (c.shelf.write c.shelf.collectionKey (c.createdText "p2" now none "docs" g)).1 = .ok () ∧
      (c.create "p2" now none "docs" g).2.1 = true ∧
      old ∉ (c.create "p2" now none "docs" g).2.2.list := by
  intro text c now g old
  have hown : (Json.elements? text).map (fun items => items.filterMap ownProject?) = some [old] := by
    decide +kernel
  have hlist : c.list = [] := by decide +kernel
  have haccepted : (c.shelf.write c.shelf.collectionKey
      (c.createdText "p2" now none "docs" g)).1 = .ok () := by
    rw [createdText, hlist]
    decide +kernel
  refine ⟨hown, haccepted, saved_of_accepted haccepted, ?_⟩
  rw [list_create_of_accepted haccepted, hlist, List.mem_singleton]
  exact fun h => absurd (congrArg Project.id h) (by decide)

end Catalog
end SdkShelf
