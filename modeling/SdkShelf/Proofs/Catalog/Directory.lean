import SdkShelf.Proofs.Catalog.Contents
import SdkShelf.Proofs.Shelf.Protocol
import SdkShelf.Proofs.Store.Tidy

/-!
# Catalogs on disk

A catalog whose directory is its own reads what it wrote, however its collection was cut down: a
creation adds one id at most, and neither a creation nor a clearing touches the count.
-/

namespace SdkShelf

/-! ## Shelves -/

namespace Shelf

section

variable {σ : Type} [Store σ] {s s' : Shelf σ} {key text : String} {rest : List String}

theorem writeEach_of_ok (h : s.write key text = (.ok (), s')) :
    s.writeEach key (text :: rest) = (true, s') := by
  rw [writeEach_cons, h]

theorem writeEach_of_error {e : StoreError} (h : s.write key text = (.error e, s')) :
    s.writeEach key (text :: rest) =
      if e.isQuotaExceeded then s'.writeEach key rest else (false, s') := by
  rw [writeEach_cons, h]

end

/-- The shelf stands in the same place, and no directory is gone. -/
structure Continues (s s' : Shelf DirectoryStore) : Prop where
  store : s.store.Follows s'.store
  collectionKey : s'.collectionKey = s.collectionKey

variable {s : Shelf DirectoryStore} {texts : Dictionary String} {key : String}

theorem loadText_eq_readText (hkey : DirectoryStore.checkKey key = .ok ()) :
    s.loadText key = (s.store.disk.readText (s.store.pathOf key)).toOption := by
  cases hread : s.store.disk.readText (s.store.pathOf key) with
  | ok text => exact loadText_of_read (DirectoryStore.read_of_readText hkey hread)
  | error e =>
    have hresult : Store.read s.store key = .ok none ∨
        ∃ cause, Store.read s.store key = .error cause := by
      show s.store.read key = .ok none ∨ ∃ cause, s.store.read key = .error cause
      simp only [DirectoryStore.read, hkey, bind, Except.bind, hread]
      cases e with
      | notFound => exact Or.inl rfl
      | _ => exact Or.inr ⟨_, rfl⟩
    rcases hresult with hnone | ⟨cause, hfailed⟩
    · exact loadText_of_read hnone
    · rw [loadText, hfailed]
      rfl

theorem Continues.refl (s : Shelf DirectoryStore) : s.Continues s := ⟨.refl _, rfl⟩

theorem Continues.trans {s' s'' : Shelf DirectoryStore} (h : s.Continues s')
    (h' : s'.Continues s'') : s.Continues s'' :=
  ⟨h.store.trans h'.store, h'.collectionKey.trans h.collectionKey⟩

theorem continues_write (s : Shelf DirectoryStore) (key text : String) :
    s.Continues (s.write key text).2 := ⟨DirectoryStore.follows_write _ _ _, rfl⟩

theorem continues_writeEach (s : Shelf DirectoryStore) (key : String) (plan : List String) :
    s.Continues (s.writeEach key plan).2 := by
  induction plan generalizing s with
  | nil => exact .refl s
  | cons text rest ih =>
    have hcontinues := continues_write s key text
    rcases hwrite : s.write key text with ⟨e | ⟨⟩, after⟩
    · rw [hwrite] at hcontinues
      rw [writeEach_of_error hwrite]
      by_cases he : e.isQuotaExceeded = true
      · rw [if_pos he]
        exact hcontinues.trans (ih after)
      · rw [if_neg he]
        exact hcontinues
    · rw [hwrite] at hcontinues
      rw [writeEach_of_ok hwrite]
      exact hcontinues

section

variable (h : s.store.Tidy texts) (hkey : DirectoryStore.IsShortKey key)

include h hkey

theorem loadText_of_tidy : s.loadText key = texts.get? key := loadText_of_read (h.read hkey)

/-- One of the texts is put under the key, or nothing happens at all. -/
theorem writeEach_cases (plan : List String) :
    (∃ text ∈ plan, (s.writeEach key plan).2.store.Tidy (texts.insert key text)) ∨
      (s.writeEach key plan).2 = s := by
  induction plan with
  | nil => exact Or.inr rfl
  | cons text rest ih =>
    rcases h.write_cases hkey text with ⟨store, hwrite, htidy⟩ | ⟨e, hwrite⟩
    · have hput : s.write key text = (.ok (), { s with store }) := by rw [write, hwrite]
      rw [writeEach_of_ok hput]
      exact Or.inl ⟨text, List.mem_cons_self, htidy⟩
    · have hsame : s.write key text = (.error e, s) := by rw [write, hwrite]
      rw [writeEach_of_error hsame]
      -- The refused write changed nothing, so the other texts meet the same shelf.
      by_cases he : e.isQuotaExceeded = true
      · rw [if_pos he]
        rcases ih with ⟨other, hother, htidy⟩ | hrest
        · exact Or.inl ⟨other, List.mem_cons_of_mem text hother, htidy⟩
        · exact Or.inr hrest
      · rw [if_neg he]
        exact Or.inr rfl

end

/-- Whichever text is written for a collection, it is read as some of its projects, in their order,
as far as shrinking shows no difference. -/
theorem exists_value_of_mem_plan {β : Type} {f : Project → β} (hf : ∀ p : Project, f p.shrink = f p)
    {collectionKey key text : String} {ps : List Project}
    (h : text ∈ plan collectionKey key (Project.listSchema.encode ps).canonical) :
    ∃ qs, valueOf? Project.listSchema text = some qs ∧ (qs.map f).Sublist (ps.map f) := by
  rw [plan, ofJson_collection] at h
  rcases List.mem_cons.mp h with rfl | h
  · exact ⟨ps, valueOf?_plainText ps, List.Sublist.refl _⟩
  · split at h
    · obtain ⟨i, _, rfl⟩ := List.mem_map.mp h
      refine ⟨_, valueOf?_text _, ?_⟩
      have hsame : (ps.map Project.shrink).map f = ps.map f := by
        rw [List.map_map]
        exact List.map_congr_left fun p _ => hf p
      rw [List.map_take, hsame]
      exact List.take_sublist _ _
    · exact absurd h List.not_mem_nil

end Shelf

/-! ## Catalogs -/

namespace Catalog

/-- The catalog has the usual key, and a directory of its own. -/
structure Tidy (c : Catalog DirectoryStore) : Prop where
  key : c.shelf.collectionKey = Shelf.projectsKey
  texts : ∃ texts, c.shelf.store.Tidy texts

/-- The count has room for one more call. -/
def HasRoom (c : Catalog DirectoryStore) : Prop :=
  c.shelf.store.Fits Shelf.callsKey c.nextCount

instance (c : Catalog DirectoryStore) : Decidable c.HasRoom :=
  inferInstanceAs (Decidable (DirectoryStore.Fits _ _ _))

variable {c d : Catalog DirectoryStore}

theorem continues_recordApiCall : c.shelf.Continues c.recordApiCall.2.shelf := by
  rw [recordApiCall_eq]
  exact Shelf.continues_write _ _ _

theorem continues_clearAll : c.shelf.Continues c.clearAll.shelf :=
  ⟨DirectoryStore.follows_remove _ _, rfl⟩

section

variable {id : String} {now : Timestamp} {name : Option String} {url : String}
  {g : Backend.Generation}

/-- A creation is a walk along the plan of the new collection. -/
theorem create_eq_writeEach : (c.create id now name url g).2.2.shelf =
    (c.shelf.writeEach c.shelf.collectionKey (Shelf.plan c.shelf.collectionKey
      c.shelf.collectionKey
      (Project.listSchema.encode (projectOf id now name url g :: c.list)).canonical)).2 := by
  rw [← Shelf.save_eq_writeEach]
  rfl

theorem continues_create : c.shelf.Continues (c.create id now name url g).2.2.shelf := by
  rw [create_eq_writeEach]
  exact Shelf.continues_writeEach _ _ _

end

theorem recordApiCall_of_full (h : ¬ c.HasRoom) : c.recordApiCall.2 = c := by
  obtain ⟨e, hwrite⟩ := DirectoryStore.write_of_not_fits h
  rw [recordApiCall_eq, Shelf.write, hwrite]

theorem recordApiCall_of_room (h : c.HasRoom) {files : List (String × Disk.Node)}
    (hwalk : c.shelf.store.disk.walk c.shelf.store.directory = .ok (.directory files))
    (hfree : c.shelf.store.IsFree Shelf.callsKey) :
    c.recordApiCall.2.apiCallCount = min (c.apiCallCount + 1) callLimit ∧
      ∀ path, path ≠ c.shelf.store.pathOf Shelf.callsKey →
        c.recordApiCall.2.shelf.store.disk.content? path = c.shelf.store.disk.content? path := by
  obtain ⟨disk', hwrite, hothers⟩ :=
    DirectoryStore.write_of_fits hwalk (by decide) (by decide) hfree h
  refine ⟨apiCallCount_of_accepted (congrArg Prod.fst hwrite), ?_⟩
  rw [recordApiCall_eq, Shelf.write, hwrite]
  exact hothers

theorem isShortKey_projectsKey : DirectoryStore.IsShortKey Shelf.projectsKey := by decide

theorem isShortKey_callsKey : DirectoryStore.IsShortKey Shelf.callsKey := by decide

namespace Tidy

variable (h : c.Tidy)

include h

/-- What happens under another key is not seen in the list. -/
theorem list_eq {texts texts' : Dictionary String} (hc : c.shelf.store.Tidy texts)
    (hd : d.shelf.store.Tidy texts') (hkey : d.shelf.collectionKey = c.shelf.collectionKey)
    (hget : texts'.get? Shelf.projectsKey = texts.get? Shelf.projectsKey) : d.list = c.list := by
  refine list_congr ?_
  rw [hkey, h.key, Shelf.loadText_of_tidy hc isShortKey_projectsKey,
    Shelf.loadText_of_tidy hd isShortKey_projectsKey, hget]

theorem recordApiCall (hroom : c.HasRoom) :
    c.recordApiCall.2.Tidy ∧ c.recordApiCall.2.list = c.list ∧
      c.recordApiCall.2.apiCallCount = min (c.apiCallCount + 1) callLimit := by
  obtain ⟨texts, htexts⟩ := h.texts
  obtain ⟨store, hwrite, hstore⟩ := htexts.exists_write_of_fits isShortKey_callsKey hroom
  have hrecord : c.recordApiCall.2 = ⟨{ c.shelf with store }⟩ := by
    rw [recordApiCall_eq, Shelf.write, hwrite]
  have hcount := apiCallCount_of_accepted (c := c) (congrArg Prod.fst hwrite)
  rw [hrecord] at hcount ⊢
  refine ⟨⟨h.key, _, hstore⟩, h.list_eq htexts hstore rfl ?_, hcount⟩
  rw [Dictionary.get?_insert, if_neg (by decide)]

theorem clearAll : c.clearAll.Tidy ∧ c.clearAll.list = [] ∧
    c.clearAll.apiCallCount = c.apiCallCount := by
  obtain ⟨texts, htexts⟩ := h.texts
  obtain ⟨store, hremove, hstore⟩ := htexts.exists_remove isShortKey_projectsKey
  rw [← h.key] at hremove
  have hclear : c.clearAll = ⟨{ c.shelf with store }⟩ := by
    rw [Catalog.clearAll, Shelf.clear, hremove]
  rw [hclear]
  refine ⟨⟨h.key, _, hstore⟩, list_of_absent ?_, apiCallCount_congr ?_⟩
  · show Shelf.loadText _ c.shelf.collectionKey = none
    rw [h.key, Shelf.loadText_of_tidy hstore isShortKey_projectsKey, Dictionary.get?_erase,
      if_pos rfl]
  · rw [Shelf.loadText_of_tidy hstore isShortKey_callsKey,
      Shelf.loadText_of_tidy htexts isShortKey_callsKey, Dictionary.get?_erase,
      if_neg (by decide)]

/-- Of the ids that were listed some stay, in their order, and the new one may stand in front. -/
theorem create (id : String) (now : Timestamp) (name : Option String) (url : String)
    (g : Backend.Generation) :
    let d := (c.create id now name url g).2.2
    d.Tidy ∧ (d.list.map Project.id).Sublist (id :: c.list.map Project.id) ∧
      d.apiCallCount = c.apiCallCount := by
  intro d
  obtain ⟨texts, htexts⟩ := h.texts
  have hcontinues : c.shelf.Continues d.shelf := continues_create
  have hshelf : d.shelf = _ := create_eq_writeEach
  rw [h.key] at hshelf
  rcases Shelf.writeEach_cases htexts isShortKey_projectsKey _ with ⟨text, htext, hstore⟩ | hsame
  · rw [← hshelf] at hstore
    have hkey : d.shelf.collectionKey = Shelf.projectsKey := hcontinues.collectionKey.trans h.key
    -- Which of the plan's texts was accepted does not matter here.
    obtain ⟨qs, hvalue, hsublist⟩ :=
      Shelf.exists_value_of_mem_plan (f := Project.id) (fun _ => rfl) htext
    have hlist : d.list = qs := by
      refine Shelf.load_of_loadText ?_ hvalue []
      rw [hkey, Shelf.loadText_of_tidy hstore isShortKey_projectsKey, Dictionary.get?_insert,
        if_pos rfl]
    refine ⟨⟨hkey, _, hstore⟩, ?_, apiCallCount_congr ?_⟩
    · rw [hlist]
      exact hsublist
    · rw [Shelf.loadText_of_tidy hstore isShortKey_callsKey,
        Shelf.loadText_of_tidy htexts isShortKey_callsKey, Dictionary.get?_insert,
        if_neg (by decide)]
  · have hd : d = c := by
      show (⟨d.shelf⟩ : Catalog DirectoryStore) = ⟨c.shelf⟩
      rw [hshelf, hsame]
    rw [hd]
    exact ⟨h, List.sublist_cons_self _ _, rfl⟩

end Tidy

end Catalog
end SdkShelf
