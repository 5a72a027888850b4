import SdkShelf.Proofs.Catalog.Directory

/-!
# Lists on any disk

Whatever stands on a disk, and however a write fails there, an entry is read as before unless a text
was accepted in its place or it was removed.  So a list on disk gains what is created and loses some
projects, and nothing else happens to it.
-/

namespace SdkShelf

namespace Disk
namespace Node

variable {disk disk' : Node} {path dir : Path} {name : String}

theorem toOption_readText (disk : Node) (path : Path) :
    (disk.readText path).toOption = (disk.content? path).bind String.fromUTF8? := by
  rw [readText, content?]
  cases disk.readFile path with
  | error e => rfl
  | ok content =>
    simp only [bind, Except.bind, Except.toOption, Option.bind]
    cases String.fromUTF8? content <;> rfl

theorem content?_removeFile (h : disk.removeFile (dir ++ [name]) = .ok disk') :
    disk'.content? (dir ++ [name]) = none := by
  obtain ⟨entries, _, hname, hwalk⟩ := walk_of_removeFile h
  exact content?_of_error (walk_absent hwalk hname (child?_filter_self name entries))

end Node
end Disk

/-! ## Entries -/

namespace DirectoryStore

variable {s : DirectoryStore} {key other text : String}

theorem not_prefix_pathOf {name : String} (h : name ≠ other ++ ending) :
    ¬ s.directory ++ [name] <+: s.pathOf other := by
  rw [pathOf, List.prefix_append_right_inj, List.cons_prefix_cons]
  exact fun hprefix => h hprefix.1

/-- What is done about a key is not seen under another one, nor under the key if it failed. -/
theorem content?_place (hkey : IsFileKey key) (hother : IsFileKey other)
    (h : key ≠ other ∨ ∃ e, (s.place key text).1 = .error e) :
    (s.place key text).2.disk.content? (s.pathOf other) =
      s.disk.content? (s.pathOf other) := by
  have htemporary : ¬ s.temporaryOf key <+: s.pathOf other :=
    not_prefix_pathOf (temporary_ne_entry _ hkey hother)
  rw [place] at h ⊢
  split
  · rfl
  · rename_i hmake
    rw [hmake] at h
    split
    · exact Disk.Node.content?_makeDirectories hmake _
    · rename_i hwrite
      simp only [hwrite] at h
      split
      · exact (Disk.Node.content?_update hwrite htemporary).trans
          (Disk.Node.content?_makeDirectories hmake _)
      · rename_i hrename
        simp only [hrename] at h
        have hne : key ≠ other := h.resolve_right (by simp)
        rw [Disk.Node.content?_rename hrename htemporary (not_prefix_pathOf (entry_ne hne)),
          Disk.Node.content?_update hwrite htemporary, Disk.Node.content?_makeDirectories hmake]

theorem content?_write (hother : IsFileKey other)
    (h : key ≠ other ∨ ∃ e, (Store.write s key text).1 = .error e) :
    (Store.write s key text).2.disk.content? (s.pathOf other) =
      s.disk.content? (s.pathOf other) := by
  by_cases hfits : s.Fits key text
  · by_cases hkey : IsFileKey key
    · rw [write_eq_place hkey hfits] at h ⊢
      refine content?_place hkey hother (h.imp_right ?_)
      rintro ⟨e, he⟩
      cases hplace : (s.place key text).1 with
      | error e => exact ⟨e, rfl⟩
      | ok _ =>
        rw [hplace] at he
        exact absurd he nofun
    · show (s.write key text).2.disk.content? _ = _
      rw [write, checkKey, if_neg hkey]
  · obtain ⟨e, hrefused⟩ := write_of_not_fits hfits
    rw [hrefused]

/-- A removal takes the entry away, or nothing happens at all. -/
theorem remove_cases (s : DirectoryStore) (key : String) :
    (Store.remove s key).2.disk.content? (s.pathOf key) = none ∨ (Store.remove s key).2 = s := by
  show (s.remove key).2.disk.content? _ = none ∨ (s.remove key).2 = s
  rw [remove]
  split
  · exact Or.inr rfl
  · split
    · rename_i hremove
      exact Or.inl (Disk.Node.content?_removeFile hremove)
    · exact Or.inr rfl
    · exact Or.inr rfl

end DirectoryStore

namespace Shelf

variable {s s' : Shelf DirectoryStore} {key other text : String}

theorem loadText_eq_content? (hkey : IsFileKey key) :
    s.loadText key = (s.store.disk.content? (s.store.pathOf key)).bind String.fromUTF8? := by
  rw [loadText_eq_readText (if_pos hkey), Disk.Node.toOption_readText]

theorem Continues.pathOf_eq (h : s.Continues s') (key : String) :
    s'.store.pathOf key = s.store.pathOf key := by
  rw [DirectoryStore.pathOf, DirectoryStore.directory, h.store.base]
  rfl

/-- A text is loaded as before unless another one was accepted in its place. -/
theorem loadText_unwritten (hother : IsFileKey other)
    (h : key ≠ other ∨ ∃ e, (s.write key text).1 = .error e) :
    (s.write key text).2.loadText other = s.loadText other := by
  rw [loadText_eq_content? hother, loadText_eq_content? hother,
    (continues_write s key text).pathOf_eq]
  exact congrArg (·.bind String.fromUTF8?) (DirectoryStore.content?_write hother h)

/-- Under the key is one of the texts, or what was there before. -/
theorem loadText_writeEach_cases (hkey : IsFileKey key) (plan : List String) :
    (∃ text ∈ plan, (s.writeEach key plan).2.loadText key = some text) ∨
      (s.writeEach key plan).2.loadText key = s.loadText key := by
  induction plan generalizing s with
  | nil => exact Or.inr rfl
  | cons text rest ih =>
    rcases hwrite : s.write key text with ⟨e | ⟨⟩, after⟩
    · have hsame : (s.write key text).2.loadText key = s.loadText key :=
        loadText_unwritten hkey (Or.inr ⟨e, congrArg Prod.fst hwrite⟩)
      rw [hwrite] at hsame
      rw [writeEach_of_error hwrite]
      by_cases he : e.isQuotaExceeded = true
      · rw [if_pos he, ← hsame]
        exact ih.imp_left fun ⟨later, hlater, hload⟩ =>
          ⟨later, List.mem_cons_of_mem _ hlater, hload⟩
      · rw [if_neg he]
        exact Or.inr hsame
    · have hload := loadText_of_accepted (congrArg Prod.fst hwrite)
      rw [hwrite] at hload
      rw [writeEach_of_ok hwrite]
      exact Or.inl ⟨text, List.mem_cons_self, hload⟩

end Shelf

/-! ## Catalogs -/

namespace Catalog

variable {c : Catalog DirectoryStore}

theorem list_recordApiCall_of_ne (hkey : IsFileKey c.shelf.collectionKey)
    (hother : Shelf.callsKey ≠ c.shelf.collectionKey) : c.recordApiCall.2.list = c.list := by
  rw [recordApiCall_eq]
  exact list_congr (Shelf.loadText_unwritten hkey (Or.inl hother))

theorem list_clearAll_cases (hkey : IsFileKey c.shelf.collectionKey) :
    c.clearAll.list = [] ∨ c.clearAll.list = c.list := by
  rcases DirectoryStore.remove_cases c.shelf.store c.shelf.collectionKey with hgone | hsame
  · refine Or.inl (list_of_absent ?_)
    show c.clearAll.shelf.loadText c.shelf.collectionKey = none
    rw [Shelf.loadText_eq_content? hkey, continues_clearAll.pathOf_eq]
    exact congrArg (·.bind String.fromUTF8?) hgone
  · have hclear : c.clearAll = c := by
      rw [clearAll, Shelf.clear, hsame]
    exact Or.inr (congrArg list hclear)

/-- Of what was listed some stays, in its order, and the new project may stand in front, as far as
shrinking shows no difference. -/
theorem sublist_create {β : Type} {f : Project → β} (hf : ∀ p : Project, f p.shrink = f p)
    (hkey : IsFileKey c.shelf.collectionKey) (id : String) (now : Timestamp)
    (name : Option String) (url : String) (g : Backend.Generation) :
    ((c.create id now name url g).2.2.list.map f).Sublist
      (f (projectOf id now name url g) :: c.list.map f) := by
  have hshelf : (c.create id now name url g).2.2.shelf = _ := create_eq_writeEach
  have hcontinues : c.shelf.Continues (c.create id now name url g).2.2.shelf := continues_create
  generalize (c.create id now name url g).2.2 = d at hshelf hcontinues ⊢
  have hcollection := hcontinues.collectionKey
  rcases Shelf.loadText_writeEach_cases (s := c.shelf) hkey _ with ⟨text, htext, hload⟩ | hsame
  · obtain ⟨qs, hvalue, hsublist⟩ := Shelf.exists_value_of_mem_plan hf htext
    have hlist : d.list = qs := by
      refine Shelf.load_of_loadText ?_ hvalue []
      rw [hcollection, hshelf]
      exact hload
    rw [hlist]
    exact hsublist
  · have hlist : d.list = c.list := by
      refine list_congr ?_
      rw [hcollection, hshelf]
      exact hsame
    rw [hlist]
    exact List.sublist_cons_self _ _

end Catalog
end SdkShelf
