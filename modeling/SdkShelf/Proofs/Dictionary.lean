import SdkShelf.Dictionary

/-!
# Entries of dictionaries

A list whose keys differ becomes a dictionary without loss: the entries are a rearrangement of the
list, and the list itself where its keys ascend already.
-/

namespace SdkShelf

variable {α : Type}

theorem insertEntry_perm {key : String} {entries : List (String × α)} (value : α)
    (h : key ∉ entries.map Prod.fst) :
    (insertEntry key value entries).Perm ((key, value) :: entries) := by
  induction entries with
  | nil => exact List.Perm.refl _
  | cons head rest ih =>
    obtain ⟨k, v⟩ := head
    rw [List.map_cons, List.mem_cons, not_or] at h
    rw [insertEntry]
    by_cases hlt : key < k
    · rw [if_pos hlt]
    · rw [if_neg hlt, if_neg h.1]
      exact ((ih h.2).cons (k, v)).trans (List.Perm.swap (key, value) (k, v) rest)

theorem insertEntry_of_lt {key : String} {entries : List (String × α)} (value : α)
    (h : ∀ e ∈ entries, e.1 < key) :
    insertEntry key value entries = entries ++ [(key, value)] := by
  induction entries with
  | nil => rfl
  | cons head rest ih =>
    obtain ⟨k, v⟩ := head
    have hk : k < key := h (k, v) List.mem_cons_self
    have hne : key ≠ k := fun e => String.lt_irrefl k (by rw [e] at hk; exact hk)
    rw [insertEntry, if_neg (String.lt_asymm hk), if_neg hne,
      ih (fun e he => h e (List.mem_cons_of_mem _ he)), List.cons_append]

/-- In order, an entry is found exactly if it is there. -/
theorem find?_eq_some_iff_mem {entries : List (String × α)} (h : Ascending entries) {key : String}
    {value : α} :
    (entries.find? (fun e => e.1 = key)).map (·.2) = some value ↔ (key, value) ∈ entries := by
  constructor
  · intro hfind
    obtain ⟨e, he, rfl⟩ := Option.map_eq_some_iff.mp hfind
    have hkey : e.1 = key := by simpa using List.find?_some he
    have hmem := List.mem_of_find?_eq_some he
    rw [← hkey]
    exact hmem
  · intro hmem
    induction entries with
    | nil => exact absurd hmem List.not_mem_nil
    | cons e rest ih =>
      obtain ⟨hhead, hrest⟩ := List.pairwise_cons.mp h
      rcases List.mem_cons.mp hmem with rfl | hmem
      · simp
      · have hlt : e.1 < key := hhead (key, value) hmem
        have hne : e.1 ≠ key := fun heq => by
          rw [heq] at hlt
          exact String.lt_irrefl key hlt
        rw [List.find?_cons, decide_eq_false hne]
        exact ih hrest hmem

namespace Dictionary

theorem get?_eq_some_iff {d : Dictionary α} {key : String} {value : α} :
    d.get? key = some value ↔ (key, value) ∈ d.entries :=
  find?_eq_some_iff_mem d.ascending

theorem get?_map {β : Type} (f : α → β) (d : Dictionary α) (key : String) :
    (d.map f).get? key = (d.get? key).map f := by
  show ((d.entries.map fun e => (e.1, f e.2)).find? fun e => e.1 = key).map (·.2) = _
  rw [List.find?_map, get?, Option.map_map, Option.map_map]
  rfl

theorem map_erase {β : Type} (f : α → β) (d : Dictionary α) (key : String) :
    (d.map f).erase key = (d.erase key).map f := by
  refine eq_of_entries ?_
  show (d.entries.map fun e => (e.1, f e.2)).filter (fun e => e.1 ≠ key) =
    (d.entries.filter fun e => e.1 ≠ key).map fun e => (e.1, f e.2)
  rw [List.filter_map]
  rfl

theorem entries_insert (d : Dictionary α) (key : String) (value : α) :
    (d.insert key value).entries = insertEntry key value d.entries := rfl

theorem nodup_keys (d : Dictionary α) : (d.entries.map Prod.fst).Nodup := by
  have h : d.entries.Pairwise fun a b => a.1 < b.1 := d.ascending
  refine List.pairwise_map.mpr (h.imp ?_)
  intro a b hab he
  rw [he] at hab
  exact String.lt_irrefl _ hab

theorem insert_foldl_perm {entries : List (String × α)} {d : Dictionary α}
    (h : ((d.entries ++ entries).map Prod.fst).Nodup) :
    (entries.foldl (fun d e => d.insert e.1 e.2) d).entries.Perm (d.entries ++ entries) := by
  induction entries generalizing d with
  | nil => simp
  | cons e rest ih =>
    have hmid : (d.entries ++ e :: rest).Perm (e :: d.entries ++ rest) := List.perm_middle
    have hkeys : ((e :: d.entries ++ rest).map Prod.fst).Nodup :=
      (hmid.map Prod.fst).nodup_iff.mp h
    have hfresh : e.1 ∉ d.entries.map Prod.fst := by
      rw [List.cons_append, List.map_cons, List.nodup_cons, List.map_append] at hkeys
      exact fun he => hkeys.1 (List.mem_append_left _ he)
    have hins : (d.insert e.1 e.2).entries.Perm (e :: d.entries) :=
      insertEntry_perm e.2 hfresh
    have hall := hins.append_right rest
    rw [List.foldl_cons]
    exact (ih ((hall.map Prod.fst).nodup_iff.mpr hkeys)).trans (hall.trans hmid.symm)

/-- Where the keys differ, no entry displaces another. -/
theorem entries_ofList_perm {entries : List (String × α)}
    (h : (entries.map Prod.fst).Nodup) : (ofList entries).entries.Perm entries :=
  insert_foldl_perm (d := empty) h

theorem insert_foldl_of_ascending {entries : List (String × α)} {d : Dictionary α}
    (h : Ascending (d.entries ++ entries)) :
    (entries.foldl (fun d e => d.insert e.1 e.2) d).entries = d.entries ++ entries := by
  induction entries generalizing d with
  | nil => simp
  | cons e rest ih =>
    have hbelow : ∀ x ∈ d.entries, x.1 < e.1 := fun x hx =>
      (List.pairwise_append.mp h).2.2 x hx e List.mem_cons_self
    have hins : (d.insert e.1 e.2).entries = d.entries ++ [e] := by
      rw [entries_insert, insertEntry_of_lt e.2 hbelow]
    rw [List.foldl_cons, ih (by rw [hins, List.append_assoc]; exact h), hins, List.append_assoc]
    rfl

theorem entries_ofList_of_ascending {entries : List (String × α)} (h : Ascending entries) :
    (ofList entries).entries = entries :=
  insert_foldl_of_ascending (d := empty) h

theorem mem_insert_foldl {entries : List (String × α)} {d : Dictionary α} {x : String × α}
    (h : x ∈ (entries.foldl (fun d e => d.insert e.1 e.2) d).entries) :
    x ∈ d.entries ∨ x ∈ entries := by
  induction entries generalizing d with
  | nil => exact Or.inl h
  | cons e rest ih =>
    rcases ih h with hx | hx
    · rcases mem_insertEntry hx with hx | hx
      · exact Or.inr (by rw [hx]; exact List.mem_cons_self)
      · exact Or.inl hx
    · exact Or.inr (List.mem_cons_of_mem _ hx)

theorem mem_of_mem_ofList {entries : List (String × α)} {x : String × α}
    (h : x ∈ (ofList entries).entries) : x ∈ entries := by
  rcases mem_insert_foldl (d := empty) h with hx | hx
  · exact absurd hx (by simp [empty])
  · exact hx

/-- A list of a dictionary's entries in any order makes the dictionary again. -/
theorem ofList_of_perm {entries : List (String × α)} {d : Dictionary α}
    (h : entries.Perm d.entries) : ofList entries = d := by
  have hkeys : (entries.map Prod.fst).Nodup := (h.map Prod.fst).nodup_iff.mpr d.nodup_keys
  refine eq_of_entries (List.Perm.eq_of_pairwise ?_ (ofList entries).ascending d.ascending
    ((entries_ofList_perm hkeys).trans h))
  exact fun a b _ _ hab hba => absurd hba (String.lt_asymm hab)

/-- Lists of the same entries make the same dictionary, if the keys differ. -/
theorem ofList_eq_of_perm {entries entries' : List (String × α)} (h : entries.Perm entries')
    (hkeys : (entries'.map Prod.fst).Nodup) : ofList entries = ofList entries' :=
  ofList_of_perm (h.trans (entries_ofList_perm hkeys).symm)

theorem insert_insert (d : Dictionary α) (key : String) (value value' : α) :
    (d.insert key value).insert key value' = d.insert key value' := by
  refine ext_get? fun other => ?_
  rw [get?_insert, get?_insert, get?_insert]
  by_cases h : key = other
  · rw [if_pos h, if_pos h]
  · rw [if_neg h, if_neg h, if_neg h]

theorem insert_comm {key key' : String} (hne : key ≠ key') (d : Dictionary α) (value value' : α) :
    (d.insert key value).insert key' value' = (d.insert key' value').insert key value := by
  refine ext_get? fun other => ?_
  rw [get?_insert, get?_insert, get?_insert, get?_insert]
  by_cases h : key = other
  · rw [if_pos h, if_pos h, if_neg fun h' => hne (h.trans h'.symm)]
  · rw [if_neg h, if_neg h]

/-- What was under a key before does not matter to a list that has an entry for the key. -/
theorem insert_foldl_of_mem {entries : List (String × α)} {key : String}
    (h : key ∈ entries.map Prod.fst) (d : Dictionary α) (value : α) :
    entries.foldl (fun d e => d.insert e.1 e.2) (d.insert key value) =
      entries.foldl (fun d e => d.insert e.1 e.2) d := by
  induction entries generalizing d with
  | nil => exact absurd h List.not_mem_nil
  | cons e rest ih =>
    rw [List.foldl_cons, List.foldl_cons]
    by_cases hkey : key = e.1
    · rw [hkey, insert_insert]
    · have hrest : key ∈ rest.map Prod.fst := (List.mem_cons.mp h).resolve_left hkey
      rw [insert_comm hkey, ih hrest]

theorem insert_erase (d : Dictionary α) (key : String) (value : α) :
    (d.erase key).insert key value = d.insert key value := by
  refine ext_get? fun other => ?_
  rw [get?_insert, get?_insert, get?_erase]
  by_cases h : key = other
  · rw [if_pos h, if_pos h]
  · rw [if_neg h, if_neg h, if_neg h]

theorem erase_insert (d : Dictionary α) (key : String) (value : α) :
    (d.insert key value).erase key = d.erase key := by
  apply ext_get?
  intro other
  rw [get?_erase, get?_erase, get?_insert]
  by_cases h : key = other
  · rw [if_pos h, if_pos h]
  · rw [if_neg h, if_neg h, if_neg h]

theorem erase_of_absent {d : Dictionary α} {key : String} (h : d.get? key = none) :
    d.erase key = d := by
  apply ext_get?
  intro other
  rw [get?_erase]
  by_cases hkey : key = other
  · rw [if_pos hkey, ← hkey, h]
  · rw [if_neg hkey]

theorem insert_of_present {d : Dictionary α} {key : String} {value : α}
    (h : d.get? key = some value) : d.insert key value = d := by
  apply ext_get?
  intro other
  rw [get?_insert]
  by_cases hkey : key = other
  · rw [if_pos hkey, ← hkey, h]
  · rw [if_neg hkey]

/-- What is put in displaces only what was under its key. -/
theorem entries_insert_perm (d : Dictionary α) (key : String) (value : α) :
    (d.insert key value).entries.Perm ((key, value) :: (d.erase key).entries) := by
  have hfresh : key ∉ (d.erase key).entries.map Prod.fst := by
    intro h
    obtain ⟨e, he, hkey⟩ := List.mem_map.mp h
    exact absurd hkey (by simpa using (List.mem_filter.mp he).2)
  rw [← insert_erase, entries_insert]
  exact insertEntry_perm value hfresh

end Dictionary

end SdkShelf
