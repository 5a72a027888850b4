/-!
Dictionaries with text keys in ascending order. The order is part of the type, so two dictionaries
with the same entries are equal whatever the order of the insertions that built them.
-/

namespace SdkShelf

def insertEntry {α : Type} (key : String) (value : α) : List (String × α) → List (String × α)
  | [] => [(key, value)]
  | (k, v) :: rest =>
    if key < k then (key, value) :: (k, v) :: rest
    else if key = k then (key, value) :: rest
    else (k, v) :: insertEntry key value rest

def Ascending {α : Type} (entries : List (String × α)) : Prop :=
  entries.Pairwise fun a b => a.1 < b.1

theorem mem_insertEntry {α : Type} {key : String} {value : α} {entries : List (String × α)}
    {e : String × α} (h : e ∈ insertEntry key value entries) :
    e = (key, value) ∨ e ∈ entries := by
  induction entries with
  | nil => simpa [insertEntry] using h
  | cons head rest ih =>
    obtain ⟨k, v⟩ := head
    rw [insertEntry] at h
    split at h
    · simpa using h
    · split at h
      · rcases List.mem_cons.1 h with h | h
        · exact .inl h
        · exact .inr (List.mem_cons_of_mem _ h)
      · rcases List.mem_cons.1 h with h | h
        · exact .inr (h ▸ List.mem_cons_self)
        · rcases ih h with h | h
          · exact .inl h
          · exact .inr (List.mem_cons_of_mem _ h)

theorem ascending_insertEntry {α : Type} (key : String) (value : α)
    {entries : List (String × α)} (h : Ascending entries) :
    Ascending (insertEntry key value entries) := by
  induction entries with
  | nil => simp [insertEntry, Ascending]
  | cons head rest ih =>
    obtain ⟨k, v⟩ := head
    obtain ⟨hhead, hrest⟩ := List.pairwise_cons.1 h
    rw [insertEntry]
    split
    · rename_i hlt
      refine List.pairwise_cons.2 ⟨fun e he => ?_, h⟩
      rcases List.mem_cons.1 he with he | he
      · subst he; exact hlt
      · exact String.lt_trans hlt (hhead e he)
    · rename_i hnlt
      split
      · rename_i heq
        subst heq
        exact List.pairwise_cons.2 ⟨hhead, hrest⟩
      · rename_i hne
        refine List.pairwise_cons.2 ⟨fun e he => ?_, ih hrest⟩
        rcases mem_insertEntry he with he | he
        · subst he
          exact Classical.byContradiction fun h' =>
            hne (String.le_antisymm (String.not_lt.1 h') (String.not_lt.1 hnlt))
        · exact hhead e he

/-- A finite map from texts, kept in ascending key order. -/
structure Dictionary (α : Type) where
  entries : List (String × α)
  ascending : Ascending entries

namespace Dictionary

variable {α β : Type}

def empty : Dictionary α := ⟨[], List.Pairwise.nil⟩

def insert (d : Dictionary α) (key : String) (value : α) : Dictionary α :=
  ⟨insertEntry key value d.entries, ascending_insertEntry key value d.ascending⟩

def erase (d : Dictionary α) (key : String) : Dictionary α :=
  ⟨d.entries.filter (fun e => e.1 ≠ key), List.Pairwise.filter _ d.ascending⟩

def get? (d : Dictionary α) (key : String) : Option α :=
  (d.entries.find? (fun e => e.1 = key)).map (·.2)

def keys (d : Dictionary α) : List String := d.entries.map (·.1)

def isEmpty (d : Dictionary α) : Bool := d.entries.isEmpty

/-- The entries of a list; of two with one key the later stays. -/
def ofList (entries : List (String × α)) : Dictionary α :=
  entries.foldl (fun d e => d.insert e.1 e.2) empty

def map (f : α → β) (d : Dictionary α) : Dictionary β :=
  ⟨d.entries.map fun e => (e.1, f e.2),
    List.pairwise_map.2 (show d.entries.Pairwise (fun a b => a.1 < b.1) from d.ascending)⟩

@[simp] theorem get?_empty (key : String) : (empty : Dictionary α).get? key = none := rfl

theorem find?_insertEntry (key other : String) (value : α) (entries : List (String × α)) :
    (insertEntry key value entries).find? (fun e => e.1 = other) =
      if key = other then some (key, value) else entries.find? (fun e => e.1 = other) := by
  induction entries with
  | nil => simp [insertEntry, List.find?_cons]; split <;> simp_all
  | cons head rest ih =>
    obtain ⟨k, v⟩ := head
    rw [insertEntry]
    split
    · by_cases h : key = other <;> simp [h]
    · split
      · rename_i hk
        subst hk
        by_cases h : key = other <;> simp [h]
      · rename_i hk
        rw [List.find?_cons, ih, List.find?_cons]
        by_cases h : k = other
        · subst h
          simp [hk]
        · simp [h]

theorem get?_insert (d : Dictionary α) (key other : String) (value : α) :
    (d.insert key value).get? other = if key = other then some value else d.get? other := by
  rw [get?, insert, find?_insertEntry]
  by_cases h : key = other <;> simp [h, get?]

theorem get?_erase (d : Dictionary α) (key other : String) :
    (d.erase key).get? other = if key = other then none else d.get? other := by
  rw [get?, erase, get?, List.find?_filter]
  by_cases h : key = other
  · subst h
    simp
  · rw [if_neg h]
    congr 2
    funext e
    by_cases he : e.1 = other <;> simp [he, Ne.symm h]

theorem eq_of_entries {a b : Dictionary α} (h : a.entries = b.entries) : a = b := by
  obtain ⟨ea, ha⟩ := a
  obtain ⟨eb, hb⟩ := b
  subst h
  rfl

theorem find?_eq_none_of_lt {key : String} {entries : List (String × α)}
    (h : ∀ e ∈ entries, key < e.1) : entries.find? (fun e => e.1 = key) = none := by
  rw [List.find?_eq_none]
  intro e he hk
  exact String.lt_irrefl key (by simpa [of_decide_eq_true hk] using h e he)

theorem eq_of_find?_eq {a b : List (String × α)} (ha : Ascending a) (hb : Ascending b)
    (h : ∀ key, a.find? (fun e => e.1 = key) = b.find? (fun e => e.1 = key)) : a = b := by
  induction a generalizing b with
  | nil =>
    cases b with
    | nil => rfl
    | cons y b => have hy := h y.1; simp at hy
  | cons x a ih =>
    cases b with
    | nil => have hx := h x.1; simp at hx
    | cons y b =>
      obtain ⟨hxa, hta⟩ := List.pairwise_cons.1 ha
      obtain ⟨hyb, htb⟩ := List.pairwise_cons.1 hb
      have hxy : x.1 = y.1 := by
        refine Classical.byContradiction fun hne => ?_
        have hx := h x.1
        have hy := h y.1
        rw [List.find?_cons, List.find?_cons] at hx hy
        simp only [decide_true, Ne.symm hne, decide_false] at hx
        simp only [decide_true, hne, decide_false] at hy
        exact String.lt_asymm (hyb x (List.mem_of_find?_eq_some hx.symm))
          (hxa y (List.mem_of_find?_eq_some hy))
      have hhead : x = y := by
        have hx := h x.1
        simpa [List.find?_cons, hxy] using hx
      subst hhead
      refine congrArg (x :: ·) (ih hta htb fun key => ?_)
      by_cases hk : x.1 = key
      · subst hk
        rw [find?_eq_none_of_lt hxa, find?_eq_none_of_lt hyb]
      · have hkey := h key
        simpa [List.find?_cons, hk] using hkey

/-- A dictionary is known by what is found in it. -/
theorem ext_get? {a b : Dictionary α} (h : ∀ key, a.get? key = b.get? key) : a = b := by
  refine eq_of_entries (eq_of_find?_eq a.ascending b.ascending fun key => ?_)
  have hkey := h key
  rw [get?, get?] at hkey
  cases ha : a.entries.find? (fun e => e.1 = key) with
  | none =>
    cases hb : b.entries.find? (fun e => e.1 = key) with
    | none => rfl
    | some y => simp [ha, hb] at hkey
  | some x =>
    cases hb : b.entries.find? (fun e => e.1 = key) with
    | none => simp [ha, hb] at hkey
    | some y =>
      have hx : x.1 = key := by simpa using List.find?_some ha
      have hy : y.1 = key := by simpa using List.find?_some hb
      simp only [ha, hb, Option.map_some, Option.some.injEq] at hkey
      exact congrArg some (Prod.ext (hx.trans hy.symm) hkey)

instance : Inhabited (Dictionary α) := ⟨empty⟩

instance [DecidableEq α] : DecidableEq (Dictionary α) := fun a b =>
  if h : a.entries = b.entries then isTrue (eq_of_entries h)
  else isFalse fun e => h (e ▸ rfl)

end Dictionary

end SdkShelf
