/-!
Association lists kept in increasing key order. `insert` is the only way the library adds an
entry, and it preserves `Sorted`, so a list built with it has one value per key.
-/
namespace BrickPipeline

/-- Key and value pairs, in increasing key order where they stand for a map. -/
abbrev Entries (α : Type) := List (String × α)

namespace Entries

variable {α β : Type}

/-- The value of the first entry with the given key. -/
def get? (key : String) : Entries α → Option α
  | [] => none
  | (k, v) :: rest => if k = key then some v else get? key rest

def contains (key : String) (entries : Entries α) : Bool :=
  (get? key entries).isSome

/-- Bind a key at its place in the order, replacing an entry with that key. -/
def insert (key : String) (value : α) : Entries α → Entries α
  | [] => [(key, value)]
  | (k, v) :: rest =>
    if k = key then (key, value) :: rest
    else if key < k then (key, value) :: (k, v) :: rest
    else (k, v) :: insert key value rest

def erase (key : String) (entries : Entries α) : Entries α :=
  entries.filter fun entry => entry.1 ≠ key

/-- Bind each update in turn; a later one wins over an earlier one. -/
def insertAll (entries : Entries α) (updates : List (String × α)) : Entries α :=
  updates.foldl (fun acc update => insert update.1 update.2 acc) entries

/-- The map that a list of bindings denotes: sorted, the last binding of a key winning. -/
def ofList (bindings : List (String × α)) : Entries α :=
  insertAll [] bindings

/-- The keys, in order. -/
def keys (entries : Entries α) : List String :=
  entries.map Prod.fst

/-- The values, in key order. -/
def values (entries : Entries α) : List α :=
  entries.map Prod.snd

/-- The entries with a function applied to each value. -/
def mapValues (f : α → β) (entries : Entries α) : Entries β :=
  entries.map fun entry => (entry.1, f entry.2)

def Sorted (entries : Entries α) : Prop :=
  (keys entries).Pairwise (· < ·)

@[simp] theorem get?_nil (key : String) : get? key ([] : Entries α) = none := rfl

theorem get?_cons (key k : String) (v : α) (rest : Entries α) :
    get? key ((k, v) :: rest) = if k = key then some v else get? key rest := rfl

theorem mem_of_get? {key : String} {value : α} {entries : Entries α}
    (h : get? key entries = some value) : (key, value) ∈ entries := by
  induction entries with
  | nil => cases h
  | cons entry rest ih =>
    obtain ⟨k, v⟩ := entry
    rw [get?_cons] at h
    split at h
    · rename_i hk
      cases h
      rw [hk]
      exact List.mem_cons_self
    · exact List.mem_cons_of_mem _ (ih h)

theorem get?_insert_self (key : String) (value : α) (entries : Entries α) :
    get? key (insert key value entries) = some value := by
  induction entries with
  | nil => simp [insert, get?]
  | cons entry rest ih =>
    obtain ⟨k, v⟩ := entry
    unfold insert
    split
    · simp [get?]
    · split
      · simp [get?]
      · rename_i hk _
        simp [get?, hk, ih]

theorem get?_insert_of_ne {key other : String} (h : other ≠ key) (value : α)
    (entries : Entries α) : get? other (insert key value entries) = get? other entries := by
  induction entries with
  | nil => simp [insert, get?, Ne.symm h]
  | cons entry rest ih =>
    obtain ⟨k, v⟩ := entry
    unfold insert
    split
    · rename_i hk
      subst hk
      simp [get?, Ne.symm h]
    · split
      · simp [get?, Ne.symm h]
      · simp only [get?, ih]

theorem get?_erase_of_ne {key other : String} (h : other ≠ key) (entries : Entries α) :
    get? other (erase key entries) = get? other entries := by
  induction entries with
  | nil => rfl
  | cons entry rest ih =>
    obtain ⟨k, v⟩ := entry
    by_cases hk : k = key
    · subst hk
      rw [get?_cons, if_neg (Ne.symm h), ← ih]
      simp [erase]
    · rw [get?_cons, ← ih]
      simp [erase, hk, get?_cons]

/-- Erasing a key takes away all that binding it has added. -/
theorem erase_insert (key : String) (value : α) (entries : Entries α) :
    erase key (insert key value entries) = erase key entries := by
  induction entries with
  | nil => simp [insert, erase]
  | cons entry rest ih =>
    obtain ⟨k, v⟩ := entry
    unfold insert
    split
    · rename_i hk
      subst hk
      simp [erase]
    · split
      · simp [erase]
      · unfold erase at ih ⊢
        rw [List.filter_cons, List.filter_cons, ih]

theorem erase_erase (key : String) (entries : Entries α) :
    erase key (erase key entries) = erase key entries := by
  simp [erase]

theorem erase_mapValues (f : α → β) (key : String) (entries : Entries α) :
    erase key (mapValues f entries) = mapValues f (erase key entries) := by
  unfold erase mapValues
  rw [List.filter_map]
  rfl

theorem get?_mapValues (f : α → β) (key : String) (entries : Entries α) :
    get? key (mapValues f entries) = (get? key entries).map f := by
  induction entries with
  | nil => rfl
  | cons entry rest ih =>
    obtain ⟨k, v⟩ := entry
    rw [get?_cons, mapValues, List.map_cons, get?_cons]
    split
    · rfl
    · exact ih

theorem mapValues_insert (f : α → β) (key : String) (value : α) (entries : Entries α) :
    mapValues f (insert key value entries) = insert key (f value) (mapValues f entries) := by
  induction entries with
  | nil => rfl
  | cons entry rest ih =>
    obtain ⟨k, v⟩ := entry
    unfold mapValues at ih ⊢
    simp only [insert, List.map_cons]
    split
    · rfl
    · split
      · rfl
      · rw [List.map_cons, ih]

theorem mapValues_insertAll (f : α → β) (entries : Entries α) (updates : List (String × α)) :
    mapValues f (insertAll entries updates) =
      insertAll (mapValues f entries) (mapValues f updates) := by
  induction updates generalizing entries with
  | nil => rfl
  | cons update rest ih =>
    have hi := ih (insert update.1 update.2 entries)
    rw [mapValues_insert] at hi
    exact hi

theorem mem_keys_insert {key other : String} {value : α} {entries : Entries α} :
    other ∈ keys (insert key value entries) ↔ other = key ∨ other ∈ keys entries := by
  induction entries with
  | nil => simp [insert, keys]
  | cons entry rest ih =>
    obtain ⟨k, v⟩ := entry
    unfold insert
    split
    · rename_i hk
      subst hk
      simp [keys]
    · split
      · simp [keys]
      · simp only [keys, List.map_cons, List.mem_cons] at ih ⊢
        rw [ih]
        exact or_left_comm

theorem mem_of_mem_insert {key : String} {value : α} {entries : Entries α} {entry : String × α}
    (h : entry ∈ insert key value entries) : entry = (key, value) ∨ entry ∈ entries := by
  induction entries with
  | nil => exact Or.inl (List.mem_singleton.1 h)
  | cons first rest ih =>
    obtain ⟨k, v⟩ := first
    unfold insert at h
    split at h
    · exact (List.mem_cons.1 h).imp_right (List.mem_cons_of_mem _)
    · split at h
      · exact List.mem_cons.1 h
      · rcases List.mem_cons.1 h with h | h
        · exact Or.inr (h ▸ List.mem_cons_self)
        · exact (ih h).imp_right (List.mem_cons_of_mem _)

theorem mem_of_mem_insertAll {entries : Entries α} {updates : List (String × α)}
    {entry : String × α} (h : entry ∈ insertAll entries updates) :
    entry ∈ updates ∨ entry ∈ entries := by
  induction updates generalizing entries with
  | nil => exact Or.inr h
  | cons update rest ih =>
    rcases ih h with hr | hi
    · exact Or.inl (List.mem_cons_of_mem _ hr)
    · exact (mem_of_mem_insert hi).imp_left fun he => List.mem_cons.2 (Or.inl he)

theorem get?_eq_none {key : String} {entries : Entries α} (h : key ∉ keys entries) :
    get? key entries = none := by
  cases hg : get? key entries with
  | none => rfl
  | some value => exact absurd (List.mem_map_of_mem (mem_of_get? hg)) h

theorem contains_iff {key : String} {entries : Entries α} :
    contains key entries = true ↔ ∃ value, (key, value) ∈ entries := by
  induction entries with
  | nil => simp [contains]
  | cons entry rest ih =>
    obtain ⟨k, v⟩ := entry
    unfold contains at ih ⊢
    by_cases hk : k = key
    · simp [get?_cons, hk]
    · simp [get?_cons, hk, ih, Ne.symm hk]

/-- A look-up of a key that passes a filter of keys finds what it did before. -/
theorem get?_filter (p : String → Bool) (key : String) (entries : Entries α) :
    get? key (entries.filter fun entry => p entry.1) =
      if p key then get? key entries else none := by
  induction entries with
  | nil => simp
  | cons entry rest ih =>
    obtain ⟨k, v⟩ := entry
    by_cases hk : k = key
    · subst hk
      by_cases hp : p k = true
      · simp [hp, get?_cons]
      · simpa [hp, get?_cons] using ih
    · by_cases hp : p k = true
      · simpa [hp, hk, get?_cons] using ih
      · simpa [hp, hk, get?_cons] using ih

/-- A map holds only what it was made from. -/
theorem mem_of_mem_ofList {bindings : List (String × α)} {entry : String × α}
    (h : entry ∈ ofList bindings) : entry ∈ bindings :=
  (mem_of_mem_insertAll h).resolve_right nofun

/-- Binding a key keeps the order, so every map built by `insert` has one value per key. -/
theorem sorted_insert (key : String) (value : α) {entries : Entries α} (sorted : Sorted entries) :
    Sorted (insert key value entries) := by
  induction entries with
  | nil => simp [insert, Sorted, keys]
  | cons entry rest ih =>
    obtain ⟨k, v⟩ := entry
    obtain ⟨least, sortedRest⟩ := List.pairwise_cons.1 sorted
    unfold insert
    split
    · rename_i hk
      subst hk
      exact List.pairwise_cons.2 ⟨least, sortedRest⟩
    · rename_i hne
      split
      · rename_i hlt
        refine List.pairwise_cons.2 ⟨fun other mem => ?_, sorted⟩
        rcases List.mem_cons.1 mem with rfl | mem
        · exact hlt
        · exact String.lt_trans hlt (least other mem)
      · rename_i hge
        refine List.pairwise_cons.2 ⟨fun other mem => ?_, ih sortedRest⟩
        rcases mem_keys_insert.1 mem with rfl | mem
        · exact Decidable.byContradiction fun hlt =>
            hne (String.le_antisymm (String.not_lt.1 hge) (String.not_lt.1 hlt))
        · exact least other mem

/-- Binding a key adds an entry if the key is new. -/
theorem length_insert (key : String) (value : α) {entries : Entries α} (sorted : Sorted entries) :
    (insert key value entries).length =
      if key ∈ keys entries then entries.length else entries.length + 1 := by
  induction entries with
  | nil => rfl
  | cons entry rest ih =>
    obtain ⟨k, v⟩ := entry
    obtain ⟨least, sortedRest⟩ := List.pairwise_cons.1 sorted
    have hkeys : keys ((k, v) :: rest) = k :: keys rest := rfl
    unfold insert
    split
    · rename_i hk
      rw [hkeys, if_pos (List.mem_cons.2 (.inl hk.symm))]
      rfl
    · rename_i hne
      split
      · rename_i hlt
        have hnew : key ∉ keys ((k, v) :: rest) := by
          rw [hkeys, List.mem_cons]
          rintro (rfl | hm)
          · exact hne rfl
          · exact String.lt_irrefl key (String.lt_trans hlt (least key hm))
        rw [if_neg hnew]
        rfl
      · have hmem : key ∈ keys ((k, v) :: rest) ↔ key ∈ keys rest := by
          rw [hkeys, List.mem_cons, or_iff_right (Ne.symm hne)]
        rw [List.length_cons, List.length_cons, ih sortedRest]
        simp only [hmem]
        split <;> rfl

theorem sorted_insertAll {entries : Entries α} (sorted : Sorted entries)
    (updates : List (String × α)) : Sorted (insertAll entries updates) := by
  induction updates generalizing entries with
  | nil => exact sorted
  | cons update rest ih => exact ih (sorted_insert update.1 update.2 sorted)

theorem sorted_ofList (bindings : List (String × α)) : Sorted (ofList bindings) :=
  sorted_insertAll (show Sorted ([] : Entries α) by simp [Sorted, keys]) bindings

/-- A sorted map has one value per key. -/
theorem Sorted.nodup {entries : Entries α} (sorted : Sorted entries) : (keys entries).Nodup := by
  refine List.Pairwise.imp ?_ sorted
  rintro key other hlt rfl
  exact String.lt_irrefl key hlt

theorem get?_insertAll_of_notMem {key : String} {updates : List (String × α)}
    (h : key ∉ keys updates) (entries : Entries α) :
    get? key (insertAll entries updates) = get? key entries := by
  induction updates generalizing entries with
  | nil => rfl
  | cons update rest ih =>
    obtain ⟨hne, hrest⟩ := not_or.1 (mt List.mem_cons.2 h)
    exact (ih hrest _).trans (get?_insert_of_ne hne update.2 entries)

/-- The last update with a key is what is found under it. -/
theorem get?_insertAll_of_last {key : String} {later : List (String × α)}
    (last : key ∉ keys later) (earlier : List (String × α)) (value : α) (entries : Entries α) :
    get? key (insertAll entries (earlier ++ (key, value) :: later)) = some value := by
  rw [insertAll, List.foldl_append, List.foldl_cons]
  exact (get?_insertAll_of_notMem last _).trans (get?_insert_self key value _)

/-- An update is found if no other has its key. -/
theorem get?_insertAll_of_mem {updates : List (String × α)} (nodup : (keys updates).Nodup)
    {key : String} {value : α} (h : (key, value) ∈ updates) (entries : Entries α) :
    get? key (insertAll entries updates) = some value := by
  obtain ⟨earlier, later, rfl⟩ := List.append_of_mem h
  rw [keys, List.map_append] at nodup
  have last : key ∉ keys later := (List.nodup_cons.1 (List.nodup_append.1 nodup).2.1).1
  exact get?_insertAll_of_last last earlier value entries

/-- A key behind all others is bound at the end. -/
theorem insert_of_forall_lt {key : String} {value : α} {entries : Entries α}
    (h : ∀ other ∈ keys entries, other < key) :
    insert key value entries = entries ++ [(key, value)] := by
  induction entries with
  | nil => rfl
  | cons entry rest ih =>
    obtain ⟨k, v⟩ := entry
    have hlt : k < key := h k List.mem_cons_self
    have hne : k ≠ key := fun he => String.lt_irrefl key (he ▸ hlt)
    have hnot : ¬ key < k := fun hk => String.lt_irrefl k (String.lt_trans hlt hk)
    unfold insert
    rw [if_neg hne, if_neg hnot, ih fun other hm => h other (List.mem_cons_of_mem _ hm),
      List.cons_append]

theorem insertAll_of_sorted {entries updates : Entries α} (sorted : Sorted (entries ++ updates)) :
    insertAll entries updates = entries ++ updates := by
  induction updates generalizing entries with
  | nil => rw [List.append_nil]; rfl
  | cons update rest ih =>
    have hlt : ∀ other ∈ keys entries, other < update.1 := by
      intro other hm
      unfold Sorted keys at sorted
      rw [List.map_append] at sorted
      exact (List.pairwise_append.1 sorted).2.2 other hm update.1 List.mem_cons_self
    have hrest : Sorted ((entries ++ [update]) ++ rest) := by
      rwa [List.append_assoc, List.singleton_append]
    have hcons : insertAll entries (update :: rest) =
        insertAll (insert update.1 update.2 entries) rest := rfl
    rw [hcons, insert_of_forall_lt hlt, ih hrest, List.append_assoc, List.singleton_append]

/-- A sorted list is the map that it denotes. -/
theorem ofList_of_sorted {entries : Entries α} (sorted : Sorted entries) :
    ofList entries = entries :=
  insertAll_of_sorted sorted

theorem sorted_sublist {entries others : Entries α} (sorted : Sorted entries)
    (part : others.Sublist entries) : Sorted others :=
  List.Pairwise.sublist (part.map Prod.fst) sorted

/-- The first key of a sorted map is not among the others. -/
private theorem head_lt {entry : String × α} {rest : Entries α} (sorted : Sorted (entry :: rest))
    {key : String} (h : key ∈ keys rest) : entry.1 < key :=
  (List.pairwise_cons.1 sorted).1 key h

/-- In a sorted map every entry is found. -/
theorem get?_eq_some_iff {entries : Entries α} (sorted : Sorted entries) {key : String}
    {value : α} : get? key entries = some value ↔ (key, value) ∈ entries := by
  refine ⟨mem_of_get?, fun h => ?_⟩
  induction entries with
  | nil => cases h
  | cons entry rest ih =>
    obtain ⟨k, v⟩ := entry
    rw [get?_cons]
    rcases List.mem_cons.1 h with h | h
    · cases h
      rw [if_pos rfl]
    · have hlt : k < key := head_lt sorted (List.mem_map_of_mem h)
      have hne : k ≠ key := fun he => String.lt_irrefl key (he ▸ hlt)
      rw [if_neg hne]
      exact ih (List.pairwise_cons.1 sorted).2 h

/-- What the entries of one key of a sorted map give is what comes from the value of the key. -/
theorem flatMap_of_sorted {entries : Entries α} (sorted : Sorted entries) (key : String)
    (f : α → List β) :
    (entries.flatMap fun entry => if entry.1 = key then f entry.2 else []) =
      ((get? key entries).map f).getD [] := by
  induction entries with
  | nil => rfl
  | cons entry rest ih =>
    obtain ⟨k, v⟩ := entry
    rw [List.flatMap_cons, ih (List.pairwise_cons.1 sorted).2, get?_cons]
    by_cases hk : k = key
    · subst hk
      have hrest : get? k rest = none :=
        get?_eq_none fun hm => String.lt_irrefl k (head_lt sorted hm)
      rw [if_pos rfl, if_pos rfl, hrest]
      exact List.append_nil _
    · rw [if_neg hk, if_neg hk, List.nil_append]

/-- Two maps in key order are the same if every look-up in them is. -/
theorem ext_of_sorted {entries others : Entries α} (sorted : Sorted entries)
    (sortedOthers : Sorted others) (same : ∀ key, get? key entries = get? key others) :
    entries = others := by
  induction entries generalizing others with
  | nil =>
    cases others with
    | nil => rfl
    | cons other rest => simpa [get?] using same other.1
  | cons entry rest ih =>
    cases others with
    | nil => simpa [get?] using same entry.1
    | cons other more =>
      have first : (entry.1, entry.2) ∈ other :: more := mem_of_get? (by rw [← same]; simp [get?])
      have second : (other.1, other.2) ∈ entry :: rest := mem_of_get? (by rw [same]; simp [get?])
      -- A first key that is not the other one stands behind it, which cannot be so both ways.
      have keyEq : entry = other := by
        rcases List.mem_cons.1 first with h | h
        · exact h
        · rcases List.mem_cons.1 second with h' | h'
          · exact h'.symm
          · exact absurd (String.lt_trans (head_lt sorted (List.mem_map_of_mem h'))
              (head_lt sortedOthers (List.mem_map_of_mem h))) (String.lt_irrefl _)
      subst keyEq
      have restEq : rest = more := by
        refine ih (List.pairwise_cons.1 sorted).2 (List.pairwise_cons.1 sortedOthers).2
          fun key => ?_
        by_cases hk : entry.1 = key
        · subst hk
          rw [get?_eq_none fun hm => String.lt_irrefl _ (head_lt sorted hm),
            get?_eq_none fun hm => String.lt_irrefl _ (head_lt sortedOthers hm)]
        · have h := same key
          rwa [get?, get?, if_neg hk, if_neg hk] at h
      rw [restEq]

/-- The order of bindings with keys of their own does not matter. -/
theorem ofList_perm {bindings others : List (String × α)} (perm : bindings.Perm others)
    (nodup : (keys bindings).Nodup) : ofList bindings = ofList others := by
  have hkeys : (keys bindings).Perm (keys others) := perm.map Prod.fst
  refine ext_of_sorted (sorted_ofList bindings) (sorted_ofList others) fun key => ?_
  by_cases hm : key ∈ keys bindings
  · obtain ⟨⟨key, value⟩, hbound, rfl⟩ := List.mem_map.1 hm
    have hfirst := get?_insertAll_of_mem nodup hbound []
    have hsecond := get?_insertAll_of_mem (hkeys.nodup_iff.1 nodup) (perm.mem_iff.1 hbound) []
    exact hfirst.trans hsecond.symm
  · have hfirst := get?_insertAll_of_notMem hm []
    have hsecond := get?_insertAll_of_notMem (mt hkeys.mem_iff.2 hm) []
    exact hfirst.trans hsecond.symm

end Entries
end BrickPipeline
