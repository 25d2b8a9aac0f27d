/-!
# Ordered maps

Maps that keep the order in which their keys first came: a new key goes to the
end, a known key keeps its place when its value changes, and a key that was
erased and comes again goes to the end.  Keys are pairwise distinct by type.

Two maps are equal if they have the same entries in the same order
(`eq_of_entries`).  Each operation is described by what it does to the value of
a key (`get?_insert`, `get?_erase`, `get?_mapValues`) and to the order of the
keys (`keys_insert`, `keys_erase`, `keys_mapValues`).  `get?_foldl_update` says
what becomes of a key in a whole run of updates.
-/

namespace PipeQuery

/-- A list of entries with pairwise distinct keys. -/
structure OrderedMap (κ α : Type) where
  entries : List (κ × α)
  nodup : (entries.map Prod.fst).Nodup
  deriving DecidableEq

namespace OrderedMap

variable {κ α β : Type} [DecidableEq κ]

/-- The entries with the value of `key` set: in its place if the key is there,
at the end otherwise. -/
def setEntry (key : κ) (value : α) : List (κ × α) → List (κ × α)
  | [] => [(key, value)]
  | entry :: rest =>
    if entry.1 = key then (key, value) :: rest else entry :: setEntry key value rest

theorem mem_keys_setEntry {key k : κ} {value : α} {entries : List (κ × α)} :
    k ∈ (setEntry key value entries).map Prod.fst ↔ k = key ∨ k ∈ entries.map Prod.fst := by
  induction entries with
  | nil => simp [setEntry]
  | cons entry rest ih =>
    by_cases h : entry.1 = key
    · simp [setEntry, h]
    · simp only [setEntry, h, if_false, List.map_cons, List.mem_cons, ih]
      exact or_left_comm

theorem nodup_setEntry (key : κ) (value : α) {entries : List (κ × α)}
    (h : (entries.map Prod.fst).Nodup) : ((setEntry key value entries).map Prod.fst).Nodup := by
  induction entries with
  | nil => simp [setEntry]
  | cons entry rest ih =>
    rw [List.map_cons, List.nodup_cons] at h
    by_cases he : entry.1 = key
    · subst he
      simpa [setEntry] using h
    · simp only [setEntry, he, if_false, List.map_cons, List.nodup_cons]
      exact ⟨fun hm => (mem_keys_setEntry.1 hm).elim he h.1, ih h.2⟩

/-- The map without entries. -/
def empty : OrderedMap κ α := ⟨[], List.nodup_nil⟩

instance : Inhabited (OrderedMap κ α) := ⟨empty⟩

/-- The keys in order. -/
def keys (m : OrderedMap κ α) : List κ := m.entries.map Prod.fst

/-- The values in the order of their keys. -/
def values (m : OrderedMap κ α) : List α := m.entries.map Prod.snd

/-- Whether there are no entries. -/
def isEmpty (m : OrderedMap κ α) : Bool := m.entries.isEmpty

/-- The value of a key. -/
def get? (m : OrderedMap κ α) (key : κ) : Option α :=
  (m.entries.find? fun e => e.1 = key).map Prod.snd

/-- Whether a key has a value. -/
def contains (m : OrderedMap κ α) (key : κ) : Bool := (m.get? key).isSome

/-- Sets the value of a key, in its place or at the end. -/
def insert (m : OrderedMap κ α) (key : κ) (value : α) : OrderedMap κ α :=
  ⟨setEntry key value m.entries, nodup_setEntry key value m.nodup⟩

/-- Removes a key with its value. -/
def erase (m : OrderedMap κ α) (key : κ) : OrderedMap κ α :=
  ⟨m.entries.filter fun e => !decide (e.1 = key),
    m.nodup.sublist (List.filter_sublist.map Prod.fst)⟩

/-- Changes the value of a key, which starts from `start` when it is new. -/
def update (m : OrderedMap κ α) (key : κ) (start : α) (change : α → α) : OrderedMap κ α :=
  m.insert key (change ((m.get? key).getD start))

/-- The map of the entries, inserted one after the other. -/
def ofList (entries : List (κ × α)) : OrderedMap κ α :=
  entries.foldl (fun m e => m.insert e.1 e.2) empty

omit [DecidableEq κ] in
theorem map_fst_mapEntries (f : κ → α → β) (entries : List (κ × α)) :
    (entries.map fun e => (e.1, f e.1 e.2)).map Prod.fst = entries.map Prod.fst := by
  simp [List.map_map, Function.comp_def]

/-- Every value replaced by its image. -/
def mapValues (f : α → β) (m : OrderedMap κ α) : OrderedMap κ β :=
  ⟨m.entries.map fun e => (e.1, f e.2), by
    rw [map_fst_mapEntries (fun _ a => f a)]; exact m.nodup⟩

/-! ## Entries and keys -/

omit [DecidableEq κ] in
/-- A map is its entries in their order. -/
theorem eq_of_entries {m n : OrderedMap κ α} (h : m.entries = n.entries) : m = n := by
  cases m
  cases n
  subst h
  rfl

/-- The first entry of a key is the only one. -/
theorem find?_eq_some_iff_mem {entries : List (κ × α)} (h : (entries.map Prod.fst).Nodup)
    {key : κ} {value : α} :
    (entries.find? fun e => decide (e.1 = key)) = some (key, value) ↔ (key, value) ∈ entries := by
  induction entries with
  | nil => simp
  | cons entry rest ih =>
    rw [List.map_cons, List.nodup_cons] at h
    by_cases he : entry.1 = key
    · subst he
      have hrest : (entry.1, value) ∉ rest := fun hm => h.1 (List.mem_map.2 ⟨_, hm, rfl⟩)
      simp [hrest, eq_comm]
    · have hne : (key, value) ≠ entry := fun hc => he (hc ▸ rfl)
      simp [he, hne, ih h.2]

/-- A key has a value exactly if the two are an entry. -/
theorem get?_eq_some_iff {m : OrderedMap κ α} {key : κ} {value : α} :
    m.get? key = some value ↔ (key, value) ∈ m.entries := by
  rw [get?, Option.map_eq_some_iff, ← find?_eq_some_iff_mem m.nodup]
  constructor
  · rintro ⟨⟨k, v⟩, hfind, rfl⟩
    have hk : k = key := by simpa using List.find?_some hfind
    exact hk ▸ hfind
  · exact fun h => ⟨_, h, rfl⟩

/-- A key has a value exactly if it is among the keys. -/
theorem isSome_get?_iff {m : OrderedMap κ α} {key : κ} :
    (m.get? key).isSome ↔ key ∈ m.keys := by
  rw [get?, Option.isSome_map, List.find?_isSome, keys, List.mem_map]
  simp

@[simp]
theorem get?_empty (key : κ) : (empty : OrderedMap κ α).get? key = none := rfl

omit [DecidableEq κ] in
@[simp]
theorem keys_empty : (empty : OrderedMap κ α).keys = [] := rfl

/-! ## Insertion -/

theorem find?_setEntry (key k : κ) (value : α) (entries : List (κ × α)) :
    ((setEntry key value entries).find? fun e => decide (e.1 = k)).map Prod.snd =
      if k = key then some value
      else (entries.find? fun e => decide (e.1 = k)).map Prod.snd := by
  induction entries with
  | nil => by_cases h : key = k <;> simp [setEntry, h, eq_comm]
  | cons entry rest ih =>
    by_cases he : entry.1 = key
    · by_cases hk : k = key
      · simp [setEntry, he, hk]
      · simp [setEntry, he, hk, Ne.symm hk]
    · by_cases hk : entry.1 = k
      · have hne : k ≠ key := fun h => he (hk.trans h)
        simp [setEntry, hk, hne]
      · simp [setEntry, he, hk, ih]

/-- Inserting sets the value of one key and no other. -/
@[simp]
theorem get?_insert (m : OrderedMap κ α) (key k : κ) (value : α) :
    (m.insert key value).get? k = if k = key then some value else m.get? k :=
  find?_setEntry key k value m.entries

theorem map_fst_setEntry (key : κ) (value : α) (entries : List (κ × α)) :
    (setEntry key value entries).map Prod.fst =
      if key ∈ entries.map Prod.fst then entries.map Prod.fst
      else entries.map Prod.fst ++ [key] := by
  induction entries with
  | nil => simp [setEntry]
  | cons entry rest ih =>
    by_cases he : entry.1 = key
    · simp [setEntry, he]
    · simp only [setEntry, he, if_false, List.map_cons, ih, List.mem_cons, Ne.symm he, false_or]
      split <;> simp

/-- A known key keeps its place, a new one goes to the end. -/
theorem keys_insert (m : OrderedMap κ α) (key : κ) (value : α) :
    (m.insert key value).keys = if key ∈ m.keys then m.keys else m.keys ++ [key] :=
  map_fst_setEntry key value m.entries

theorem mem_keys_insert {m : OrderedMap κ α} {key k : κ} {value : α} :
    k ∈ (m.insert key value).keys ↔ k = key ∨ k ∈ m.keys :=
  mem_keys_setEntry

/-! ## Removal and change -/

/-- Erasing takes one key away. -/
@[simp]
theorem get?_erase (m : OrderedMap κ α) (key k : κ) :
    (m.erase key).get? k = if k = key then none else m.get? k := by
  unfold get? erase
  rw [List.find?_filter]
  split
  · next h => simp [h]
  · next h =>
    congr 2
    funext e
    by_cases he : e.1 = k <;> simp [he, h]

theorem keys_erase (m : OrderedMap κ α) (key : κ) :
    (m.erase key).keys = m.keys.filter fun k => !decide (k = key) := by
  simp [keys, erase, List.filter_map, Function.comp_def]

theorem mem_keys_erase {m : OrderedMap κ α} {key k : κ} :
    k ∈ (m.erase key).keys ↔ k ∈ m.keys ∧ k ≠ key := by
  simp [keys_erase]

omit [DecidableEq κ] in
@[simp]
theorem keys_mapValues (f : α → β) (m : OrderedMap κ α) : (m.mapValues f).keys = m.keys :=
  map_fst_mapEntries (fun _ a => f a) m.entries

/-- Changing all values changes the value of each key. -/
@[simp]
theorem get?_mapValues (f : α → β) (m : OrderedMap κ α) (key : κ) :
    (m.mapValues f).get? key = (m.get? key).map f := by
  simp [get?, mapValues, List.find?_map, Function.comp_def]

theorem setEntry_map (f : α → β) (key : κ) (value : α) (entries : List (κ × α)) :
    setEntry key (f value) (entries.map fun e => (e.1, f e.2)) =
      (setEntry key value entries).map fun e => (e.1, f e.2) := by
  induction entries with
  | nil => rfl
  | cons entry rest ih =>
    by_cases he : entry.1 = key
    · simp [setEntry, he]
    · simp [setEntry, he, ih]

@[simp]
theorem mapValues_insert (f : α → β) (m : OrderedMap κ α) (key : κ) (value : α) :
    (m.insert key value).mapValues f = (m.mapValues f).insert key (f value) :=
  eq_of_entries (setEntry_map f key value m.entries).symm

@[simp]
theorem mapValues_erase (f : α → β) (m : OrderedMap κ α) (key : κ) :
    (m.erase key).mapValues f = (m.mapValues f).erase key := by
  apply eq_of_entries
  simp [mapValues, erase, List.filter_map, Function.comp_def]

omit [DecidableEq κ] in
@[simp]
theorem mapValues_mapValues {γ : Type} (g : β → γ) (f : α → β) (m : OrderedMap κ α) :
    (m.mapValues f).mapValues g = m.mapValues fun a => g (f a) := by
  apply eq_of_entries
  simp [mapValues, Function.comp_def]

omit [DecidableEq κ] in
@[simp]
theorem mapValues_self (m : OrderedMap κ α) : (m.mapValues fun a => a) = m := by
  apply eq_of_entries
  simp [mapValues]

@[simp]
theorem get?_update (m : OrderedMap κ α) (key k : κ) (start : α) (change : α → α) :
    (m.update key start change).get? k =
      if k = key then some (change ((m.get? key).getD start)) else m.get? k :=
  get?_insert ..

/-- The entries of a key are one or none. -/
theorem filter_entries (m : OrderedMap κ α) (key : κ) :
    (m.entries.filter fun e => e.1 = key) = ((m.get? key).map fun value => (key, value)).toList := by
  obtain ⟨entries, hnodup⟩ := m
  show entries.filter _ =
    (((entries.find? fun e => e.1 = key).map Prod.snd).map fun value => (key, value)).toList
  induction entries with
  | nil => rfl
  | cons entry rest ih =>
    rw [List.map_cons, List.nodup_cons] at hnodup
    by_cases he : entry.1 = key
    · subst he
      have hrest : (rest.filter fun e => decide (e.1 = entry.1)) = [] := by
        rw [List.filter_eq_nil_iff]
        intro e hmem hkey
        exact hnodup.1 (List.mem_map.2 ⟨e, hmem, of_decide_eq_true hkey⟩)
      simp [hrest]
    · simp [he, ih hnodup.2]

end OrderedMap

/-- The items without repeats, each at its first place. -/
def firstOccurrences {α : Type} [DecidableEq α] : List α → List α
  | [] => []
  | a :: rest => a :: (firstOccurrences rest).filter (fun b => !decide (b = a))

theorem mem_firstOccurrences {α : Type} [DecidableEq α] {a : α} {items : List α} :
    a ∈ firstOccurrences items ↔ a ∈ items := by
  induction items with
  | nil => simp [firstOccurrences]
  | cons b rest ih =>
    by_cases hab : a = b
    · simp [firstOccurrences, hab]
    · simp [firstOccurrences, hab, ih]

theorem nodup_firstOccurrences {α : Type} [DecidableEq α] (items : List α) :
    (firstOccurrences items).Nodup := by
  induction items with
  | nil => simp [firstOccurrences]
  | cons b rest ih =>
    rw [firstOccurrences, List.nodup_cons]
    exact ⟨by simp, ih.sublist List.filter_sublist⟩

/-! ## Maps of lists -/

namespace OrderedMap

variable {κ α : Type} [DecidableEq κ]

/-- The value that comes last with a key. -/
def lastValue? (key : κ) (entries : List (κ × α)) : Option α :=
  (entries.filter fun e => e.1 = key).getLast?.map Prod.snd

theorem lastValue?_cons (key : κ) (entry : κ × α) (rest : List (κ × α)) :
    lastValue? key (entry :: rest) =
      (lastValue? key rest).or (if key = entry.1 then some entry.2 else none) := by
  by_cases h : entry.1 = key
  · rw [lastValue?, lastValue?, List.filter_cons_of_pos (by simpa using h),
      List.getLast?_cons, if_pos h.symm]
    cases (rest.filter fun e => decide (e.1 = key)).getLast? <;> rfl
  · rw [lastValue?, List.filter_cons_of_neg (by simpa using h), if_neg (Ne.symm h), Option.or_none]
    rfl

theorem lastValue?_map {β : Type} (f : α → β) (key : κ) (entries : List (κ × α)) :
    lastValue? key (entries.map fun e => (e.1, f e.2)) = (lastValue? key entries).map f := by
  rw [lastValue?, lastValue?, List.filter_map, List.getLast?_map, Option.map_map, Option.map_map]
  rfl

/-- Where the keys are different, each has the value it stands with. -/
theorem lastValue?_of_mem {entries : List (κ × α)} (hnodup : (entries.map Prod.fst).Nodup)
    {key : κ} {value : α} (h : (key, value) ∈ entries) : lastValue? key entries = some value := by
  have hfilter := filter_entries ⟨entries, hnodup⟩ key
  rw [get?_eq_some_iff.2 h] at hfilter
  rw [lastValue?, hfilter]
  rfl

theorem lastValue?_of_notMem {entries : List (κ × α)} {key : κ} (h : key ∉ entries.map Prod.fst) :
    lastValue? key entries = none := by
  have hnone : (entries.filter fun e => decide (e.1 = key)) = [] := by
    rw [List.filter_eq_nil_iff]
    intro e he hkey
    exact h (List.mem_map.2 ⟨e, he, of_decide_eq_true hkey⟩)
  rw [lastValue?, hnone]
  rfl

theorem get?_foldl_insert (key : κ) (entries : List (κ × α)) (m : OrderedMap κ α) :
    (entries.foldl (fun m e => m.insert e.1 e.2) m).get? key =
      (lastValue? key entries).or (m.get? key) := by
  induction entries generalizing m with
  | nil => rfl
  | cons entry rest ih =>
    rw [List.foldl_cons, ih, get?_insert, lastValue?_cons, Option.or_assoc]
    split
    · rfl
    · rfl

/-- The last value of a key counts. -/
theorem get?_ofList (key : κ) (entries : List (κ × α)) :
    (ofList entries).get? key = lastValue? key entries := by
  rw [ofList, get?_foldl_insert, get?_empty, Option.or_none]

/-- A map of some keys, each with the value it has if it has one. -/
theorem get?_ofList_filterMap (f : κ → Option α) (keys : List κ) (key : κ) :
    (ofList (keys.filterMap fun k => (f k).map fun a => (k, a))).get? key =
      if key ∈ keys then f key else none := by
  rw [get?_ofList]
  induction keys with
  | nil => rfl
  | cons k rest ih =>
    by_cases hk : key = k
    · subst hk
      cases hf : f key <;> by_cases hrest : key ∈ rest <;>
        simp [hf, lastValue?_cons, ih, hrest]
    · cases hf : f k <;> simp [hf, lastValue?_cons, ih, hk]

/-- Steps that each see to one key put the new keys behind the others, in the
order in which they first come. -/
theorem keys_foldl {ι : Type} (step : OrderedMap κ α → ι → OrderedMap κ α) (keyOf : ι → κ)
    (hstep : ∀ m i, (step m i).keys = if keyOf i ∈ m.keys then m.keys else m.keys ++ [keyOf i])
    (items : List ι) (m : OrderedMap κ α) :
    (items.foldl step m).keys =
      m.keys ++ (firstOccurrences (items.map keyOf)).filter fun k => k ∉ m.keys := by
  induction items generalizing m with
  | nil => simp [firstOccurrences]
  | cons item rest ih =>
    rw [List.foldl_cons, ih, hstep, List.map_cons, firstOccurrences]
    by_cases h : keyOf item ∈ m.keys
    · rw [if_pos h, List.filter_cons_of_neg (by simpa using h), List.filter_filter]
      congr 1
      refine List.filter_congr fun k _ => ?_
      by_cases hk : k = keyOf item
      · simp [hk, h]
      · simp [hk]
    · rw [if_neg h, List.filter_cons_of_pos (by simpa using h), List.filter_filter,
        List.append_assoc, List.singleton_append]
      congr 2
      refine List.filter_congr fun k _ => ?_
      by_cases hk : k = keyOf item
      · simp [hk]
      · simp [hk]

theorem keys_foldl_insert (entries : List (κ × α)) (m : OrderedMap κ α) :
    (entries.foldl (fun m e => m.insert e.1 e.2) m).keys =
      m.keys ++ (firstOccurrences (entries.map Prod.fst)).filter fun k => k ∉ m.keys :=
  keys_foldl _ Prod.fst (fun m e => keys_insert m e.1 e.2) entries m

/-- The keys are in the order in which they first come. -/
theorem keys_ofList (entries : List (κ × α)) :
    (ofList entries).keys = firstOccurrences (entries.map Prod.fst) := by
  rw [ofList, keys_foldl_insert, keys_empty, List.nil_append, List.filter_eq_self]
  simp

/-! ## Folds of updates -/

section Updates

variable {ι : Type} (keyOf : ι → κ) (start : ι → α) (change : ι → α → α)

/-- The value of a key after some updates: it starts as the first update of the
key says, and takes the updates of that key in their order. -/
theorem get?_foldl_update (items : List ι) (m : OrderedMap κ α) (key : κ) :
    (items.foldl (fun m i => m.update (keyOf i) (start i) (change i)) m).get? key =
      match items.filter fun i => keyOf i = key with
      | [] => m.get? key
      | first :: rest =>
        some ((first :: rest).foldl (fun a i => change i a) ((m.get? key).getD (start first))) := by
  induction items generalizing m with
  | nil => rfl
  | cons item rest ih =>
    rw [List.foldl_cons, ih, get?_update]
    by_cases h : keyOf item = key
    · rw [List.filter_cons_of_pos (by simpa using h), if_pos h.symm, h]
      cases rest.filter fun i => decide (keyOf i = key) <;> rfl
    · rw [List.filter_cons_of_neg (by simpa using h), if_neg (Ne.symm h)]

end Updates

/-- Updating a map by the entries of another changes each key of the other once. -/
theorem get?_foldl_update_entries {β : Type} (start : α) (change : β → α → α)
    (more : OrderedMap κ β) (m : OrderedMap κ α) (key : κ) :
    (more.entries.foldl (fun m e => m.update e.1 start (change e.2)) m).get? key =
      match more.get? key with
      | none => m.get? key
      | some b => some (change b ((m.get? key).getD start)) := by
  have hfold := get?_foldl_update Prod.fst (fun _ => start) (fun e : κ × β => change e.2)
    more.entries m key
  rw [filter_entries] at hfold
  rw [hfold]
  cases more.get? key <;> rfl

end OrderedMap

end PipeQuery
