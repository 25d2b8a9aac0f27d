import PipeQuery.Proofs.Matches
import PipeQuery.Search.Facets

/-!
# Facets count values

For each field, facets say how often each of its values occurs.  Every source
counts for itself and the counts are added up, so that in the end they are
those of all records together (`Facets.Count`).

* `Facets.get?_merge`, `Facets.get?_addCounts`: what merging does to a field and
  to a value.
* `Facets.Count.merge`: the merge of the counts of some records and of others
  counts them all.
* `MemoryReader.facetCounts_eq`: a reader counts its matches.
* `Facets.count_ofMatches`: merging source by source, sources without matches
  left out, counts all matches.
-/

namespace PipeQuery

namespace OrderedMap

variable {κ α : Type} [DecidableEq κ]

/-- The map that has a value for each of some keys. -/
theorem get?_ofList_map (f : κ → α) (keys : List κ) (key : κ) :
    (ofList (keys.map fun k => (k, f k))).get? key = if key ∈ keys then some (f key) else none := by
  rw [← List.filterMap_eq_map]
  exact get?_ofList_filterMap (fun k => some (f k)) keys key

end OrderedMap

theorem MemoryReader.mem_sortTexts {text : String} {texts : List String} :
    text ∈ sortTexts texts ↔ text ∈ texts :=
  (List.mergeSort_perm texts _).mem_iff

/-! ## Merging -/

namespace Facets

/-- Adding counts adds to each value that has some. -/
theorem get?_addCounts (counts more : OrderedMap String Int) (value : String) :
    (addCounts counts more).get? value =
      match more.get? value with
      | none => counts.get? value
      | some n => some ((counts.get? value).getD 0 + n) := by
  unfold addCounts addCount
  rw [OrderedMap.get?_foldl_update_entries (0 : Int) (fun n m => m + n) more counts value]
  cases more.get? value <;> rfl

/-- Merging adds the counts of each field. -/
theorem get?_merge (facets more : Facets) (field : String) :
    (facets.merge more).get? field =
      match more.get? field with
      | none => facets.get? field
      | some counts => some (addCounts ((facets.get? field).getD .empty) counts) := by
  unfold merge
  rw [OrderedMap.get?_foldl_update_entries OrderedMap.empty
    (fun (counts : OrderedMap String Int) old => addCounts old counts) more facets field]
  cases OrderedMap.get? more field <;> rfl

/-- The count of a value of a field, if there is one. -/
def countOf? (facets : Facets) (field value : String) : Option Int :=
  (facets.get? field).bind fun counts => counts.get? value

theorem countOf?_merge (facets more : Facets) (field value : String) :
    countOf? (facets.merge more) field value =
      match more.countOf? field value with
      | none => facets.countOf? field value
      | some n => some ((facets.countOf? field value).getD 0 + n) := by
  unfold countOf?
  rw [get?_merge]
  cases hmore : more.get? field with
  | none => rfl
  | some counts =>
      simp only [Option.bind_some, get?_addCounts]
      cases hold : facets.get? field <;> cases counts.get? value <;> simp

theorem isSome_get?_merge (facets more : Facets) (field : String) :
    ((facets.merge more).get? field).isSome ↔
      (facets.get? field).isSome ∨ (more.get? field).isSome := by
  rw [get?_merge]
  cases more.get? field <;> simp

/-! ## Counting records -/

/-- The number of records that have a value in a field. -/
def occurrences (field value : String) (records : List Record) : Nat :=
  records.countP fun r => r.get? field == some value

theorem occurrences_append (field value : String) (records more : List Record) :
    occurrences field value (records ++ more) =
      occurrences field value records + occurrences field value more :=
  List.countP_append

/-- A number of occurrences as it is kept: nothing is kept of values that do
not occur. -/
def kept? (n : Nat) : Option Int := if n = 0 then none else some n

theorem kept?_add (m n : Nat) :
    kept? (m + n) = match kept? n with
      | none => kept? m
      | some k => some ((kept? m).getD 0 + k) := by
  unfold kept?
  by_cases hn : n = 0
  · simp [hn]
  · by_cases hm : m = 0
    · simp [hn, hm]
    · simp [hn, hm]

/-- The facets are those of some records: for every field asked for, or for
all if there are none, they say how often each value occurs among the records.
They have no other fields, and nothing at all if there are no records. -/
structure Count (fields : List String) (records : List Record) (facets : Facets) : Prop where
  value : ∀ field, fields = [] ∨ field ∈ fields → ∀ value,
    facets.countOf? field value = kept? (occurrences field value records)
  named : ∀ field, (facets.get? field).isSome ↔
    if fields = [] then ∃ r ∈ records, (r.get? field).isSome else records ≠ [] ∧ field ∈ fields

theorem Count.empty (fields : List String) : Count fields [] .empty where
  value _ _ _ := rfl
  named field := by simp

/-- **Counts add up**: what is merged counts the records of both sides. -/
theorem Count.merge {fields : List String} {records more : List Record} {facets facets' : Facets}
    (h : Count fields records facets) (h' : Count fields more facets') :
    Count fields (records ++ more) (facets.merge facets') where
  value field hfield value := by
    rw [countOf?_merge, h.value field hfield, h'.value field hfield, occurrences_append, kept?_add]
  named field := by
    rw [isSome_get?_merge, h.named, h'.named]
    by_cases hfields : fields = []
    · simp only [hfields, if_true, List.mem_append, or_and_right, exists_or]
    · simp only [hfields, if_false, ne_eq, List.append_eq_nil_iff]
      tauto

/-! ## One source -/

/-- The counts of some fields of some records, or of all their fields. -/
def ofRecords (fields : List String) (records : List Record) : Facets :=
  .ofList ((if fields.isEmpty then
      MemoryReader.sortTexts (firstOccurrences (records.flatMap fun r => r.fields.keys))
    else fields).map fun field => (field, MemoryReader.valueCounts records field))

theorem valueCounts_eq (records : List Record) (field : String) :
    MemoryReader.valueCounts records field =
      ((records.map Record.fields).filterMap fun fields => fields.get? field).foldl
        (fun counts value => counts.update value 0 (· + 1)) .empty := by
  rw [List.filterMap_map, List.foldl_filterMap]
  refine congrFun (congrFun (congrArg List.foldl ?_) _) _
  funext counts r
  rw [Function.comp_apply, ← Record.get?]
  cases r.get? field <;> rfl

/-- Facets depend on the fields of the records only. -/
theorem ofRecords_congr (fields : List String) {records more : List Record}
    (h : records.map Record.fields = more.map Record.fields) :
    ofRecords fields records = ofRecords fields more := by
  have hkeys : (records.flatMap fun r => r.fields.keys) = more.flatMap fun r => r.fields.keys := by
    rw [← List.flatMap_map Record.fields, h, List.flatMap_map]
  have hcounts : MemoryReader.valueCounts records = MemoryReader.valueCounts more := by
    funext field
    rw [valueCounts_eq, h, ← valueCounts_eq]
  rw [ofRecords, ofRecords, hkeys, hcounts]

theorem foldl_succ {α : Type} (items : List α) (n : Int) :
    items.foldl (fun m _ => m + 1) n = n + items.length := by
  induction items generalizing n with
  | nil => simp
  | cons a rest ih =>
      rw [List.foldl_cons, ih, List.length_cons]
      omega

theorem get?_valueCounts (records : List Record) (field value : String) :
    (MemoryReader.valueCounts records field).get? value =
      kept? (occurrences field value records) := by
  have hlength : (((records.map Record.fields).filterMap fun fields => fields.get? field).filter
      fun v => decide (v = value)).length = occurrences field value records := by
    rw [← List.countP_eq_length_filter, List.countP_filterMap, List.countP_map, occurrences]
    refine List.countP_congr fun r _ => ?_
    rw [Function.comp_apply, ← Record.get?]
    cases r.get? field <;> simp
  rw [valueCounts_eq]
  have hfold := OrderedMap.get?_foldl_update (fun v : String => v) (fun _ => (0 : Int))
    (fun _ n => n + 1) ((records.map Record.fields).filterMap fun fields => fields.get? field)
    .empty value
  rw [hfold, ← hlength]
  cases ((records.map Record.fields).filterMap fun fields => fields.get? field).filter
      fun v => decide (v = value) with
  | nil => rfl
  | cons first rest =>
      simp only [foldl_succ, kept?, List.length_cons, Nat.add_eq_zero_iff]
      simp

theorem mem_shownFields (fields : List String) (records : List Record) (field : String) :
    field ∈ (if fields.isEmpty then
        MemoryReader.sortTexts (firstOccurrences (records.flatMap fun r => r.fields.keys))
      else fields) ↔
      if fields = [] then ∃ r ∈ records, (r.get? field).isSome else field ∈ fields := by
  cases fields with
  | nil =>
      simp only [List.isEmpty_nil, if_true, MemoryReader.mem_sortTexts, mem_firstOccurrences,
        List.mem_flatMap, Record.get?, OrderedMap.isSome_get?_iff]
  | cons f rest => simp

/-- A value occurs only in records that have the field. -/
theorem occurrences_eq_zero {field : String} {records : List Record}
    (h : ¬∃ r ∈ records, (r.get? field).isSome) (value : String) :
    occurrences field value records = 0 := by
  rw [occurrences, List.countP_eq_zero]
  intro r hr hvalue
  exact h ⟨r, hr, by rw [eq_of_beq hvalue]; rfl⟩

/-- **The facets of some records count them.** -/
theorem count_ofRecords (fields : List String) {records : List Record} (h : records ≠ []) :
    Count fields records (ofRecords fields records) where
  value field hfield value := by
    rw [countOf?, ofRecords, OrderedMap.get?_ofList_map]
    by_cases hmem : field ∈ (if fields.isEmpty then
        MemoryReader.sortTexts (firstOccurrences (records.flatMap fun r => r.fields.keys))
      else fields)
    · rw [if_pos hmem, Option.bind_some, get?_valueCounts]
    · rw [if_neg hmem, Option.bind_none]
      rw [mem_shownFields] at hmem
      -- a field that is not shown was not asked for, or no record has it
      rcases hfield with rfl | hfield
      · rw [if_pos rfl] at hmem
        rw [occurrences_eq_zero hmem]
        rfl
      · rw [if_neg (List.ne_nil_of_mem hfield)] at hmem
        exact absurd hfield hmem
  named field := by
    rw [ofRecords, OrderedMap.get?_ofList_map]
    have hshown := mem_shownFields fields records field
    by_cases hfields : fields = []
    · rw [if_pos hfields] at hshown ⊢
      rw [← hshown]
      split <;> simp [*]
    · simp [hfields, h]

end Facets

namespace MemoryReader

/-- The records that were hit have the fields of the matches. -/
theorem map_fields_hitRecords (reader : MemoryReader) (query : String) (range : Option TimeRange) :
    (reader.hitRecords (reader.hits query range)).map Record.fields =
      (matchesIn reader.source reader.records query range).map Record.fields := by
  rw [← map_shown_hits, hitRecords, List.map_filterMap, List.map_map, ← List.filterMap_eq_map]
  refine List.filterMap_congr fun h hh => ?_
  obtain ⟨r, hr, _⟩ := mem_hits hh
  simp [shown, recordOf, hr]

/-- **A reader counts its matches.** -/
theorem facetCounts_eq (reader : MemoryReader) (query : String) (range : Option TimeRange)
    (fields : List String) :
    reader.facetCounts query range fields =
      Facets.ofRecords fields (matchesIn reader.source reader.records query range) :=
  Facets.ofRecords_congr fields (reader.map_fields_hitRecords query range)

end MemoryReader

/-! ## All sources -/

namespace Facets

/-- The facets of the matches of several sources, merged source by source;
sources without matches add nothing. -/
def ofMatches (fields : List String) (found : List (List Record)) : Facets :=
  found.foldl (fun facets records =>
    if records = [] then facets else facets.merge (ofRecords fields records)) .empty

theorem count_foldl (fields : List String) (found : List (List Record)) {records : List Record}
    {facets : Facets} (h : Count fields records facets) :
    Count fields (records ++ found.flatten) (found.foldl (fun facets records =>
      if records = [] then facets else facets.merge (ofRecords fields records)) facets) := by
  induction found generalizing records facets with
  | nil => simpa using h
  | cons first rest ih =>
      rw [List.foldl_cons, List.flatten_cons, ← List.append_assoc]
      by_cases hfirst : first = []
      · rw [if_pos hfirst, hfirst, List.append_nil]
        exact ih h
      · rw [if_neg hfirst]
        exact ih (h.merge (count_ofRecords fields hfirst))

/-- **Merged source by source, the facets count all matches.** -/
theorem count_ofMatches (fields : List String) (found : List (List Record)) :
    Count fields found.flatten (ofMatches fields found) := by
  have h := count_foldl fields found (Count.empty fields)
  rwa [List.nil_append] at h

end Facets

end PipeQuery
