import PipeQuery.Proofs.Deliveries
import PipeQuery.Proofs.FacetCounts
import Mathlib.Algebra.BigOperators.Group.List.Basic

/-!
# Facets are added

Two maps are added key by key: a key of both has the sum of its values, in the place that it has
in the first map, and the other keys of the second map come behind.  The counts of a field are
added in this way, and so are facets, whose values are such counts; so both are monoids, and all
that merging does follows from that.

* `OrderedMap.ext_valueAt`: a map is the order of its keys and their values.
* `OrderedMap.valueAt_add`, `OrderedMap.keys_add`: what a sum of maps holds.
* `OrderedMap.sumOver_add`: the sum of the values of some keys is additive.
* `OrderedMap.relabel_add`: counting labels in place of keys goes through sums, with the order in
  which the labels come; values that share a label are added up either way.
* `Facets.merged_bucketed`: merging and counting ranges commute, and no count is lost.
-/

namespace PipeQuery

namespace OrderedMap

/-! ## Values, zero where there is none -/

section Values

variable {κ M : Type} [DecidableEq κ] [Zero M]

/-- The value of a key; zero where the key is not there. -/
def valueAt (m : OrderedMap κ M) (key : κ) : M := (m.get? key).getD 0

omit [Zero M] in
theorem get?_of_notMem_keys {m : OrderedMap κ M} {key : κ} (h : key ∉ m.keys) :
    m.get? key = none := by
  rw [← Option.not_isSome_iff_eq_none, isSome_get?_iff]
  exact h

theorem valueAt_of_notMem_keys {m : OrderedMap κ M} {key : κ} (h : key ∉ m.keys) :
    m.valueAt key = 0 := by
  rw [valueAt, get?_of_notMem_keys h, Option.getD_none]

theorem entries_eq_map (m : OrderedMap κ M) :
    m.entries = m.keys.map fun key => (key, m.valueAt key) := by
  rw [keys, List.map_map]
  refine (List.map_id _).symm.trans (List.map_congr_left fun e he => ?_)
  have hvalue : m.get? e.1 = some e.2 := get?_eq_some_iff.2 he
  rw [Function.comp_apply, valueAt, hvalue, Option.getD_some, id]

/-- **A map is the order of its keys and their values.** -/
theorem ext_valueAt {m n : OrderedMap κ M} (hkeys : m.keys = n.keys)
    (hvalues : ∀ key, m.valueAt key = n.valueAt key) : m = n := by
  apply eq_of_entries
  rw [entries_eq_map, entries_eq_map, hkeys]
  exact List.map_congr_left fun key _ => by rw [hvalues]

end Values

/-! ## Sums of maps -/

section Sums

variable {κ M : Type} [DecidableEq κ] [AddMonoid M]

/-- Adds to the value of a key. -/
def addEntry (m : OrderedMap κ M) (e : κ × M) : OrderedMap κ M := m.update e.1 0 (· + e.2)

instance : Zero (OrderedMap κ M) := ⟨empty⟩

instance : Add (OrderedMap κ M) := ⟨fun m n => n.entries.foldl addEntry m⟩

omit [DecidableEq κ] [AddMonoid M] in
theorem keys_zero : (0 : OrderedMap κ M).keys = [] := rfl

theorem valueAt_zero (key : κ) : (0 : OrderedMap κ M).valueAt key = 0 := rfl

theorem valueAt_addEntry (m : OrderedMap κ M) (e : κ × M) (key : κ) :
    (m.addEntry e).valueAt key = m.valueAt key + if e.1 = key then e.2 else 0 := by
  rw [valueAt, addEntry, get?_update]
  by_cases h : key = e.1
  · rw [if_pos h, if_pos h.symm, Option.getD_some, valueAt, h]
  · rw [if_neg h, if_neg (Ne.symm h), add_zero, valueAt]

theorem keys_addEntry (m : OrderedMap κ M) (e : κ × M) :
    (m.addEntry e).keys = if e.1 ∈ m.keys then m.keys else m.keys ++ [e.1] :=
  keys_insert m e.1 _

theorem keys_foldl_addEntry (entries : List (κ × M)) (m : OrderedMap κ M) :
    (entries.foldl addEntry m).keys =
      m.keys ++ (firstOccurrences (entries.map Prod.fst)).filter fun key => key ∉ m.keys :=
  keys_foldl addEntry Prod.fst keys_addEntry entries m

theorem valueAt_foldl_addEntry (entries : List (κ × M)) (m : OrderedMap κ M) (key : κ) :
    (entries.foldl addEntry m).valueAt key =
      m.valueAt key + ((entries.filter fun e => e.1 = key).map Prod.snd).sum := by
  induction entries generalizing m with
  | nil => simp
  | cons e rest ih =>
      rw [List.foldl_cons, ih, valueAt_addEntry, add_assoc]
      by_cases h : e.1 = key
      · simp [h]
      · simp [h]

/-- Behind the keys of the first map come the new keys of the second. -/
theorem keys_add (m n : OrderedMap κ M) :
    (m + n).keys = m.keys ++ n.keys.filter fun key => key ∉ m.keys := by
  have h := keys_foldl_addEntry n.entries m
  rwa [firstOccurrences_of_nodup n.nodup] at h

/-- **Values are added key by key.** -/
theorem valueAt_add (m n : OrderedMap κ M) (key : κ) :
    (m + n).valueAt key = m.valueAt key + n.valueAt key := by
  have h := valueAt_foldl_addEntry n.entries m key
  rw [filter_entries] at h
  refine h.trans (congrArg (m.valueAt key + ·) ?_)
  rw [valueAt]
  cases n.get? key <;> simp

theorem mem_keys_add {m n : OrderedMap κ M} {key : κ} :
    key ∈ (m + n).keys ↔ key ∈ m.keys ∨ key ∈ n.keys := by
  rw [keys_add, List.mem_append, List.mem_filter]
  by_cases h : key ∈ m.keys <;> simp [h]

/-- Maps are added as their values are: grouping does not matter. -/
instance : AddMonoid (OrderedMap κ M) where
  add_assoc l m n := by
    refine ext_valueAt ?_ fun key => ?_
    · simp only [keys_add, List.filter_append, List.filter_filter, List.append_assoc,
        List.mem_append, List.mem_filter]
      congr 2
      refine List.filter_congr fun key _ => ?_
      by_cases hl : key ∈ l.keys <;> simp [hl]
    · simp only [valueAt_add, add_assoc]
  zero_add m := by
    refine ext_valueAt ?_ fun key => ?_
    · simp [keys_add, keys_zero]
    · rw [valueAt_add, valueAt_zero, zero_add]
  add_zero m := by
    refine ext_valueAt ?_ fun key => ?_
    · simp [keys_add, keys_zero]
    · rw [valueAt_add, valueAt_zero, add_zero]
  nsmul := nsmulRec

end Sums

/-! ## Sums over keys -/

section SumOver

variable {κ M : Type} [AddCommMonoid M]

/-- The sum of the values of some keys. -/
def sumOver (p : κ → Bool) (m : OrderedMap κ M) : M :=
  ((m.entries.filter fun e => p e.1).map Prod.snd).sum

/-- The sum of all values. -/
def total (m : OrderedMap κ M) : M := m.sumOver fun _ => true

theorem sumOver_zero (p : κ → Bool) : (0 : OrderedMap κ M).sumOver p = 0 := rfl

variable [DecidableEq κ]

theorem sumOver_addEntry (p : κ → Bool) (m : OrderedMap κ M) (e : κ × M) :
    (m.addEntry e).sumOver p = m.sumOver p + if p e.1 then e.2 else 0 := by
  obtain ⟨entries, hnodup⟩ := m
  obtain ⟨key, value⟩ := e
  show (((setEntry key (((entries.find? fun e => decide (e.1 = key)).map Prod.snd).getD 0 + value)
      entries).filter fun e => p e.1).map Prod.snd).sum =
    ((entries.filter fun e => p e.1).map Prod.snd).sum + _
  clear hnodup
  induction entries with
  | nil => by_cases hp : p key <;> simp [setEntry, hp]
  | cons entry rest ih =>
      by_cases he : entry.1 = key
      · subst he
        by_cases hp : p entry.1
        · simp [setEntry, hp, add_assoc, add_comm value]
        · simp [setEntry, hp]
      · by_cases hp : p entry.1
        · simp [setEntry, he, hp, ih, add_assoc]
        · simp [setEntry, he, hp, ih]

theorem sumOver_foldl_addEntry (p : κ → Bool) (entries : List (κ × M)) (m : OrderedMap κ M) :
    (entries.foldl addEntry m).sumOver p =
      m.sumOver p + ((entries.filter fun e => p e.1).map Prod.snd).sum := by
  induction entries generalizing m with
  | nil => simp
  | cons e rest ih =>
      rw [List.foldl_cons, ih, sumOver_addEntry, add_assoc]
      by_cases hp : p e.1 <;> simp [hp]

/-- **Sums over keys are additive.** -/
theorem sumOver_add (p : κ → Bool) (m n : OrderedMap κ M) :
    (m + n).sumOver p = m.sumOver p + n.sumOver p :=
  sumOver_foldl_addEntry p n.entries m

theorem total_add (m n : OrderedMap κ M) : (m + n).total = m.total + n.total :=
  sumOver_add _ m n

end SumOver

/-! ## Labels in place of keys -/

section Labels

variable {κ κ' M : Type} [DecidableEq κ'] [AddCommMonoid M]

/-- The values under labels in place of their keys; values that share a label are added up. -/
def relabel (label : κ → κ') (m : OrderedMap κ M) : OrderedMap κ' M :=
  m.entries.foldl (fun labelled e => labelled.addEntry (label e.1, e.2)) 0

theorem relabel_eq (label : κ → κ') (m : OrderedMap κ M) :
    m.relabel label = (m.entries.map fun e => (label e.1, e.2)).foldl addEntry 0 := by
  rw [relabel, List.foldl_map]

/-- The labels come in the order in which the keys first give them. -/
theorem keys_relabel (label : κ → κ') (m : OrderedMap κ M) :
    (m.relabel label).keys = firstOccurrences (m.keys.map label) := by
  rw [relabel_eq, keys_foldl_addEntry, keys_zero, List.nil_append, List.map_map, keys, List.map_map]
  exact List.filter_eq_self.2 (by simp)

/-- A label has the values of the keys that give it. -/
theorem valueAt_relabel (label : κ → κ') (m : OrderedMap κ M) (l : κ') :
    (m.relabel label).valueAt l = m.sumOver fun key => label key = l := by
  rw [relabel_eq, valueAt_foldl_addEntry, valueAt_zero, zero_add, List.filter_map, List.map_map]
  rfl

/-- No value is lost under labels. -/
theorem total_relabel (label : κ → κ') (m : OrderedMap κ M) :
    (m.relabel label).total = m.total := by
  rw [total, relabel_eq, sumOver_foldl_addEntry, sumOver_zero, zero_add, List.filter_map,
    List.map_map]
  rfl

/-- The labels of keys that are there already are there already. -/
theorem filter_map_label [DecidableEq κ] (label : κ → κ') (known keys : List κ) :
    ((keys.filter fun key => key ∉ known).map label).filter (fun l => l ∉ known.map label) =
      (keys.map label).filter fun l => l ∉ known.map label := by
  rw [List.filter_map, List.filter_map, List.filter_filter]
  congr 1
  refine List.filter_congr fun key _ => ?_
  by_cases hkey : key ∈ known
  · simp only [hkey, not_true_eq_false, decide_false, Bool.and_false, Function.comp_apply,
      List.mem_map_of_mem hkey]
  · simp [hkey]

/-- **Labels go through sums**, in the order in which they come. -/
theorem relabel_add [DecidableEq κ] (label : κ → κ') (m n : OrderedMap κ M) :
    (m + n).relabel label = m.relabel label + n.relabel label := by
  refine ext_valueAt ?_ fun l => ?_
  · rw [keys_relabel, keys_add, keys_add, keys_relabel, keys_relabel, List.map_append,
      firstOccurrences_append]
    simp only [mem_firstOccurrences]
    rw [← firstOccurrences_filter, filter_map_label, firstOccurrences_filter]
  · simp only [valueAt_relabel, valueAt_add, sumOver_add]

end Labels

end OrderedMap

/-! ## Facets -/

namespace Facets

theorem merge_eq_add (facets more : Facets) : facets.merge more = facets + more := rfl

theorem bucketCounts_eq_relabel (bounds : List Number) (counts : OrderedMap String Int) :
    bucketCounts bounds counts = counts.relabel (bucketLabel · bounds) := rfl

/-- The facets of several parts, merged one after the other. -/
def merged (parts : List Facets) : Facets := parts.foldl merge .empty

theorem merged_eq_sum (parts : List Facets) : merged parts = parts.sum :=
  List.sum_eq_foldl.symm

/-- The sum of all counts of a field. -/
def totalOf (facets : Facets) (field : String) : Int := (facets.valueAt field).total

theorem totalOf_add (facets more : Facets) (field : String) :
    (facets + more).totalOf field = facets.totalOf field + more.totalOf field := by
  rw [totalOf, OrderedMap.valueAt_add, OrderedMap.total_add, totalOf, totalOf]

theorem totalOf_merged (parts : List Facets) (field : String) :
    (merged parts).totalOf field = (parts.map fun part => part.totalOf field).sum := by
  rw [merged_eq_sum]
  induction parts with
  | nil => rfl
  | cons part rest ih => rw [List.sum_cons, totalOf_add, ih, List.map_cons, List.sum_cons]

/-! ### Ranges -/

/-- The counts of a field by ranges, if it has bounds. -/
def bucketField (buckets : OrderedMap String (List Number)) (field : String)
    (counts : OrderedMap String Int) : OrderedMap String Int :=
  match buckets.get? field with
  | none => counts
  | some bounds => bucketCounts bounds counts

variable (buckets : OrderedMap String (List Number))

theorem bucketField_zero (field : String) : bucketField buckets field 0 = 0 := by
  unfold bucketField
  cases buckets.get? field <;> rfl

theorem bucketField_add (field : String) (counts more : OrderedMap String Int) :
    bucketField buckets field (counts + more) =
      bucketField buckets field counts + bucketField buckets field more := by
  unfold bucketField
  cases buckets.get? field with
  | none => rfl
  | some bounds => exact OrderedMap.relabel_add (bucketLabel · bounds) counts more

theorem total_bucketField (field : String) (counts : OrderedMap String Int) :
    (bucketField buckets field counts).total = counts.total := by
  unfold bucketField
  cases buckets.get? field with
  | none => rfl
  | some bounds => exact OrderedMap.total_relabel (bucketLabel · bounds) counts

theorem bucketed_eq_ofList (facets : Facets) :
    facets.bucketed buckets =
      .ofList (facets.keys.map fun field =>
        (field, bucketField buckets field (facets.valueAt field))) := by
  rw [bucketed, OrderedMap.entries_eq_map, List.map_map]
  congr 1
  refine List.map_congr_left fun field _ => ?_
  rw [Function.comp_apply, bucketField]
  cases buckets.get? field <;> rfl

theorem keys_bucketed (facets : Facets) : (facets.bucketed buckets).keys = facets.keys := by
  rw [bucketed_eq_ofList, OrderedMap.keys_ofList, List.map_map]
  exact (congrArg firstOccurrences (List.map_id _)).trans (firstOccurrences_of_nodup facets.nodup)

theorem valueAt_bucketed (facets : Facets) (field : String) :
    (facets.bucketed buckets).valueAt field = bucketField buckets field (facets.valueAt field) := by
  rw [OrderedMap.valueAt, bucketed_eq_ofList, OrderedMap.get?_ofList_map]
  by_cases h : field ∈ facets.keys
  · rw [if_pos h, Option.getD_some]
  · rw [if_neg h, OrderedMap.valueAt_of_notMem_keys h, bucketField_zero, Option.getD_none]

/-- **Counting ranges goes through merging.** -/
theorem bucketed_add (facets more : Facets) :
    (facets + more).bucketed buckets = facets.bucketed buckets + more.bucketed buckets := by
  refine OrderedMap.ext_valueAt ?_ fun field => ?_
  · simp only [keys_bucketed, OrderedMap.keys_add]
  · simp only [valueAt_bucketed, OrderedMap.valueAt_add, bucketField_add]

theorem bucketed_merged (parts : List Facets) :
    (merged parts).bucketed buckets = merged (parts.map fun part => part.bucketed buckets) := by
  rw [merged_eq_sum, merged_eq_sum]
  induction parts with
  | nil => rfl
  | cons part rest ih => rw [List.sum_cons, bucketed_add, ih, List.map_cons, List.sum_cons]

/-- Counting ranges keeps the total of each field. -/
theorem totalOf_bucketed (facets : Facets) (field : String) :
    (facets.bucketed buckets).totalOf field = facets.totalOf field := by
  rw [totalOf, valueAt_bucketed, total_bucketField, totalOf]

theorem mem_keys_merged {parts : List Facets} {field : String} :
    field ∈ (merged parts).keys ↔ ∃ part ∈ parts, field ∈ part.keys := by
  rw [merged_eq_sum]
  induction parts with
  | nil => simp [OrderedMap.keys_zero]
  | cons part rest ih => rw [List.sum_cons, OrderedMap.mem_keys_add, ih]; simp

/-! ### Order -/

/-- Two facets have the same fields with the same counts of the same values, in whatever order
the fields and the values come. -/
structure SameCounts (facets more : Facets) : Prop where
  fields : ∀ field, field ∈ facets.keys ↔ field ∈ more.keys
  values : ∀ field value, value ∈ (facets.valueAt field).keys ↔ value ∈ (more.valueAt field).keys
  counts : ∀ field value, (facets.valueAt field).valueAt value = (more.valueAt field).valueAt value

theorem sameCounts_add_comm (facets more : Facets) :
    SameCounts (facets + more) (more + facets) where
  fields field := by rw [OrderedMap.mem_keys_add, OrderedMap.mem_keys_add, or_comm]
  values field value := by
    simp only [OrderedMap.valueAt_add, OrderedMap.mem_keys_add]
    exact or_comm
  counts field value := by
    simp only [OrderedMap.valueAt_add]
    exact Int.add_comm _ _

/-- **Merging and counting ranges commute.**  Whether parts are merged before ranges are counted
or behind, the same fields come in the same order with the same counts in the same order; they are
the fields of the parts, and each has the total of its counts in all parts.  Merging may be
grouped in any way, and it may be done in any order, which only shows in the order of the keys. -/
theorem merged_bucketed (parts : List Facets) (buckets : OrderedMap String (List Number)) :
    (merged parts).bucketed buckets = merged (parts.map fun part => part.bucketed buckets) ∧
    (∀ field, (field ∈ ((merged parts).bucketed buckets).keys ↔ ∃ part ∈ parts, field ∈ part.keys) ∧
      ((merged parts).bucketed buckets).totalOf field = (merged parts).totalOf field ∧
      (merged parts).totalOf field = (parts.map fun part => part.totalOf field).sum) ∧
    (∀ a b c : Facets, (a.merge b).merge c = a.merge (b.merge c)) ∧
    ∀ a b : Facets, SameCounts (a.merge b) (b.merge a) := by
  refine ⟨bucketed_merged buckets parts, fun field => ⟨?_, ?_, totalOf_merged parts field⟩,
    fun a b c => ?_, fun a b => sameCounts_add_comm a b⟩
  · rw [keys_bucketed]
    exact mem_keys_merged
  · exact totalOf_bucketed buckets _ field
  · simp only [merge_eq_add, add_assoc]

end Facets

end PipeQuery
