import PipeQuery.Proofs.NumbersIn
import PipeQuery.Stage.Stats
import Mathlib.Algebra.GroupWithZero.Nat
import Mathlib.Data.List.Perm.Basic

/-!
# What aggregations come to

A tally takes one record at a time.  What it has come to in the end is said
here of the list of all records: how many there are, which different texts
their field has, and the numbers in these texts, one after the other
(`Tally.foldl_add_texts`, `Tally.foldl_add_numbers`).

From that, the order of the records does not matter to a count, to the number
of different texts, and to the least and the greatest number
(`Tally.value_of_perm`); nor does it matter to the rows of a table of groups,
except that it orders them (`Stats.rows_of_perm`).  For the least and the
greatest number this takes two facts: among numbers that are not negative,
equal ones are the same, and an aggregation reads no others.
-/

namespace PipeQuery

/-! ## The lesser of two -/

/-- The one with the lesser key; the first of two with equal keys. -/
def lesser {α : Type} (key : α → ℤ) (a b : α) : α := if key b < key a then b else a

theorem lesser_comm {α : Type} (key : α → ℤ) {x y : α} (h : key x = key y → x = y) :
    lesser key x y = lesser key y x := by
  unfold lesser
  rcases lt_trichotomy (key x) (key y) with hxy | hxy | hxy
  · rw [if_neg (by omega), if_pos hxy]
  · rw [h hxy]
  · rw [if_pos hxy, if_neg (by omega)]

/-- Two that are alike only if they are the same may be taken in either order. -/
theorem lesser_right_comm {α : Type} (key : α → ℤ) (z : α) {x y : α} (h : key x = key y → x = y) :
    lesser key (lesser key z x) y = lesser key (lesser key z y) x := by
  unfold lesser
  by_cases hx : key x < key z
  · by_cases hy : key y < key z
    · rw [if_pos hx, if_pos hy]
      exact lesser_comm key h
    · rw [if_pos hx, if_neg hy, if_pos hx, if_neg (by omega)]
  · rw [if_neg hx]
    by_cases hy : key y < key z
    · rw [if_pos hy, if_neg (by omega)]
    · rw [if_neg hy, if_neg hx]

namespace Binary64

theorem gt_iff_rank_lt {a b : Binary64} (ha : a.isNaN = false) (hb : b.isNaN = false) :
    a.gt b = true ↔ b.rank < a.rank := by
  have horder := order?_eq_some ha hb
  rw [gt, beq_iff_eq]
  cases h : a.order? b with
  | none => cases a <;> cases b <;> simp [order?, isNaN] at h ha hb
  | some o =>
      rw [h] at horder
      cases o <;> simp at horder ⊢ <;> omega

/-- Numbers that are not negative are told apart by their order. -/
theorem IsCount.eq_of_rank_eq {a b : Binary64} (ha : a.IsCount) (hb : b.IsCount)
    (h : a.rank = b.rank) : a = b := by
  cases ha with
  | infinite =>
      cases hb with
      | infinite => rfl
      | finite v _ hv => exact absurd (Int.ofNat_inj.1 h) hv.ne'
  | finite u _ hu =>
      cases hb with
      | infinite => exact absurd (Int.ofNat_inj.1 h) hu.ne
      | finite v _ _ =>
          obtain rfl : u = v := Int.ofNat_inj.1 h
          rfl

theorem min_eq_lesser {a b : Binary64} (ha : a.isNaN = false) (hb : b.isNaN = false) :
    a.min b = lesser rank a b := by
  simp only [min, lesser, lt_iff_rank_lt hb ha]

theorem max_eq_lesser {a b : Binary64} (ha : a.isNaN = false) (hb : b.isNaN = false) :
    a.max b = lesser (fun x => -x.rank) a b := by
  simp only [max, lesser, gt_iff_rank_lt hb ha, Int.neg_lt_neg_iff]

theorem isNaN_lesser {key : Binary64 → ℤ} {a b : Binary64} (ha : a.isNaN = false)
    (hb : b.isNaN = false) : (lesser key a b).isNaN = false := by
  unfold lesser
  split <;> assumption

theorem min_comm {x y : Binary64} (hx : x.IsCount) (hy : y.IsCount) : x.min y = y.min x := by
  rw [min_eq_lesser hx.isNaN_eq_false hy.isNaN_eq_false,
    min_eq_lesser hy.isNaN_eq_false hx.isNaN_eq_false, lesser_comm _ (hx.eq_of_rank_eq hy)]

theorem max_comm {x y : Binary64} (hx : x.IsCount) (hy : y.IsCount) : x.max y = y.max x := by
  rw [max_eq_lesser hx.isNaN_eq_false hy.isNaN_eq_false,
    max_eq_lesser hy.isNaN_eq_false hx.isNaN_eq_false,
    lesser_comm _ fun h => hx.eq_of_rank_eq hy (Int.neg_inj.1 h)]

/-- Counts may be taken into a minimum in either order. -/
theorem min_right_comm (z : Binary64) {x y : Binary64} (hx : x.IsCount) (hy : y.IsCount) :
    (z.min x).min y = (z.min y).min x := by
  have hx' := hx.isNaN_eq_false
  have hy' := hy.isNaN_eq_false
  cases hz : z.isNaN with
  | true => cases z <;> simp [isNaN, min, lt, order?] at hz ⊢; cases hx <;> cases hy <;> rfl
  | false =>
      rw [min_eq_lesser hz hx', min_eq_lesser hz hy', min_eq_lesser (isNaN_lesser hz hx') hy',
        min_eq_lesser (isNaN_lesser hz hy') hx']
      exact lesser_right_comm _ _ (hx.eq_of_rank_eq hy)

/-- Counts may be taken into a maximum in either order. -/
theorem max_right_comm (z : Binary64) {x y : Binary64} (hx : x.IsCount) (hy : y.IsCount) :
    (z.max x).max y = (z.max y).max x := by
  have hx' := hx.isNaN_eq_false
  have hy' := hy.isNaN_eq_false
  cases hz : z.isNaN with
  | true => cases z <;> simp [isNaN, max, gt, order?] at hz ⊢; cases hx <;> cases hy <;> rfl
  | false =>
      rw [max_eq_lesser hz hx', max_eq_lesser hz hy', max_eq_lesser (isNaN_lesser hz hx') hy',
        max_eq_lesser (isNaN_lesser hz hy') hx']
      exact lesser_right_comm _ _ fun h => hx.eq_of_rank_eq hy (Int.neg_inj.1 h)

end Binary64

/-! ## Lists without repeats -/

theorem perm_firstOccurrences {α : Type} [DecidableEq α] {l l' : List α} (h : l.Perm l') :
    (firstOccurrences l).Perm (firstOccurrences l') :=
  (List.perm_ext_iff_of_nodup (nodup_firstOccurrences l) (nodup_firstOccurrences l')).2
    fun a => by rw [mem_firstOccurrences, mem_firstOccurrences, h.mem_iff]

/-- **Counting key by key** counts every item once, if the keys are different and none
is missing. -/
theorem sum_countP_of_nodup {α κ : Type} [DecidableEq κ] (keyOf : α → κ) {keys : List κ}
    (hnodup : keys.Nodup) {items : List α} (hkeys : ∀ a ∈ items, keyOf a ∈ keys) :
    (keys.map fun key => items.countP fun a => keyOf a = key).sum = items.length := by
  induction keys generalizing items with
  | nil =>
      cases items with
      | nil => rfl
      | cons a rest => exact nomatch hkeys a (List.mem_cons_self ..)
  | cons key rest ih =>
      obtain ⟨hkey, hrest⟩ := List.nodup_cons.1 hnodup
      -- the other keys count the other items
      have hothers : ∀ a ∈ items.filter fun a => ¬ keyOf a = key, keyOf a ∈ rest := by
        intro a ha
        obtain ⟨hmem, hne⟩ := List.mem_filter.1 ha
        exact (List.mem_cons.1 (hkeys a hmem)).resolve_left (of_decide_eq_true hne)
      have hcounts : ∀ k ∈ rest, (items.countP fun a => keyOf a = k) =
          (items.filter fun a => ¬ keyOf a = key).countP fun a => keyOf a = k := by
        intro k hk
        rw [List.countP_filter]
        refine List.countP_congr fun a _ => ?_
        rw [Bool.and_eq_true, decide_eq_true_eq, decide_eq_true_eq]
        refine (and_iff_left_of_imp fun heq => ?_).symm
        rintro rfl
        exact hkey (heq ▸ hk)
      have hsplit := items.length_eq_countP_add_countP fun a => decide (keyOf a = key)
      rw [List.map_cons, List.sum_cons, List.map_congr_left hcounts, ih hrest hothers, hsplit,
        ← List.countP_eq_length_filter]
      simp only [decide_not, decide_eq_true_eq]

namespace OrderedMap

variable {κ α : Type} [DecidableEq κ]

/-- The values of a map are those of its keys. -/
theorem values_eq_filterMap (m : OrderedMap κ α) : m.values = m.keys.filterMap m.get? := by
  rw [keys, List.filterMap_map, values, ← List.filterMap_eq_map]
  exact List.filterMap_congr fun e he => (get?_eq_some_iff.2 he).symm

theorem values_eq_map {m : OrderedMap κ α} {f : κ → α}
    (h : ∀ key ∈ m.keys, m.get? key = some (f key)) : m.values = m.keys.map f := by
  rw [values_eq_filterMap, ← List.filterMap_eq_map]
  exact List.filterMap_congr h

end OrderedMap

/-! ## Tallies -/

/-- The texts that some records have in a field. -/
def textsOf (field : String) (records : List Record) : List String :=
  records.filterMap fun r => r.get? field

/-- The numbers in these texts. -/
def numbersOf (field : String) (records : List Record) : List Binary64 :=
  records.filterMap fun r => (r.get? field).bind numberIn?

theorem isCount_of_mem_numbersOf {field : String} {records : List Record} {x : Binary64}
    (h : x ∈ numbersOf field records) : x.IsCount := by
  obtain ⟨r, _, hr⟩ := List.mem_filterMap.1 h
  obtain ⟨text, _, htext⟩ := Option.bind_eq_some_iff.1 hr
  exact isCount_of_numberIn? htext

namespace Tally

/-- The tally of some records. -/
def ofRecords (m : Measure) (records : List Record) : Tally := records.foldl (add m) start

/-- A tally that has seen more records, and nothing in them. -/
def seen (t : Tally) (n : Nat) : Tally := { t with records := t.records + n }

theorem seen_seen (t : Tally) (m n : Nat) : (t.seen m).seen n = t.seen (m + n) := by
  simp [seen, Nat.add_assoc]

theorem seen_addText (t : Tally) (text : String) (n : Nat) :
    (t.addText text).seen n = (t.seen n).addText text := by
  by_cases h : text ∈ t.texts <;> simp [addText, seen, h]

theorem seen_addNumber (t : Tally) (x : Binary64) (n : Nat) :
    (t.addNumber x).seen n = (t.seen n).addNumber x := rfl

/-- A tally that takes at most one thing of each record takes them in their
order. -/
theorem foldl_of_step {α : Type} {step : Tally → Record → Tally} {take : Tally → α → Tally}
    {found? : Record → Option α} (hnone : ∀ t r, found? r = none → step t r = t.seen 1)
    (hsome : ∀ t r a, found? r = some a → step t r = take (t.seen 1) a)
    (hseen : ∀ t a n, (take t a).seen n = take (t.seen n) a) (records : List Record) (t : Tally) :
    records.foldl step t = (records.filterMap found?).foldl take (t.seen records.length) := by
  have hfold : ∀ (items : List α) (t : Tally) (n : Nat),
      (items.foldl take t).seen n = items.foldl take (t.seen n) := by
    intro items t n
    induction items generalizing t with
    | nil => rfl
    | cons a rest ih => rw [List.foldl_cons, ih, hseen, List.foldl_cons]
  induction records generalizing t with
  | nil => rfl
  | cons r rest ih =>
      rw [List.foldl_cons, ih, List.length_cons, Nat.add_comm, ← seen_seen]
      cases hfound : found? r with
      | none => rw [hnone t r hfound, List.filterMap_cons_none hfound]
      | some a =>
          rw [hsome t r a hfound, List.filterMap_cons_some hfound, List.foldl_cons, hseen]

/-- A count sees the records. -/
theorem foldl_add_count (records : List Record) (t : Tally) :
    records.foldl (add .count) t = t.seen records.length := by
  induction records generalizing t with
  | nil => rfl
  | cons r rest ih =>
      rw [List.foldl_cons, ih, List.length_cons, Nat.add_comm, ← seen_seen]
      rfl

/-- **Different texts**: a tally takes the texts of the field, in their order. -/
theorem foldl_add_texts (field : String) (records : List Record) (t : Tally) :
    records.foldl (add (.ofField .distinct field)) t =
      (textsOf field records).foldl addText (t.seen records.length) := by
  refine foldl_of_step (fun t r h => ?_) (fun t r text h => ?_) seen_addText records t
  · simp [add, h, seen]
  · simp [add, h, seen]

/-- **Numbers**: a tally takes the numbers in the texts of the field, in their
order. -/
theorem foldl_add_numbers {function : FieldFunction} (hfunction : function ≠ .distinct)
    (field : String) (records : List Record) (t : Tally) :
    records.foldl (add (.ofField function field)) t =
      (numbersOf field records).foldl addNumber (t.seen records.length) := by
  refine foldl_of_step (fun t r h => ?_) (fun t r x h => ?_) seen_addNumber records t
  · cases htext : r.get? field with
    | none => simp [add, htext, seen]
    | some text =>
        rw [htext, Option.bind_some] at h
        simp [add, htext, hfunction, h, seen]
  · obtain ⟨text, htext, hnumber⟩ := Option.bind_eq_some_iff.1 h
    simp [add, htext, hfunction, hnumber, seen]

/-! ## Texts -/

theorem texts_foldl_addText (texts : List String) (t : Tally) :
    (texts.foldl addText t).texts =
      t.texts ++ (firstOccurrences texts).filter fun text => text ∉ t.texts := by
  induction texts generalizing t with
  | nil => simp [firstOccurrences]
  | cons text rest ih =>
      rw [List.foldl_cons, ih, firstOccurrences, addText]
      by_cases h : text ∈ t.texts
      · rw [if_pos (by simpa using h), List.filter_cons_of_neg (by simpa using h),
          List.filter_filter]
        congr 1
        refine List.filter_congr fun other _ => ?_
        by_cases hother : other = text
        · simp [hother, h]
        · simp [hother]
      · rw [if_neg (by simpa using h), List.filter_cons_of_pos (by simpa using h),
          List.filter_filter, List.append_assoc, List.singleton_append]
        congr 2
        refine List.filter_congr fun other _ => ?_
        by_cases hother : other = text
        · simp [hother]
        · simp [hother]

/-! ## Numbers -/

/-- Keeps one of the number that is kept, if there is one, and another. -/
def keep (choose : Binary64 → Binary64 → Binary64) (kept : Option Binary64) (x : Binary64) :
    Option Binary64 :=
  some ((kept.map fun y => choose y x).getD x)

theorem least_foldl_addNumber (numbers : List Binary64) (t : Tally) :
    (numbers.foldl addNumber t).least = numbers.foldl (keep Binary64.min) t.least := by
  refine (List.foldl_hom least ?_).symm
  intro t x
  cases h : t.least <;> simp [addNumber, keep, h]

theorem greatest_foldl_addNumber (numbers : List Binary64) (t : Tally) :
    (numbers.foldl addNumber t).greatest = numbers.foldl (keep Binary64.max) t.greatest := by
  refine (List.foldl_hom greatest ?_).symm
  intro t x
  cases h : t.greatest <;> simp [addNumber, keep, h]

/-- What is kept of counts does not depend on their order. -/
theorem foldl_keep_of_perm {choose : Binary64 → Binary64 → Binary64}
    (hcomm : ∀ {x y : Binary64}, x.IsCount → y.IsCount → choose x y = choose y x)
    (hright : ∀ (z : Binary64) {x y : Binary64}, x.IsCount → y.IsCount →
      choose (choose z x) y = choose (choose z y) x)
    {numbers numbers' : List Binary64} (h : numbers.Perm numbers')
    (hcounts : ∀ x ∈ numbers, x.IsCount) (kept : Option Binary64) :
    numbers.foldl (keep choose) kept = numbers'.foldl (keep choose) kept := by
  refine h.foldl_eq' (fun x hx y hy kept => ?_) kept
  cases kept with
  | none => exact congrArg some (hcomm (hcounts x hx) (hcounts y hy))
  | some z => exact congrArg some (hright z (hcounts x hx) (hcounts y hy))

end Tally

/-! ## Measures -/

/-- The order of records does not matter to the measure: it does not round. -/
def Measure.IsOrderFree : Measure → Prop
  | .count => True
  | .ofField function _ => function = .distinct ∨ function = .least ∨ function = .greatest

/-- **A tally does not tell in which order it took the records**, if its measure
is a count, the number of different texts, or the least or greatest number. -/
theorem Tally.value_of_perm {m : Measure} (hm : m.IsOrderFree) {records records' : List Record}
    (h : records.Perm records') :
    (Tally.ofRecords m records).value m = (Tally.ofRecords m records').value m := by
  cases m with
  | count => simp [ofRecords, foldl_add_count, value, seen, h.length_eq]
  | ofField function field =>
      have hnumbers : (numbersOf field records).Perm (numbersOf field records') := h.filterMap _
      have hcounts : ∀ x ∈ numbersOf field records, x.IsCount := fun x => isCount_of_mem_numbersOf
      rcases hm with rfl | rfl | rfl
      · have htexts : (textsOf field records).Perm (textsOf field records') := h.filterMap _
        simp [ofRecords, foldl_add_texts, value, seen, start, texts_foldl_addText,
          (perm_firstOccurrences htexts).length_eq]
      · simp [ofRecords, foldl_add_numbers, value, seen, start, least_foldl_addNumber,
          foldl_keep_of_perm Binary64.min_comm Binary64.min_right_comm hnumbers hcounts]
      · simp [ofRecords, foldl_add_numbers, value, seen, start, greatest_foldl_addNumber,
          foldl_keep_of_perm Binary64.max_comm Binary64.max_right_comm hnumbers hcounts]

/-! ## Groups -/

namespace Stats

variable (s : Stats)

theorem foldl_addRecord (records : List Record) (tallyOf : Aggregation → Tally) :
    records.foldl s.addRecord (s.aggregations.map tallyOf) =
      s.aggregations.map fun a => records.foldl (Tally.add a.measure) (tallyOf a) := by
  induction records generalizing tallyOf with
  | nil => rfl
  | cons r rest ih =>
      have hstep : s.addRecord (s.aggregations.map tallyOf) r =
          s.aggregations.map fun a => (tallyOf a).add a.measure r := by
        rw [addRecord, List.zipWith_map_right, List.zipWith_self]
      rw [List.foldl_cons, hstep, ih]
      rfl

/-- Each aggregation has a tally of its own. -/
theorem foldl_addRecord_newTallies (records : List Record) :
    records.foldl s.addRecord s.newTallies =
      s.aggregations.map fun a => Tally.ofRecords a.measure records :=
  s.foldl_addRecord records fun _ => .start

/-- The cells of some records. -/
def cellsOf (records : List Record) : List (String × Cell) :=
  s.aggregations.map fun a =>
    (a.expression, Cell.number ((Tally.ofRecords a.measure records).value a.measure))

theorem cells_foldl_addRecord (records : List Record) :
    s.cells (records.foldl s.addRecord s.newTallies) = s.cellsOf records := by
  rw [foldl_addRecord_newTallies, cells, List.zipWith_map_right, List.zipWith_self]
  rfl

variable {s}

theorem cellsOf_of_perm (hfree : ∀ a ∈ s.aggregations, a.measure.IsOrderFree)
    {records records' : List Record} (h : records.Perm records') :
    s.cellsOf records = s.cellsOf records' :=
  List.map_congr_left fun a ha => by rw [Tally.value_of_perm (hfree a ha) h]

/-! ## Rows of groups -/

/-- The row of a group with some values and records. -/
def rowOf (s : Stats) (values : List String) (records : List Record) : Row :=
  (s.cellsOf records).foldl (fun row cell => row.insert cell.1 cell.2)
    (.ofList (s.groupBy.zipWith (fun field value => (field, Cell.text value)) values))

/-- The key of the group of a record. -/
def keyOf (s : Stats) (r : Record) : String := Text.join groupSeparator (s.groupValues r)

/-- The records of each group; the groups are in the order in which they are first
seen. -/
def groupsOf (s : Stats) (records : List Record) : List (List Record) :=
  (firstOccurrences (records.map s.keyOf)).map fun key => records.filter fun r => s.keyOf r = key

/-- The values that a group shows: those of the record that was seen first. -/
def shownValues (s : Stats) (group : List Record) : List String :=
  (group.head?.map s.groupValues).getD []

/-- The rows of all groups. -/
def groupRows (s : Stats) (records : List Record) : List Row :=
  (s.groupsOf records).map fun group => s.rowOf (s.shownValues group) group

/-- A group that takes some records keeps its values. -/
theorem foldl_group (records : List Record) (g : Group) :
    records.foldl (fun g r => { g with tallies := s.addRecord g.tallies r }) g =
      ⟨g.values, records.foldl s.addRecord g.tallies⟩ := by
  induction records generalizing g with
  | nil => rfl
  | cons r rest ih => rw [List.foldl_cons, ih, List.foldl_cons]

/-- A group has taken the records with its key. -/
theorem get?_foldl_addToGroups (records : List Record) {key : String}
    (hkey : key ∈ records.map s.keyOf) :
    (records.foldl s.addToGroups .empty).get? key =
      some ⟨s.shownValues (records.filter fun r => s.keyOf r = key),
        (records.filter fun r => s.keyOf r = key).foldl s.addRecord s.newTallies⟩ := by
  have hnonempty : (records.filter fun r => s.keyOf r = key) ≠ [] := by
    obtain ⟨r, hr, hrkey⟩ := List.mem_map.1 hkey
    exact List.ne_nil_of_mem (List.mem_filter.2 ⟨hr, decide_eq_true hrkey⟩)
  have hupdates : s.addToGroups = fun groups r => groups.update (s.keyOf r)
      ⟨s.groupValues r, s.newTallies⟩ fun g => { g with tallies := s.addRecord g.tallies r } := rfl
  rw [hupdates, OrderedMap.get?_foldl_update]
  cases hmembers : records.filter fun r => s.keyOf r = key with
  | nil => exact absurd hmembers hnonempty
  | cons first rest =>
      simp only [OrderedMap.get?_empty, Option.getD_none, foldl_group]
      rfl

theorem keys_foldl_addToGroups (records : List Record) :
    (records.foldl s.addToGroups .empty).keys = firstOccurrences (records.map s.keyOf) := by
  rw [OrderedMap.keys_foldl _ s.keyOf fun m r => by
    rw [addToGroups, OrderedMap.update, OrderedMap.keys_insert, ← keyOf]]
  simp

/-- **Groups**: one row for each different key, made of the records that have it. -/
theorem rows_of_groups (records : List Record) :
    (records.foldl s.addToGroups .empty).values.map s.groupRow = s.groupRows records := by
  have hkeys := s.keys_foldl_addToGroups records
  rw [OrderedMap.values_eq_map fun key hkey => get?_foldl_addToGroups records
      (mem_firstOccurrences.1 (hkeys ▸ hkey)), hkeys, List.map_map, groupRows, groupsOf,
    List.map_map]
  refine List.map_congr_left fun key _ => ?_
  rw [Function.comp_apply, Function.comp_apply, groupRow, cells_foldl_addRecord]
  rfl

/-! ### Groups by one field -/

/-- The group of a record: its text in the field, or the empty one. -/
def groupOf (field : String) (r : Record) : String := (r.get? field).getD ""

theorem groupValues_of_field {field : String} (hgroup : s.groupBy = [field]) (r : Record) :
    s.groupValues r = [groupOf field r] := by
  rw [groupValues, hgroup]
  rfl

/-- With one field, the key of a group is its value. -/
theorem keyOf_of_field {field : String} (hgroup : s.groupBy = [field]) :
    s.keyOf = groupOf field := by
  funext r
  rw [keyOf, groupValues_of_field hgroup]
  simp [Text.join]

/-- One row for each different text of the field. -/
theorem rows_of_field {field : String} (hgroup : s.groupBy = [field]) (records : List Record) :
    (records.foldl s.addToGroups .empty).values.map s.groupRow =
      (firstOccurrences (records.map (groupOf field))).map fun key =>
        s.rowOf [key] (records.filter fun r => groupOf field r = key) := by
  rw [rows_of_groups, groupRows, groupsOf, keyOf_of_field hgroup, List.map_map]
  refine List.map_congr_left fun key hkey => ?_
  obtain ⟨r, hr, hrkey⟩ := List.mem_map.1 (mem_firstOccurrences.1 hkey)
  have hvalues : s.shownValues (records.filter fun r => groupOf field r = key) = [key] := by
    cases hmembers : records.filter fun r => groupOf field r = key with
    | nil => simp [List.filter_eq_nil_iff] at hmembers; exact absurd hrkey (hmembers r hr)
    | cons first rest =>
        have hfirst : first ∈ records.filter fun r => groupOf field r = key := by
          rw [hmembers]
          exact List.mem_cons_self ..
        rw [shownValues, List.head?_cons, Option.map_some, Option.getD_some,
          groupValues_of_field hgroup, of_decide_eq_true (List.mem_filter.1 hfirst).2]
  rw [Function.comp_apply, hvalues]

end Stats

/-! ## Tables -/

/-- The tables differ in the order of their rows only. -/
structure Table.SameRows (t t' : Table) : Prop where
  columns : t.columns = t'.columns
  rows : t.rows.Perm t'.rows
  sourceHits : t.sourceHits = t'.sourceHits

namespace Stats

variable {s : Stats}

theorem rows_of_perm {field : String} (hgroup : s.groupBy = [field])
    (hfree : ∀ a ∈ s.aggregations, a.measure.IsOrderFree) {records records' : List Record}
    (h : records.Perm records') :
    ((records.foldl s.addToGroups .empty).values.map s.groupRow).Perm
      ((records'.foldl s.addToGroups .empty).values.map s.groupRow) := by
  have hkeys := perm_firstOccurrences (h.map (groupOf field))
  have hrow : ∀ key, s.rowOf [key] (records.filter fun r => groupOf field r = key) =
      s.rowOf [key] (records'.filter fun r => groupOf field r = key) := by
    intro key
    rw [rowOf, rowOf, cellsOf_of_perm hfree (h.filter _)]
  rw [rows_of_field hgroup, rows_of_field hgroup, funext hrow]
  exact hkeys.map _

/-- **The order of the records shows in the order of the rows only**, with at
most one group field and aggregations that do not round. -/
theorem aggregate_of_perm (hgroup : s.groupBy.length ≤ 1)
    (hfree : ∀ a ∈ s.aggregations, a.measure.IsOrderFree) {records records' : List Record}
    (h : records.Perm records') : (s.aggregate records).SameRows (s.aggregate records') := by
  have hhits : (records.length : Int) = records'.length := by rw [h.length_eq]
  unfold aggregate
  match hfields : s.groupBy with
  | [] =>
      rw [cells_foldl_addRecord, cells_foldl_addRecord, cellsOf_of_perm hfree h]
      exact ⟨rfl, List.Perm.refl _, hhits⟩
  | [field] =>
      have hrows := rows_of_perm hfields hfree h
      refine ⟨rfl, ?_, hhits⟩
      cases haggregations : s.aggregations with
      | nil => exact hrows
      | cons first rest =>
          exact (List.mergeSort_perm _ _).trans (hrows.trans (List.mergeSort_perm _ _).symm)
  | _ :: _ :: _ =>
      rw [hfields] at hgroup
      simp at hgroup

end Stats

end PipeQuery
