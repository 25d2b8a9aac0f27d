import PipeQuery.Datum.Csv
import PipeQuery.Proofs.MillisKept

/-!
# Null entries

A null entry of an item says nothing: neither when its record was made nor where it came from,
and it is no field.  There is one exception.  The first of the keys for texts that an item has
holds the text of its record even if it is null, and then the text is `None`.  A row of cells that
is cut short has null entries, and so may an item in JSON.

* `Datum.get?_present`: leaving null entries out changes a look-up only where it finds null.
* `Datum.distinctKeys_settle`: in all that is read from files, no text is a key twice.
* `Record.ofDatum_mapping`: a record in parts, each of which looks at the item in its own way.
* `Record.ofDatum_present`: leaving null entries out changes a record exactly where the first
  key for texts is null, and nothing but its text and the fields called like such keys.
-/

namespace PipeQuery

namespace Datum

/-- The value is null. -/
def isNull : Datum → Bool
  | null => true
  | _ => false

/-- The entries that are not null. -/
def present (entries : List (Datum × Datum)) : List (Datum × Datum) :=
  entries.filter fun e => !e.2.isNull

/-- The keys that are texts. -/
def textsIn (entries : List (Datum × Datum)) : List String := entries.filterMap fun e => e.1.text?

/-- No text is a key twice. -/
def DistinctKeys (entries : List (Datum × Datum)) : Prop := (textsIn entries).Nodup

instance (entries : List (Datum × Datum)) : Decidable (DistinctKeys entries) :=
  inferInstanceAs (Decidable (textsIn entries).Nodup)

/-! ## Keys -/

/-- A number counts as a number. -/
theorem exists_keyForm_number (n : Number) : ∃ m, (number n).keyForm = number m := by
  cases n with
  | integer n => exact ⟨_, rfl⟩
  | binary x =>
      unfold keyForm
      dsimp only
      split
      · split <;> exact ⟨_, rfl⟩
      · exact ⟨_, rfl⟩

/-- No other key counts as a text. -/
theorem isSameKey_text (d : Datum) (s : String) : d.isSameKey (text s) = (d.text? == some s) := by
  cases d with
  | number n =>
      obtain ⟨m, hm⟩ := exists_keyForm_number n
      rw [isSameKey, hm]
      rfl
  | _ => rfl

theorem textsIn_setEntry (key value : Datum) (entries : List (Datum × Datum)) :
    textsIn (setEntry key value entries) =
      textsIn entries ++
        (if entries.any fun e => e.1.isSameKey key then none else key.text?).toList := by
  induction entries with
  | nil => cases key <;> rfl
  | cons e rest ih =>
      cases hsame : e.1.isSameKey key with
      | true =>
          have htexts : textsIn ((e.1, value) :: rest) = textsIn (e :: rest) := by
            rw [textsIn, textsIn, List.filterMap_cons, List.filterMap_cons]
          simp [setEntry, hsame, htexts]
      | false =>
          rw [setEntry, hsame, if_neg Bool.false_ne_true, List.any_cons, hsame, Bool.false_or]
          unfold textsIn at ih ⊢
          rw [List.filterMap_cons, List.filterMap_cons, ih]
          cases e.1.text? <;> rfl

theorem any_isSameKey_iff {s : String} {entries : List (Datum × Datum)} :
    (entries.any fun e => e.1.isSameKey (text s)) = true ↔ s ∈ textsIn entries := by
  simp [textsIn, isSameKey_text]

theorem distinctKeys_setEntry {entries : List (Datum × Datum)} (h : DistinctKeys entries)
    (key value : Datum) : DistinctKeys (setEntry key value entries) := by
  rw [DistinctKeys, textsIn_setEntry]
  have hsame : (textsIn entries ++ (none : Option String).toList).Nodup := by
    rwa [Option.toList_none, List.append_nil]
  split
  · exact hsame
  · next hnew =>
    cases key with
    | text s =>
        rw [any_isSameKey_iff] at hnew
        exact List.nodup_append.2 ⟨h, by simp [text?], by
          simp only [text?, Option.toList_some, List.mem_singleton]
          rintro a ha _ rfl rfl
          exact hnew ha⟩
    | _ => exact hsame

/-- **Settled entries** have no text as a key twice. -/
theorem distinctKeys_settle (entries : List (Datum × Datum)) : DistinctKeys (settle entries) := by
  have hfold : ∀ settled, DistinctKeys settled →
      DistinctKeys (entries.foldl (fun settled e => setEntry e.1 e.2 settled) settled) := by
    induction entries with
    | nil => exact fun _ h => h
    | cons e rest ih => exact fun settled h => ih _ (distinctKeys_setEntry h e.1 e.2)
  exact hfold [] List.nodup_nil

/-! ## Look-ups -/

theorem get?_cons (key : String) (e : Datum × Datum) (rest : List (Datum × Datum)) :
    get? key (e :: rest) = if e.1.text? = some key then some e.2 else get? key rest := by
  by_cases h : e.1.text? = some key <;> simp [get?, h]

theorem get?_eq_none {key : String} {entries : List (Datum × Datum)} (h : key ∉ textsIn entries) :
    get? key entries = none := by
  rw [get?, Option.map_eq_none_iff, List.find?_eq_none]
  intro e he hkey
  exact h (List.mem_filterMap.2 ⟨e, he, eq_of_beq hkey⟩)

theorem textsIn_present_subset (entries : List (Datum × Datum)) :
    textsIn (present entries) ⊆ textsIn entries := by
  intro s hs
  obtain ⟨e, he, htext⟩ := List.mem_filterMap.1 hs
  exact List.mem_filterMap.2 ⟨e, List.mem_of_mem_filter he, htext⟩

/-- **Null entries are not found** where they are left out; all others are. -/
theorem get?_present {entries : List (Datum × Datum)} (h : DistinctKeys entries) (key : String) :
    get? key (present entries) = (get? key entries).filter fun d => !d.isNull := by
  induction entries with
  | nil => rfl
  | cons e rest ih =>
      have hrest : DistinctKeys rest := List.Nodup.sublist
        (List.Sublist.filterMap _ (List.sublist_cons_self e rest)) h
      rw [get?_cons]
      by_cases hkey : e.1.text? = some key
      · rw [if_pos hkey]
        cases hnull : e.2.isNull with
        | false =>
            rw [present, List.filter_cons_of_pos (by simp [hnull]), get?_cons, if_pos hkey,
              Option.filter_some, if_pos (by simp [hnull])]
        | true =>
            have hnew : key ∉ textsIn rest := by
              unfold DistinctKeys textsIn at h
              rw [List.filterMap_cons, hkey] at h
              exact (List.nodup_cons.1 h).1
            rw [present, List.filter_cons_of_neg (by simp [hnull]), Option.filter_some,
              if_neg (by simp [hnull])]
            exact get?_eq_none fun hmem => hnew (textsIn_present_subset rest hmem)
      · rw [if_neg hkey, ← ih hrest]
        cases hnull : e.2.isNull with
        | false =>
            rw [present, List.filter_cons_of_pos (by simp [hnull]), get?_cons, if_neg hkey]
            rfl
        | true =>
            rw [present, List.filter_cons_of_neg (by simp [hnull])]
            rfl

/-- Where null counts as nothing, null entries make no difference. -/
theorem getD_present {entries : List (Datum × Datum)} (h : DistinctKeys entries) (key : String) :
    (get? key (present entries)).getD null = (get? key entries).getD null := by
  rw [get?_present h]
  cases get? key entries with
  | none => rfl
  | some d => cases d <;> rfl

theorem present_present (entries : List (Datum × Datum)) :
    present (present entries) = present entries := by
  simp [present]

theorem without_present (key : String) (entries : List (Datum × Datum)) :
    without key (present entries) = present (without key entries) := by
  rw [without, present, List.filter_comm]
  rfl

theorem without_comm (key removed : String) (entries : List (Datum × Datum)) :
    without key (without removed entries) = without removed (without key entries) := by
  rw [without, without, List.filter_comm]
  rfl

/-! ## Values by their text -/

/-- What is written like a word is that word, null or a flag: numbers read back, and lists and
mappings are in brackets. -/
theorem cases_of_shown {d : Datum} {word : String} (hnumber : Filter.number? word = none)
    (hopen : word.toList.head? ≠ some '[' ∧ word.toList.head? ≠ some '\x7b')
    (h : d.shown = word) : d = text word ∨ d = null ∨ ∃ b, d = flag b := by
  subst h
  cases d with
  | null => exact .inr (.inl rfl)
  | flag b => exact .inr (.inr ⟨b, rfl⟩)
  | number n => cases (Filter.number?_shown n).symm.trans hnumber
  | text s => exact .inl rfl
  | list items => exact (hopen.1 (by simp [shown, quoted])).elim
  | mapping entries => exact (hopen.2 (by simp [shown, quoted])).elim

/-- Two values are written `None`. -/
theorem shown_eq_none_iff {d : Datum} : d.shown = "None" ↔ d = null ∨ d = text "None" := by
  constructor
  · intro h
    rcases cases_of_shown (by decide +kernel) (by decide) h with rfl | rfl | ⟨b, rfl⟩
    · exact .inr rfl
    · exact .inl rfl
    · cases b <;> exact absurd h (by decide)
  · rintro (rfl | rfl) <;> rfl

/-- A key that is written like one of the keys for texts is that key. -/
theorem eq_text_of_shown {d : Datum} {key : String} (hkey : key ∈ textKeys) (h : d.shown = key) :
    d = text key := by
  have hwords : ∀ key ∈ textKeys, Filter.number? key = none ∧ key.toList.head? ≠ some '[' ∧
      key.toList.head? ≠ some '\x7b' := by decide +kernel
  have hshown : ∀ key ∈ textKeys, null.shown ≠ key ∧ ∀ b, (flag b).shown ≠ key := by decide
  rcases cases_of_shown (hwords key hkey).1 (hwords key hkey).2 h with hd | rfl | ⟨b, rfl⟩
  · exact hd
  · exact ((hshown key hkey).1 h).elim
  · exact ((hshown key hkey).2 b h).elim

/-! ## The text of an item -/

/-- What the first of the keys for texts holds. -/
def textDatum? (entries : List (Datum × Datum)) : Option Datum :=
  (textKey? entries).bind (get? · entries)

/-- The entries that do not hold the text. -/
def besideText (entries : List (Datum × Datum)) : List (Datum × Datum) :=
  ((textKey? entries).map (without · entries)).getD entries

theorem get?_besideText {key : String} (h : key ∉ textKeys) (entries : List (Datum × Datum)) :
    get? key (besideText entries) = get? key entries := by
  rcases hkey : textKey? entries with _ | textKey
  · rw [besideText, hkey]
    rfl
  · have hmem : textKey ∈ textKeys := List.mem_of_find?_eq_some hkey
    rw [besideText, hkey]
    exact get?_without (fun heq : textKey = key => h (heq ▸ hmem)) entries

theorem textDatum?_eq_some_iff {entries : List (Datum × Datum)} {d : Datum} :
    textDatum? entries = some d ↔ ∃ key, textKey? entries = some key ∧ get? key entries = some d :=
  Option.bind_eq_some_iff

/-- Where the text is not null, nor is what its key holds. -/
theorem isNull_eq_false_of_textKey? {entries : List (Datum × Datum)} {key : String} {d : Datum}
    (htext : textDatum? entries ≠ some null) (hkey : textKey? entries = some key)
    (hd : get? key entries = some d) : d.isNull = false := by
  cases d with
  | null => exact (htext (textDatum?_eq_some_iff.2 ⟨key, hkey, hd⟩)).elim
  | _ => rfl

/-- The first key for texts is looked for among those that are not null. -/
theorem textKey?_present {entries : List (Datum × Datum)} (h : DistinctKeys entries)
    (htext : textDatum? entries ≠ some null) : textKey? (present entries) = textKey? entries := by
  have hfound : ∀ key, (get? key entries).isSome = false →
      (get? key (present entries)).isSome = false := by
    intro key hnone
    rw [get?_present h, Option.not_isSome_iff_eq_none.1 (Bool.eq_false_iff.1 hnone)]
    rfl
  rcases hkey : textKey? entries with _ | key
  · refine List.find?_eq_none.2 fun key hmem => ?_
    rw [hfound key (by simpa using List.find?_eq_none.1 hkey key hmem)]
    exact Bool.false_ne_true
  · obtain ⟨hsome, before, after, hsplit, hbefore⟩ := List.find?_eq_some_iff_append.1 hkey
    obtain ⟨d, hd⟩ := Option.isSome_iff_exists.1 hsome
    have hnull := isNull_eq_false_of_textKey? htext hkey hd
    refine List.find?_eq_some_iff_append.2 ⟨?_, before, after, hsplit, fun key hmem => ?_⟩
    · rw [get?_present h, hd, Option.filter_some, hnull]
      rfl
    · rw [hfound key (by simpa using hbefore key hmem)]
      rfl

theorem textDatum?_present {entries : List (Datum × Datum)} (h : DistinctKeys entries)
    (htext : textDatum? entries ≠ some null) :
    textDatum? (present entries) = textDatum? entries := by
  rw [textDatum?, textKey?_present h htext, textDatum?]
  rcases hkey : textKey? entries with _ | key
  · rfl
  · rw [Option.bind_some, Option.bind_some, get?_present h]
    rcases hd : get? key entries with _ | d
    · rfl
    · rw [Option.filter_some, isNull_eq_false_of_textKey? htext hkey hd]
      rfl

theorem besideText_present {entries : List (Datum × Datum)} (h : DistinctKeys entries)
    (htext : textDatum? entries ≠ some null) :
    besideText (present entries) = present (besideText entries) := by
  rw [besideText, textKey?_present h htext, besideText]
  cases textKey? entries with
  | none => rfl
  | some key => exact without_present key entries

end Datum

/-! ## The fields of an item -/

/-- The fields are the entries that are not null. -/
theorem fieldsOf_eq_ofList (entries : List (Datum × Datum)) :
    fieldsOf entries =
      .ofList ((Datum.present entries).map fun e => (e.1.shown, e.2.shown)) := by
  rw [fieldsOf, Datum.present, ← List.filterMap_eq_map, List.filterMap_filter]
  refine congrArg OrderedMap.ofList (List.filterMap_congr fun e _ => ?_)
  obtain ⟨key, value⟩ := e
  cases value <;> rfl

theorem fieldsOf_present (entries : List (Datum × Datum)) :
    fieldsOf (Datum.present entries) = fieldsOf entries := by
  rw [fieldsOf_eq_ofList, fieldsOf_eq_ofList, Datum.present_present]

/-- The entries that a field can be from. -/
def entriesOf (field : String) (entries : List (Datum × Datum)) : List (Datum × Datum) :=
  (Datum.present entries).filter fun e => e.1.shown = field

theorem mem_entriesOf {field : String} {entries : List (Datum × Datum)} {e : Datum × Datum} :
    e ∈ entriesOf field entries ↔ e ∈ entries ∧ e.2.isNull = false ∧ e.1.shown = field := by
  rw [entriesOf, Datum.present, List.mem_filter, List.mem_filter, and_assoc, decide_eq_true_eq,
    Bool.not_eq_true']

/-- The last entry of a field counts. -/
theorem get?_fieldsOf (field : String) (entries : List (Datum × Datum)) :
    (fieldsOf entries).get? field = ((entriesOf field entries).getLast?).map (·.2.shown) := by
  rw [fieldsOf_eq_ofList, OrderedMap.get?_ofList, OrderedMap.lastValue?, List.filter_map,
    List.getLast?_map, Option.map_map]
  rfl

/-- Removing a key leaves the fields that are not called like it. -/
theorem get?_fieldsOf_without {key field : String} (h : field ≠ key)
    (entries : List (Datum × Datum)) :
    (fieldsOf (Datum.without key entries)).get? field = (fieldsOf entries).get? field := by
  have hkept : entriesOf field (Datum.without key entries) = entriesOf field entries := by
    unfold entriesOf
    rw [← Datum.without_present, Datum.without, List.filter_filter]
    refine List.filter_congr fun e _ => ?_
    cases e.1 with
    | text s =>
        by_cases hs : s = field
        · subst hs
          simp [Datum.shown, Datum.text?, h]
        · simp [Datum.shown, hs]
    | _ => simp [Datum.text?]
  rw [get?_fieldsOf, get?_fieldsOf, hkept]

/-- A field is from an entry. -/
theorem exists_of_get?_fieldsOf {field value : String} {entries : List (Datum × Datum)}
    (h : (fieldsOf entries).get? field = some value) :
    ∃ e ∈ entries, e.2.isNull = false ∧ e.1.shown = field ∧ e.2.shown = value := by
  rw [get?_fieldsOf, Option.map_eq_some_iff] at h
  obtain ⟨e, hlast, hvalue⟩ := h
  obtain ⟨hmem, hnull, hkey⟩ := mem_entriesOf.1 (List.mem_of_getLast? hlast)
  exact ⟨e, hmem, hnull, hkey, hvalue⟩

/-- A key that is found and not null is a field. -/
theorem get?_fieldsOf_ne_none {entries : List (Datum × Datum)} {key : String} {d : Datum}
    (h : Datum.get? key entries = some d) (hnull : d.isNull = false) :
    (fieldsOf entries).get? key ≠ none := by
  obtain ⟨e, hfind, rfl⟩ := Option.map_eq_some_iff.1 h
  have hkey : e.1.shown = key := by
    have htext : e.1.text? = some key := by simpa using List.find?_some hfind
    rw [Datum.text?_eq_some_iff.1 htext]
    rfl
  have hmem : e ∈ entriesOf key entries :=
    mem_entriesOf.2 ⟨List.mem_of_find?_eq_some hfind, hnull, hkey⟩
  rw [get?_fieldsOf, Ne, Option.map_eq_none_iff, List.getLast?_eq_none_iff]
  exact List.ne_nil_of_mem hmem

namespace Datum

/-- The fields of an item: what is left of it. -/
def ownFields (entries : List (Datum × Datum)) : Fields :=
  fieldsOf (without sourceKey (without timestampKey (besideText entries)))

/-- Where an item is from. -/
def ownSource (entries : List (Datum × Datum)) (source : String) : String :=
  let own := (get? sourceKey entries).getD .null
  if own.isVoid then source else own.shown

/-- No field is called like the key that holds the text. -/
theorem get?_ownFields_textKey {entries : List (Datum × Datum)} {key : String}
    (hkey : textKey? entries = some key) : (ownFields entries).get? key = none := by
  rcases hvalue : (ownFields entries).get? key with _ | value
  · rfl
  · obtain ⟨e, he, -, hshown, -⟩ := exists_of_get?_fieldsOf hvalue
    have htext := eq_text_of_shown (List.mem_of_find?_eq_some hkey) hshown
    rw [besideText, hkey] at he
    simp [without, htext, text?] at he

/-- Beside the keys for texts, a field is as it would be if none of them held the text. -/
theorem get?_ownFields {entries : List (Datum × Datum)} {field : String}
    (h : textKey? entries ≠ some field) :
    (ownFields entries).get? field =
      (fieldsOf (without sourceKey (without timestampKey entries))).get? field := by
  rw [ownFields, besideText]
  rcases hkey : textKey? entries with _ | key
  · rfl
  · rw [Option.map_some, Option.getD_some, without_comm timestampKey, without_comm sourceKey]
    exact get?_fieldsOf_without (fun heq => h (hkey.trans (congrArg some heq.symm))) _

theorem ownSource_present {entries : List (Datum × Datum)} (h : DistinctKeys entries)
    (source : String) : ownSource (present entries) source = ownSource entries source := by
  rw [ownSource, getD_present h, ownSource]

theorem ownFields_present {entries : List (Datum × Datum)} (h : DistinctKeys entries)
    (htext : textDatum? entries ≠ some null) :
    ownFields (present entries) = ownFields entries := by
  rw [ownFields, besideText_present h htext, without_present, without_present, fieldsOf_present,
    ownFields]

/-- Fields that are not called like keys for texts. -/
theorem get?_ownFields_present {field : String} (h : field ∉ textKeys)
    (entries : List (Datum × Datum)) :
    (ownFields (present entries)).get? field = (ownFields entries).get? field := by
  have hfield : ∀ entries, textKey? entries ≠ some field :=
    fun entries hkey => h (List.mem_of_find?_eq_some hkey)
  rw [get?_ownFields (hfield _), get?_ownFields (hfield _), without_present, without_present,
    fieldsOf_present]

/-- Only a text says `None` of where an item is from. -/
theorem of_ownSource_eq_none {entries : List (Datum × Datum)} {source : String}
    (h : ownSource entries source = "None") :
    source = "None" ∨ get? sourceKey entries = some (text "None") := by
  unfold ownSource at h
  rcases hown : get? sourceKey entries with _ | own
  · rw [hown] at h
    exact .inl h
  · rw [hown] at h
    dsimp only [Option.getD_some] at h
    split at h
    · exact .inl h
    · next hvoid =>
      rcases shown_eq_none_iff.1 h with rfl | rfl
      · exact (hvoid rfl).elim
      · exact .inr rfl

/-- Only a text is a field that says `None`. -/
theorem exists_of_get?_ownFields {entries : List (Datum × Datum)} {field : String}
    (h : (ownFields entries).get? field = some "None") :
    ∃ e ∈ entries, e.1.shown = field ∧ e.2 = text "None" := by
  have hfield : textKey? entries ≠ some field := by
    intro hkey
    rw [get?_ownFields_textKey hkey] at h
    cases h
  rw [get?_ownFields hfield] at h
  obtain ⟨e, he, hnull, hkey, hvalue⟩ := exists_of_get?_fieldsOf h
  refine ⟨e, List.mem_of_mem_filter (List.mem_of_mem_filter he), hkey, ?_⟩
  rcases shown_eq_none_iff.1 hvalue with hd | hd
  · rw [hd] at hnull
    cases hnull
  · exact hd

/-- **A null text** is told from the text that is held when null entries are left out: that is no
`None`, or the key that holds it is no longer a field. -/
theorem ne_of_textDatum?_null {entries : List (Datum × Datum)} (h : DistinctKeys entries)
    (htext : textDatum? entries = some null) :
    ((textDatum? (present entries)).map shown).getD "" ≠ "None" ∨
      ownFields (present entries) ≠ ownFields entries := by
  obtain ⟨key, hkey, hnull⟩ := textDatum?_eq_some_iff.1 htext
  rw [or_iff_not_imp_left, not_not]
  intro hraw hfields
  rcases hother : textDatum? (present entries) with _ | d
  · rw [hother] at hraw
    exact absurd hraw (by decide)
  · obtain ⟨other, hotherKey, hd⟩ := textDatum?_eq_some_iff.1 hother
    rw [get?_present h, Option.filter_eq_some_iff, Bool.not_eq_true'] at hd
    have hne : textKey? entries ≠ some other := by
      rintro heq
      obtain rfl := Option.some.inj (hkey.symm.trans heq)
      rw [hnull] at hd
      obtain ⟨heq, hd⟩ := hd
      cases heq
      cases hd
    have hmem : other ∈ textKeys := List.mem_of_find?_eq_some hotherKey
    have hkept : get? other (without sourceKey (without timestampKey entries)) = some d := by
      rw [get?_without, get?_without, hd.1]
      all_goals
        rintro rfl
        exact absurd hmem (by decide)
    apply get?_fieldsOf_ne_none hkept hd.2
    rw [← get?_ownFields hne, ← hfields]
    exact get?_ownFields_textKey hotherKey

end Datum

/-! ## Records -/

/-- **A record in parts**, of which only the time can fail. -/
theorem Record.ofDatum_mapping (entries : List (Datum × Datum)) (source : String) :
    ofDatum (.mapping entries) source =
      ((Datum.get? timestampKey entries).getD .null).time.map fun time =>
        { raw := ((Datum.textDatum? entries).map Datum.shown).getD ""
          timestamp := time.map ClockTime.toTimestamp
          source := some (Datum.ownSource entries source)
          collection := none
          score := .zero false
          fields := Datum.ownFields entries } := by
  rw [← Datum.get?_besideText (by decide : timestampKey ∉ textKeys) entries, Datum.ownSource,
    ← Datum.get?_besideText (by decide : sourceKey ∉ textKeys) entries]
  simp only [ofDatum, Datum.toEntries, Datum.besideText, bind, Except.bind]
  split
  · next htime =>
    rw [htime]
    rfl
  · next htime =>
    rw [htime]
    rfl

open Datum in
/-- The text that is held is written `None`. -/
theorem raw_eq_none_iff {entries : List (Datum × Datum)} :
    ((textDatum? entries).map shown).getD "" = "None" ↔
      textDatum? entries = some .null ∨ textDatum? entries = some (.text "None") := by
  cases textDatum? entries with
  | none => decide
  | some d => simp [shown_eq_none_iff]

open Datum in
/-- **Null entries of an item** make no difference to whether it has a record, when it was made,
where it came from, and what it has for fields that are not called like keys for texts.  They make
none at all unless the first key for texts is null, and then they do: the text is `None`, which
nothing else in a record is but for a text that says so. -/
theorem Record.ofDatum_present {entries : List (Datum × Datum)} (h : DistinctKeys entries)
    (source : String) :
    (ofDatum (.mapping (present entries)) source = ofDatum (.mapping entries) source ↔
      (textDatum? entries = some .null →
        ∃ fault, ofDatum (.mapping entries) source = .error fault)) ∧
    ∀ r, ofDatum (.mapping entries) source = .ok r →
      (∃ raw fields,
        ofDatum (.mapping (present entries)) source = .ok { r with raw := raw, fields := fields } ∧
        ∀ field ∉ textKeys, fields.get? field = r.fields.get? field) ∧
      (r.raw = "None" ↔
        textDatum? entries = some .null ∨ textDatum? entries = some (.text "None")) ∧
      (r.source = some "None" →
        source = "None" ∨ Datum.get? sourceKey entries = some (.text "None")) ∧
      ∀ field, r.fields.get? field = some "None" →
        ∃ e ∈ entries, e.1.shown = field ∧ e.2 = .text "None" := by
  have hkept := ofDatum_mapping (present entries) source
  rw [getD_present h, ownSource_present h] at hkept
  have hitem := ofDatum_mapping entries source
  rw [hkept, hitem]
  rcases ((Datum.get? timestampKey entries).getD .null).time with fault | time
  · exact ⟨iff_of_true rfl fun _ => ⟨fault, rfl⟩, fun r hr => by cases hr⟩
  refine ⟨⟨fun heq htext => ?_, fun htext => ?_⟩, ?_⟩
  · rcases ne_of_textDatum?_null h htext with hraw | hfields
    · have hnone := raw_eq_none_iff.2 (.inl htext)
      exact (hraw ((congrArg raw (Except.ok.inj heq)).trans hnone)).elim
    · exact (hfields (congrArg fields (Except.ok.inj heq))).elim
  · have htext : textDatum? entries ≠ some .null := fun hnull => by
      obtain ⟨_, hfault⟩ := htext hnull
      cases hfault
    rw [textDatum?_present h htext, ownFields_present h htext]
  · rintro r ⟨⟩
    exact ⟨⟨_, _, rfl, fun field hfield => get?_ownFields_present hfield entries⟩,
      raw_eq_none_iff, fun hsource => of_ownSource_eq_none (Option.some.inj hsource),
      fun field hfield => exists_of_get?_ownFields hfield⟩

open Datum in
/-- A row that is cut short before its second cell, which would hold its text. -/
theorem Record.ofDatum_present_of_cutRow :
    DistinctKeys (Csv.entry ["message", "raw"] ["boot"]) ∧
      ofDatum (.mapping (present (Csv.entry ["message", "raw"] ["boot"]))) "app" ≠
        ofDatum (.mapping (Csv.entry ["message", "raw"] ["boot"])) "app" ∧
      ∃ r, ofDatum (.mapping (Csv.entry ["message", "raw"] ["boot"])) "app" = .ok r ∧
        r.raw = "None" ∧ r.get? "message" = some "boot" := by
  have hdistinct : DistinctKeys (Csv.entry ["message", "raw"] ["boot"]) := distinctKeys_settle _
  have hnull : textDatum? (Csv.entry ["message", "raw"] ["boot"]) = some .null := rfl
  obtain ⟨hiff, hrecord⟩ := ofDatum_present hdistinct "app"
  obtain ⟨r, hr⟩ : ∃ r, ofDatum (.mapping (Csv.entry ["message", "raw"] ["boot"])) "app" = .ok r :=
    ⟨_, rfl⟩
  refine ⟨hdistinct, fun heq => ?_, r, hr, (hrecord r hr).2.1.2 (.inl hnull), ?_⟩
  · obtain ⟨fault, hfault⟩ := hiff.1 heq hnull
    cases hr.symm.trans hfault
  · cases hr
    decide +kernel

end PipeQuery
