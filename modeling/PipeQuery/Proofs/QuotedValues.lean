import PipeQuery.Proofs.FilterWords
import PipeQuery.Proofs.Written

/-!
# Quoted values in a base filter

A value in quotes may hold bars: `name:"value"` goes through the reading of a query in one
piece.  But the quotes around a word of the filter are dropped before the word is cut at its
colon, and of these two only the closing one stands at an end of the word.  The opening one
stays, as the first character of the glob.

* `Text.lowerChars_cons_quote`: a quote in front of a text has no part in its letter case.
* `Glob.accepts_char_cons`: a glob that starts with a character.
* `hits_fieldWord`, `hits_quotedWord`: what is found without and with quotes.
* `hits_of_quotedValue`: with quotes, the values that are found are those without quotes behind
  a quote of their own, which are the same only if there are none.
-/

namespace PipeQuery

/-! ## Letter case -/

namespace Text

theorem nextIsCased_concat_quote (before : List Char) :
    nextIsCased (before ++ ['"']) = nextIsCased before := by
  induction before with
  | nil => decide +kernel
  | cons c before ih =>
      unfold nextIsCased at ih ⊢
      cases hc : isCaseIgnorable c with
      | true =>
          rw [List.cons_append, List.dropWhile_cons_of_pos hc, List.dropWhile_cons_of_pos hc]
          exact ih
      | false =>
          rw [List.cons_append, List.dropWhile_cons_of_neg (by simp [hc]),
            List.dropWhile_cons_of_neg (by simp [hc])]

theorem lowerAfter_concat_quote (before text : List Char) :
    lowerAfter (before ++ ['"']) text = lowerAfter before text := by
  induction text generalizing before with
  | nil => rfl
  | cons c rest ih =>
      have hhead : lowerCharIn (before ++ ['"']) c rest = lowerCharIn before c rest := by
        rw [lowerCharIn, lowerCharIn, nextIsCased_concat_quote]
      rw [lowerAfter, lowerAfter, hhead, ← ih (c :: before), List.cons_append]

/-- **A quote in front** of a text has no part in its letter case. -/
theorem lowerChars_cons_quote (text : List Char) :
    lowerChars ('"' :: text) = '"' :: lowerChars text := by
  have hquote : lowerCharIn [] '"' text = ['"'] := rfl
  rw [lowerChars, lowerAfter, hquote, ← List.nil_append ['"'], lowerAfter_concat_quote]
  rfl

/-- No run of letters is mapped to the quote. -/
theorem quote_lt_of_mem_lowerRuns :
    ∀ run ∈ lowerRuns, '"'.toNat < (run.first : Int) + run.shift := by
  decide +kernel

theorem mapByRuns_ne_quote {code : Nat} (h : code ≠ '"'.toNat) :
    mapByRuns lowerRuns code ≠ '"'.toNat := by
  unfold mapByRuns
  split
  · next run hrun =>
    have hmem := quote_lt_of_mem_lowerRuns run (List.mem_of_find?_eq_some hrun)
    have hrange := List.find?_some hrun
    simp only [Bool.and_eq_true, decide_eq_true_eq] at hrange
    omega
  · exact h

theorem eq_quote_of_ofNat {code : Nat} (h : Char.ofNat code = '"') : code = '"'.toNat := by
  by_cases hvalid : code.isValidChar
  · rw [← h, Char.ofNat, dif_pos hvalid]
    rfl
  · rw [Char.ofNat, dif_neg hvalid] at h
    cases h

theorem lowerCode_ne_quote {code : Nat} (h : code ≠ '"'.toNat) : lowerCode code ≠ '"'.toNat := by
  have hquote : '"'.toNat = 34 := rfl
  rw [hquote] at h ⊢
  unfold lowerCode
  split
  · split
    · next hcapital =>
      simp only [Bool.and_eq_true, decide_eq_true_eq] at hcapital
      omega
    · exact h
  · exact mapByRuns_ne_quote h

/-- **Only the quote** is one in lower case. -/
theorem quote_mem_lowerCharIn_iff {before after : List Char} {c : Char} :
    '"' ∈ lowerCharIn before c after ↔ c = '"' := by
  constructor
  · intro h
    by_contra hc
    have hcode : c.toNat ≠ '"'.toNat := fun heq => hc (Char.toNat_inj.1 heq)
    unfold lowerCharIn at h
    split at h
    · split at h <;> simp at h
    · split at h
      · simp at h
      · exact lowerCode_ne_quote hcode (eq_quote_of_ofNat (List.mem_singleton.1 h).symm)
  · rintro rfl
    exact List.mem_singleton_self _

theorem quote_mem_lowerAfter_iff {before text : List Char} :
    '"' ∈ lowerAfter before text ↔ '"' ∈ text := by
  induction text generalizing before with
  | nil => exact Iff.rfl
  | cons c rest ih =>
      rw [lowerAfter, List.mem_append, List.mem_cons, quote_mem_lowerCharIn_iff, ih, eq_comm]

theorem lowerCharIn_ne_nil (before : List Char) (c : Char) (after : List Char) :
    lowerCharIn before c after ≠ [] := by
  unfold lowerCharIn
  split
  · split <;> exact List.cons_ne_nil _ _
  · split <;> exact List.cons_ne_nil _ _

/-- What starts with something else than a quote does so in lower case. -/
theorem head?_lowerChars_ne {c : Char} (hc : c ≠ '"') (rest : List Char) :
    (lowerChars (c :: rest)).head? ≠ some '"' := by
  intro hhead
  rw [lowerChars, lowerAfter, List.head?_append_of_ne_nil _ (lowerCharIn_ne_nil [] c rest)] at hhead
  exact hc (quote_mem_lowerCharIn_iff.1 (List.mem_of_mem_head? hhead))

/-! ## Occurrences -/

theorem countFrom_of_mem {part : List Char} {c : Char} (hc : c ∈ part) {text : List Char}
    (h : c ∉ text) (skip : Nat) : countFrom part skip text = 0 := by
  induction text generalizing skip with
  | nil => rfl
  | cons d rest ih =>
      have hrest : c ∉ rest := fun hmem => h (List.mem_cons_of_mem _ hmem)
      have hno : part.isPrefixOf (d :: rest) = false := by
        rw [Bool.eq_false_iff, ne_eq, List.isPrefixOf_iff_prefix]
        exact fun hstarts => h (hstarts.subset hc)
      unfold countFrom
      split
      · exact ih hrest _
      · rw [hno]
        exact ih hrest _

/-- What has a character that the text does not have does not occur in it. -/
theorem count_of_mem {part text : List Char} {c : Char} (hc : c ∈ part) (h : c ∉ text) :
    count part text = 0 := by
  rw [count, List.isEmpty_eq_false_iff.2 (List.ne_nil_of_mem hc)]
  exact countFrom_of_mem hc h 0

theorem count_self_ne_zero (text : List Char) : count text text ≠ 0 := by
  cases text with
  | nil => decide
  | cons c rest => simp [count, countFrom]

end Text

/-! ## Globs -/

namespace Glob

theorem foldl_advance_nil (glob : Glob) : glob.foldl advance [] = [] := by
  induction glob with
  | nil => rfl
  | cons step rest ih =>
      rw [List.foldl_cons]
      cases step <;> exact ih

/-- **A glob that starts with a character** matches what starts with it and goes on as the rest
of the glob has it. -/
theorem accepts_char_cons (d : Char) (glob : Glob) (c : Char) (rest : List Char) :
    accepts (.char d :: glob) (c :: rest) = (c == d && accepts glob rest) := by
  rw [accepts, accepts, List.foldl_cons]
  by_cases h : c = d
  · have hadvance : advance [c :: rest] (.char d) = [rest] := by
      rw [h]
      simp [advance, takes]
    rw [hadvance, beq_iff_eq.2 h, Bool.true_and]
  · have hadvance : advance [c :: rest] (.char d) = [] := by simp [advance, takes, h]
    rw [hadvance, foldl_advance_nil, beq_eq_false_iff_ne.2 h]
    rfl

theorem accepts_char_nil (d : Char) (glob : Glob) : accepts (.char d :: glob) [] = false := by
  have hadvance : advance [[]] (.char d) = [] := rfl
  rw [accepts, List.foldl_cons, hadvance, foldl_advance_nil]
  rfl

theorem read_cons_quote (cs : List Char) : read ('"' :: cs) = .char '"' :: read cs := rfl

end Glob

/-- A value matches a text, in whatever case both are. -/
def matchesValue (value : String) (text : List Char) : Bool :=
  (Glob.read (Text.lowerChars value.toList)).accepts (Text.lowerChars text)

/-- A text starts with a quote, and what is behind it has some property. -/
def behindQuote (p : List Char → Bool) : List Char → Bool
  | [] => false
  | c :: rest => c == '"' && p rest

/-- **A value with a quote in front** matches behind a quote of the text. -/
theorem accepts_cons_quote (value : String) (text : List Char) :
    (Glob.read (Text.lowerChars ('"' :: value.toList))).accepts (Text.lowerChars text) =
      behindQuote (matchesValue value) text := by
  rw [Text.lowerChars_cons_quote, Glob.read_cons_quote]
  cases text with
  | nil => exact Glob.accepts_char_nil _ _
  | cons c rest =>
      rw [behindQuote]
      cases hc : c == '"' with
      | true =>
          rw [eq_of_beq hc, Text.lowerChars_cons_quote, Glob.accepts_char_cons, beq_self_eq_true]
          rfl
      | false =>
          have hhead := Text.head?_lowerChars_ne (ne_of_beq_false hc) rest
          cases htext : Text.lowerChars (c :: rest) with
          | nil => exact Glob.accepts_char_nil _ _
          | cons d tail =>
              have hd : (d == '"') = false := by simpa [htext] using hhead
              rw [Glob.accepts_char_cons, hd, Bool.false_and, Bool.false_and]

/-! ## Words -/

/-- A text that can stand before a colon: without blanks, colons and quotes. -/
def IsFieldName (name : String) : Prop :=
  ∀ c ∈ name.toList, Text.isBlank c = false ∧ c ≠ ':' ∧ c ≠ '"'

/-- A value that needs no quotes but for its bars: not empty, without blanks and quotes. -/
structure IsValueWord (value : String) : Prop where
  ne_nil : value.toList ≠ []
  plain : ∀ c ∈ value.toList, Text.isBlank c = false ∧ c ≠ '"'

/-- A field and its value. -/
def fieldWord (name value : String) : String := name ++ ":" ++ value

/-- A field and its value in quotes. -/
def quotedWord (name value : String) : String := name ++ ":\"" ++ value ++ "\""

/-- The term of a field and a glob.  Without a name they are a word. -/
def termOf (name glob : List Char) : FilterTerm :=
  if name.isEmpty then .word (Text.lowerChars (':' :: glob))
  else .field (String.ofList name) (Text.lowerChars glob)

theorem termOf_of_ne {name : String} (hne : name ≠ "") (glob : List Char) :
    termOf name.toList glob = .field name (Text.lowerChars glob) := by
  rw [termOf, if_neg (by simpa using hne), String.ofList_toList]

/-- **A word with a colon** is cut there, once the quotes at its ends are dropped. -/
theorem FilterTerm.read?_colon {name glob after : List Char}
    (hname : ∀ c ∈ name, c ≠ ':' ∧ c ≠ '"') (hglob : ∃ c, glob.getLast? = some c ∧ c ≠ '"')
    (hafter : ∀ c ∈ after, c = '"') :
    read? (name ++ ':' :: (glob ++ after)) = some (termOf name glob) := by
  obtain ⟨last, hlast, hquote⟩ := hglob
  have htrim : Text.trimWhile (· == '"') (name ++ ':' :: (glob ++ after)) =
      name ++ ':' :: glob := by
    have hsplit : name ++ ':' :: (glob ++ after) = [] ++ ((name ++ ':' :: glob) ++ after) := by
      simp
    rw [hsplit]
    refine trimWhile_between (by simp) (by simpa using hafter) (by simp) ?_ ?_
    · intro c hc
      cases name with
      | nil =>
          obtain rfl : ':' = c := by simpa using hc
          rfl
      | cons d name =>
          obtain rfl : d = c := by simpa using hc
          exact beq_eq_false_iff_ne.2 (hname d (List.mem_cons_self ..)).2
    · intro c hc
      obtain rfl : last = c := by simpa [List.getLast?_append, List.getLast?_cons, hlast] using hc
      exact beq_eq_false_iff_ne.2 hquote
  have hstar : (name ++ ':' :: glob == matchAll.toList) = false := by
    rw [beq_eq_false_iff_ne]
    intro heq
    have hmem : ':' ∈ matchAll.toList := by
      rw [← heq]
      simp
    revert hmem
    decide
  have hempty : (name ++ ':' :: glob).isEmpty = false := by simp
  have hcut : Text.cutAt? ':' (name ++ ':' :: glob) = some (name, glob) :=
    cutAt?_of_notMem (fun hmem => (hname _ hmem).1 rfl) glob
  unfold read?
  simp only [htrim, hstar, hempty, hcut, Bool.or_self, Bool.false_eq_true, if_false]
  cases name <;> rfl

/-- A filter of one word has one term. -/
theorem filterTerms_of_word {query : String} {term : FilterTerm}
    (hblank : ∀ c ∈ query.toList, Text.isBlank c = false)
    (hterm : FilterTerm.read? query.toList = some term) : filterTerms query = [term] := by
  have hne : query.toList ≠ [] := fun hnil => by
    rw [hnil] at hterm
    cases hterm
  rw [filterTerms, Text.words_of_no_blank hblank hne, List.filterMap_cons_some hterm]
  rfl

theorem toList_fieldWord (name value : String) :
    (fieldWord name value).toList = name.toList ++ ':' :: value.toList := by
  simp [fieldWord]

theorem toList_quotedWord (name value : String) :
    (quotedWord name value).toList = name.toList ++ ':' :: ('"' :: value.toList ++ ['"']) := by
  simp [quotedWord]

section Words

variable {name value : String} (hname : IsFieldName name) (hvalue : IsValueWord value)

include hvalue

theorem IsValueWord.exists_last (before : List Char) :
    ∃ last, (before ++ value.toList).getLast? = some last ∧ last ≠ '"' := by
  refine ⟨value.toList.getLast hvalue.ne_nil, ?_, (hvalue.plain _ (List.getLast_mem _)).2⟩
  rw [List.getLast?_append, List.getLast?_eq_some_getLast hvalue.ne_nil, Option.some_or]

include hname

theorem not_blank_of_mem_fieldWord :
    ∀ c ∈ (fieldWord name value).toList, Text.isBlank c = false := by
  intro c hc
  rw [toList_fieldWord, List.mem_append, List.mem_cons] at hc
  rcases hc with hc | rfl | hc
  · exact (hname c hc).1
  · decide
  · exact (hvalue.plain c hc).1

theorem not_blank_of_mem_quotedWord :
    ∀ c ∈ (quotedWord name value).toList, Text.isBlank c = false := by
  intro c hc
  have hmem : c ∈ (fieldWord name value).toList ∨ c = '"' := by
    simp only [toList_quotedWord, toList_fieldWord, List.mem_append, List.mem_cons] at hc ⊢
    grind
  rcases hmem with hmem | rfl
  · exact not_blank_of_mem_fieldWord hname hvalue c hmem
  · decide

/-- **The one term** of a field and its value. -/
theorem filterTerms_fieldWord :
    filterTerms (fieldWord name value) = [termOf name.toList value.toList] := by
  have hterm : FilterTerm.read? (name.toList ++ ':' :: (value.toList ++ [])) =
      some (termOf name.toList value.toList) :=
    FilterTerm.read?_colon (fun c hc => (hname c hc).2) (hvalue.exists_last []) (by simp)
  rw [List.append_nil, ← toList_fieldWord] at hterm
  exact filterTerms_of_word (not_blank_of_mem_fieldWord hname hvalue) hterm

/-- **The one term** of a field and its value in quotes: the first quote is part of it. -/
theorem filterTerms_quotedWord :
    filterTerms (quotedWord name value) = [termOf name.toList ('"' :: value.toList)] := by
  refine filterTerms_of_word (not_blank_of_mem_quotedWord hname hvalue) ?_
  rw [toList_quotedWord]
  exact FilterTerm.read?_colon (fun c hc => (hname c hc).2) (hvalue.exists_last ['"']) (by simp)

end Words

/-! ## Hits -/

/-- What one term says of a record. -/
theorem selects_singleton (t : FilterTerm) (r : Record) :
    selects [t] r = (t.score? (Text.lowerChars r.raw.toList) r).isSome :=
  Bool.and_true _

theorem selects_field (name : String) (glob : List Char) (r : Record) :
    selects [.field name glob] r = (FilterTerm.candidate? name r).any fun text =>
      (Glob.read glob).accepts (Text.lowerChars text.toList) := by
  rw [selects_singleton, FilterTerm.score?]
  cases FilterTerm.candidate? name r with
  | none => rfl
  | some text =>
      simp only [Option.any_some]
      split
      · next h => rw [h]; rfl
      · next h => rw [Bool.eq_false_iff.2 h]; rfl

/-- A term about a field adds nothing to a score. -/
theorem scoreOf_field (name : String) (glob : List Char) (r : Record) :
    scoreOf [.field name glob] r = .ofInt (1 : Nat) := by
  have hplaces : (FilterTerm.field name glob).placesIn r = 0 := by
    rw [FilterTerm.placesIn, FilterTerm.places?, FilterTerm.score?]
    cases FilterTerm.candidate? name r with
    | none => rfl
    | some text =>
        dsimp only
        split <;> rfl
  rw [scoreOf, List.map_cons, List.map_nil, hplaces, List.foldl_cons, List.foldl_nil, addPlaces,
    if_pos rfl]

/-- The hits on the records in the range of which a field, or what stands for it, has some
property: each with the score that every record starts with. -/
def MemoryReader.fieldHits (reader : MemoryReader) (range : Option TimeRange) (name : String)
    (p : List Char → Bool) : List Hit :=
  (reader.records.zipIdx.filter fun entry => inRange range entry.1 &&
    (FilterTerm.candidate? name entry.1).any fun text => p text.toList).map
      fun entry => ⟨entry.2, .ofInt (1 : Nat)⟩

theorem hits_of_field {query name : String} {glob : List Char} {p : List Char → Bool}
    (hterms : filterTerms query = [.field name glob])
    (hp : ∀ text, (Glob.read glob).accepts (Text.lowerChars text) = p text)
    (reader : MemoryReader) (range : Option TimeRange) :
    reader.hits query range = reader.fieldHits range name p := by
  rw [MemoryReader.hits, hitsAmong_eq, hterms, MemoryReader.fieldHits]
  simp only [selects_field, scoreOf_field, hp]

section Found

variable {name value : String} (hname : IsFieldName name) (hvalue : IsValueWord value)
  (reader : MemoryReader) (range : Option TimeRange)

include hname hvalue

/-- **Without quotes** the records are found whose field matches the value. -/
theorem hits_fieldWord (hne : name ≠ "") :
    reader.hits (fieldWord name value) range =
      reader.fieldHits range name (matchesValue value) := by
  refine hits_of_field ?_ (fun text => rfl) reader range
  rw [filterTerms_fieldWord hname hvalue, termOf_of_ne hne]

/-- **With quotes** the records are found whose field has a quote and then matches the value. -/
theorem hits_quotedWord (hne : name ≠ "") :
    reader.hits (quotedWord name value) range =
      reader.fieldHits range name (behindQuote (matchesValue value)) := by
  refine hits_of_field ?_ (accepts_cons_quote value) reader range
  rw [filterTerms_quotedWord hname hvalue, termOf_of_ne hne]

end Found

/-! ## Where quotes make no difference -/

/-- What finds the same in every source selects the same records. -/
theorem selects_eq_of_hits_eq {q q' : String}
    (h : ∀ (reader : MemoryReader) (range : Option TimeRange),
      reader.hits q range = reader.hits q' range) (r : Record) :
    selects (filterTerms q) r = selects (filterTerms q') r := by
  have hfound : ∀ query, (MemoryReader.hits ⟨0, "", [r], 0⟩ query none).isEmpty =
      !selects (filterTerms query) r := by
    intro query
    rw [MemoryReader.hits, hitsAmong_eq]
    cases hselects : selects (filterTerms query) r with
    | true => simp [inRange, hselects]
    | false => simp [inRange, hselects]
  rw [← Bool.not_inj_iff, ← hfound, ← hfound, h]

/-- A record of one field. -/
def recordOfField (name text : String) : Record :=
  ⟨"", none, none, none, .zero false, .ofList [(name, text)]⟩

theorem candidate?_recordOfField (name text : String) :
    FilterTerm.candidate? name (recordOfField name text) = some text := by
  have hget : (recordOfField name text).get? name = some text := by
    rw [Record.get?, recordOfField, OrderedMap.get?_ofList]
    simp [OrderedMap.lastValue?]
  rw [FilterTerm.candidate?, hget]

theorem selects_word (word : List Char) (r : Record) :
    selects [.word word] r = !(Text.count word (Text.lowerChars r.raw.toList) == 0) := by
  rw [selects_singleton, FilterTerm.score?]
  split
  · next h => rw [h]; rfl
  · next h => rw [beq_eq_false_iff_ne.2 h]; rfl

/-- What is only matched behind quotes is never matched: there would be a shortest match. -/
theorem eq_false_of_behindQuote {p : List Char → Bool} (h : ∀ text, behindQuote p text = p text)
    (text : List Char) : p text = false := by
  induction text with
  | nil => exact (h []).symm
  | cons c rest ih => rw [← h, behindQuote, ih, Bool.and_false]

theorem behindQuote_of_eq_false {p : List Char → Bool} (h : ∀ text, p text = false) :
    behindQuote p = p := by
  funext text
  cases text with
  | nil => exact (h []).symm
  | cons c rest => rw [behindQuote, h, h, Bool.and_false]

section Same

variable {name value : String} (hname : IsFieldName name) (hvalue : IsValueWord value)

include hname hvalue

/-- Quotes make a difference to every value that any text matches, and to a word without a
field. -/
theorem hits_quotedWord_eq_iff :
    (∀ (reader : MemoryReader) (range : Option TimeRange),
      reader.hits (quotedWord name value) range = reader.hits (fieldWord name value) range) ↔
      name ≠ "" ∧ ∀ text, matchesValue value text = false := by
  constructor
  · intro h
    have hselects := selects_eq_of_hits_eq h
    rw [filterTerms_quotedWord hname hvalue, filterTerms_fieldWord hname hvalue] at hselects
    by_cases hne : name = ""
    · -- a record that holds the word without quotes, and no quote
      have hsame := hselects
        ⟨String.ofList (':' :: value.toList), none, none, none, .zero false, .empty⟩
      subst hne
      have hnone : Text.count (Text.lowerChars (':' :: '"' :: value.toList))
          (Text.lowerChars (':' :: value.toList)) = 0 := by
        refine Text.count_of_mem (c := '"') (Text.quote_mem_lowerAfter_iff.2 (by simp)) ?_
        rw [Text.lowerChars, Text.quote_mem_lowerAfter_iff, List.mem_cons, not_or]
        exact ⟨by decide, fun hmem => (hvalue.plain _ hmem).2 rfl⟩
      have hsome := Text.count_self_ne_zero (Text.lowerChars (':' :: value.toList))
      simp [termOf, selects_word, hnone, hsome] at hsame
    · refine ⟨hne, eq_false_of_behindQuote fun text => ?_⟩
      have hsame := hselects (recordOfField name (String.ofList text))
      rwa [termOf_of_ne hne, termOf_of_ne hne, selects_field, selects_field,
        candidate?_recordOfField, Option.any_some, Option.any_some, String.toList_ofList,
        accepts_cons_quote] at hsame
  · rintro ⟨hne, hnone⟩ reader range
    rw [hits_quotedWord hname hvalue reader range hne, hits_fieldWord hname hvalue reader range hne,
      behindQuote_of_eq_false hnone]

end Same

/-! ## Words as queries -/

section Segments

open Query

theorem trimChars_of_not_blank {text : List Char} (hne : text ≠ [])
    (h : ∀ c ∈ text, Text.isBlank c = false) : Text.trimChars text = text := by
  have htrim := trimChars_between isBlank_of_mem_nil isBlank_of_mem_nil hne
    (fun c hc => h c (List.mem_of_mem_head? hc)) (fun c hc => h c (List.mem_of_mem_getLast? hc))
  rwa [List.append_nil] at htrim

/-- A query whose first segment has no blanks: that is its base filter. -/
theorem Query.read_of_segments {query : String} {first : List Char} {rest : List (List Char)}
    (hsegments : segments query.toList = first :: rest) (hne : first ≠ [])
    (h : ∀ c ∈ first, Text.isBlank c = false) :
    Query.read query = ⟨String.ofList first, rest.filterMap StageSpec.ofChars?⟩ := by
  have hempty : first.isEmpty = false := List.isEmpty_eq_false_iff.2 hne
  unfold Query.read
  rw [hsegments]
  simp only [trimChars_of_not_blank hne h, hempty, Bool.false_eq_true, if_false]

variable {name value : String} (hname : IsFieldName name) (hvalue : IsValueWord value)
  (hbar : '|' ∉ name.toList)

include hname hbar

theorem segmentsFrom_name (rest : List Char) :
    segments (name.toList ++ ':' :: rest) =
      segmentsFrom false (':' :: name.toList.reverse) rest := by
  have hplain : ∀ c ∈ name.toList, c ≠ '"' ∧ (c == '|') = false := by
    intro c hc
    refine ⟨(hname c hc).2.2, beq_eq_false_iff_ne.2 ?_⟩
    rintro rfl
    exact hbar hc
  rw [segments, scanner_segmentsFrom.plain hplain, List.append_nil,
    scanner_segmentsFrom.pass _ _ _ _ (isQuote_of_ne _ (by decide)) (by decide)]

include hvalue

/-- **In quotes**, the word is one segment, whatever bars are in the value. -/
theorem segments_quotedWord :
    segments (quotedWord name value).toList = [(quotedWord name value).toList] := by
  have hquote : '"' ∉ value.toList := fun hmem => (hvalue.plain _ hmem).2 rfl
  have hinside :=
    scanner_segmentsFrom.escaped value.toList ('"' :: ':' :: name.toList.reverse) ['"']
  rw [escape_of_notMem hquote] at hinside
  rw [toList_quotedWord, segmentsFrom_name hname hbar, List.cons_append,
    scanner_segmentsFrom.quote _ _ _ _ (isQuote_quote (by simp)), Bool.not_false, hinside]
  -- behind a backslash the last quote does not close, but then the query ends
  cases hclose : isQuote (value.toList.reverse ++ '"' :: ':' :: name.toList.reverse) '"' with
  | true =>
      rw [scanner_segmentsFrom.quote _ _ _ _ hclose]
      simp [segmentsFrom]
  | false =>
      rw [scanner_segmentsFrom.pass _ _ _ _ hclose (by decide)]
      simp [segmentsFrom]

theorem read_quotedWord : Query.read (quotedWord name value) = ⟨quotedWord name value, []⟩ := by
  rw [Query.read_of_segments (segments_quotedWord hname hvalue hbar) (by simp [toList_quotedWord])
    (not_blank_of_mem_quotedWord hname hvalue), String.ofList_toList]
  rfl

/-- **Without quotes**, the first segment ends before the first bar of the value. -/
theorem segments_fieldWord {before rest : List Char} (hvalue' : value.toList = before ++ rest)
    (hbefore : '|' ∉ before) :
    segments (fieldWord name value).toList =
      segmentsFrom false (name.toList ++ ':' :: before).reverse rest := by
  have hplain : ∀ c ∈ before, c ≠ '"' ∧ (c == '|') = false := by
    intro c hc
    refine ⟨(hvalue.plain c (by simp [hvalue', hc])).2, beq_eq_false_iff_ne.2 ?_⟩
    rintro rfl
    exact hbefore hc
  rw [toList_fieldWord, hvalue', segmentsFrom_name hname hbar, scanner_segmentsFrom.plain hplain]
  simp

theorem read_fieldWord_iff :
    Query.read (fieldWord name value) = ⟨fieldWord name value, []⟩ ↔ '|' ∉ value.toList := by
  have hblank := not_blank_of_mem_fieldWord hname hvalue
  constructor
  · intro h hmem
    obtain ⟨before, after, hcut, hbefore⟩ := List.eq_append_cons_of_mem hmem
    have hsegments := segments_fieldWord hname hvalue hbar hcut hbefore
    rw [segmentsFrom, if_neg (by simp [isQuote_of_ne _ (show '|' ≠ '"' by decide)]),
      if_pos (by decide), List.reverse_reverse] at hsegments
    have hread := Query.read_of_segments hsegments (by simp) fun c hc => hblank c (by
      rw [toList_fieldWord, hcut]
      simp only [List.mem_append, List.mem_cons] at hc ⊢
      grind)
    have hbase : String.ofList (name.toList ++ ':' :: before) = fieldWord name value := by
      rw [h] at hread
      exact (congrArg Query.base hread).symm
    have hlength := congrArg (fun text => text.toList.length) hbase
    simp [toList_fieldWord, hcut] at hlength
  · intro hnone
    have hsegments := segments_fieldWord hname hvalue hbar (List.append_nil _).symm hnone
    rw [segmentsFrom, List.reverse_reverse, ← toList_fieldWord] at hsegments
    rw [Query.read_of_segments hsegments (by simp [toList_fieldWord]) hblank, String.ofList_toList]
    rfl

end Segments

/-- **Quotes around the value of a field change what is found.**  Without them the records are
found whose field matches the value, with them those whose field matches it behind a quote of
its own.  That is the same in every source only for a value that no text matches.  But only with
quotes every value goes through the reading of a query as part of the base filter. -/
theorem hits_of_quotedValue {name value : String} (hname : IsFieldName name)
    (hvalue : IsValueWord value) :
    (name ≠ "" → ∀ (reader : MemoryReader) (range : Option TimeRange),
      reader.hits (fieldWord name value) range =
          reader.fieldHits range name (matchesValue value) ∧
        reader.hits (quotedWord name value) range =
          reader.fieldHits range name (behindQuote (matchesValue value))) ∧
    ((∀ (reader : MemoryReader) (range : Option TimeRange),
        reader.hits (quotedWord name value) range = reader.hits (fieldWord name value) range) ↔
      name ≠ "" ∧ ∀ text, matchesValue value text = false) ∧
    ('|' ∉ name.toList →
      Query.read (quotedWord name value) = ⟨quotedWord name value, []⟩ ∧
        (Query.read (fieldWord name value) = ⟨fieldWord name value, []⟩ ↔ '|' ∉ value.toList)) :=
  ⟨fun hne reader range => ⟨hits_fieldWord hname hvalue reader range hne,
      hits_quotedWord hname hvalue reader range hne⟩,
    hits_quotedWord_eq_iff hname hvalue,
    fun hbar => ⟨read_quotedWord hname hvalue hbar, read_fieldWord_iff hname hvalue hbar⟩⟩

/-- A source of three levels, of which the second starts with a quote. -/
def quotedLevels : MemoryReader where
  serial := 0
  source := "app"
  records :=
    [recordOfField "level" "a|b", recordOfField "level" "\"A|b", recordOfField "level" "b"]
  generation := 1

theorem hits_of_quotedBar :
    IsFieldName "level" ∧ IsValueWord "a|*" ∧
      quotedLevels.hits "level:a|*" none = [⟨0, .ofInt (1 : Nat)⟩] ∧
      quotedLevels.hits "level:\"a|*\"" none = [⟨1, .ofInt (1 : Nat)⟩] ∧
      Query.read "level:\"a|*\"" = ⟨"level:\"a|*\"", []⟩ ∧
      Query.read "level:a|*" ≠ ⟨"level:a|*", []⟩ := by
  have hname : IsFieldName "level" := forall_mem_of_all (by decide)
  have hvalue : IsValueWord "a|*" := ⟨by decide, forall_mem_of_all (by decide)⟩
  obtain ⟨hhits, -, hread⟩ := hits_of_quotedValue hname hvalue
  obtain ⟨hplain, hquoted⟩ := hhits (by decide) quotedLevels none
  obtain ⟨hreadQuoted, hreadPlain⟩ := hread (by decide)
  refine ⟨hname, hvalue, hplain.trans ?_, hquoted.trans ?_, hreadQuoted, fun h => ?_⟩
  · decide +kernel
  · decide +kernel
  · exact absurd (hreadPlain.1 h) (by decide)

end PipeQuery
