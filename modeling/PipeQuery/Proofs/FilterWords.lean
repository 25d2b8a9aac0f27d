import PipeQuery.Proofs.Scores
import Mathlib.Data.List.DropRight
import Mathlib.Data.List.Forall2

/-!
# The words of a base filter

A base filter is read word by word.  So a blank between two filters puts their words one
behind the other, and every word stands for one term, or for none.

* `Text.words_append_blank`: the words on both sides of a blank.
* `FilterTerm.read?_eq_none_iff`: a word is no term if nothing or a star is left of it
  without its quotes.
* `hits_of_words`: two filters together find what both find, each record with the sum of its
  scores less one, as long as scores are exact; the order of words does not matter, and words
  that are no terms change nothing.
-/

namespace PipeQuery

/-! ## Words -/

namespace Text

theorem wordsFrom_append_blank {c : Char} (hc : isBlank c = true) (word before after : List Char) :
    wordsFrom word (before ++ c :: after) = wordsFrom word before ++ words after := by
  induction before generalizing word with
  | nil =>
      simp only [List.nil_append, wordsFrom, hc, if_true]
      split <;> rfl
  | cons d before ih =>
      rw [List.cons_append, wordsFrom, wordsFrom]
      split
      · split
        · exact ih []
        · rw [ih [], List.cons_append]
      · exact ih (d :: word)

/-- **A blank ends a word.** -/
theorem words_append_blank {c : Char} (hc : isBlank c = true) (before after : List Char) :
    words (before ++ c :: after) = words before ++ words after :=
  wordsFrom_append_blank hc [] before after

theorem wordsFrom_of_no_blank {word text : List Char} (h : ∀ c ∈ text, isBlank c = false)
    (hne : word ≠ [] ∨ text ≠ []) : wordsFrom word text = [word.reverse ++ text] := by
  induction text generalizing word with
  | nil =>
      have hword : word.isEmpty = false := by simpa using hne
      rw [wordsFrom, hword, List.append_nil]
      rfl
  | cons c rest ih =>
      rw [wordsFrom, if_neg (by simp [h c (List.mem_cons_self ..)]),
        ih (fun d hd => h d (List.mem_cons_of_mem _ hd)) (Or.inl (List.cons_ne_nil _ _)),
        List.reverse_cons, List.append_assoc, List.singleton_append]

/-- A text without blanks is one word. -/
theorem words_of_no_blank {text : List Char} (h : ∀ c ∈ text, isBlank c = false)
    (hne : text ≠ []) : words text = [text] :=
  wordsFrom_of_no_blank h (Or.inr hne)

/-! ## Trimming -/

/-- What is kept of a text and what is trimmed around it. -/
structure Trimmed (p : Char → Bool) (cs before kept after : List Char) : Prop where
  eq : cs = before ++ (kept ++ after)
  before : ∀ c ∈ before, p c = true
  after : ∀ c ∈ after, p c = true
  head : ∀ c ∈ kept.head?, p c = false
  last : ∀ c ∈ kept.getLast?, p c = false

theorem exists_trimmed (p : Char → Bool) (cs : List Char) :
    ∃ before after, Trimmed p cs before (trimWhile p cs) after := by
  have htrim : trimWhile p cs = (cs.dropWhile p).rdropWhile p := rfl
  refine ⟨cs.takeWhile p, (cs.dropWhile p).rtakeWhile p, ?_, ?_, ?_, ?_, ?_⟩
  · rw [htrim, List.rdropWhile_append_rtakeWhile, List.takeWhile_append_dropWhile]
  · exact fun c hc => List.mem_takeWhile_imp hc
  · exact fun c hc => List.mem_rtakeWhile_imp hc
  · intro c hc
    obtain ⟨rest, hkept⟩ : ∃ rest, trimWhile p cs = c :: rest := List.head?_eq_some_iff.1 hc
    obtain ⟨after, hafter⟩ := List.rdropWhile_prefix p (cs.dropWhile p)
    rw [← htrim, hkept, List.cons_append] at hafter
    have hhead := List.head?_dropWhile_not p cs
    rwa [← hafter, List.head?_cons] at hhead
  · intro c hc
    have hne : (cs.dropWhile p).rdropWhile p ≠ [] := fun hnil => by
      rw [htrim, hnil] at hc
      cases hc
    have hlast := List.rdropWhile_last_not p (cs.dropWhile p) hne
    rw [htrim, List.getLast?_eq_getLast_of_ne_nil hne, Option.mem_some_iff] at hc
    rwa [hc, Bool.not_eq_true] at hlast

/-- What is trimmed has no part in what is kept. -/
theorem Trimmed.filter {p : Char → Bool} {cs before kept after : List Char}
    (h : Trimmed p cs before kept after) :
    (cs.filter fun c => !p c) = kept.filter fun c => !p c := by
  have hnone : ∀ {side : List Char}, (∀ c ∈ side, p c = true) → side.filter (fun c => !p c) = [] :=
    fun hside => List.filter_eq_nil_iff.2 fun c hc => by simp [hside c hc]
  rw [h.eq, List.filter_append, List.filter_append, hnone h.before, hnone h.after,
    List.nil_append, List.append_nil]

/-- **What a text is trimmed to**, if that has at most one character: all others are trimmed. -/
theorem trimWhile_eq_nil_iff {p : Char → Bool} {cs : List Char} :
    trimWhile p cs = [] ↔ (cs.filter fun c => !p c) = [] := by
  obtain ⟨before, after, h⟩ := exists_trimmed p cs
  rw [h.filter]
  constructor
  · intro hnil
    rw [hnil]
    rfl
  · intro hnone
    cases hkept : trimWhile p cs with
    | nil => rfl
    | cons c rest =>
        have hc : p c = false := h.head c (by rw [hkept]; rfl)
        rw [hkept, List.filter_cons_of_pos (by simp [hc])] at hnone
        cases hnone

theorem trimWhile_eq_singleton_iff {p : Char → Bool} {cs : List Char} {d : Char}
    (hd : p d = false) : trimWhile p cs = [d] ↔ (cs.filter fun c => !p c) = [d] := by
  obtain ⟨before, after, h⟩ := exists_trimmed p cs
  rw [h.filter]
  constructor
  · intro hone
    rw [hone, List.filter_cons_of_pos (by simp [hd]), List.filter_nil]
  · intro hone
    rcases List.eq_nil_or_concat' (trimWhile p cs) with hnil | ⟨rest, last, hkept⟩
    · rw [hnil] at hone
      cases hone
    · have hlast : p last = false := h.last last (by rw [hkept]; simp)
      rw [hkept, List.filter_append, List.filter_cons_of_pos (by simp [hlast]),
        List.filter_nil] at hone
      cases rest with
      | nil =>
          rw [hkept]
          exact hone
      | cons first rest =>
          have hfirst : p first = false := h.head first (by rw [hkept]; rfl)
          rw [List.filter_cons_of_pos (by simp [hfirst])] at hone
          simp at hone

end Text

/-! ## Words and terms -/

/-- A word that is no term: without its quotes, nothing is left of it, or a star. -/
def isVoid (word : List Char) : Bool :=
  let bare := word.filter fun c => !(c == '"')
  bare == [] || bare == ['*']

/-- **Every word is a term**, but for those of quotes and a star. -/
theorem FilterTerm.read?_eq_none_iff {word : List Char} :
    FilterTerm.read? word = none ↔ isVoid word = true := by
  have hstar : matchAll.toList = ['*'] := rfl
  have hempty : Text.trimWhile (· == '"') word = [] ↔ (word.filter fun c => !(c == '"')) = [] :=
    Text.trimWhile_eq_nil_iff
  have hone : Text.trimWhile (· == '"') word = ['*'] ↔
      (word.filter fun c => !(c == '"')) = ['*'] := Text.trimWhile_eq_singleton_iff rfl
  unfold FilterTerm.read? isVoid
  rw [hstar]
  simp only [Bool.or_eq_true, List.isEmpty_iff, beq_iff_eq, ← hempty, ← hone]
  split
  · next h => exact iff_of_true rfl h
  · next h =>
    refine iff_of_false ?_ h
    split <;> exact Option.some_ne_none _

/-- The words of a filter that are terms. -/
def termWords (query : String) : List (List Char) :=
  (Text.words query.toList).filter fun word => !isVoid word

theorem filterTerms_eq (query : String) :
    filterTerms query = (termWords query).filterMap FilterTerm.read? := by
  rw [filterTerms, termWords, List.filterMap_filter]
  refine List.filterMap_congr fun word _ => ?_
  cases h : isVoid word with
  | true => exact FilterTerm.read?_eq_none_iff.2 h
  | false => rfl

/-- **The terms of two filters** with a blank between them. -/
theorem filterTerms_append (q₁ q₂ : String) :
    filterTerms (q₁ ++ " " ++ q₂) = filterTerms q₁ ++ filterTerms q₂ := by
  have htext : (q₁ ++ " " ++ q₂).toList = q₁.toList ++ ' ' :: q₂.toList := by simp
  rw [filterTerms, htext, Text.words_append_blank (by decide), List.filterMap_append]
  rfl

/-! ## Terms together -/

section Terms

variable (terms terms' : List FilterTerm) (r : Record)

theorem selects_append : selects (terms ++ terms') r = (selects terms r && selects terms' r) :=
  List.all_append

theorem places_append : places (terms ++ terms') r = places terms r + places terms' r := by
  rw [places, List.map_append, List.sum_append]
  rfl

variable {terms terms'} (h : terms.Perm terms')

include h

theorem selects_of_perm : selects terms r = selects terms' r := h.all_eq

theorem places_of_perm : places terms r = places terms' r := (h.map _).sum_nat

end Terms

/-! ## Hits together -/

theorem mem_hitsAmong {records : List Record} {query : String} {range : Option TimeRange}
    {h : Hit} : h ∈ hitsAmong records query range ↔ ∃ (number : Nat) (r : Record), records[number]? = some r ∧
      inRange range r = true ∧ selects (filterTerms query) r = true ∧
        h = ⟨number, scoreOf (filterTerms query) r⟩ := by
  rw [hitsAmong_eq, List.mem_map]
  constructor
  · rintro ⟨⟨r, number⟩, hmem, rfl⟩
    rw [List.mem_filter, Bool.and_eq_true] at hmem
    exact ⟨number, r, List.mem_zipIdx_iff_getElem?.1 hmem.1, hmem.2.1, hmem.2.2, rfl⟩
  · rintro ⟨number, r, hr, hrange, hselects, rfl⟩
    refine ⟨(r, number), ?_, rfl⟩
    rw [List.mem_filter, Bool.and_eq_true]
    exact ⟨List.mem_zipIdx_iff_getElem?.2 hr, hrange, hselects⟩

/-- Hits come in the order of the records. -/
theorem pairwise_hitsAmong (records : List Record) (query : String) (range : Option TimeRange) :
    (hitsAmong records query range).Pairwise fun a b => a.number < b.number := by
  rw [hitsAmong_eq, List.pairwise_map]
  refine List.Pairwise.filter _ ?_
  rw [← List.pairwise_map (f := Prod.snd) (R := fun a b : Nat => (a : Int) < b),
    List.zipIdx_map_snd]
  exact (List.pairwise_lt_range' 1).imp Int.ofNat_lt.2

/-- The record of a number is among the hits. -/
def Found (hits : List Hit) (number : Int) : Prop := ∃ h ∈ hits, h.number = number

/-- Hits that are those of two filters together: the records that both find, in their order,
with the sum of their scores less one as long as that is exact. -/
structure Conjoined (both left right : List Hit) : Prop where
  ascending : both.Pairwise fun a b => a.number < b.number
  found_iff : ∀ number, Found both number ↔ Found left number ∧ Found right number
  score : ∀ h ∈ both, IsExact h.score → ∀ l ∈ left, l.number = h.number → ∀ r ∈ right,
    r.number = h.number → h.score = l.score + r.score - .ofInt (1 : Nat) ∧
      ∃ m n : Nat, l.score = .ofInt m ∧ r.score = .ofInt n ∧ h.score = .ofInt (m + n - 1 : Nat)

/-- Hits on the same record, with the same score if the first is exact. -/
structure SameHit (h h' : Hit) : Prop where
  number : h.number = h'.number
  score : IsExact h.score → h.score = h'.score

theorem found_hitsAmong_iff {records : List Record} {query : String} {range : Option TimeRange}
    {number : Int} : Found (hitsAmong records query range) number ↔
      ∃ (n : Nat) (r : Record), number = n ∧ records[n]? = some r ∧ inRange range r = true ∧
        selects (filterTerms query) r = true := by
  constructor
  · rintro ⟨h, hmem, rfl⟩
    obtain ⟨n, r, hr, hrange, hselects, rfl⟩ := mem_hitsAmong.1 hmem
    exact ⟨n, r, rfl, hr, hrange, hselects⟩
  · rintro ⟨n, r, rfl, hr, hrange, hselects⟩
    exact ⟨_, mem_hitsAmong.2 ⟨n, r, hr, hrange, hselects, rfl⟩, rfl⟩

/-- The score of the record of a hit. -/
theorem score_of_mem_hitsAmong {records : List Record} {query : String}
    {range : Option TimeRange} {h : Hit} (hmem : h ∈ hitsAmong records query range) {n : Nat}
    {r : Record} (hr : records[n]? = some r) (hnumber : h.number = n) :
    h.score = scoreOf (filterTerms query) r := by
  obtain ⟨n', r', hr', -, -, rfl⟩ := mem_hitsAmong.1 hmem
  obtain rfl : n' = n := Int.ofNat_inj.1 hnumber
  obtain rfl : r' = r := Option.some.inj (hr'.symm.trans hr)
  rfl

/-- **Scores of two filters** add up, but for the one that both start with. -/
theorem scoreOf_append {terms terms' : List FilterTerm} {r : Record}
    (h : IsExact (scoreOf (terms ++ terms') r)) :
    scoreOf (terms ++ terms') r = scoreOf terms r + scoreOf terms' r - .ofInt (1 : Nat) ∧
      ∃ m n : Nat, scoreOf terms r = .ofInt m ∧ scoreOf terms' r = .ofInt n ∧
        scoreOf (terms ++ terms') r = .ofInt (m + n - 1 : Nat) := by
  have hlt := isExact_scoreOf_iff.1 h
  have hboth := scoreOf_of_lt hlt
  rw [places_append] at hlt hboth
  have hleft : scoreOf terms r = .ofInt (1 + places terms r : Nat) := scoreOf_of_lt (by omega)
  have hright : scoreOf terms' r = .ofInt (1 + places terms' r : Nat) := scoreOf_of_lt (by omega)
  have hsum : 1 + (places terms r + places terms' r) =
      1 + places terms r + (1 + places terms' r) - 1 := by omega
  rw [hsum] at hboth
  refine ⟨?_, _, _, hleft, hright, hboth⟩
  rw [hleft, hright, Binary64.ofInt_add (by omega) (by omega),
    Binary64.ofInt_sub (by omega) (by omega), hboth]

theorem conjoined_hitsAmong (records : List Record) (q₁ q₂ : String) (range : Option TimeRange) :
    Conjoined (hitsAmong records (q₁ ++ " " ++ q₂) range) (hitsAmong records q₁ range)
      (hitsAmong records q₂ range) where
  ascending := pairwise_hitsAmong ..
  found_iff number := by
    simp only [found_hitsAmong_iff, filterTerms_append, selects_append, Bool.and_eq_true]
    constructor
    · rintro ⟨n, r, hn, hr, hrange, hleft, hright⟩
      exact ⟨⟨n, r, hn, hr, hrange, hleft⟩, n, r, hn, hr, hrange, hright⟩
    · rintro ⟨⟨n, r, hn, hr, hrange, hleft⟩, n', r', hn', hr', -, hright⟩
      obtain rfl : n' = n := Int.ofNat_inj.1 (hn'.symm.trans hn)
      obtain rfl : r' = r := Option.some.inj (hr'.symm.trans hr)
      exact ⟨n', r', hn, hr, hrange, hleft, hright⟩
  score h hmem hexact l hl hlnumber r hr hrnumber := by
    obtain ⟨n, record, hrecord, -, -, rfl⟩ := mem_hitsAmong.1 hmem
    rw [score_of_mem_hitsAmong hl hrecord hlnumber, score_of_mem_hitsAmong hr hrecord hrnumber]
    rw [filterTerms_append] at hexact ⊢
    exact scoreOf_append hexact

/-- The order of terms does not matter to a score that is exact. -/
theorem scoreOf_of_perm {terms terms' : List FilterTerm} (h : terms.Perm terms') {r : Record}
    (hexact : IsExact (scoreOf terms r)) : scoreOf terms r = scoreOf terms' r := by
  have hlt := isExact_scoreOf_iff.1 hexact
  rw [scoreOf_of_lt hlt, places_of_perm r h]
  rw [places_of_perm r h] at hlt
  exact (scoreOf_of_lt hlt).symm

theorem sameHits_of_perm (records : List Record) {q q' : String}
    (h : (filterTerms q).Perm (filterTerms q')) (range : Option TimeRange) :
    List.Forall₂ SameHit (hitsAmong records q range) (hitsAmong records q' range) := by
  simp only [hitsAmong_eq, selects_of_perm _ h]
  rw [List.forall₂_map_left_iff, List.forall₂_map_right_iff, List.forall₂_same]
  exact fun p _ => ⟨rfl, scoreOf_of_perm h⟩

/-- **Base filters compose by conjunction**: two filters with a blank between them find what
both find, and scores add up.  The order of the words does not matter, nor do words that are
no terms. -/
theorem hits_of_words (reader : MemoryReader) (range : Option TimeRange) :
    (∀ q₁ q₂ : String, Conjoined (reader.hits (q₁ ++ " " ++ q₂) range) (reader.hits q₁ range)
      (reader.hits q₂ range)) ∧
    (∀ q q' : String, (termWords q).Perm (termWords q') →
      List.Forall₂ SameHit (reader.hits q range) (reader.hits q' range)) ∧
    ∀ q q' : String, termWords q = termWords q' →
      reader.hits q range = reader.hits q' range := by
  refine ⟨fun q₁ q₂ => conjoined_hitsAmong .., fun q q' h => ?_, fun q q' h => ?_⟩
  · refine sameHits_of_perm reader.records ?_ range
    rw [filterTerms_eq, filterTerms_eq]
    exact h.filterMap _
  · have hterms : filterTerms q = filterTerms q' := by rw [filterTerms_eq, h, ← filterTerms_eq]
    rw [MemoryReader.hits, MemoryReader.hits, hitsAmong_eq, hitsAmong_eq, hterms]

/-- A source of two records about a disk. -/
def diskLog : MemoryReader where
  serial := 0
  source := "app"
  records :=
    [⟨"Disk full on disk 2", none, none, none, .zero false, .ofList [("level", "ERROR")]⟩,
      ⟨"disk ok", none, none, none, .zero false, .ofList [("level", "INFO")]⟩]
  generation := 1

theorem hits_of_diskErrors :
    Conjoined [⟨0, .ofInt 3⟩] [⟨0, .ofInt 1⟩] [⟨0, .ofInt 3⟩, ⟨1, .ofInt 2⟩] ∧
      List.Forall₂ SameHit [⟨0, .ofInt 3⟩] (diskLog.hits "disk \"*\" level:err*" none) ∧
      diskLog.hits "\"\" level:err* * disk" none = [⟨0, .ofInt 3⟩] := by
  have hboth : diskLog.hits ("level:err*" ++ " " ++ "disk") none = [⟨0, .ofInt 3⟩] := by
    decide +kernel
  have herrors : diskLog.hits "level:err*" none = [⟨0, .ofInt 1⟩] := by decide +kernel
  have hdisk : diskLog.hits "disk" none = [⟨0, .ofInt 3⟩, ⟨1, .ofInt 2⟩] := by decide +kernel
  obtain ⟨hconjoined, horder, hvoid⟩ := hits_of_words diskLog none
  refine ⟨?_, ?_, ?_⟩
  · rw [← hboth, ← herrors, ← hdisk]
    exact hconjoined "level:err*" "disk"
  · rw [← hboth]
    exact horder _ _ (by decide)
  · rw [← hboth]
    exact hvoid _ _ (by decide)

end PipeQuery
