import PipeQuery.Proofs.FilterWords
import PipeQuery.Proofs.Quoting
import Mathlib.Algebra.Group.Nat.Even

/-!
# Quotes that are never closed

The scan for bars and the scan for blanks are one scan with different marks (`piecesFrom`):
each cuts a text at the marks outside quotes, and differs from the other only in what it makes
of the pieces (`segmentsFrom_eq`, `tokensFrom_eq`).  Whether a quote is open at the end of a
piece is told by the number of its quotes that are not behind a backslash
(`isOpen_iff_odd`), so the two scans cannot disagree, although each has its own notion of what
was read before a quote, and they work on texts that are trimmed differently
(`bareQuotes_trimChars`).

* `intercalate_pieces`: nothing is lost at the marks.
* `Dangling.finish?_eq`: the search backwards from the end of an unclosed token finds the quote
  that opened it.
* `segments_of_query`: what both scans make of a query.
-/

namespace PipeQuery.Query

/-! ## Quotes that are not behind a backslash -/

/-- The number of quotes in a text that do not stand right behind a backslash; `before` is the
character in front of the text. -/
def bareQuotesFrom (before : Option Char) : List Char → Nat
  | [] => 0
  | c :: rest => (if c = '"' ∧ before ≠ some '\\' then 1 else 0) + bareQuotesFrom (some c) rest

/-- The number of quotes in a text that no backslash takes away. -/
def bareQuotes (text : List Char) : Nat := bareQuotesFrom none text

/-- Only a backslash in front of a text matters. -/
theorem bareQuotesFrom_of_ne {before : Option Char} (h : before ≠ some '\\') (text : List Char) :
    bareQuotesFrom before text = bareQuotes text := by
  cases text with
  | nil => rfl
  | cons c rest => simp [bareQuotes, bareQuotesFrom, h]

theorem bareQuotesFrom_append (before : Option Char) (front back : List Char) :
    bareQuotesFrom before (front ++ back) =
      bareQuotesFrom before front + bareQuotesFrom (front.getLast?.or before) back := by
  induction front generalizing before with
  | nil => simp [bareQuotesFrom]
  | cons c front ih =>
      rw [List.cons_append, bareQuotesFrom, ih, bareQuotesFrom, Nat.add_assoc, List.getLast?_cons]
      cases front.getLast? <;> rfl

theorem bareQuotes_append (front back : List Char) :
    bareQuotes (front ++ back) = bareQuotes front + bareQuotesFrom front.getLast? back := by
  rw [bareQuotes, bareQuotesFrom_append, Option.or_none]
  rfl

/-- A quote is counted exactly if a scan takes it for one that opens or closes. -/
theorem bareQuotes_snoc (read : List Char) (c : Char) :
    bareQuotes (c :: read).reverse =
      bareQuotes read.reverse + if isQuote read c = true then 1 else 0 := by
  rw [List.reverse_cons, bareQuotes_append, List.getLast?_reverse]
  simp [bareQuotesFrom, isQuote]

/-- Characters that are neither quotes nor backslashes do not count. -/
theorem bareQuotes_cons_of_ne {c : Char} (hquote : c ≠ '"') (hslash : c ≠ '\\')
    (text : List Char) (before : Option Char) :
    bareQuotesFrom before (c :: text) = bareQuotes text := by
  rw [bareQuotesFrom, if_neg fun h => hquote h.1, Nat.zero_add,
    bareQuotesFrom_of_ne (by simpa using hslash)]

theorem isBlank_ne {c : Char} (h : Text.isBlank c = true) : c ≠ '"' ∧ c ≠ '\\' := by
  constructor <;> (rintro rfl; exact absurd h (by decide))

theorem bareQuotesFrom_blanks {blanks : List Char} (h : ∀ c ∈ blanks, Text.isBlank c = true)
    (before : Option Char) : bareQuotesFrom before blanks = 0 := by
  induction blanks generalizing before with
  | nil => rfl
  | cons c rest ih =>
      obtain ⟨hquote, hslash⟩ := isBlank_ne (h c (List.mem_cons_self ..))
      rw [bareQuotes_cons_of_ne hquote hslash]
      exact ih (fun d hd => h d (List.mem_cons_of_mem _ hd)) none

/-- **Trimming takes no quote away and uncovers none.** -/
theorem bareQuotes_trimChars (text : List Char) :
    bareQuotes (Text.trimChars text) = bareQuotes text := by
  obtain ⟨before, after, h⟩ := Text.exists_trimmed Text.isBlank text
  have hlast : before.getLast? ≠ some '\\' := fun hlast =>
    (isBlank_ne (h.before _ (List.mem_of_getLast? hlast))).2 rfl
  calc bareQuotes (Text.trimChars text)
      = bareQuotes (Text.trimChars text ++ after) := by
        rw [bareQuotes_append, bareQuotesFrom_blanks h.after, Nat.add_zero]
    _ = bareQuotesFrom none before + bareQuotesFrom before.getLast?
          (Text.trimChars text ++ after) := by
        rw [bareQuotesFrom_blanks h.before, Nat.zero_add, bareQuotesFrom_of_ne hlast]
    _ = bareQuotes text := by
        rw [← bareQuotes, ← bareQuotes_append]
        exact congrArg bareQuotes h.eq.symm

/-! ## Pieces -/

/-- A piece of a text, and whether a quote is open at its end. -/
structure Piece where
  text : List Char
  isOpen : Bool
  deriving DecidableEq

/-- The token of a piece, if there is anything in it. -/
def Piece.token? (p : Piece) : Option Token := finish? p.text.reverse p.isOpen

/-- The pieces of a text between the marks outside quotes, of which `read` has been read of the
first, in reverse. -/
def piecesFrom (mark : Char → Bool) (quoted : Bool) (read : List Char) : List Char → List Piece
  | [] => [⟨read.reverse, quoted⟩]
  | c :: rest =>
    if isQuote read c then piecesFrom mark (!quoted) (c :: read) rest
    else if mark c && !quoted then ⟨read.reverse, quoted⟩ :: piecesFrom mark quoted [] rest
    else piecesFrom mark quoted (c :: read) rest

/-- The pieces that the tokens of a segment are made of. -/
def pieces (segment : List Char) : List Piece := piecesFrom Text.isBlank false [] segment

/-- A quote is open at the end of the segment. -/
def EndsOpen (segment : List Char) : Prop :=
  ∃ p, (pieces segment).getLast? = some p ∧ p.isOpen = true

/-- Segments are the pieces between bars. -/
theorem segmentsFrom_eq (quoted : Bool) (read cs : List Char) :
    segmentsFrom quoted read cs = (piecesFrom (· == '|') quoted read cs).map Piece.text := by
  induction cs generalizing quoted read with
  | nil => rfl
  | cons c rest ih =>
      rw [segmentsFrom, piecesFrom]
      split
      · exact ih ..
      · split
        · rw [List.map_cons, ih]
        · exact ih ..

/-- Tokens are made of the pieces between blanks. -/
theorem tokensFrom_eq (quoted : Bool) (read cs : List Char) :
    tokensFrom quoted read cs =
      (piecesFrom Text.isBlank quoted read cs).filterMap Piece.token? := by
  induction cs generalizing quoted read with
  | nil =>
      rw [tokensFrom, piecesFrom, List.filterMap_cons, List.filterMap_nil, Piece.token?,
        List.reverse_reverse]
      cases finish? read quoted <;> rfl
  | cons c rest ih =>
      rw [tokensFrom, piecesFrom]
      split
      · exact ih ..
      · split
        · next hmark =>
          have hquoted : quoted = false := by simpa using (Bool.and_eq_true_iff.1 hmark).2
          rw [List.filterMap_cons, Piece.token?, List.reverse_reverse, hquoted, ih]
          cases finish? read false <;> rfl
        · exact ih ..

theorem segments_eq (query : List Char) :
    segments query = (piecesFrom (· == '|') false [] query).map Piece.text :=
  segmentsFrom_eq ..

theorem tokens_eq (segment : List Char) :
    tokens segment = (pieces segment).filterMap Piece.token? :=
  tokensFrom_eq ..

section Pieces

variable (mark : Char → Bool)

/-- **Only the last piece can be open**, and it begins behind the last mark outside quotes. -/
theorem exists_lastPiece (quoted : Bool) (read cs : List Char) :
    ∃ front last, piecesFrom mark quoted read cs = front ++ [last] ∧
      (∀ p ∈ front, p.isOpen = false) ∧
      ((front = [] ∧ last.text = read.reverse ++ cs) ∨
        ∃ before c, cs = before ++ c :: last.text ∧ mark c = true ∧
          piecesFrom mark quoted read (before ++ [c]) = front ++ [⟨[], false⟩]) := by
  induction cs generalizing quoted read with
  | nil => exact ⟨[], ⟨read.reverse, quoted⟩, rfl, by simp, .inl ⟨rfl, by simp⟩⟩
  | cons c rest ih =>
      by_cases hquote : isQuote read c = true
      · obtain ⟨front, last, hpieces, hclosed, hplace⟩ := ih (!quoted) (c :: read)
        refine ⟨front, last, by rw [piecesFrom, if_pos hquote, hpieces], hclosed, ?_⟩
        refine hplace.imp (fun h => ⟨h.1, by simpa using h.2⟩) ?_
        rintro ⟨before, d, rfl, hmark, hbefore⟩
        exact ⟨c :: before, d, rfl, hmark, by
          rw [List.cons_append, piecesFrom, if_pos hquote, hbefore]⟩
      · by_cases hbreak : (mark c && !quoted) = true
        · have hquoted : quoted = false := by simpa using (Bool.and_eq_true_iff.1 hbreak).2
          obtain ⟨front, last, hpieces, hclosed, hplace⟩ := ih quoted []
          refine ⟨⟨read.reverse, quoted⟩ :: front, last, ?_, ?_, .inr ?_⟩
          · rw [piecesFrom, if_neg hquote, if_pos hbreak, hpieces, List.cons_append]
          · simpa [hquoted] using hclosed
          · rcases hplace with ⟨rfl, htext⟩ | ⟨before, d, rfl, hmark, hbefore⟩
            · refine ⟨[], c, by simp [htext], (Bool.and_eq_true_iff.1 hbreak).1, ?_⟩
              rw [List.nil_append, piecesFrom, if_neg hquote, if_pos hbreak, hquoted]
              rfl
            · exact ⟨c :: before, d, rfl, hmark, by
                rw [List.cons_append, piecesFrom, if_neg hquote, if_pos hbreak, hbefore,
                  List.cons_append]⟩
        · obtain ⟨front, last, hpieces, hclosed, hplace⟩ := ih quoted (c :: read)
          refine ⟨front, last, by rw [piecesFrom, if_neg hquote, if_neg hbreak, hpieces],
            hclosed, ?_⟩
          refine hplace.imp (fun h => ⟨h.1, by simpa using h.2⟩) ?_
          rintro ⟨before, d, rfl, hmark, hbefore⟩
          exact ⟨c :: before, d, rfl, hmark, by
            rw [List.cons_append, piecesFrom, if_neg hquote, if_neg hbreak, hbefore]⟩

/-- A quote is open in what was read. -/
def IsOpenIn (quoted : Bool) (read : List Char) : Prop :=
  quoted = true ↔ Odd (bareQuotes read.reverse)

theorem isOpenIn_nil : IsOpenIn false [] := by simp [IsOpenIn, bareQuotes, bareQuotesFrom]

theorem IsOpenIn.quote {quoted : Bool} {read : List Char} {c : Char} (h : IsOpenIn quoted read)
    (hquote : isQuote read c = true) : IsOpenIn (!quoted) (c :: read) := by
  rw [IsOpenIn, bareQuotes_snoc, if_pos hquote, Nat.odd_add_one, ← show _ ↔ _ from h]
  cases quoted <;> simp

theorem IsOpenIn.pass {quoted : Bool} {read : List Char} {c : Char} (h : IsOpenIn quoted read)
    (hquote : ¬isQuote read c = true) : IsOpenIn quoted (c :: read) := by
  rw [IsOpenIn, bareQuotes_snoc, if_neg hquote]
  exact h

/-- A piece is open exactly if it has an odd number of quotes that are not behind a backslash. -/
theorem isOpen_iff_odd {quoted : Bool} {read : List Char} (h : IsOpenIn quoted read)
    (cs : List Char) :
    ∀ p ∈ piecesFrom mark quoted read cs, p.isOpen = true ↔ Odd (bareQuotes p.text) := by
  induction cs generalizing quoted read with
  | nil =>
      intro p hp
      rw [piecesFrom, List.mem_singleton] at hp
      rw [hp]
      exact h
  | cons c rest ih =>
      rw [piecesFrom]
      split
      · next hquote => exact ih (h.quote hquote)
      · next hquote =>
        split
        · next hbreak =>
          have hquoted : quoted = false := by simpa using (Bool.and_eq_true_iff.1 hbreak).2
          intro p hp
          rcases List.mem_cons.1 hp with rfl | hp
          · exact h
          · exact ih (by rw [hquoted]; exact isOpenIn_nil) p hp
        · exact ih (h.pass hquote)

/-- **The parity of the whole text** decides whether its last piece is open, if no mark is a
quote or a backslash. -/
theorem lastPiece_isOpen_iff {mark : Char → Bool}
    (hmark : ∀ c, mark c = true → c ≠ '"' ∧ c ≠ '\\') {quoted : Bool}
    {read : List Char} (h : IsOpenIn quoted read) (cs : List Char) :
    ∀ p ∈ (piecesFrom mark quoted read cs).getLast?,
      p.isOpen = true ↔ Odd (bareQuotes (read.reverse ++ cs)) := by
  induction cs generalizing quoted read with
  | nil =>
      intro p hp
      rw [piecesFrom, List.getLast?_singleton, Option.mem_some_iff] at hp
      rw [← hp, List.append_nil]
      exact h
  | cons c rest ih =>
      have hsplit : read.reverse ++ c :: rest = (c :: read).reverse ++ rest := by simp
      rw [piecesFrom]
      split
      · next hquote =>
        rw [hsplit]
        exact ih (h.quote hquote)
      · next hquote =>
        split
        · next hbreak =>
          obtain ⟨hc, hnot⟩ := Bool.and_eq_true_iff.1 hbreak
          have hquoted : quoted = false := by simpa using hnot
          have heven : Even (bareQuotes read.reverse) :=
            Nat.not_odd_iff_even.1 fun hodd => by simpa [hquoted] using h.2 hodd
          have hnil : IsOpenIn quoted [] := by rw [hquoted]; exact isOpenIn_nil
          obtain ⟨front, last, hpieces, -⟩ := exists_lastPiece mark quoted [] rest
          intro p hp
          have hlast : p ∈ (piecesFrom mark quoted [] rest).getLast? := by
            rw [hpieces, ← List.cons_append, List.getLast?_concat] at hp
            rw [hpieces, List.getLast?_concat]
            exact hp
          rw [ih hnil p hlast, bareQuotes_append read.reverse,
            bareQuotes_cons_of_ne (hmark c hc).1 (hmark c hc).2, Nat.odd_add', iff_true_right heven]
          rfl
        · rw [hsplit]
          exact ih (h.pass hquote)

/-- **Nothing is lost at the marks**, where all marks are one character. -/
theorem intercalate_pieces (m : Char) (quoted : Bool) (read cs : List Char) :
    [m].intercalate ((piecesFrom (· == m) quoted read cs).map Piece.text) = read.reverse ++ cs := by
  induction cs generalizing quoted read with
  | nil => simp [piecesFrom]
  | cons c rest ih =>
      have hsplit : read.reverse ++ c :: rest = (c :: read).reverse ++ rest := by simp
      rw [piecesFrom]
      split
      · rw [hsplit, ih]
      · split
        · next hbreak =>
          have hc : c = m := by simpa using (Bool.and_eq_true_iff.1 hbreak).1
          have hne : (piecesFrom (· == m) quoted [] rest).map Piece.text ≠ [] := by
            obtain ⟨front, last, hpieces, -⟩ := exists_lastPiece (· == m) quoted [] rest
            rw [hpieces]
            simp
          rw [List.map_cons, List.intercalate_cons_of_ne_nil hne, ih, hc]
          simp
        · rw [hsplit, ih]

end Pieces

/-! ## Closed and unclosed segments -/

/-- A segment is open at its end exactly if it has an odd number of quotes that are not behind a
backslash. -/
theorem endsOpen_iff (segment : List Char) : EndsOpen segment ↔ Odd (bareQuotes segment) := by
  have hlast := lastPiece_isOpen_iff (fun _ h => isBlank_ne h) isOpenIn_nil segment
  obtain ⟨front, last, hpieces, -⟩ := exists_lastPiece Text.isBlank false [] segment
  have hget : (pieces segment).getLast? = some last := by
    rw [pieces, hpieces, List.getLast?_concat]
  constructor
  · rintro ⟨p, hp, hopen⟩
    exact (hlast p hp).1 hopen
  · exact fun hodd => ⟨last, hget, (hlast last hget).2 hodd⟩

/-- No token of a closed segment is unterminated. -/
theorem isOpen_eq_false_of_not_endsOpen {segment : List Char} (h : ¬EndsOpen segment) :
    ∀ p ∈ pieces segment, p.isOpen = false := by
  obtain ⟨front, last, hpieces, hclosed, -⟩ :=
    exists_lastPiece Text.isBlank false [] segment
  have hget : (pieces segment).getLast? = some last := by
    rw [pieces, hpieces, List.getLast?_concat]
  intro p hp
  rw [pieces, hpieces, List.mem_append, List.mem_singleton] at hp
  rcases hp with hp | rfl
  · exact hclosed p hp
  · exact Bool.eq_false_iff.2 fun hopen => h ⟨p, hget, hopen⟩

/-- The last quote of a text that is not behind a backslash. -/
theorem exists_last_bareQuote {before : Option Char} {text : List Char}
    (h : bareQuotesFrom before text ≠ 0) :
    ∃ start inside, text = start ++ '"' :: inside ∧ start.getLast?.or before ≠ some '\\' ∧
      bareQuotesFrom (some '"') inside = 0 := by
  induction text generalizing before with
  | nil => exact absurd rfl h
  | cons c rest ih =>
      by_cases hrest : bareQuotesFrom (some c) rest = 0
      · rw [bareQuotesFrom, hrest, Nat.add_zero] at h
        have hc : c = '"' ∧ before ≠ some '\\' := by
          by_contra hnot
          exact h (if_neg hnot)
        obtain ⟨rfl, hbefore⟩ := hc
        exact ⟨[], rest, rfl, hbefore, hrest⟩
      · obtain ⟨start, inside, rfl, hstart, hinside⟩ := ih hrest
        refine ⟨c :: start, inside, rfl, ?_, hinside⟩
        rw [List.getLast?_cons]
        cases hlast : start.getLast? with
        | none => simpa [hlast] using hstart
        | some d => simpa [hlast] using hstart

/-- A quote that is open at the end of a segment: what stands in front of its token, in its token
in front of it, and behind it. -/
structure Dangling (segment before start inside : List Char) : Prop where
  split : segment = before ++ (start ++ '"' :: inside)
  /-- The token begins at the beginning of the segment or behind a blank outside quotes. -/
  begins : ∀ c ∈ before.getLast?, Text.isBlank c = true
  /-- What stands behind that blank is one piece. -/
  piece : (pieces segment).getLast? = some ⟨start ++ '"' :: inside, true⟩
  /-- The quote is not behind a backslash, and none is open in front of it. -/
  bare : start.getLast? ≠ some '\\'
  opens : Even (bareQuotes (before ++ start))
  /-- No quote closes it. -/
  unclosed : bareQuotesFrom (some '"') inside = 0

/-- The search from the end of a token stops at the quote that opened it. -/
theorem dropLastQuote_eq {start inside : List Char} (hstart : start.getLast? ≠ some '\\')
    (hinside : bareQuotesFrom (some '"') inside = 0) (after : List Char) :
    dropLastQuote after (start ++ '"' :: inside).reverse =
      (start ++ (inside ++ after), start.isEmpty) := by
  induction inside using List.reverseRecOn generalizing after with
  | nil =>
      have hquote : isQuote start.reverse '"' = true := isQuote_quote (by rwa [List.head?_reverse])
      rw [List.reverse_append, List.reverse_singleton, List.singleton_append, dropLastQuote,
        if_pos hquote, List.reverse_reverse, List.isEmpty_reverse, List.nil_append]
  | append_singleton inside c ih =>
      rw [bareQuotesFrom_append, Nat.add_eq_zero_iff] at hinside
      have hpass : isQuote (start ++ '"' :: inside).reverse c = false := by
        have hc := hinside.2
        rw [isQuote, List.head?_reverse, List.getLast?_append, List.getLast?_cons]
        cases hlast : inside.getLast? <;> simp_all [bareQuotesFrom]
      rw [← List.cons_append, ← List.append_assoc, List.reverse_concat, dropLastQuote, hpass,
        if_neg Bool.false_ne_true, ih hinside.1, List.append_assoc, List.singleton_append]

theorem unescape_append {front back : List Char} (h : front.getLast? ≠ some '\\') :
    unescape (front ++ back) = unescape front ++ unescape back := by
  induction front using List.twoStepInduction with
  | nil => rfl
  | singleton c =>
      have hc : c ≠ '\\' := by simpa using h
      rw [List.singleton_append, unescape_cons (Or.inl hc), unescape_cons (Or.inl hc)]
      rfl
  | cons_cons c d rest ih ih' =>
      have hd : (d :: rest).getLast? ≠ some '\\' := by rwa [List.getLast?_cons_cons] at h
      by_cases hpair : c = '\\' ∧ d = '"'
      · have hrest : rest.getLast? ≠ some '\\' := by
          intro hlast
          rw [List.getLast?_cons, hlast] at hd
          exact hd rfl
        obtain ⟨rfl, rfl⟩ := hpair
        rw [List.cons_append, List.cons_append, unescape_pair, unescape_pair, ih hrest,
          List.cons_append]
      · have hne : ∀ more, c ≠ '\\' ∨ (d :: more).head? ≠ some '"' := fun more =>
          (not_and_or.1 hpair).imp_right fun hd heq => hd (Option.some.inj heq)
        rw [List.cons_append, List.cons_append, unescape_cons (hne _), unescape_cons (hne _),
          ← List.cons_append, ih' d hd, List.cons_append]

namespace Dangling

variable {segment before start inside : List Char}

/-- **Only the quote that was never closed is dropped**, and no pair of a backslash and a quote
comes of that. -/
theorem finish?_eq (h : Dangling segment before start inside) :
    finish? (start ++ '"' :: inside).reverse true =
      some ⟨unescape (start ++ inside), start.isEmpty⟩ := by
  rw [finish?, dropLastQuote_eq h.bare h.unclosed, List.append_nil]
  simp

end Dangling

/-- A segment that is open at its end. -/
theorem exists_dangling {segment : List Char} (h : EndsOpen segment) :
    ∃ before start inside, Dangling segment before start inside ∧
      tokens segment = tokens before ++ [⟨unescape (start ++ inside), start.isEmpty⟩] := by
  obtain ⟨front, last, hpieces, -, hplace⟩ :=
    exists_lastPiece Text.isBlank false [] segment
  have hget : (pieces segment).getLast? = some last := by
    rw [pieces, hpieces, List.getLast?_concat]
  obtain ⟨p, hp, hopen⟩ := h
  obtain rfl : last = p := Option.some.inj (hget.symm.trans hp)
  have hodd : Odd (bareQuotes last.text) :=
    (isOpen_iff_odd Text.isBlank isOpenIn_nil segment last (List.mem_of_getLast? hget)).1 hopen
  obtain ⟨start, inside, htext, hbare, hinside⟩ := exists_last_bareQuote hodd.pos.ne'
  rw [Option.or_none] at hbare
  obtain ⟨text, isOpen⟩ := last
  obtain rfl : text = start ++ '"' :: inside := htext
  obtain rfl : isOpen = true := hopen
  -- what stands in front of the token has the other pieces, and nothing behind its last blank
  obtain ⟨before, hsplit, hbegins, hbefore⟩ : ∃ before,
      segment = before ++ (start ++ '"' :: inside) ∧
      (∀ c ∈ before.getLast?, Text.isBlank c = true) ∧ pieces before = front ++ [⟨[], false⟩] := by
    rcases hplace with ⟨rfl, hwhole⟩ | ⟨before, c, hsplit, hblank, hbefore⟩
    · exact ⟨[], hwhole.symm, by simp, rfl⟩
    · exact ⟨before ++ [c], by simp [hsplit], by simpa using hblank, hbefore⟩
  have hdangling : Dangling segment before start inside := by
    refine ⟨hsplit, hbegins, hget, hbare, ?_, hinside⟩
    have hfront : (before ++ start).getLast? ≠ some '\\' := by
      rw [List.getLast?_append]
      cases hlast : start.getLast? with
      | none => exact fun hslash => (isBlank_ne (hbegins _ hslash)).2 rfl
      | some d => rwa [hlast] at hbare
    have hsegment : Odd (bareQuotes segment) := (endsOpen_iff segment).1 ⟨_, hget, rfl⟩
    rw [hsplit, ← List.append_assoc, bareQuotes_append, bareQuotesFrom, if_pos ⟨rfl, hfront⟩,
      hinside] at hsegment
    exact Nat.not_odd_iff_even.1 (Nat.odd_add_one.1 hsegment)
  refine ⟨before, start, inside, hdangling, ?_⟩
  rw [tokens_eq, tokens_eq, pieces, hpieces, hbefore, List.filterMap_append,
    List.filterMap_append]
  simp only [List.filterMap_cons, List.filterMap_nil, Piece.token?, hdangling.finish?_eq]
  simp [finish?]

/-! ## Queries -/

/-- **Bars and blanks agree on quotes.**  The segments of a query are all that stands between its
bars outside quotes.  Trimmed and scanned for blanks, every segment but the last ends outside
quotes, and so none of its tokens is unterminated.  The last one ends in quotes exactly if an odd
number of the quotes in the query are not behind a backslash; then its last token is all that
stands behind the beginning of that token, without the quote that was never closed, and with each
pair of a backslash and a quote as the quote. -/
theorem segments_of_query (query : List Char) :
    ['|'].intercalate (segments query) = query ∧
    (∀ segment, tokens segment = (pieces segment).filterMap Piece.token?) ∧
    ∃ front last, segments query = front ++ [last] ∧
      (∀ segment ∈ front, ¬EndsOpen (Text.trimChars segment) ∧
        ∀ p ∈ pieces (Text.trimChars segment), p.isOpen = false) ∧
      (EndsOpen (Text.trimChars last) ↔ Odd (bareQuotes query)) ∧
      (Odd (bareQuotes query) → ∃ before start inside,
        Dangling (Text.trimChars last) before start inside ∧
        unescape (start ++ inside) = unescape start ++ unescape inside ∧
        tokens (Text.trimChars last) =
          tokens before ++ [⟨unescape (start ++ inside), start.isEmpty⟩]) := by
  obtain ⟨front, last, hpieces, hclosed, -⟩ :=
    exists_lastPiece (· == '|') false [] query
  have hodd := isOpen_iff_odd (· == '|') isOpenIn_nil query
  rw [hpieces] at hodd
  have hbar : ∀ c : Char, (c == '|') = true → c ≠ '"' ∧ c ≠ '\\' := by
    intro c hc
    rw [eq_of_beq hc]
    decide
  have hlast : EndsOpen (Text.trimChars last.text) ↔ Odd (bareQuotes query) := by
    rw [endsOpen_iff, bareQuotes_trimChars, ← hodd last (by simp)]
    exact lastPiece_isOpen_iff hbar isOpenIn_nil query last (by rw [hpieces]; simp)
  refine ⟨by rw [segments_eq, intercalate_pieces]; rfl, tokens_eq, front.map Piece.text, last.text,
    by rw [segments_eq, hpieces, List.map_append]; rfl, ?_, hlast, ?_⟩
  · intro segment hsegment
    obtain ⟨p, hp, rfl⟩ := List.mem_map.1 hsegment
    have hnot : ¬EndsOpen (Text.trimChars p.text) := by
      rw [endsOpen_iff, bareQuotes_trimChars, ← hodd p (List.mem_append_left _ hp), hclosed p hp]
      exact Bool.false_ne_true
    exact ⟨hnot, isOpen_eq_false_of_not_endsOpen hnot⟩
  · intro hquery
    obtain ⟨before, start, inside, hdangling, htokens⟩ := exists_dangling (hlast.2 hquery)
    exact ⟨before, start, inside, hdangling, unescape_append hdangling.bare, htokens⟩

/-- Five quotes, two of them behind backslashes, around a blank and a bar. -/
def unclosedQuery : List Char := "\"a | b\" | filter m = x\\\"\"y \\\" | z".toList

/-- The bar behind the last quote is part of the last token. -/
theorem segments_of_unclosedQuery : Odd (bareQuotes unclosedQuery) ∧
    ∃ front last, segments unclosedQuery = front ++ [last] ∧
      EndsOpen (Text.trimChars last) ∧ ∃ before start inside,
        Dangling (Text.trimChars last) before start inside ∧
        tokens (Text.trimChars last) =
          tokens before ++ [⟨unescape start ++ unescape inside, start.isEmpty⟩] := by
  have hodd : Odd (bareQuotes unclosedQuery) := by decide +kernel
  obtain ⟨-, -, front, last, hsegments, -, hopen, hlast⟩ := segments_of_query unclosedQuery
  obtain ⟨before, start, inside, hdangling, hunescape, htokens⟩ := hlast hodd
  exact ⟨hodd, front, last, hsegments, hopen.2 hodd, before, start, inside, hdangling,
    hunescape ▸ htokens⟩

example : (segments unclosedQuery).map (fun segment => tokens (Text.trimChars segment)) =
    [[⟨"a | b".toList, true⟩],
      [⟨"filter".toList, false⟩, ⟨"m".toList, false⟩, ⟨"=".toList, false⟩,
        ⟨"x\"y \" | z".toList, false⟩]] := by decide +kernel

end PipeQuery.Query
