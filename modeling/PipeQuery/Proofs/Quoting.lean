import PipeQuery.Query.Token

/-!
# Texts in quotes

A query is scanned twice with the same rule for quotes: for the bars between
its segments, and for the blanks between the tokens of each segment.  A text in
quotes with a backslash before each quote of its own goes through both scans in
one piece (`Scanner.quotedText`), and taking the backslashes away gives the text
back (`unescape_escape_append`).

Both need that the text does not end in a backslash, which would take the
closing quote for a character of the text.
-/

namespace PipeQuery.Query

/-! ## Backslashes -/

/-- The text with a backslash before each quote. -/
def escape (text : List Char) : List Char :=
  text.flatMap fun c => if c = '"' then ['\\', '"'] else [c]

/-- The text in quotes. -/
def quotedText (text : List Char) : List Char := '"' :: (escape text ++ ['"'])

theorem escape_cons_quote (text : List Char) :
    escape ('"' :: text) = '\\' :: '"' :: escape text := rfl

theorem escape_cons_of_ne {c : Char} (h : c ≠ '"') (text : List Char) :
    escape (c :: text) = c :: escape text := by
  rw [escape, List.flatMap_cons, if_neg h]
  rfl

theorem escape_of_notMem {text : List Char} (h : '"' ∉ text) : escape text = text := by
  induction text with
  | nil => rfl
  | cons c text ih =>
      have hc : c ≠ '"' := fun hc => h (by simp [hc])
      rw [escape_cons_of_ne hc, ih fun hmem => h (List.mem_cons_of_mem _ hmem)]

/-- No text starts with a quote once it is escaped. -/
theorem head?_escape_cons_ne (c : Char) (text rest : List Char) :
    (escape (c :: text) ++ rest).head? ≠ some '"' := by
  by_cases hc : c = '"'
  · rw [hc, escape_cons_quote]
    simp
  · rw [escape_cons_of_ne hc]
    simpa using hc

/-- What a text ends in stays. -/
theorem getLast?_escape (text : List Char) : (escape text).getLast? = text.getLast? := by
  induction text with
  | nil => rfl
  | cons c text ih =>
      by_cases hc : c = '"'
      · rw [hc, escape_cons_quote, List.getLast?_cons_cons, List.getLast?_cons,
          List.getLast?_cons, ih]
      · rw [escape_cons_of_ne hc, List.getLast?_cons, List.getLast?_cons, ih]

/-- What stands before a closing quote is the end of the text, or the quote that
opened it. -/
theorem head?_before_close {text : List Char} (h : text.getLast? ≠ some '\\') (read : List Char) :
    ((escape text).reverse ++ '"' :: read).head? ≠ some '\\' := by
  rw [List.head?_append, List.head?_reverse, getLast?_escape]
  cases hlast : text.getLast? with
  | none => simp
  | some c =>
      rw [hlast] at h
      exact h

theorem unescape_pair (rest : List Char) : unescape ('\\' :: '"' :: rest) = '"' :: unescape rest := by
  simp [unescape, Text.replace, Text.replaceFrom]

theorem unescape_cons {c : Char} {rest : List Char}
    (h : c ≠ '\\' ∨ rest.head? ≠ some '"') : unescape (c :: rest) = c :: unescape rest := by
  have hprefix : ['\\', '"'].isPrefixOf (c :: rest) = false := by
    cases rest with
    | nil => simp [List.isPrefixOf]
    | cons d rest =>
        rcases h with hc | hd
        · simp [List.isPrefixOf, Ne.symm hc]
        · have hd' : d ≠ '"' := fun hd' => hd (by rw [hd', List.head?_cons])
          simp [List.isPrefixOf, Ne.symm hd']
  simp [unescape, Text.replace, Text.replaceFrom, hprefix]

/-- **Escaping is undone exactly**, whatever follows, unless the end of the text
and what follows make a pair of their own. -/
theorem unescape_escape_append (text rest : List Char)
    (h : text.getLast? ≠ some '\\' ∨ rest.head? ≠ some '"') :
    unescape (escape text ++ rest) = text ++ unescape rest := by
  induction text with
  | nil => rfl
  | cons c text ih =>
      have hrest : text.getLast? ≠ some '\\' ∨ rest.head? ≠ some '"' := by
        refine h.imp_left fun hlast hc => hlast ?_
        rw [List.getLast?_cons, hc]
        rfl
      by_cases hc : c = '"'
      · rw [hc, escape_cons_quote, List.cons_append, List.cons_append, unescape_pair, ih hrest]
        rfl
      · rw [escape_cons_of_ne hc, List.cons_append, unescape_cons ?_, ih hrest]
        · rfl
        · cases text with
          | nil => simpa [escape] using h
          | cons d text => exact Or.inr (head?_escape_cons_ne d text rest)

/-! ## Scanning -/

theorem isQuote_of_ne (read : List Char) {c : Char} (h : c ≠ '"') : isQuote read c = false := by
  simp [isQuote, h]

theorem isQuote_quote {read : List Char} (h : read.head? ≠ some '\\') :
    isQuote read '"' = true := by
  simp [isQuote, h]

theorem isQuote_escaped (read : List Char) : isQuote ('\\' :: read) '"' = false := by
  simp [isQuote]

/-- A scan that breaks at marks outside quotes. -/
structure Scanner {β : Type} (mark : Char → Bool) (scan : Bool → List Char → List Char → β) :
    Prop where
  quote : ∀ quoted read c rest, isQuote read c = true →
    scan quoted read (c :: rest) = scan (!quoted) (c :: read) rest
  pass : ∀ quoted read c rest, isQuote read c = false → (mark c && !quoted) = false →
    scan quoted read (c :: rest) = scan quoted (c :: read) rest

theorem scanner_segmentsFrom : Scanner (· == '|') segmentsFrom where
  quote quoted read c rest h := by rw [segmentsFrom, if_pos h]
  pass quoted read c rest h hmark := by
    rw [segmentsFrom, if_neg (by rw [h]; decide), if_neg (by rw [hmark]; decide)]

theorem scanner_tokensFrom : Scanner Text.isBlank tokensFrom where
  quote quoted read c rest h := by rw [tokensFrom, if_pos h]
  pass quoted read c rest h hmark := by
    rw [tokensFrom, if_neg (by rw [h]; decide), if_neg (by rw [hmark]; decide)]

namespace Scanner

variable {β : Type} {mark : Char → Bool} {scan : Bool → List Char → List Char → β}

/-- Text without quotes and marks. -/
theorem plain (hs : Scanner mark scan) {text : List Char}
    (h : ∀ c ∈ text, c ≠ '"' ∧ mark c = false) (read rest : List Char) :
    scan false read (text ++ rest) = scan false (text.reverse ++ read) rest := by
  induction text generalizing read with
  | nil => rfl
  | cons c text ih =>
      obtain ⟨hc, hmark⟩ := h c (List.mem_cons_self ..)
      rw [List.cons_append, hs.pass _ _ _ _ (isQuote_of_ne read hc) (by rw [hmark]; rfl),
        ih (fun d hd => h d (List.mem_cons_of_mem _ hd)), List.reverse_cons, List.append_assoc]
      rfl

/-- Inside quotes, escaped text. -/
theorem escaped (hs : Scanner mark scan) (text read rest : List Char) :
    scan true read (escape text ++ rest) = scan true ((escape text).reverse ++ read) rest := by
  induction text generalizing read with
  | nil => rfl
  | cons c text ih =>
      by_cases hc : c = '"'
      · rw [hc, escape_cons_quote, List.cons_append, List.cons_append,
          hs.pass _ _ _ _ (isQuote_of_ne read (by decide)) (Bool.and_false _),
          hs.pass _ _ _ _ (isQuote_escaped read) (Bool.and_false _), ih, List.reverse_cons,
          List.reverse_cons, List.append_assoc, List.append_assoc]
        rfl
      · rw [escape_cons_of_ne hc, List.cons_append,
          hs.pass _ _ _ _ (isQuote_of_ne read hc) (Bool.and_false _), ih, List.reverse_cons,
          List.append_assoc]
        rfl

/-- **A text in quotes goes through in one piece.** -/
theorem quotedText (hs : Scanner mark scan) {text : List Char}
    (htext : text.getLast? ≠ some '\\') {read : List Char} (hread : read.head? ≠ some '\\')
    (rest : List Char) :
    scan false read (Query.quotedText text ++ rest) =
      scan false ((Query.quotedText text).reverse ++ read) rest := by
  rw [Query.quotedText, List.cons_append, hs.quote _ _ _ _ (isQuote_quote hread),
    List.append_assoc, Bool.not_false, hs.escaped, List.singleton_append,
    hs.quote _ _ _ _ (isQuote_quote (head?_before_close htext read)), Bool.not_true, List.reverse_cons,
    List.reverse_append, List.append_assoc, List.append_assoc]
  rfl

end Scanner

end PipeQuery.Query
