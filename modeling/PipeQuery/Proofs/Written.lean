import Mathlib.Data.List.Forall2
import PipeQuery.Proofs.Quoting
import PipeQuery.Query.Reader
import PipeQuery.Stage.Arguments

/-!
# Written queries

`Query.write` writes a base filter and stages the way a user would: bars between
them, every argument in quotes, every parameter as a key with its value in
quotes.  `read_write` says that reading gives all of it back, whatever stands in
the arguments and values: bars, blanks, quotes, equals signs or nothing.

The scans of `PipeQuery.Proofs.Quoting` are followed from the outside in: a bar
ends a segment (`segmentsFrom_bars`), a blank ends a token (`tokensFrom_spaced`),
and each token is the item it was written for (`finish?_argument`,
`finish?_parameter`, `foldl_addToken`).
-/

namespace PipeQuery

/-- Something said to a command. -/
inductive WrittenItem where
  | argument (text : String)
  | parameter (key value : String)

/-- A command with what is said to it, in this order. -/
structure WrittenStage where
  command : String
  items : List WrittenItem

/-- The text can stand in quotes. -/
def Quotable (text : String) : Prop := text.toList.getLast? ≠ some '\\'

instance (text : String) : Decidable (Quotable text) :=
  inferInstanceAs (Decidable (text.toList.getLast? ≠ some '\\'))

/-- A text that is one word: not empty, without blanks, quotes and bars. -/
structure IsWord (text : String) : Prop where
  ne_nil : text.toList ≠ []
  plain : ∀ c ∈ text.toList, Text.isBlank c = false ∧ c ≠ '"' ∧ c ≠ '|'

/-- A text that can be a base filter: not empty, without quotes and bars, and
without blanks at its ends. -/
structure IsBase (text : String) : Prop where
  ne_nil : text.toList ≠ []
  plain : ∀ c ∈ text.toList, c ≠ '"' ∧ c ≠ '|'
  first : ∀ c, text.toList.head? = some c → Text.isBlank c = false
  last : ∀ c, text.toList.getLast? = some c → Text.isBlank c = false

/-- A text is a base filter if its two ends are not blank. -/
theorem IsBase.of_ends {text : String} {first last : Char}
    (plain : ∀ c ∈ text.toList, c ≠ '"' ∧ c ≠ '|') (hfirst : text.toList.head? = some first)
    (hlast : text.toList.getLast? = some last)
    (hends : Text.isBlank first = false ∧ Text.isBlank last = false) : IsBase text where
  ne_nil hnil := by
    rw [hnil] at hfirst
    cases hfirst
  plain := plain
  first _ hc := Option.some.inj (hfirst.symm.trans hc) ▸ hends.1
  last _ hc := Option.some.inj (hlast.symm.trans hc) ▸ hends.2

namespace WrittenItem

/-- An argument in quotes, or a key and its value in quotes. -/
def chars : WrittenItem → List Char
  | argument text => Query.quotedText text.toList
  | parameter key value => key.toList ++ '=' :: Query.quotedText value.toList

/-- The texts can stand between quotes, and a key is a word. -/
def Writable : WrittenItem → Prop
  | argument text => Quotable text
  | parameter key value => IsWord key ∧ '=' ∉ key.toList ∧ Quotable value

/-- The argument that the item is. -/
def argument? : WrittenItem → Option String
  | argument text => some text
  | parameter _ _ => none

/-- The key and the value that the item is. -/
def parameter? : WrittenItem → Option (String × String)
  | argument _ => none
  | parameter key value => some (key, value)

/-- The token that is read for the item. -/
def token : WrittenItem → Query.Token
  | argument text => ⟨text.toList, true⟩
  | parameter key value => ⟨key.toList ++ '=' :: '"' :: (value.toList ++ ['"']), false⟩

end WrittenItem

namespace WrittenStage

/-- The command is a word, and all items can be written. -/
structure Writable (s : WrittenStage) : Prop where
  command : IsWord s.command
  items : ∀ i ∈ s.items, i.Writable

/-- The items, each behind a blank. -/
def itemsChars (items : List WrittenItem) : List Char := items.flatMap fun i => ' ' :: i.chars

/-- The stage as it is written. -/
def chars (s : WrittenStage) : List Char := s.command.toList ++ itemsChars s.items

/-- The arguments among the items. -/
def arguments (s : WrittenStage) : List String := s.items.filterMap WrittenItem.argument?

/-- The keys with values among the items. -/
def parameters (s : WrittenStage) : List (String × String) :=
  s.items.filterMap WrittenItem.parameter?

/-- The stages behind a base filter, a bar before each. -/
def barsChars (stages : List WrittenStage) : List Char :=
  stages.flatMap fun s => ' ' :: '|' :: ' ' :: s.chars

end WrittenStage

/-- A base filter and stages, written as a query. -/
def Query.write (base : String) (stages : List WrittenStage) : String :=
  String.ofList (base.toList ++ WrittenStage.barsChars stages)

example : Query.write "x" [⟨"stats", [.argument "a\"b", .parameter "by" "|"]⟩, ⟨"chart", []⟩] =
    "x | stats \"a\\\"b\" by=\"|\" | chart" := by decide +kernel

/-! ## Tokens -/

namespace Query

theorem unescape_of_notMem {text : List Char} (h : '"' ∉ text) : unescape text = text := by
  have hlast := unescape_escape_append text [] (Or.inr (by simp))
  rw [escape_of_notMem h, List.append_nil] at hlast
  rw [hlast]
  exact List.append_nil text

theorem unescape_quotedText {text : List Char} (h : text.getLast? ≠ some '\\') :
    unescape (escape text ++ ['"']) = text ++ ['"'] := by
  rw [unescape_escape_append _ _ (Or.inl h)]
  rfl

theorem isWrapped_of_first {read : List Char} (h : read.getLast? ≠ some '"') :
    isWrapped read = false := by
  simp [isWrapped, h]

theorem finish?_plain {text : List Char} (hne : text ≠ []) (hquote : '"' ∉ text) :
    finish? text.reverse false = some ⟨text, false⟩ := by
  have hfirst : text.reverse.getLast? ≠ some '"' := by
    rw [List.getLast?_reverse]
    intro hhead
    exact hquote (List.mem_of_mem_head? hhead)
  have hempty : text.reverse.isEmpty = false := by
    rw [List.isEmpty_reverse, List.isEmpty_eq_false_iff]
    exact hne
  rw [finish?, hempty, isWrapped_of_first hfirst, List.reverse_reverse,
    unescape_of_notMem hquote]
  rfl

theorem finish?_word {word : String} (h : IsWord word) :
    finish? word.toList.reverse false = some ⟨word.toList, false⟩ :=
  finish?_plain h.ne_nil fun hmem => (h.plain _ hmem).2.1 rfl

theorem reverse_quotedText (text : List Char) :
    (quotedText text).reverse = '"' :: ((escape text).reverse ++ ['"']) := by
  simp [quotedText]

theorem isWrapped_cons {inner : List Char} (hlast : inner.getLast? = some '"')
    (hhead : inner.head? ≠ some '\\') : isWrapped ('"' :: inner) = true := by
  cases inner with
  | nil => simp at hlast
  | cons c inner =>
      have hc : c ≠ '\\' := fun hc => hhead (by rw [hc, List.head?_cons])
      simp [isWrapped, List.getLast?_cons_cons, hlast, hc]

theorem finish?_argument {text : String} (h : Quotable text) :
    finish? (quotedText text.toList).reverse false = some ⟨text.toList, true⟩ := by
  have hwrapped : isWrapped ('"' :: ((escape text.toList).reverse ++ ['"'])) = true :=
    isWrapped_cons (by simp) (head?_before_close h [])
  have hinner := unescape_escape_append text.toList [] (Or.inl h)
  rw [List.append_nil] at hinner
  rw [reverse_quotedText, finish?, hwrapped, List.drop_succ_cons, List.drop_zero,
    List.reverse_append, List.reverse_reverse, List.reverse_singleton, List.singleton_append,
    List.drop_succ_cons, List.drop_zero, hinner]
  simp [unescape, Text.replace, Text.replaceFrom]

theorem finish?_parameter {key value : String} (hkey : IsWord key) (hvalue : Quotable value) :
    finish? (key.toList ++ '=' :: quotedText value.toList).reverse false =
      some ⟨key.toList ++ '=' :: '"' :: (value.toList ++ ['"']), false⟩ := by
  have hquote : '"' ∉ key.toList := fun hmem => (hkey.plain _ hmem).2.1 rfl
  have hfirst : (key.toList ++ '=' :: quotedText value.toList).reverse.getLast? ≠ some '"' := by
    rw [List.getLast?_reverse, List.head?_append, Option.or_of_isSome]
    · intro hhead
      exact hquote (List.mem_of_mem_head? hhead)
    · simp [hkey.ne_nil]
  have hempty : (key.toList ++ '=' :: quotedText value.toList).reverse.isEmpty = false := by
    simp
  have hinner : unescape ('=' :: quotedText value.toList) =
      '=' :: '"' :: (value.toList ++ ['"']) := by
    rw [unescape_cons (Or.inl (by decide)), quotedText, unescape_cons (Or.inl (by decide)),
      unescape_quotedText hvalue]
  have hwhole := unescape_escape_append key.toList ('=' :: quotedText value.toList)
    (Or.inr (by simp))
  rw [escape_of_notMem hquote, hinner] at hwhole
  rw [finish?, hempty, isWrapped_of_first hfirst, List.reverse_reverse, hwhole]
  rfl

/-- Characters that are read as one token, whatever blank comes behind them. -/
structure ReadAs (chars : List Char) (token : Token) : Prop where
  scan : ∀ rest, tokensFrom false [] (chars ++ rest) = tokensFrom false chars.reverse rest
  finish : finish? chars.reverse false = some token

section Spaced

variable {ι : Type} {charsOf : ι → List Char} {tokenOf : ι → Token} {items : List ι}
  (h : ∀ i ∈ items, ReadAs (charsOf i) (tokenOf i))

include h

/-- **A blank ends a token.** -/
theorem tokensFrom_spaced (read : List Char) :
    tokensFrom false read (items.flatMap fun i => ' ' :: charsOf i) =
      (finish? read false).toList ++ items.map tokenOf := by
  induction items generalizing read with
  | nil =>
      rw [List.map_nil, List.append_nil]
      rfl
  | cons i items ih =>
      have hi := h i (List.mem_cons_self ..)
      have hblank : tokensFrom false read ((i :: items).flatMap fun i => ' ' :: charsOf i) =
          (finish? read false).toList ++
            tokensFrom false [] (charsOf i ++ items.flatMap fun i => ' ' :: charsOf i) := by
        rw [List.flatMap_cons, List.cons_append, tokensFrom,
          if_neg (by rw [isQuote_of_ne read (by decide)]; decide), if_pos (by decide)]
      rw [hblank, hi.scan, ih fun j hj => h j (List.mem_cons_of_mem _ hj), hi.finish]
      rfl

/-- The tokens of a command and what is said to it. -/
theorem tokens_spaced {command : String} (hcommand : IsWord command) :
    tokens (command.toList ++ items.flatMap fun i => ' ' :: charsOf i) =
      ⟨command.toList, false⟩ :: items.map tokenOf := by
  have hplain : ∀ c ∈ command.toList, c ≠ '"' ∧ Text.isBlank c = false := by
    intro c hc
    obtain ⟨hblank, hquote, _⟩ := hcommand.plain c hc
    exact ⟨hquote, hblank⟩
  rw [tokens, scanner_tokensFrom.plain hplain, List.append_nil, tokensFrom_spaced h,
    finish?_word hcommand]
  rfl

end Spaced

end Query

namespace WrittenItem

open Query

theorem finish?_chars {i : WrittenItem} (h : i.Writable) :
    finish? i.chars.reverse false = some i.token := by
  cases i with
  | argument text => exact finish?_argument h
  | parameter key value => exact finish?_parameter h.1 h.2.2

/-- **An item goes through a scan in one piece**, if the marks are not in its
key. -/
theorem scan_chars {β : Type} {mark : Char → Bool} {scan : Bool → List Char → List Char → β}
    (hs : Scanner mark scan) (hequals : mark '=' = false)
    (hmark : ∀ c, Text.isBlank c = false → c ≠ '|' → mark c = false) {i : WrittenItem}
    (h : i.Writable) {read : List Char} (hread : read.head? ≠ some '\\') (rest : List Char) :
    scan false read (i.chars ++ rest) = scan false (i.chars.reverse ++ read) rest := by
  cases i with
  | argument text => exact hs.quotedText h hread rest
  | parameter key value =>
      obtain ⟨hkey, _, hvalue⟩ := h
      have hplain : ∀ c ∈ key.toList, c ≠ '"' ∧ mark c = false := by
        intro c hc
        obtain ⟨hblank, hquote, hbar⟩ := hkey.plain c hc
        exact ⟨hquote, hmark c hblank hbar⟩
      have hhead : ('=' :: (key.toList.reverse ++ read)).head? ≠ some '\\' := by simp
      rw [chars, List.append_assoc, hs.plain hplain, List.cons_append,
        hs.pass _ _ _ _ (isQuote_of_ne _ (by decide)) (by rw [hequals]; rfl),
        hs.quotedText hvalue hhead, List.reverse_append, List.reverse_cons, List.append_assoc,
        List.append_assoc]
      rfl

theorem readAs {i : WrittenItem} (h : i.Writable) : ReadAs i.chars i.token where
  scan rest := by
    rw [scan_chars scanner_tokensFrom (by decide) (fun c hc _ => hc) h (by simp), List.append_nil]
  finish := finish?_chars h

end WrittenItem

namespace WrittenStage

open Query

theorem itemsChars_cons (i : WrittenItem) (items : List WrittenItem) :
    itemsChars (i :: items) = ' ' :: (i.chars ++ itemsChars items) := rfl

/-- The tokens of a stage are its command and what is said to it. -/
theorem tokens_chars {s : WrittenStage} (h : s.Writable) :
    tokens s.chars = ⟨s.command.toList, false⟩ :: s.items.map WrittenItem.token :=
  tokens_spaced (fun i hi => WrittenItem.readAs (h.items i hi)) h.command

/-! ## Segments -/

/-- A stage goes through the scan for bars in one piece. -/
theorem segmentsFrom_items {items : List WrittenItem} (h : ∀ i ∈ items, i.Writable)
    (read rest : List Char) :
    segmentsFrom false read (itemsChars items ++ rest) =
      segmentsFrom false ((itemsChars items).reverse ++ read) rest := by
  induction items generalizing read with
  | nil => rfl
  | cons i items ih =>
      rw [itemsChars_cons, List.cons_append,
        scanner_segmentsFrom.pass _ _ _ _ (isQuote_of_ne read (by decide)) (by decide),
        List.append_assoc, WrittenItem.scan_chars scanner_segmentsFrom (by decide)
          (fun c _ hc => by simpa using hc) (h i (List.mem_cons_self ..)) (by simp),
        ih fun j hj => h j (List.mem_cons_of_mem _ hj), List.reverse_cons, List.reverse_append]
      simp

theorem segmentsFrom_chars {s : WrittenStage} (h : s.Writable) (read rest : List Char) :
    segmentsFrom false read (s.chars ++ rest) =
      segmentsFrom false (s.chars.reverse ++ read) rest := by
  have hplain : ∀ c ∈ s.command.toList, c ≠ '"' ∧ (c == '|') = false := by
    intro c hc
    obtain ⟨_, hquote, hbar⟩ := h.command.plain c hc
    exact ⟨hquote, by simpa using hbar⟩
  rw [chars, List.append_assoc, scanner_segmentsFrom.plain hplain, segmentsFrom_items h.items,
    List.reverse_append, List.append_assoc]

/-- The segments of a written query: blanks stand around the bars. -/
def segmentsOf (first : List Char) : List WrittenStage → List (List Char)
  | [] => [first]
  | s :: rest => (first ++ [' ']) :: segmentsOf (' ' :: s.chars) rest

/-- **A bar ends a segment.** -/
theorem segmentsFrom_bars {stages : List WrittenStage} (h : ∀ s ∈ stages, s.Writable)
    (first : List Char) :
    segmentsFrom false first.reverse (barsChars stages) = segmentsOf first stages := by
  induction stages generalizing first with
  | nil =>
      show [first.reverse.reverse] = [first]
      rw [List.reverse_reverse]
  | cons s rest ih =>
      have hs := h s (List.mem_cons_self ..)
      have hbars : barsChars (s :: rest) = ' ' :: '|' :: ' ' :: (s.chars ++ barsChars rest) := rfl
      rw [hbars, scanner_segmentsFrom.pass _ _ _ _ (isQuote_of_ne _ (by decide)) (by decide),
        segmentsFrom, if_neg (by rw [isQuote_of_ne _ (by decide)]; decide), if_pos (by decide),
        scanner_segmentsFrom.pass _ _ _ _ (isQuote_of_ne _ (by decide)) (by decide),
        segmentsFrom_chars hs, segmentsOf, ← ih fun t ht => h t (List.mem_cons_of_mem _ ht),
        List.reverse_cons, List.reverse_cons, List.reverse_reverse]

end WrittenStage

/-! ## Trimming -/

theorem isBlank_of_mem_nil : ∀ c ∈ ([] : List Char), Text.isBlank c = true := by
  simp

theorem isBlank_of_mem_space : ∀ c ∈ [' '], Text.isBlank c = true := by
  intro c hc
  rw [List.mem_singleton.1 hc]
  rfl

/-- What stands around a text is trimmed away. -/
theorem trimWhile_between {p : Char → Bool} {before text after : List Char}
    (hbefore : ∀ c ∈ before, p c = true) (hafter : ∀ c ∈ after, p c = true)
    (hne : text ≠ []) (hfirst : ∀ c, text.head? = some c → p c = false)
    (hlast : ∀ c, text.getLast? = some c → p c = false) :
    Text.trimWhile p (before ++ (text ++ after)) = text := by
  have hkeep : ∀ {l : List Char} (m : List Char), l ≠ [] →
      (∀ c, l.head? = some c → p c = false) → (l ++ m).dropWhile p = l ++ m := by
    intro l m hl hhead
    cases l with
    | nil => exact absurd rfl hl
    | cons c l =>
        rw [List.cons_append, List.dropWhile_cons_of_neg]
        rw [hhead c rfl]
        decide
  have hreverse : ∀ c, text.reverse.head? = some c → p c = false := by
    intro c hc
    exact hlast c (by rwa [List.head?_reverse] at hc)
  have hback := hkeep [] (by simpa using hne) hreverse
  rw [List.append_nil] at hback
  rw [Text.trimWhile, Text.dropEndWhile,
    List.dropWhile_append_of_pos hbefore, hkeep after hne hfirst, List.reverse_append,
    List.dropWhile_append_of_pos (by simpa using hafter), hback, List.reverse_reverse]

/-- Blanks around a text are trimmed away. -/
theorem trimChars_between {before text after : List Char}
    (hbefore : ∀ c ∈ before, Text.isBlank c = true) (hafter : ∀ c ∈ after, Text.isBlank c = true)
    (hne : text ≠ []) (hfirst : ∀ c, text.head? = some c → Text.isBlank c = false)
    (hlast : ∀ c, text.getLast? = some c → Text.isBlank c = false) :
    Text.trimChars (before ++ (text ++ after)) = text :=
  trimWhile_between hbefore hafter hne hfirst hlast

namespace WrittenStage

theorem getLast?_itemsChars {items : List WrittenItem} (h : items ≠ []) :
    (itemsChars items).getLast? = some '"' := by
  have hitem : ∀ i : WrittenItem, (' ' :: i.chars).getLast? = some '"' := by
    intro i
    cases i with
    | argument text => simp [WrittenItem.chars, Query.quotedText, List.getLast?_cons]
    | parameter key value =>
        simp [WrittenItem.chars, Query.quotedText, List.getLast?_cons, List.getLast?_append]
  induction items with
  | nil => exact absurd rfl h
  | cons i items ih =>
      rw [itemsChars_cons, ← List.cons_append, List.getLast?_append, hitem]
      by_cases hitems : items = []
      · rw [hitems]
        rfl
      · rw [ih hitems]
        rfl

/-- A written stage has no blanks at its ends. -/
theorem trimChars_chars {s : WrittenStage} (h : s.Writable) {after : List Char}
    (hafter : ∀ c ∈ after, Text.isBlank c = true) :
    Text.trimChars (' ' :: (s.chars ++ after)) = s.chars := by
  have hblank : ∀ c ∈ s.command.toList, Text.isBlank c = false := fun c hc =>
    (h.command.plain c hc).1
  refine trimChars_between isBlank_of_mem_space hafter ?_ ?_ ?_
  · simp [chars, h.command.ne_nil]
  · intro c hc
    rw [chars, List.head?_append, Option.or_of_isSome (by simp [h.command.ne_nil])] at hc
    exact hblank c (List.mem_of_mem_head? hc)
  · intro c hc
    rw [chars, List.getLast?_append] at hc
    by_cases hitems : s.items = []
    · rw [hitems] at hc
      exact hblank c (List.mem_of_mem_getLast? hc)
    · rw [getLast?_itemsChars hitems] at hc
      obtain rfl : '"' = c := by simpa using hc
      decide

end WrittenStage

/-! ## Reading back -/

/-- A value as it is read, with its quotes. -/
def quotedValue (value : String) : String := String.ofList ('"' :: (value.toList ++ ['"']))

theorem unquote_quotedValue (value : String) : unquote (quotedValue value) = value := by
  rw [unquote, quotedValue, String.toList_ofList, unquoteChars,
    if_pos (by simp [List.getLast?_cons]),
    List.drop_succ_cons, List.drop_zero, List.dropLast_concat, String.ofList_toList]

/-- A text with a quote is no sign of comparison. -/
theorem contains_comparisonSigns {text : List Char} (h : '"' ∈ text) :
    comparisonSigns.contains (String.ofList text) = false := by
  have hsigns : ∀ sign ∈ comparisonSigns, '"' ∉ sign.toList := by decide
  rw [Bool.eq_false_iff, ne_eq, List.contains_iff_mem]
  intro hmem
  have hnot := hsigns _ hmem
  rw [String.toList_ofList] at hnot
  exact hnot h

theorem cutAt?_of_notMem {mark : Char} {before : List Char} (h : mark ∉ before)
    (after : List Char) : Text.cutAt? mark (before ++ mark :: after) = some (before, after) := by
  induction before with
  | nil => simp [Text.cutAt?]
  | cons c before ih =>
      have hc : c ≠ mark := fun hc => h (by simp [hc])
      rw [List.cons_append, Text.cutAt?, ih fun hmem => h (List.mem_cons_of_mem _ hmem)]
      simp [hc]

theorem cutAt?_eq_none_of_notMem {mark : Char} {text : List Char} (h : mark ∉ text) :
    Text.cutAt? mark text = none := by
  induction text with
  | nil => rfl
  | cons c text ih =>
      have hc : c ≠ mark := fun hc => h (by simp [hc])
      rw [Text.cutAt?, ih fun hmem => h (List.mem_cons_of_mem _ hmem)]
      simp [hc]

namespace WrittenItem

theorem param?_argument (text : String) : (argument text).token.param? = none := rfl

theorem param?_parameter {key value : String} (hkey : '=' ∉ key.toList) :
    (parameter key value).token.param? = some (key, quotedValue value) := by
  rw [token, Query.Token.param?, contains_comparisonSigns (by simp), cutAt?_of_notMem hkey,
    if_neg (by simp), Option.map_some, String.ofList_toList]
  rfl

theorem addToken_argument (spec : StageSpec) (text : String) :
    spec.addToken (argument text).token = { spec with args := spec.args ++ [text] } := by
  rw [StageSpec.addToken, param?_argument]
  simp only [token, String.ofList_toList]

theorem addToken_parameter (spec : StageSpec) {key value : String} (hkey : '=' ∉ key.toList) :
    spec.addToken (parameter key value).token =
      { spec with params := spec.params.insert key (quotedValue value) } := by
  rw [StageSpec.addToken, param?_parameter hkey]

end WrittenItem

namespace WrittenStage

/-- What is read for the stage. -/
def spec (s : WrittenStage) : StageSpec where
  command := Text.lower s.command
  args := s.arguments
  params := .ofList (s.parameters.map fun p => (p.1, quotedValue p.2))

/-- Every token is added as the item it was written for. -/
theorem foldl_addToken {items : List WrittenItem} (h : ∀ i ∈ items, i.Writable)
    (spec : StageSpec) :
    (items.map WrittenItem.token).foldl StageSpec.addToken spec =
      { spec with
        args := spec.args ++ items.filterMap WrittenItem.argument?
        params := ((items.filterMap WrittenItem.parameter?).map
            fun p => (p.1, quotedValue p.2)).foldl (fun m e => m.insert e.1 e.2) spec.params } := by
  induction items generalizing spec with
  | nil => simp
  | cons i items ih =>
      rw [List.map_cons, List.foldl_cons, ih fun j hj => h j (List.mem_cons_of_mem _ hj)]
      cases i with
      | argument text =>
          rw [WrittenItem.addToken_argument]
          show StageSpec.mk _ (spec.args ++ [text] ++ _) _ = _
          rw [List.append_assoc]
          rfl
      | parameter key value =>
          have hkey : '=' ∉ key.toList := (h _ (List.mem_cons_self ..)).2.1
          rw [WrittenItem.addToken_parameter spec hkey]
          rfl

/-- **A written stage is read back**, with or without a blank behind it. -/
theorem ofChars?_segment {s : WrittenStage} (h : s.Writable) {after : List Char}
    (hafter : ∀ c ∈ after, Text.isBlank c = true) :
    StageSpec.ofChars? (' ' :: (s.chars ++ after)) = some s.spec := by
  rw [StageSpec.ofChars?, trimChars_chars h hafter, tokens_chars h]
  simp only
  rw [foldl_addToken h.items]
  rfl

theorem filterMap_segmentsOf {s : WrittenStage} {rest : List WrittenStage}
    (h : ∀ t ∈ s :: rest, t.Writable) :
    (segmentsOf (' ' :: s.chars) rest).filterMap StageSpec.ofChars? = (s :: rest).map spec := by
  induction rest generalizing s with
  | nil =>
      have hs := ofChars?_segment (h s (by simp)) isBlank_of_mem_nil
      rw [List.append_nil] at hs
      simp [segmentsOf, hs]
  | cons t rest ih =>
      have hs := ofChars?_segment (h s (by simp)) isBlank_of_mem_space
      have hrest := ih fun u hu => h u (List.mem_cons_of_mem _ hu)
      rw [segmentsOf, List.cons_append, List.filterMap_cons_some hs, hrest]
      rfl

end WrittenStage

theorem IsBase.trimChars {base : String} (h : IsBase base) {after : List Char}
    (hafter : ∀ c ∈ after, Text.isBlank c = true) :
    Text.trimChars (base.toList ++ after) = base.toList :=
  trimChars_between isBlank_of_mem_nil hafter h.ne_nil h.first h.last

/-- What is read for a query that was written. -/
theorem Query.read_write_eq {base : String} {stages : List WrittenStage} (hbase : IsBase base)
    (hstages : ∀ s ∈ stages, s.Writable) :
    Query.read (Query.write base stages) = ⟨base, stages.map WrittenStage.spec⟩ := by
  have hplain : ∀ c ∈ base.toList, c ≠ '"' ∧ (c == '|') = false := by
    intro c hc
    obtain ⟨hquote, hbar⟩ := hbase.plain c hc
    exact ⟨hquote, by simpa using hbar⟩
  have hsegments : Query.segments (Query.write base stages).toList =
      WrittenStage.segmentsOf base.toList stages := by
    rw [Query.write, String.toList_ofList, Query.segments, scanner_segmentsFrom.plain hplain,
      List.append_nil, WrittenStage.segmentsFrom_bars hstages]
  have hempty : base.toList.isEmpty = false := by
    rw [List.isEmpty_eq_false_iff]
    exact hbase.ne_nil
  unfold Query.read
  rw [hsegments]
  cases stages with
  | nil =>
      have htrim := hbase.trimChars isBlank_of_mem_nil
      rw [List.append_nil] at htrim
      simp [WrittenStage.segmentsOf, htrim, hempty]
  | cons s rest =>
      simp [WrittenStage.segmentsOf, hbase.trimChars isBlank_of_mem_space, hempty,
        WrittenStage.filterMap_segmentsOf hstages]

/-- A stage that was read has what was written. -/
structure ReadsBack (s : WrittenStage) (spec : StageSpec) : Prop where
  command : spec.command = Text.lower s.command
  args : spec.args = s.arguments
  /-- Exactly the keys that were written, in the order in which they first come. -/
  keys : spec.params.keys = firstOccurrences (s.parameters.map Prod.fst)
  /-- The last value of each key, without its quotes. -/
  values : ∀ key, spec.param? key = OrderedMap.lastValue? key s.parameters

theorem WrittenStage.readsBack_spec (s : WrittenStage) : ReadsBack s s.spec where
  command := rfl
  args := rfl
  keys := by
    rw [spec, OrderedMap.keys_ofList, List.map_map]
    rfl
  values key := by
    rw [StageSpec.param?, spec, OrderedMap.get?_ofList,
      OrderedMap.lastValue?_map quotedValue, Option.map_map]
    have hid : unquote ∘ quotedValue = id := funext unquote_quotedValue
    rw [hid, Option.map_id]
    rfl

/-- **Writing and reading give everything back**: the base filter, the stages in
order, and in each the command in lower case, the arguments in order, and the
last value of every key, whatever characters they are made of. -/
theorem Query.read_write {base : String} {stages : List WrittenStage} (hbase : IsBase base)
    (hstages : ∀ s ∈ stages, s.Writable) :
    (Query.read (Query.write base stages)).base = base ∧
      List.Forall₂ ReadsBack stages (Query.read (Query.write base stages)).stages := by
  rw [Query.read_write_eq hbase hstages]
  refine ⟨rfl, ?_⟩
  rw [List.forall₂_map_right_iff, List.forall₂_same]
  exact fun s _ => s.readsBack_spec

/-- What holds of each character can be computed. -/
theorem forall_mem_of_all {p : Char → Prop} [DecidablePred p] {text : List Char}
    (h : (text.all fun c => decide (p c)) = true) : ∀ c ∈ text, p c :=
  fun c hc => of_decide_eq_true (List.all_eq_true.1 h c hc)

/-- A stage that says bars, quotes and nothing, and one key twice. -/
def manyMarks : WrittenStage where
  command := "Filter"
  items := [.parameter "k" "=", .argument "a | \"b\"", .argument "", .parameter "k" "\n"]

theorem manyMarks_writable : manyMarks.Writable where
  command := ⟨by decide, forall_mem_of_all (by decide)⟩
  items := by
    intro i hi
    simp only [manyMarks, List.mem_cons, List.not_mem_nil, or_false] at hi
    rcases hi with rfl | rfl | rfl | rfl
    · exact ⟨⟨by decide, forall_mem_of_all (by decide)⟩, by decide, by decide⟩
    · exact show Quotable _ by decide
    · exact show Quotable _ by decide
    · exact ⟨⟨by decide, forall_mem_of_all (by decide)⟩, by decide, by decide⟩

/-- Marks in arguments and values are read back, between two words. -/
theorem Query.read_write_manyMarks :
    (Query.read (Query.write "x y" [manyMarks, manyMarks])).base = "x y" ∧
      List.Forall₂ ReadsBack [manyMarks, manyMarks]
        (Query.read (Query.write "x y" [manyMarks, manyMarks])).stages := by
  have hbase : IsBase "x y" := .of_ends (forall_mem_of_all (by decide)) rfl rfl (by decide)
  refine Query.read_write hbase fun s hs => ?_
  have hs' : s = manyMarks := by simpa using hs
  rw [hs']
  exact manyMarks_writable

end PipeQuery
