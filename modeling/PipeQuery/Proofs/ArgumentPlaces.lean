import PipeQuery.Proofs.BuildFaults
import PipeQuery.Proofs.Written

/-!
# Arguments and their places

A stage is written as a command and arguments, each of them a word or a text in
quotes (`WrittenArgument`).  Reading keeps the texts and forgets which of them
stood in quotes (`read?_line`), and this is felt twice when stages are built.

* The pattern and the last part of a transform are looked for behind the words
  `regex` and `as` or `with`, wherever these first come.  A field or a pattern
  that spells one of them takes its place: `PatternOperation.places_kept_iff`
  says what is taken for what, and when this is what was meant.
* Quotes at both ends are taken off the value of a filter although the quotes it
  was written in are gone.  `Filter.values_written` says which values come
  through as they are, and that every value does with quotes of its own around it.
-/

namespace PipeQuery

/-! ## Written lines -/

/-- An argument as it is written: a word, or a text in quotes. -/
inductive WrittenArgument where
  | word (text : String)
  | quoted (text : String)

/-- A text that needs no quotes: not empty, without blanks and quotes, and no key
with a value. -/
structure IsArgumentWord (text : String) : Prop where
  ne_nil : text.toList ≠ []
  plain : ∀ c ∈ text.toList, Text.isBlank c = false ∧ c ≠ '"'
  sign : '=' ∈ text.toList → text ∈ comparisonSigns

namespace WrittenArgument

open Query

/-- What the argument says. -/
def text : WrittenArgument → String
  | word text | quoted text => text

/-- How the argument is written. -/
def chars : WrittenArgument → List Char
  | word text => text.toList
  | quoted text => quotedText text.toList

/-- The argument can be read again: as a bare word, or between quotes. -/
def Writable : WrittenArgument → Prop
  | word text => IsArgumentWord text
  | quoted text => Quotable text

/-- The token that is read for the argument. -/
def token : WrittenArgument → Token
  | word text => ⟨text.toList, false⟩
  | quoted text => ⟨text.toList, true⟩

theorem readAs {a : WrittenArgument} (h : a.Writable) : ReadAs a.chars a.token := by
  cases a with
  | word text =>
      have hplain : ∀ c ∈ text.toList, c ≠ '"' ∧ Text.isBlank c = false :=
        fun c hc => (h.plain c hc).symm
      refine ⟨fun rest => ?_, finish?_plain h.ne_nil fun hmem => (h.plain _ hmem).2 rfl⟩
      rw [chars, scanner_tokensFrom.plain hplain, List.append_nil]
  | quoted text =>
      refine ⟨fun rest => ?_, finish?_argument h⟩
      rw [chars, scanner_tokensFrom.quotedText h (by simp), List.append_nil]

/-- A written argument is no key with a value. -/
theorem param?_token {a : WrittenArgument} (h : a.Writable) : a.token.param? = none := by
  cases a with
  | quoted text => rfl
  | word text =>
      rw [token, Token.param?, String.ofList_toList]
      by_cases hsign : text ∈ comparisonSigns
      · rw [if_pos (by simpa using hsign)]
      · rw [if_neg (by simpa using hsign), cutAt?_eq_none_of_notMem fun hmem => hsign (h.sign hmem)]
        rfl

theorem foldl_addToken {arguments : List WrittenArgument} (h : ∀ a ∈ arguments, a.Writable)
    (spec : StageSpec) :
    (arguments.map token).foldl StageSpec.addToken spec =
      { spec with args := spec.args ++ arguments.map text } := by
  induction arguments generalizing spec with
  | nil => simp
  | cons a arguments ih =>
      have hadd : spec.addToken a.token = { spec with args := spec.args ++ [a.text] } := by
        rw [StageSpec.addToken, param?_token (h a (List.mem_cons_self ..))]
        cases a <;> simp only [token, text, String.ofList_toList]
      rw [List.map_cons, List.foldl_cons, hadd, ih fun b hb => h b (List.mem_cons_of_mem _ hb),
        List.map_cons]
      simp

/-- The characters end in one that is not blank. -/
def EndsPlain (chars : List Char) : Prop :=
  ∃ c, chars.getLast? = some c ∧ Text.isBlank c = false

theorem EndsPlain.append {chars : List Char} (h : EndsPlain chars) (before : List Char) :
    EndsPlain (before ++ chars) := by
  obtain ⟨c, hlast, hblank⟩ := h
  exact ⟨c, by rw [List.getLast?_append, hlast]; rfl, hblank⟩

theorem endsPlain_chars {a : WrittenArgument} (h : a.Writable) : EndsPlain a.chars := by
  cases a with
  | quoted text => exact ⟨'"', by simp [chars, quotedText, List.getLast?_cons], by decide⟩
  | word text =>
      obtain ⟨c, hlast⟩ := Option.isSome_iff_exists.1 (List.getLast?_isSome.2 h.ne_nil)
      exact ⟨c, hlast, (h.plain c (List.mem_of_getLast? hlast)).1⟩

/-- A command and its arguments, a blank before each. -/
def lineChars (command : String) (arguments : List WrittenArgument) : List Char :=
  command.toList ++ arguments.flatMap fun a => ' ' :: a.chars

/-- A stage as it is written. -/
def line (command : String) (arguments : List WrittenArgument) : String :=
  String.ofList (lineChars command arguments)

example : line "filter" [.word "msg", .word "=", .quoted "a \"b\""] =
    "filter msg = \"a \\\"b\\\"\"" := by decide +kernel

section Line

variable {command : String} {arguments : List WrittenArgument}
  (hcommand : IsWord command) (harguments : ∀ a ∈ arguments, a.Writable)

include hcommand harguments

theorem endsPlain_lineChars : EndsPlain (lineChars command arguments) := by
  rcases List.eq_nil_or_concat arguments with rfl | ⟨before, a, rfl⟩
  · obtain ⟨c, hlast⟩ := Option.isSome_iff_exists.1 (List.getLast?_isSome.2 hcommand.ne_nil)
    refine ⟨c, ?_, (hcommand.plain c (List.mem_of_getLast? hlast)).1⟩
    rw [lineChars, List.flatMap_nil, List.append_nil, hlast]
  · have ha : EndsPlain a.chars := endsPlain_chars (harguments a (by simp))
    have hchars : lineChars command (before ++ [a]) =
        (lineChars command before ++ [' ']) ++ a.chars := by
      simp [lineChars]
    rw [List.concat_eq_append, hchars]
    exact ha.append _

theorem trimChars_lineChars :
    Text.trimChars (lineChars command arguments) = lineChars command arguments := by
  have hfirst : ∀ c, (lineChars command arguments).head? = some c → Text.isBlank c = false := by
    intro c hc
    rw [lineChars, List.head?_append, Option.or_of_isSome (by simp [hcommand.ne_nil])] at hc
    exact (hcommand.plain c (List.mem_of_mem_head? hc)).1
  have hlast : ∀ c, (lineChars command arguments).getLast? = some c → Text.isBlank c = false := by
    intro c hc
    obtain ⟨d, hd, hblank⟩ := endsPlain_lineChars hcommand harguments
    rw [hc] at hd
    cases hd
    exact hblank
  have htrim := trimChars_between isBlank_of_mem_nil isBlank_of_mem_nil
    (by simp [lineChars, hcommand.ne_nil]) hfirst hlast
  rwa [List.append_nil] at htrim

/-- **A written line is read** as its command and the texts of its arguments;
which of them stood in quotes is not kept. -/
theorem read?_line :
    StageSpec.read? (line command arguments) =
      some ⟨Text.lower command, arguments.map text, .empty⟩ := by
  have htokens : tokens (lineChars command arguments) =
      ⟨command.toList, false⟩ :: arguments.map token :=
    tokens_spaced (fun a ha => readAs (harguments a ha)) hcommand
  rw [StageSpec.read?, line, String.toList_ofList, StageSpec.ofChars?,
    trimChars_lineChars hcommand harguments, htokens]
  dsimp only
  rw [foldl_addToken harguments, List.nil_append]
  rfl

end Line

/-- What comes of a written line, if anything stands in it. -/
def built? [Platform] (timezone command : String) (arguments : List WrittenArgument) :
    Option (Except Fault Stage) :=
  (StageSpec.read? (line command arguments)).map (Stage.built timezone)

end WrittenArgument

/-- A pattern knows its text. -/
theorem Pattern.source_of_parse [Platform] {source : String} {p : Pattern}
    (h : parse source = .ok p) : p.source = source := by
  unfold parse at h
  split at h
  · cases h
  · split at h
    · cases h
    · cases h
      rfl

theorem Pattern.source_of_read [Platform] {source : String} {p : Pattern}
    (h : read source = .ok p) : p.source = source := by
  unfold read at h
  split at h
  · cases h
  · split at h
    · next hparse =>
      cases h
      exact source_of_parse hparse
    · cases h

theorem Pattern.readFor_eq_ok_iff [Platform] {stage source : String} {p : Pattern} :
    readFor stage source = .ok p ↔ read source = .ok p := by
  unfold readFor
  cases read source with
  | ok p' => simp [Except.mapError]
  | error failure => simp [Except.mapError]

/-- A pattern without groups is read on every platform. -/
theorem Pattern.exists_read_regex [Platform] : ∃ p, read "regex" = .ok p := by
  have hparse : ∃ p, parse "regex" = .ok p := ⟨_, rfl⟩
  obtain ⟨p, hparse⟩ := hparse
  have hflat : Platform.outgrownBy "regex" = false := Platform.outgrownBy_of_flat (by decide)
  exact ⟨p, by rw [read, if_neg (by simp [hflat]), hparse]⟩

open WrittenArgument

/-! ## Transforms with a pattern -/

/-- The transforms with a pattern. -/
inductive PatternOperation where
  | extract
  | replace

namespace PatternOperation

/-- The name of the operation. -/
def name : PatternOperation → String
  | extract => "extract"
  | replace => "replace"

/-- The word in front of the last part. -/
def closing : PatternOperation → String
  | extract => "as"
  | replace => "with"

/-- The transform with its field, its pattern and its last part. -/
def transform : PatternOperation → String → Pattern → String → Transform
  | extract => .extract
  | replace => .replace

/-- The arguments in the order of the form: `extract "field" regex "source" as "last"`. -/
def written (op : PatternOperation) (field source last : String) : List WrittenArgument :=
  [.word op.name, .quoted field, .word "regex", .quoted source, .word op.closing, .quoted last]

/-- What is taken for the pattern. -/
def sourceTaken (field source : String) : String :=
  if isKeyword "regex" field then "regex" else source

/-- What is taken for the last part. -/
def lastTaken (op : PatternOperation) (field source last : String) : String :=
  if isKeyword op.closing field then "regex"
  else if isKeyword op.closing source then op.closing
  else last

/-- Each part is taken for what it was meant to be: a keyword comes before its place
only where what stands behind it is the same text. -/
structure PlacesKept (op : PatternOperation) (field source last : String) : Prop where
  regexInField : isKeyword "regex" field = true → source = "regex"
  closingInField : isKeyword op.closing field = true → last = "regex"
  closingInSource : isKeyword op.closing field = false → isKeyword op.closing source = true →
    last = op.closing

theorem sourceTaken_eq_iff {field source : String} :
    sourceTaken field source = source ↔ (isKeyword "regex" field = true → source = "regex") := by
  unfold sourceTaken
  by_cases h : isKeyword "regex" field = true
  · rw [if_pos h]
    exact ⟨fun heq _ => heq.symm, fun heq => (heq h).symm⟩
  · rw [if_neg h]
    exact iff_of_true rfl fun h' => absurd h' h

theorem placesKept_iff {op : PatternOperation} {field source last : String} :
    op.PlacesKept field source last ↔
      sourceTaken field source = source ∧ op.lastTaken field source last = last := by
  have hparts : op.PlacesKept field source last ↔
      (isKeyword "regex" field = true → source = "regex") ∧
      (isKeyword op.closing field = true → last = "regex") ∧
      (isKeyword op.closing field = false → isKeyword op.closing source = true →
        last = op.closing) :=
    ⟨fun h => ⟨h.1, h.2, h.3⟩, fun h => ⟨h.1, h.2.1, h.2.2⟩⟩
  rw [hparts, sourceTaken_eq_iff]
  refine and_congr_right fun _ => ?_
  unfold lastTaken
  cases isKeyword op.closing field <;> cases isKeyword op.closing source <;> simp [eq_comm]

/-- The arguments that are read of a written transform. -/
def args (op : PatternOperation) (field source last : String) : List String :=
  [op.name, field, "regex", source, op.closing, last]

theorem exists_regexIndex (op : PatternOperation) (field source last : String) :
    ∃ i, keywordIndex? "regex" (op.args field source last) = some i ∧
      (op.args field source last)[i + 1]? = some (sourceTaken field source) := by
  have hname : isKeyword "regex" op.name = false := by cases op <;> decide
  have hregex : isKeyword "regex" "regex" = true := by decide
  unfold keywordIndex? args sourceTaken
  rw [List.findIdx?_cons, hname, List.findIdx?_cons]
  by_cases hfield : isKeyword "regex" field = true
  · rw [hfield]
    exact ⟨1, rfl, rfl⟩
  · rw [if_neg hfield, Bool.eq_false_iff.2 hfield, List.findIdx?_cons, hregex]
    exact ⟨2, rfl, rfl⟩

theorem exists_closingIndex (op : PatternOperation) (field source last : String) :
    ∃ j, keywordIndex? op.closing (op.args field source last) = some j ∧
      (op.args field source last)[j + 1]? = some (op.lastTaken field source last) := by
  have hname : isKeyword op.closing op.name = false := by cases op <;> decide
  have hregex : isKeyword op.closing "regex" = false := by cases op <;> decide
  have hclosing : isKeyword op.closing op.closing = true := by cases op <;> decide
  unfold keywordIndex? args lastTaken
  rw [List.findIdx?_cons, hname, List.findIdx?_cons]
  by_cases hfield : isKeyword op.closing field = true
  · rw [hfield]
    exact ⟨1, rfl, rfl⟩
  · rw [if_neg hfield, Bool.eq_false_iff.2 hfield, List.findIdx?_cons, hregex, List.findIdx?_cons]
    by_cases hsource : isKeyword op.closing source = true
    · rw [hsource]
      exact ⟨3, rfl, rfl⟩
    · rw [if_neg hsource, Bool.eq_false_iff.2 hsource, List.findIdx?_cons, hclosing]
      exact ⟨4, rfl, rfl⟩

theorem patternArgs_args [Platform] (op : PatternOperation) {field source last : String}
    {taken : Pattern} (htaken : Pattern.read (sourceTaken field source) = .ok taken) :
    Transform.patternArgs op.name op.closing (op.args field source last) =
      .ok (field, taken, op.lastTaken field source last) := by
  obtain ⟨i, hregex, hsource⟩ := op.exists_regexIndex field source last
  obtain ⟨j, hclosing, hlast⟩ := op.exists_closingIndex field source last
  have form : Transform.PatternForm op.closing (op.args field source last) i j :=
    ⟨Nat.le_refl 6, hregex, hclosing⟩
  obtain ⟨first, hfirst, hargs⟩ := Transform.patternArgs_of_form op.name form
  cases hfirst
  have hread : Pattern.readFor Transform.stageName (sourceTaken field source) = .ok taken :=
    Pattern.readFor_eq_ok_iff.2 htaken
  rw [hargs, Transform.argAfter_of_some hsource, Transform.argAfter_of_some hlast]
  dsimp only [Except.bind]
  rw [hread]
  rfl

theorem built_args [Platform] (op : PatternOperation) {field source last : String}
    {taken : Pattern} (htaken : Pattern.read (sourceTaken field source) = .ok taken) (timezone : String) :
    Stage.built timezone ⟨"transform", op.args field source last, .empty⟩ =
      .ok (.transform (op.transform field taken (op.lastTaken field source last))) := by
  have hbuild : Transform.build ⟨"transform", op.args field source last, .empty⟩ =
      (Transform.patternArgs op.name op.closing (op.args field source last)).map fun p =>
        op.transform p.1 p.2.1 p.2.2 := by
    cases op <;> rfl
  have hcommand : Text.lower "transform" = "transform" := by decide
  rw [Stage.built_transform timezone _ _ hcommand, hbuild, op.patternArgs_args htaken]
  rfl

theorem transform_inj {op : PatternOperation} {field last last' : String} {p p' : Pattern} :
    op.transform field p last = op.transform field p' last' ↔ p = p' ∧ last = last' := by
  cases op <;> simp [transform]

theorem written_writable (op : PatternOperation) {field source last : String}
    (hfield : Quotable field) (hsource : Quotable source) (hlast : Quotable last) :
    ∀ a ∈ op.written field source last, a.Writable := by
  intro a ha
  simp only [written, List.mem_cons, List.not_mem_nil, or_false] at ha
  rcases ha with rfl | rfl | rfl | rfl | rfl | rfl
  · cases op <;> exact ⟨by decide, forall_mem_of_all (by decide), by decide⟩
  · exact hfield
  · exact ⟨by decide, forall_mem_of_all (by decide), by decide⟩
  · exact hsource
  · cases op <;> exact ⟨by decide, forall_mem_of_all (by decide), by decide⟩
  · exact hlast

/-- A transform with a pattern, as it is written. -/
def built? [Platform] (op : PatternOperation) (timezone field source last : String) :
    Option (Except Fault Stage) :=
  WrittenArgument.built? timezone "transform" (op.written field source last)

/-- **Keywords are taken before places.**  Of `extract "field" regex "source" as "last"`,
and of `replace` with `with`, whatever characters the three are made of, a stage is
built with this field; its pattern and its last part are what stands behind the
keywords where they first come.  These are the ones that were meant if and only if the
field spells no keyword and the pattern does not spell the second one, except where
what is taken instead is the same text. -/
theorem places_kept_iff [Platform] (op : PatternOperation) {field source last : String}
    {pattern : Pattern} (hfield : Quotable field) (hsource : Quotable source) (hlast : Quotable last)
    (hread : Pattern.read source = .ok pattern) (timezone : String) :
    (∃ taken, Pattern.read (sourceTaken field source) = .ok taken ∧
      op.built? timezone field source last =
        some (.ok (.transform (op.transform field taken (op.lastTaken field source last))))) ∧
    (op.built? timezone field source last =
        some (.ok (.transform (op.transform field pattern last))) ↔
      op.PlacesKept field source last) := by
  obtain ⟨taken, htaken⟩ : ∃ taken, Pattern.read (sourceTaken field source) = .ok taken := by
    unfold sourceTaken
    split
    · exact Pattern.exists_read_regex
    · exact ⟨pattern, hread⟩
  have hbuilt : op.built? timezone field source last =
      some (.ok (.transform (op.transform field taken (op.lastTaken field source last)))) := by
    have hcommand : IsWord "transform" := ⟨by decide, forall_mem_of_all (by decide)⟩
    have hlower : Text.lower "transform" = "transform" := by decide
    rw [built?, WrittenArgument.built?,
      read?_line hcommand (op.written_writable hfield hsource hlast), hlower, Option.map_some]
    exact congrArg some (op.built_args htaken timezone)
  refine ⟨⟨taken, htaken, hbuilt⟩, ?_⟩
  have hsame : taken = pattern ↔ sourceTaken field source = source := by
    constructor
    · rintro rfl
      rw [← Pattern.source_of_read htaken, Pattern.source_of_read hread]
    · intro heq
      rw [heq, hread] at htaken
      cases htaken
      rfl
  rw [hbuilt, placesKept_iff, ← hsame]
  simp only [Option.some.injEq, Except.ok.injEq, Stage.transform.injEq, transform_inj]

/-- A field with the name of a keyword: what is written to go to `t` goes to `regex`. -/
theorem places_kept_of_field_as : Quotable "as" ∧ Quotable "x" ∧ Quotable "t" ∧
    ∃ pattern, Pattern.read "x" = .ok pattern ∧
      extract.built? "UTC" "as" "x" "t" =
        some (.ok (.transform (.extract "as" pattern "regex"))) ∧
      extract.built? "UTC" "as" "x" "t" ≠ some (.ok (.transform (.extract "as" pattern "t"))) := by
  have hfield : Quotable "as" := by decide
  have hsource : Quotable "x" := by decide
  have hlast : Quotable "t" := by decide
  obtain ⟨pattern, hread⟩ : ∃ pattern, Pattern.read "x" = .ok pattern := ⟨_, rfl⟩
  obtain ⟨⟨taken, htaken, hbuilt⟩, hkept⟩ :=
    places_kept_iff .extract hfield hsource hlast hread "UTC"
  have hsourceTaken : sourceTaken "as" "x" = "x" := by decide
  rw [hsourceTaken, hread] at htaken
  cases htaken
  refine ⟨hfield, hsource, hlast, pattern, hread, hbuilt, fun hmeant => ?_⟩
  exact absurd ((hkept.1 hmeant).closingInField (by decide)) (by decide)

end PatternOperation

/-! ## Values of filters -/

/-- What an operator asks of a field when it comes with this value. -/
inductive Condition.AskedBy [Platform] (operator value : String) : Condition → Prop
  | comparison {c : Comparison} (named : Comparison.named? (Text.lower operator) = some c) :
      AskedBy operator value (.comparison c)
  | pattern {t : PatternTest} {p : Pattern}
      (named : PatternTest.named? (Text.lower operator) = some t)
      (hread : Pattern.read value = .ok p) : AskedBy operator value (.pattern t p)

namespace Filter

theorem create_eq_ok_iff [Platform] {field operator value : String} {f : Filter} :
    create field operator value = .ok f ↔
      ∃ c, Condition.AskedBy operator value c ∧ f = ⟨field, value, c⟩ := by
  constructor
  · intro h
    unfold create at h
    dsimp only at h
    split at h
    · next c named =>
      cases h
      exact ⟨_, .comparison named, rfl⟩
    · split at h
      · cases h
      · next t named =>
        obtain ⟨p, hread, rfl⟩ := Except.exists_of_map_eq_ok h
        exact ⟨_, .pattern named (Pattern.readFor_eq_ok_iff.1 hread), rfl⟩
  · rintro ⟨_, hasked, rfl⟩
    unfold create
    cases hasked with
    | comparison named =>
        dsimp only
        rw [named]
    | pattern named hread =>
        dsimp only
        rw [named?_eq_none_of_patternTest named, named]
        dsimp only
        rw [Pattern.readFor_eq_ok_iff.2 hread]
        rfl

/-- Of these arguments a filter is built if and only if the operator takes the
value, and it has this field, this value and what the operator asks. -/
def Expresses [Platform] (timezone field operator value : String)
    (arguments : List WrittenArgument) : Prop :=
  ∀ stage, built? timezone "filter" arguments = some (.ok stage) ↔
    ∃ c, Condition.AskedBy operator value c ∧ stage = .filter ⟨field, value, c⟩

/-- Quotes at both ends of a value that was in quotes are taken off as well. -/
theorem expresses_unquote [Platform] {field operator : WrittenArgument} {value : String}
    (hfield : field.Writable) (hoperator : operator.Writable) (hvalue : Quotable value)
    (timezone : String) :
    Expresses timezone field.text operator.text (unquote value)
      [field, operator, .quoted value] := by
  have harguments : ∀ a ∈ [field, operator, .quoted value], a.Writable := by
    intro a ha
    simp only [List.mem_cons, List.not_mem_nil, or_false] at ha
    rcases ha with rfl | rfl | rfl
    · exact hfield
    · exact hoperator
    · exact hvalue
  have hcommand : IsWord "filter" := ⟨by decide, forall_mem_of_all (by decide)⟩
  have hlower : Text.lower "filter" = "filter" := by decide
  have hbuilt : built? timezone "filter" [field, operator, .quoted value] =
      some ((create field.text operator.text (unquote value)).map .filter) := by
    rw [built?, read?_line hcommand harguments, hlower, Option.map_some,
      Stage.built_filter timezone _ _ hlower]
    rfl
  intro stage
  rw [hbuilt, Option.some.injEq]
  constructor
  · intro h
    obtain ⟨f, hf, rfl⟩ := Except.exists_of_map_eq_ok h
    obtain ⟨c, hasked, rfl⟩ := create_eq_ok_iff.1 hf
    exact ⟨c, hasked, rfl⟩
  · rintro ⟨c, hasked, rfl⟩
    rw [create_eq_ok_iff.2 ⟨c, hasked, rfl⟩]
    rfl

end Filter

/-- Quotes are taken off a text only if they stand at both of its ends. -/
theorem unquote_of_not_quoted {value : String} (h : ∀ inner, value ≠ quotedValue inner) :
    unquote value = value := by
  have hends : ¬ (2 ≤ value.toList.length && value.toList.head? == some '"'
      && value.toList.getLast? == some '"') = true := by
    rw [Bool.and_eq_true, Bool.and_eq_true, decide_eq_true_iff, beq_iff_eq, beq_iff_eq]
    rintro ⟨⟨hlength, hfirst⟩, hlast⟩
    obtain ⟨rest, hrest⟩ := List.head?_eq_some_iff.1 hfirst
    rw [hrest] at hlength hlast
    have hne : rest ≠ [] := by
      rintro rfl
      simp at hlength
    obtain ⟨inner, hinner⟩ : ∃ inner, rest = inner ++ ['"'] := by
      rw [List.getLast?_cons_of_ne_nil hne] at hlast
      exact List.getLast?_eq_some_iff.1 hlast
    refine h (String.ofList inner) ?_
    rw [quotedValue, String.toList_ofList, ← hinner, ← hrest, String.ofList_toList]
  rw [unquote, unquoteChars, if_neg hends, String.ofList_toList]

theorem quotable_quotedValue (value : String) : Quotable (quotedValue value) := by
  rw [Quotable, quotedValue, String.toList_ofList, ← List.cons_append,
    List.getLast?_concat]
  decide

namespace Filter

/-- **Every value can be written.**  In quotes, with a backslash before each of its
own, a value is what the filter has, unless it stands between quotes itself; and
with a further pair of quotes around it every value is, also one that stands
between quotes or ends in a backslash. -/
theorem values_written [Platform] {field operator : WrittenArgument} (hfield : field.Writable)
    (hoperator : operator.Writable) (timezone value : String) :
    (Quotable value → (∀ inner, value ≠ quotedValue inner) →
      Expresses timezone field.text operator.text value [field, operator, .quoted value]) ∧
    Expresses timezone field.text operator.text value
      [field, operator, .quoted (quotedValue value)] := by
  constructor
  · intro hvalue hquotes
    have hsame := expresses_unquote hfield hoperator hvalue timezone
    rwa [unquote_of_not_quoted hquotes] at hsame
  · have hquoted := expresses_unquote hfield hoperator (quotable_quotedValue value) timezone
    rwa [unquote_quotedValue] at hquoted

/-- Quotes inside a value stay, and so they do inside a further pair. -/
theorem values_written_says_hi :
    IsArgumentWord "msg" ∧ IsArgumentWord "CONTAINS" ∧
      built? "UTC" "filter" [.word "msg", .word "CONTAINS", .quoted "say \"hi\""] =
        some (.ok (.filter ⟨"msg", "say \"hi\"", .comparison .contains⟩)) ∧
      built? "UTC" "filter" [.word "msg", .word "CONTAINS", .quoted (quotedValue "say \"hi\"")] =
        some (.ok (.filter ⟨"msg", "say \"hi\"", .comparison .contains⟩)) := by
  have hfield : (word "msg").Writable := ⟨by decide, forall_mem_of_all (by decide), by decide⟩
  have hoperator : (word "CONTAINS").Writable :=
    ⟨by decide, forall_mem_of_all (by decide), by decide⟩
  have hquotes : ∀ inner, "say \"hi\"" ≠ quotedValue inner := by
    intro inner heq
    have hfirst := congrArg (fun s => s.toList.head?) heq
    simp [quotedValue] at hfirst
  have hasked : Condition.AskedBy "CONTAINS" "say \"hi\"" (.comparison .contains) :=
    .comparison (by decide)
  obtain ⟨hplain, hquoted⟩ := values_written hfield hoperator "UTC" "say \"hi\""
  exact ⟨hfield, hoperator, (hplain (by decide) hquotes _).2 ⟨_, hasked, rfl⟩,
    (hquoted _).2 ⟨_, hasked, rfl⟩⟩

/-- A value between quotes that is written in quotes loses both pairs. -/
theorem value_between_quotes_lost : Quotable "\"x\"" ∧
    built? "UTC" "filter" [.word "msg", .word "=", .quoted "\"x\""] =
      some (.ok (.filter ⟨"msg", "x", .comparison .equal⟩)) ∧ "x" ≠ "\"x\"" := by
  have hfield : (word "msg").Writable := ⟨by decide, forall_mem_of_all (by decide), by decide⟩
  have hoperator : (word "=").Writable := ⟨by decide, forall_mem_of_all (by decide), by decide⟩
  have hvalue : Quotable "\"x\"" := by decide
  have hasked : Condition.AskedBy "=" (unquote "\"x\"") (.comparison .equal) :=
    .comparison (by decide)
  have hunquoted : unquote "\"x\"" = "x" := by decide +kernel
  have hbuilt := (expresses_unquote hfield hoperator hvalue "UTC" _).2 ⟨_, hasked, rfl⟩
  rw [hunquoted] at hbuilt
  exact ⟨hvalue, hbuilt, by decide⟩

end Filter

end PipeQuery
