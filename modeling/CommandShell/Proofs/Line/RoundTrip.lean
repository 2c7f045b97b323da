import CommandShell.Proofs.Line.Cutting
import CommandShell.Proofs.Line.Rendering

/-!
# Written lines parse back

A line that is written piece by piece, operators bare and all other texts quoted, is parsed to what
was written. Two statements are made of it.

For a pipeline whose words spell no operators this is a round trip: one command for each segment,
its name and arguments the words of the segment, and for each stream the last target of the line.

For words that are all quoted, whatever they spell, parsing is `extract` on the words: quoting
protects a word from the scans, but not from being taken for an operator. The words come back as one
command exactly if none but the last spells one.
-/

namespace CommandShell.Line

open CommandShell.Text

/-! ## A segment of pieces -/

/-- A segment: its pieces with one space between them. -/
def renderPieces (ps : List Piece) : String :=
  " ".intercalate (ps.map Piece.render)

theorem toList_renderPieces (ps : List Piece) :
    (renderPieces ps).toList = joinWith ' ' (ps.map fun p ↦ p.render.toList) := by
  rw [renderPieces, String.toList_intercalate, joinWith_eq_intercalate, List.map_map]
  rfl

theorem whole_renderPieces (ps : List Piece) : Whole (renderPieces ps).toList := by
  rw [toList_renderPieces]
  refine Whole.joinWith fun t ht ↦ ?_
  obtain ⟨p, -, rfl⟩ := List.mem_map.mp ht
  exact p.stands.whole

theorem closed_renderPieces (ps : List Piece) :
    Mode.bare.after (renderPieces ps).toList = .bare :=
  (whole_renderPieces ps).closed

theorem tight_renderPieces {ps : List Piece} (hne : ps ≠ []) : Tight (renderPieces ps).toList := by
  rw [toList_renderPieces, joinWith_eq_intercalate]
  refine Tight.intercalate [' '] (by simpa using hne) fun t ht ↦ ?_
  obtain ⟨p, -, rfl⟩ := List.mem_map.mp ht
  exact p.stands.tight

theorem words_renderPieces (ps : List Piece) :
    words (renderPieces ps).toList = ps.map fun p ↦ p.word.toList := by
  rw [toList_renderPieces]
  induction ps with
  | nil => rfl
  | cons p ps ih =>
    by_cases hps : ps = []
    · simp [hps, joinWith, p.stands.words]
    · rw [List.map_cons, joinWith_cons_of_ne_nil ' ' _ (by simpa using hps),
        words_append_cons p.stands.closed (by decide), ih, p.stands.words]
      rfl

theorem tokenize_renderPieces (ps : List Piece) :
    tokenize (renderPieces ps) = ps.map Piece.word := by
  rw [tokenize, words_renderPieces, List.map_map]
  exact List.map_congr_left fun p _ ↦ String.ofList_toList

/-! ## A line of segments -/

theorem segments_joinWith {ps : List (List Char)} (hne : ps ≠ []) (h : ∀ p ∈ ps, Whole p) :
    segments (joinWith '|' ps) = ps :=
  (segments_joinWith_iff ps).mpr
    ⟨hne, fun p hp ↦ (h p hp).segments, fun p hp ↦ (h p (List.dropLast_subset ps hp)).closed⟩

/-- The texts between the pipes of a line whose pipes have a space on both sides; `lead` is what
comes before the first text. -/
def padded (lead : List Char) : List (List Char) → List (List Char)
  | [] => []
  | [t] => [lead ++ t]
  | t :: u :: rest => (lead ++ (t ++ [' '])) :: padded [' '] (u :: rest)

theorem padded_ne_nil {ts : List (List Char)} (hne : ts ≠ []) (lead : List Char) :
    padded lead ts ≠ [] := by
  match ts, hne with
  | [t], _ => exact List.cons_ne_nil _ _
  | t :: u :: rest, _ => exact List.cons_ne_nil _ _

theorem joinWith_padded {ts : List (List Char)} (hne : ts ≠ []) (lead : List Char) :
    joinWith '|' (padded lead ts) = lead ++ [' ', '|', ' '].intercalate ts := by
  induction ts generalizing lead with
  | nil => exact absurd rfl hne
  | cons t ts ih =>
    cases ts with
    | nil => rw [padded, joinWith, List.intercalate_singleton]
    | cons u rest =>
      rw [padded, joinWith_cons_of_ne_nil '|' _ (padded_ne_nil (List.cons_ne_nil u rest) _),
        ih (List.cons_ne_nil u rest), List.intercalate_cons_cons]
      simp

theorem whole_padded {ts : List (List Char)} (h : ∀ t ∈ ts, Whole t) {lead : List Char}
    (hlead : Whole lead) : ∀ t ∈ padded lead ts, Whole t := by
  induction ts generalizing lead with
  | nil => exact fun t ht ↦ absurd ht List.not_mem_nil
  | cons t ts ih =>
    have ht := h t List.mem_cons_self
    cases ts with
    | nil => simpa [padded] using hlead.append ht
    | cons u rest =>
      rw [padded, List.forall_mem_cons]
      exact ⟨hlead.append (ht.append whole_blank),
        ih (fun q hq ↦ h q (List.mem_cons_of_mem t hq)) whole_blank⟩

/-- The spaces next to the pipes do not matter to the words. -/
theorem map_words_padded {ts : List (List Char)} (h : ∀ t ∈ ts, Mode.bare.after t = .bare)
    {lead : List Char} (hlead : lead = [] ∨ lead = [' ']) :
    (padded lead ts).map words = ts.map words := by
  have hskip : ∀ cs, words (lead ++ cs) = words cs := by
    rcases hlead with rfl | rfl
    · exact fun cs ↦ rfl
    · exact words_cons_of_isBlank (by decide)
  induction ts generalizing lead with
  | nil => rfl
  | cons t ts ih =>
    cases ts with
    | nil => rw [padded, List.map_singleton, hskip, List.map_singleton]
    | cons u rest =>
      have hend : words (t ++ [' ']) = words t := by
        rw [words_append_cons (h t List.mem_cons_self) (by decide)]
        exact List.append_nil _
      rw [padded, List.map_cons, hskip, hend, List.map_cons,
        ih (fun q hq ↦ h q (List.mem_cons_of_mem t hq)) (.inr rfl)
          (words_cons_of_isBlank (by decide))]

/-- A line: its segments with a pipe between them, and a space on both sides of it. -/
def renderRows (rows : List (List Piece)) : String :=
  " | ".intercalate (rows.map renderPieces)

theorem toList_renderRows (rows : List (List Piece)) :
    (renderRows rows).toList =
      [' ', '|', ' '].intercalate (rows.map fun row ↦ (renderPieces row).toList) := by
  rw [renderRows, String.toList_intercalate, List.map_map]
  rfl

/-- Cutting a line and taking the words of each segment gives the words that were written. -/
theorem map_words_segments_renderRows {rows : List (List Piece)} (hne : rows ≠ []) :
    (segments (renderRows rows).toList).map words =
      rows.map fun row ↦ row.map fun p ↦ p.word.toList := by
  have hwhole : ∀ t ∈ rows.map fun row ↦ (renderPieces row).toList, Whole t := by
    intro t ht
    obtain ⟨row, -, rfl⟩ := List.mem_map.mp ht
    exact whole_renderPieces row
  have hclosed : ∀ t ∈ rows.map fun row ↦ (renderPieces row).toList,
      Mode.bare.after t = .bare := by
    intro t ht
    obtain ⟨row, -, rfl⟩ := List.mem_map.mp ht
    exact closed_renderPieces row
  have hne' : (rows.map fun row ↦ (renderPieces row).toList) ≠ [] := by simpa using hne
  have hpad := joinWith_padded hne' []
  rw [List.nil_append, ← toList_renderRows] at hpad
  rw [← hpad, segments_joinWith (padded_ne_nil hne' []) (whole_padded hwhole fun _ _ ↦ rfl),
    map_words_padded hclosed (.inl rfl), List.map_map]
  exact List.map_congr_left fun row _ ↦ words_renderPieces row

theorem tight_renderRows {rows : List (List Piece)} (hne : rows ≠ [])
    (h : ∀ row ∈ rows, row ≠ []) : Tight (renderRows rows).toList := by
  rw [toList_renderRows]
  refine Tight.intercalate _ (by simpa using hne) fun t ht ↦ ?_
  obtain ⟨row, hrow, rfl⟩ := List.mem_map.mp ht
  exact tight_renderPieces (h row hrow)

/-! ## Parsing what was written -/

def mergeAll (rs : List Redirection) : Redirection :=
  rs.foldr Redirection.merge {}

/-- Segments whose words are known are parsed to what `extract` leaves of the words of each, and to
what it takes out of all of them. -/
theorem parseSegments_of_words {rows : List (List String)}
    (h : ∀ row ∈ rows, (extract row).1 ≠ []) {texts : List (List Char)}
    (hwords : (texts.map fun t ↦ (words t).map String.ofList) = rows) :
    ∃ commands, (∀ alone, parseSegments alone texts =
        .ok (commands, mergeAll (rows.map fun row ↦ (extract row).2))) ∧
      commands.map Command.argv = rows.map fun row ↦ (extract row).1 := by
  induction texts generalizing rows with
  | nil =>
    obtain rfl := hwords
    exact ⟨[], fun _ ↦ rfl, rfl⟩
  | cons t texts ih =>
    obtain rfl := hwords
    rw [List.map_cons, List.forall_mem_cons] at h
    obtain ⟨commands, hparse, hargv⟩ := ih h.2 rfl
    obtain ⟨name, arguments, hrow⟩ := List.exists_cons_of_ne_nil h.1
    have hextract : extract ((words t).map String.ofList) =
        (name :: arguments, (extract ((words t).map String.ofList)).2) := Prod.ext hrow rfl
    refine ⟨⟨name, arguments⟩ :: commands, fun alone ↦ ?_, ?_⟩
    · have hsegment : parseSegment alone t =
          .ok (⟨name, arguments⟩, (extract ((words t).map String.ofList)).2) := by
        rw [parseSegment, hextract]
      rw [parseSegments, hsegment]
      simp only [hparse]
      rfl
    · rw [List.map_cons, hargv, List.map_cons, List.map_cons, hrow, Command.argv]

theorem parse_of_tight {line : String} (h : Tight line.toList) {commands : List Command}
    {redirection : Redirection}
    (hparse : ∀ alone, parseSegments alone (segments line.toList) = .ok (commands, redirection)) :
    parse line = .ok { raw := line, commands, redirection } := by
  obtain ⟨c, cs, hline⟩ := List.exists_cons_of_ne_nil h.1
  rw [parse, h.trim]
  simp only [hline] at hparse ⊢
  rw [hparse, ← hline, String.ofList_toList]

/-! ## Pipelines -/

/-- A word or a redirection of a segment. -/
inductive Item
  /-- A word that spells no operator. -/
  | word (text : String) (plain : Operator.ofWord? text = none)
  /-- An operator, in one of its spellings, and its target. -/
  | redirection (spelling : String) (op : Operator)
      (spells : Operator.ofWord? spelling = some op) (path : String)

namespace Item

def pieces : Item → List Piece
  | word text _ => [.text text]
  | redirection spelling op spells path => [.operator spelling op spells, .text path]

def word? : Item → Option String
  | word text _ => some text
  | redirection _ _ _ _ => none

def target? (stream : Stream) : Item → Option Target
  | word _ _ => none
  | redirection _ op _ path => if op.stream = stream then some ⟨path, op.append⟩ else none

end Item

/-- The words of the pieces of a segment, operators and targets among them. -/
def tokensOf (items : List Item) : List String :=
  (items.flatMap Item.pieces).map Piece.word

theorem tokensOf_word (text : String) (plain : Operator.ofWord? text = none) (items : List Item) :
    tokensOf (.word text plain :: items) = text :: tokensOf items := rfl

theorem tokensOf_redirection (spelling : String) (op : Operator)
    (spells : Operator.ofWord? spelling = some op) (path : String) (items : List Item) :
    tokensOf (.redirection spelling op spells path :: items) =
      spelling :: path :: tokensOf items := rfl

def lastTarget (stream : Stream) (items : List Item) : Option Target :=
  (items.filterMap (Item.target? stream)).getLast?

theorem lastTarget_append (stream : Stream) (items more : List Item) :
    lastTarget stream (items ++ more) = (lastTarget stream more).or (lastTarget stream items) := by
  rw [lastTarget, List.filterMap_append, List.getLast?_append]
  rfl

/-- Extraction takes the redirections out of the words of a segment. -/
theorem extract_tokensOf (items : List Item) :
    (extract (tokensOf items)).1 = items.filterMap Item.word? ∧
      ∀ stream, (extract (tokensOf items)).2.target? stream = lastTarget stream items := by
  induction items with
  | nil => exact ⟨rfl, fun stream ↦ Redirection.target?_empty stream⟩
  | cons item items ih =>
    cases item with
    | word text plain =>
      rw [tokensOf_word, extract_cons_of_plain plain]
      exact ⟨congrArg (text :: ·) ih.1, ih.2⟩
    | redirection spelling op spells path =>
      rw [tokensOf_redirection, extract_operator spells]
      refine ⟨ih.1, fun stream ↦ ?_⟩
      rw [← List.singleton_append, lastTarget_append, Redirection.target?_merge, ih.2 stream,
        Redirection.target?_set, Redirection.target?_empty]
      congr 1
      simp only [lastTarget, List.filterMap_cons, List.filterMap_nil, Item.target?]
      split_ifs <;> rfl

theorem target?_mergeAll (rows : List (List Item)) (stream : Stream) :
    (mergeAll (rows.map fun items ↦ (extract (tokensOf items)).2)).target? stream =
      lastTarget stream rows.flatten := by
  induction rows with
  | nil => exact Redirection.target?_empty stream
  | cons items rows ih =>
    rw [List.flatten_cons, lastTarget_append, ← ih, ← (extract_tokensOf items).2 stream]
    exact Redirection.target?_merge _ _ _

/-- A pipeline: words and targets quoted, operators bare, one space between all of these, and pipes
with a space on both sides between the segments. -/
def renderPipeline (rows : List (List Item)) : String :=
  renderRows (rows.map fun items ↦ items.flatMap Item.pieces)

/-- **A pipeline that is written parses back.** Each segment is one command, whose name and
arguments are its words; for each stream the last target of the whole line counts. -/
theorem parse_renderPipeline {rows : List (List Item)} (hne : rows ≠ [])
    (hword : ∀ items ∈ rows, items.filterMap Item.word? ≠ []) :
    ∃ parsed, parse (renderPipeline rows) = .ok parsed ∧
      parsed.raw = renderPipeline rows ∧
      parsed.commands.map Command.argv = rows.map (·.filterMap Item.word?) ∧
      parsed.redirection =
        { output := lastTarget .output rows.flatten
          errors := lastTarget .errors rows.flatten } := by
  have hrows : (rows.map fun items ↦ items.flatMap Item.pieces) ≠ [] := by simpa using hne
  -- no row is without a word, so no segment is blank
  have htight : Tight (renderPipeline rows).toList := by
    refine tight_renderRows hrows fun row hrow ↦ ?_
    obtain ⟨items, hitems, rfl⟩ := List.mem_map.mp hrow
    intro hnil
    refine hword items hitems ?_
    rw [← (extract_tokensOf items).1, tokensOf, hnil]
    rfl
  have htokens : ((segments (renderPipeline rows).toList).map
      fun t ↦ (words t).map String.ofList) = rows.map tokensOf := by
    have hwords := congrArg (List.map (List.map String.ofList))
      (map_words_segments_renderRows hrows)
    rw [List.map_map, List.map_map, List.map_map] at hwords
    refine hwords.trans (List.map_congr_left fun items _ ↦ ?_)
    simp [tokensOf]
  have hplain : ∀ row ∈ rows.map tokensOf, (extract row).1 ≠ [] := by
    intro row hrow
    obtain ⟨items, hitems, rfl⟩ := List.mem_map.mp hrow
    rw [(extract_tokensOf items).1]
    exact hword items hitems
  obtain ⟨commands, hparse, hargv⟩ := parseSegments_of_words hplain htokens
  refine ⟨_, parse_of_tight htight hparse, rfl, ?_, Redirection.ext_target? fun stream ↦ ?_⟩
  · rw [hargv, List.map_map]
    exact List.map_congr_left fun items _ ↦ (extract_tokensOf items).1
  · rw [List.map_map]
    cases stream <;> exact target?_mergeAll rows _

/-- The segments of `echo > 'a|b' "it's" ''` and `2>> '>' cat 1>> 'x y'`. -/
def sampleRows : List (List Item) :=
  [[.word "echo" rfl, .redirection ">" ⟨.output, false⟩ rfl "a|b", .word "it's" rfl,
      .word "" rfl],
    [.redirection "2>>" ⟨.errors, true⟩ rfl ">", .word "cat" rfl,
      .redirection "1>>" ⟨.output, true⟩ rfl "x y"]]

theorem parse_renderPipeline_sampleRows :
    sampleRows ≠ [] ∧ (∀ items ∈ sampleRows, items.filterMap Item.word? ≠ []) ∧
      renderPipeline sampleRows =
        "'echo' > 'a|b' 'it'\\''s' '' | 2>> '>' 'cat' 1>> 'x y'" ∧
      ∃ parsed, parse (renderPipeline sampleRows) = .ok parsed ∧
        parsed.raw = renderPipeline sampleRows ∧
        parsed.commands.map Command.argv = [["echo", "it's", ""], ["cat"]] ∧
        parsed.redirection = { output := some ⟨"x y", true⟩, errors := some ⟨">", true⟩ } := by
  have hne : sampleRows ≠ [] := List.cons_ne_nil _ _
  have hword : ∀ items ∈ sampleRows, items.filterMap Item.word? ≠ [] := by
    simp [sampleRows, Item.word?]
  exact ⟨hne, hword, by decide, parse_renderPipeline hne hword⟩

/-! ## Quoted words -/

/-- A line in one piece is parsed to what `extract` makes of its words. -/
theorem parse_of_whole {line : String} (htight : Tight line.toList) (hwhole : Whole line.toList) :
    parse line =
      match extract (tokenize line) with
      | ([], redirection) =>
        .error (if redirection.isEmpty then .unexpectedPipe else .missingCommand)
      | (name :: arguments, redirection) =>
        .ok { raw := line, commands := [⟨name, arguments⟩], redirection } := by
  have hsegments := hwhole.segments
  obtain ⟨c, cs, hline⟩ := List.exists_cons_of_ne_nil htight.1
  have hraw : String.ofList (c :: cs) = line := by rw [← hline, String.ofList_toList]
  rw [parse, htight.trim]
  simp only [hline] at hsegments ⊢
  rw [hsegments, tokenize, hline, hraw]
  rcases hextract : extract ((words (c :: cs)).map String.ofList) with ⟨argv, redirection⟩
  cases argv with
  | nil =>
    simp only [parseSegments, parseSegment, hextract, List.length_singleton, BEq.rfl,
      Bool.true_and]
    cases redirection.isEmpty <;> rfl
  | cons name arguments =>
    simp only [parseSegments, parseSegment, hextract, Redirection.merge_empty]

/-- A line of words that are all quoted. -/
def renderWords (ws : List String) : String :=
  " ".intercalate (ws.map quoted)

theorem renderWords_eq (ws : List String) : renderWords ws = renderPieces (ws.map Piece.text) := by
  rw [renderWords, renderPieces, List.map_map]
  rfl

/-- The words come back to the parser as they were, with nothing left of the quotes. -/
theorem parse_renderWords {ws : List String} (hne : ws ≠ []) :
    parse (renderWords ws) =
      match extract ws with
      | ([], redirection) =>
        .error (if redirection.isEmpty then .unexpectedPipe else .missingCommand)
      | (name :: arguments, redirection) =>
        .ok { raw := renderWords ws, commands := [⟨name, arguments⟩], redirection } := by
  have htokens : tokenize (renderWords ws) = ws := by
    rw [renderWords_eq, tokenize_renderPieces, List.map_map]
    exact ws.map_id
  have htight : Tight (renderWords ws).toList := by
    rw [renderWords_eq]
    exact tight_renderPieces (by simpa using hne)
  have hwhole : Whole (renderWords ws).toList := by
    rw [renderWords_eq]
    exact whole_renderPieces _
  rw [parse_of_whole htight hwhole, htokens]

/-- **Quoting does not hide an operator.** Words that are all quoted come back as one command with
nothing redirected exactly if none of them spells an operator, except perhaps the last. -/
theorem parse_renderWords_iff {ws : List String} (hne : ws ≠ []) :
    (∃ parsed, parse (renderWords ws) = .ok parsed ∧
        parsed.commands.map Command.argv = [ws] ∧ parsed.redirection = {}) ↔
      ∀ w ∈ ws.dropLast, Operator.ofWord? w = none := by
  rw [← extract_eq_self_iff, parse_renderWords hne]
  rcases hextract : extract ws with ⟨argv, redirection⟩
  cases argv with
  | nil =>
    constructor
    · rintro ⟨parsed, hparse, -⟩
      cases hparse
    · intro heq
      exact absurd (congrArg Prod.fst heq).symm hne
  | cons name arguments =>
    constructor
    · rintro ⟨parsed, hparse, hargv, hredirection⟩
      cases hparse
      rw [← List.head_eq_of_cons_eq hargv]
      exact congrArg (Prod.mk _) hredirection
    · intro heq
      obtain ⟨rfl, rfl⟩ := Prod.mk.inj heq
      exact ⟨_, rfl, rfl, rfl⟩

/-- Pipes, quotes and an operator at the end are all plain words between quotes. -/
theorem parse_renderWords_plain :
    ["echo", "a | b", "it's", "", ">"] ≠ [] ∧
      ∃ parsed, parse (renderWords ["echo", "a | b", "it's", "", ">"]) = .ok parsed ∧
        parsed.commands.map Command.argv = [["echo", "a | b", "it's", "", ">"]] ∧
        parsed.redirection = {} :=
  have hne := List.cons_ne_nil "echo" ["a | b", "it's", "", ">"]
  ⟨hne, (parse_renderWords_iff hne).mpr (by decide)⟩

/-- A quoted `>` before another word is taken for an operator all the same. -/
theorem parse_renderWords_operator :
    renderWords ["echo", ">", "f"] = "'echo' '>' 'f'" ∧
      parse "'echo' '>' 'f'" =
        .ok { raw := "'echo' '>' 'f'", commands := [⟨"echo", []⟩],
              redirection := { output := some ⟨"f", false⟩ } } ∧
      ¬∃ parsed, parse (renderWords ["echo", ">", "f"]) = .ok parsed ∧
        parsed.commands.map Command.argv = [["echo", ">", "f"]] ∧ parsed.redirection = {} := by
  have hrender : renderWords ["echo", ">", "f"] = "'echo' '>' 'f'" := by decide
  have hparsed : parse "'echo' '>' 'f'" =
      .ok { raw := "'echo' '>' 'f'", commands := [⟨"echo", []⟩],
            redirection := { output := some ⟨"f", false⟩ } } := rfl
  refine ⟨hrender, hparsed, ?_⟩
  rw [hrender, hparsed]
  rintro ⟨parsed, hparse, -, hredirection⟩
  obtain rfl := Except.ok.inj hparse
  cases hredirection

end CommandShell.Line
