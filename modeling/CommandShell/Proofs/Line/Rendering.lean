import CommandShell.Line.Parsing
import CommandShell.Proofs.Line.Extraction
import CommandShell.Proofs.Line.Scanning

/-!
# Writing words that parse

Any text can be written as one word of a line: between single quotes, with a single quote in the
text put outside them and escaped. A `Piece` of a written line is a text that is quoted this way, or
a bare operator.

`Stands` says what a piece is to each pass over the line: the scan for words reads the one word that
it stands for, the scan for pipes finds none, and trimming leaves it alone; both scans end with
nothing open. All that is written from pieces, blanks and pipes is therefore taken apart where it
was put together.
-/

namespace CommandShell.Line

open CommandShell.Text

/-! ## Quoted texts -/

/-- How a character stands in a quoted text: a single quote ends the quotation, stands escaped, and
begins it again. -/
def quotedChar (c : Char) : List Char :=
  if c = '\'' then ['\'', '\\', '\'', '\''] else [c]

/-- The characters of a text between single quotes. -/
def quotedChars (cs : List Char) : List Char :=
  '\'' :: cs.flatMap quotedChar ++ ['\'']

def quoted (text : String) : String :=
  String.ofList (quotedChars text.toList)

theorem Scan.foldl_quotedChar (cs : List Char) (w : List Char) :
    (cs.flatMap quotedChar).foldl Scan.step { mode := .single, word := some w } =
      { mode := .single, word := some (cs.reverse ++ w) } := by
  induction cs generalizing w with
  | nil => rfl
  | cons c cs ih =>
    have hc : (quotedChar c).foldl Scan.step { mode := .single, word := some w } =
        { mode := .single, word := some (c :: w) } := by
      by_cases h : c = '\''
      · rw [h]
        rfl
      · simp [quotedChar, h, Scan.step, Scan.take, Scan.push, Mode.next]
    rw [List.flatMap_cons, List.foldl_append, hc, ih, List.reverse_cons, List.append_assoc]
    rfl

theorem Scan.of_quotedChars (cs : List Char) :
    Scan.of (quotedChars cs) = { word := some cs.reverse } := by
  have hopen : Scan.step {} '\'' = { mode := .single, word := some [] } := rfl
  rw [Scan.of, quotedChars, List.cons_append, List.foldl_cons, hopen, List.foldl_append,
    Scan.foldl_quotedChar, List.append_nil]
  rfl

/-- Inside single quotes, the scan for pipes passes over the text that is quoted. -/
theorem Cut.foldl_quotedChar (cs segment : List Char) (done : List (List Char)) :
    (cs.flatMap quotedChar).foldl Cut.step { quotation := some .single, segment, done } =
      { quotation := some .single
        segment := (cs.flatMap quotedChar).reverse ++ segment
        done } := by
  induction cs generalizing segment with
  | nil => rfl
  | cons c cs ih =>
    have hc : (quotedChar c).foldl Cut.step { quotation := some .single, segment, done } =
        { quotation := some .single, segment := (quotedChar c).reverse ++ segment, done } := by
      by_cases h : c = '\''
      · rw [h]
        rfl
      · simp [quotedChar, h, Cut.step, Cut.keep]
    rw [List.flatMap_cons, List.foldl_append, hc, ih, List.reverse_append, List.append_assoc]

/-! ## Texts in one piece -/

/-- Read where nothing is open, the text has no pipe that ends a segment and leaves nothing open. -/
def Whole (cs : List Char) : Prop :=
  ∀ segment done, cs.foldl Cut.step { segment, done } = { segment := cs.reverse ++ segment, done }

theorem whole_quotedChars (cs : List Char) : Whole (quotedChars cs) := by
  intro segment done
  have hopen : Cut.step { segment, done } '\'' =
      { quotation := some .single, segment := '\'' :: segment, done } := rfl
  rw [quotedChars, List.cons_append, List.foldl_cons, hopen, List.foldl_append,
    Cut.foldl_quotedChar]
  simp [Cut.step, Cut.keep]

theorem Whole.append {cs ds : List Char} (hc : Whole cs) (hd : Whole ds) : Whole (cs ++ ds) := by
  intro segment done
  rw [List.foldl_append, hc, hd, List.reverse_append, List.append_assoc]

theorem Whole.of {cs : List Char} (h : Whole cs) : Cut.of cs = { segment := cs.reverse } := by
  rw [Cut.of, h [] [], List.append_nil]

theorem Whole.segments {cs : List Char} (h : Whole cs) : segments cs = [cs] := by
  rw [Line.segments, h.of, Cut.finish, List.reverse_reverse]
  rfl

theorem Whole.opens {cs : List Char} (h : Whole cs) : (Cut.of cs).Opens .bare := by
  rw [h.of]
  exact ⟨rfl, rfl⟩

theorem Whole.closed {cs : List Char} (h : Whole cs) : Mode.bare.after cs = .bare :=
  (Cut.reads_of cs).opens.eq_bare h.opens

theorem whole_blank : Whole [' '] := fun _ _ ↦ rfl

theorem Whole.joinWith {ps : List (List Char)} (h : ∀ p ∈ ps, Whole p) :
    Whole (joinWith ' ' ps) := by
  induction ps with
  | nil => exact fun _ _ ↦ rfl
  | cons p ps ih =>
    have hp := h p List.mem_cons_self
    by_cases hps : ps = []
    · rwa [hps]
    · rw [joinWith_cons_of_ne_nil ' ' p hps, ← List.singleton_append]
      exact hp.append (whole_blank.append (ih fun q hq ↦ h q (List.mem_cons_of_mem p hq)))

/-- The text is not empty and has no blank at either end. -/
def Tight (cs : List Char) : Prop :=
  cs ≠ [] ∧ (∀ c ∈ cs.head?, isBlank c = false) ∧ ∀ c ∈ cs.getLast?, isBlank c = false

theorem Tight.append {cs ds : List Char} (hc : Tight cs) (hd : Tight ds) (between : List Char) :
    Tight (cs ++ (between ++ ds)) := by
  obtain ⟨hcne, hhead, -⟩ := hc
  obtain ⟨hdne, -, hlast⟩ := hd
  obtain ⟨c, cs, rfl⟩ := List.exists_cons_of_ne_nil hcne
  refine ⟨List.cons_ne_nil _ _, hhead, ?_⟩
  intro d h
  rw [← List.append_assoc, List.getLast?_append, List.getLast?_eq_some_getLast hdne,
    Option.some_or] at h
  exact hlast d (by rwa [List.getLast?_eq_some_getLast hdne])

theorem tight_quotedChars (cs : List Char) : Tight (quotedChars cs) := by
  refine ⟨List.cons_ne_nil _ _, ?_, ?_⟩
  · intro c hc
    obtain rfl : '\'' = c := Option.some.inj hc
    decide
  · intro c hc
    rw [quotedChars, List.getLast?_concat] at hc
    obtain rfl : '\'' = c := Option.some.inj hc
    decide

theorem Tight.intercalate (sep : List Char) {ps : List (List Char)} (hne : ps ≠ [])
    (h : ∀ p ∈ ps, Tight p) : Tight (sep.intercalate ps) := by
  induction ps with
  | nil => exact absurd rfl hne
  | cons p ps ih =>
    have hp := h p List.mem_cons_self
    by_cases hps : ps = []
    · rwa [hps, List.intercalate_singleton]
    · rw [List.intercalate_cons_of_ne_nil hps, List.append_assoc]
      exact hp.append (ih hps fun q hq ↦ h q (List.mem_cons_of_mem p hq)) sep

theorem dropWhile_isBlank_of_head {cs : List Char} (h : ∀ c ∈ cs.head?, isBlank c = false) :
    cs.dropWhile isBlank = cs := by
  cases cs with
  | nil => rfl
  | cons c cs => rw [List.dropWhile_cons_of_neg (by simp [h c rfl])]

theorem Tight.trim {cs : List Char} (h : Tight cs) : trim cs = cs := by
  obtain ⟨-, hhead, hlast⟩ := h
  rw [Text.trim, dropWhile_isBlank_of_head hhead, trimEnd,
    dropWhile_isBlank_of_head (by rwa [List.head?_reverse]), List.reverse_reverse]

/-! ## Pieces -/

/-- A piece of a written segment. -/
inductive Piece
  /-- An operator, in one of its spellings. -/
  | operator (spelling : String) (op : Operator) (spells : Operator.ofWord? spelling = some op)
  /-- Any text. -/
  | text (text : String)

namespace Piece

/-- How a piece is written: an operator bare, anything else quoted. -/
def render : Piece → String
  | operator spelling _ _ => spelling
  | text t => quoted t

def word : Piece → String
  | operator spelling _ _ => spelling
  | text t => t

end Piece

theorem Operator.mem_spellings {spelling : String} {op : Operator}
    (h : ofWord? spelling = some op) : (spelling, op) ∈ spellings := by
  obtain ⟨before, after, hsplit, -⟩ := List.lookup_eq_some_iff.mp h
  rw [hsplit]
  exact List.mem_append_right before List.mem_cons_self

/-- What both scans and the trimming make of the text of a word. -/
structure Stands (cs : List Char) (word : List Char) : Prop where
  words : words cs = [word]
  closed : Mode.bare.after cs = .bare
  whole : Whole cs
  tight : Tight cs

theorem stands_quotedChars (cs : List Char) : Stands (quotedChars cs) cs where
  words := by
    rw [words, Scan.of_quotedChars, Scan.finish]
    simp [Scan.close]
  closed := by rw [← Scan.mode_of, Scan.of_quotedChars]
  whole := whole_quotedChars cs
  tight := tight_quotedChars cs

theorem Operator.stands {spelling : String} {op : Operator} (h : ofWord? spelling = some op) :
    Stands spelling.toList spelling.toList := by
  have hmem := mem_spellings h
  simp only [spellings, List.mem_cons, Prod.mk.injEq, List.not_mem_nil, or_false] at hmem
  rcases hmem with ⟨rfl, -⟩ | ⟨rfl, -⟩ | ⟨rfl, -⟩ | ⟨rfl, -⟩ | ⟨rfl, -⟩ | ⟨rfl, -⟩ <;>
    exact ⟨by decide, by decide, fun _ _ ↦ rfl, by decide, by rintro c ⟨⟩; rfl, by rintro c ⟨⟩; rfl⟩

theorem Piece.stands (p : Piece) : Stands p.render.toList p.word.toList := by
  cases p with
  | operator spelling op spells => exact Operator.stands spells
  | text t =>
    rw [render, quoted, String.toList_ofList]
    exact stands_quotedChars t.toList

end CommandShell.Line
