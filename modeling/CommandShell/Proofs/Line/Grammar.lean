import CommandShell.Proofs.Line.Trimming
import CommandShell.Proofs.Text.Sequences

/-!
# The grammar of words

What the words of a line are can be said without a scan. A line is a sequence of words with blanks
between them, a word is a sequence of pieces, and a piece is a bare character, an escaped one, or a
quotation, which is again a sequence of items. Each of these is a `Kind`: whether it can stand at a
place depends on what comes after it, since a backslash in double quotes stands for itself only
where it escapes nothing, and a quotation lacks its closing quote only at the end of the line.

All kinds are unambiguous, so a line is a `Sentence` in one way only, and none is refused. The words
that the scan finds are the values of the words of that sentence (`tokenize_denotes`). Here the fold
meets the grammar piece by piece: what is left to be read after a piece is read from the scan with
the value of the piece added to its open word (`Piece.finish_foldl`).
-/

namespace CommandShell.Line.Grammar

open CommandShell.Text

/-! ## Items of a double quotation -/

/-- One item of a double quotation. -/
inductive Item
  /-- A backslash, with the double quote or backslash that it escapes. -/
  | escaped (c : Char)
  /-- A character that stands for itself. -/
  | plain (c : Char)

namespace Item

def text : Item → List Char
  | escaped c => ['\\', c]
  | plain c => [c]

def value : Item → Char
  | escaped c => c
  | plain c => c

/-- Before which texts an item can stand. Any character but a double quote can stand for itself, a
backslash where neither a double quote nor another backslash comes after it. -/
def Fits : Item → List Char → Prop
  | escaped c, _ => c = '"' ∨ c = '\\'
  | plain c, rest => c ≠ '"' ∧ (c = '\\' → ∀ d ∈ rest.head?, d ≠ '"' ∧ d ≠ '\\')

end Item

/-- Items stand one after the other in a double quotation. -/
def itemKind : Kind Item :=
  ⟨Item.text, Item.Fits⟩

/-- A backslash escapes what comes after it, or it stands for itself: never both. -/
theorem unambiguous_itemKind : itemKind.Unambiguous where
  text_ne_nil := by
    intro x rest _
    cases x <;> exact List.cons_ne_nil _ _
  unique := by
    -- where one item is escaped and the other one plain, the plain one is that backslash
    have key : ∀ {c d : Char} {rest rest' : List Char}, itemKind.Fits (.escaped c) rest →
        itemKind.Fits (.plain d) rest' → ['\\', c] ++ rest ≠ [d] ++ rest' := by
      rintro c d rest rest' hc ⟨-, hd⟩ heq
      obtain ⟨rfl, rfl⟩ := List.cons.inj heq
      obtain ⟨hquote, hback⟩ := hd rfl c rfl
      rcases hc with rfl | rfl
      · exact hquote rfl
      · exact hback rfl
    intro x y rest rest' hx hy heq
    cases x <;> cases y
    case escaped.escaped c d =>
      obtain ⟨-, htail⟩ := List.cons.inj heq
      rw [List.head_eq_of_cons_eq htail]
    case escaped.plain c d => exact absurd heq (key hx hy)
    case plain.escaped c d => exact absurd heq.symm (key hy hx)
    case plain.plain c d => rw [List.head_eq_of_cons_eq heq]

/-! ## Pieces of a word -/

/-- A piece of a word; a quotation may lack its closing quote. -/
inductive Piece
  /-- A character that is neither blank nor a quote nor a backslash. -/
  | bare (c : Char)
  /-- A backslash, with the character that it escapes. -/
  | escaped (c : Char)
  /-- A text between single quotes. -/
  | single (run : List Char) (closed : Bool)
  /-- Items between double quotes. -/
  | double (quoted : List Item) (closed : Bool)

def closing (quote : Char) (closed : Bool) : List Char :=
  if closed then [quote] else []

namespace Piece

def text : Piece → List Char
  | bare c => [c]
  | escaped c => ['\\', c]
  | single run closed => '\'' :: (run ++ closing '\'' closed)
  | double quoted closed => '"' :: (itemKind.write quoted ++ closing '"' closed)

def value : Piece → List Char
  | bare c => [c]
  | escaped c => [c]
  | single run _ => run
  | double quoted _ => quoted.map Item.value

/-- Before which texts a piece can stand; a quotation that is not closed, only at the end. -/
def Fits : Piece → List Char → Prop
  | bare c, _ => isBlank c = false ∧ c ≠ '\\' ∧ c ≠ '\'' ∧ c ≠ '"'
  | escaped _, _ => True
  | single run closed, rest => '\'' ∉ run ∧ (closed = false → rest = [])
  | double quoted closed, rest =>
    itemKind.FitAll quoted (closing '"' closed ++ rest) ∧ (closed = false → rest = [])

end Piece

/-- Pieces stand one after the other in a word. -/
def pieceKind : Kind Piece :=
  ⟨Piece.text, Piece.Fits⟩

section Closing

variable {quote : Char} {closed closed' : Bool} {rest rest' : List Char}

theorem eq_of_mem_head?_closing (h : closed = false → rest = []) {c : Char}
    (hc : c ∈ (closing quote closed ++ rest).head?) : c = quote := by
  cases closed with
  | false =>
    rw [h rfl] at hc
    cases hc
  | true => exact (Option.some.inj hc).symm

theorem closing_unique (h : closed = false → rest = []) (h' : closed' = false → rest' = [])
    (heq : closing quote closed ++ rest = closing quote closed' ++ rest') : closed = closed' := by
  cases closed <;> cases closed'
  · rfl
  · rw [h rfl] at heq
    cases heq
  · rw [h' rfl] at heq
    cases heq
  · rfl

theorem stops_closing (h : closed = false → rest = []) :
    itemKind.Stops (closing '"' closed ++ rest) := by
  intro x after hx heq
  -- no item begins with a double quote
  have hhead : ∃ c, c ≠ '"' ∧ (itemKind.text x ++ after).head? = some c := by
    cases x with
    | escaped c => exact ⟨'\\', by decide, rfl⟩
    | plain c => exact ⟨c, hx.1, rfl⟩
  obtain ⟨c, hc, hhead⟩ := hhead
  rw [heq] at hhead
  exact hc (eq_of_mem_head?_closing h hhead)

end Closing

/-- The first character of a piece tells what it is, and where a quotation ends is known from what
is in it. -/
theorem unambiguous_pieceKind : pieceKind.Unambiguous where
  text_ne_nil := by
    intro x rest _
    cases x <;> exact List.cons_ne_nil _ _
  unique := by
    intro x y rest rest' hx hy heq
    cases x <;> cases y
    case bare.bare c d => rw [List.head_eq_of_cons_eq heq]
    case escaped.escaped c d =>
      obtain ⟨-, htail⟩ := List.cons.inj heq
      rw [List.head_eq_of_cons_eq htail]
    case single.single run closed run' closed' =>
      have htail : run ++ (closing '\'' closed ++ rest) =
          run' ++ (closing '\'' closed' ++ rest') := by
        simpa [pieceKind, Piece.text] using heq
      have hclass : ∀ {run : List Char}, '\'' ∉ run → ∀ c ∈ run, (c != '\'') = true := by
        intro run hrun c hc
        rw [bne_iff_ne]
        rintro rfl
        exact hrun hc
      have hends : ∀ {closed : Bool} {rest : List Char}, (closed = false → rest = []) →
          ∀ c ∈ (closing '\'' closed ++ rest).head?, (c != '\'') = false := by
        intro closed rest h c hc
        rw [eq_of_mem_head?_closing h hc]
        rfl
      obtain ⟨rfl, hend⟩ :=
        run_unique (hclass hx.1) (hends hx.2) (hclass hy.1) (hends hy.2) htail
      rw [closing_unique hx.2 hy.2 hend]
    case double.double quoted closed quoted' closed' =>
      have htail : itemKind.write quoted ++ (closing '"' closed ++ rest) =
          itemKind.write quoted' ++ (closing '"' closed' ++ rest') := by
        simpa [pieceKind, Piece.text] using heq
      obtain ⟨rfl, hend⟩ := unambiguous_itemKind.fitAll_unique hx.1 hy.1 (stops_closing hx.2)
        (stops_closing hy.2) htail
      rw [closing_unique hx.2 hy.2 hend]
    -- pieces of different sorts begin with different characters
    case bare.escaped => exact absurd (List.head_eq_of_cons_eq heq) hx.2.1
    case bare.single => exact absurd (List.head_eq_of_cons_eq heq) hx.2.2.1
    case bare.double => exact absurd (List.head_eq_of_cons_eq heq) hx.2.2.2
    case escaped.bare => exact absurd (List.head_eq_of_cons_eq heq).symm hy.2.1
    case single.bare => exact absurd (List.head_eq_of_cons_eq heq).symm hy.2.2.1
    case double.bare => exact absurd (List.head_eq_of_cons_eq heq).symm hy.2.2.2
    all_goals cases heq

/-! ## Words and sentences -/

/-- A word of a line. -/
structure Word where
  /-- The blanks before it. -/
  gap : List Char
  pieces : List Piece

namespace Word

/-- How a word is written, with the blanks before it. -/
def text (w : Word) : List Char :=
  w.gap ++ pieceKind.write w.pieces

def value (w : Word) : List Char :=
  w.pieces.flatMap Piece.value

end Word

/-- What the end of a line has besides words and blanks: perhaps a backslash that escapes
nothing. -/
def ending (dangling : Bool) : List Char :=
  if dangling then ['\\'] else []

/-- What can come after a word: a blank, or the end of the line. -/
def EndsWord (rest : List Char) : Prop :=
  (∃ dangling, rest = ending dangling) ∨ ∃ c after, isBlank c = true ∧ rest = c :: after

/-- Before which texts a word can stand. -/
structure Word.Fits (w : Word) (rest : List Char) : Prop where
  blank : ∀ c ∈ w.gap, isBlank c = true
  pieces_ne_nil : w.pieces ≠ []
  pieces_fit : pieceKind.FitAll w.pieces rest
  ends : EndsWord rest

/-- Words stand one after the other in a line. -/
def wordKind : Kind Word :=
  ⟨Word.text, Word.Fits⟩

/-- A line as the grammar has it: words with blanks before them, blanks, and perhaps a backslash
that escapes nothing. -/
@[ext]
structure Sentence where
  words : List Word
  /-- The blanks after the last word. -/
  trail : List Char
  /-- Whether a lone backslash remains at the end. -/
  dangling : Bool
  fit : wordKind.FitAll words (trail ++ ending dangling)
  blank : ∀ c ∈ trail, isBlank c = true

namespace Sentence

def text (s : Sentence) : List Char :=
  wordKind.write s.words ++ (s.trail ++ ending s.dangling)

/-- What the words of a sentence stand for. -/
def values (s : Sentence) : List (List Char) :=
  s.words.map Word.value

end Sentence

/-! ## One way only -/

theorem stops_of_isBlank {c : Char} (hc : isBlank c = true) (cs : List Char) :
    pieceKind.Stops (c :: cs) := by
  obtain ⟨h₁, h₂, h₃⟩ := ne_of_isBlank hc
  intro x rest hfits heq
  cases x with
  | bare d =>
    have hd : isBlank d = false := hfits.1
    rw [List.head_eq_of_cons_eq heq, hc] at hd
    cases hd
  | escaped d => exact h₁ (List.head_eq_of_cons_eq heq).symm
  | single run closed => exact h₂ (List.head_eq_of_cons_eq heq).symm
  | double quoted closed => exact h₃ (List.head_eq_of_cons_eq heq).symm

theorem stops_ending (dangling : Bool) : pieceKind.Stops (ending dangling) := by
  intro x rest hfits heq
  cases dangling with
  | false => exact unambiguous_pieceKind.text_ne_nil hfits (List.append_eq_nil_iff.mp heq).1
  | true =>
    cases x with
    | bare d => exact hfits.2.1 (List.head_eq_of_cons_eq heq)
    | escaped d => cases heq
    | single run closed => cases heq
    | double quoted closed => cases heq

theorem EndsWord.stops {rest : List Char} (h : EndsWord rest) : pieceKind.Stops rest := by
  rcases h with ⟨dangling, rfl⟩ | ⟨c, after, hc, rfl⟩
  · exact stops_ending dangling
  · exact stops_of_isBlank hc after

theorem head?_ending (dangling : Bool) : ∀ c ∈ (ending dangling).head?, isBlank c = false := by
  intro c hc
  cases dangling with
  | false => cases hc
  | true =>
    obtain rfl : '\\' = c := Option.some.inj hc
    rfl

theorem head?_pieces {ps : List Piece} {rest : List Char} (hne : ps ≠ [])
    (hfit : pieceKind.FitAll ps rest) :
    ∀ c ∈ (pieceKind.write ps ++ rest).head?, isBlank c = false := by
  intro c hc
  by_contra hblank
  obtain ⟨after, hafter⟩ := List.head?_eq_some_iff.mp hc
  have hstops := stops_of_isBlank (eq_true_of_ne_false hblank) after
  exact hne (hstops.eq_nil hfit hafter)

/-- The blanks before a word go as far as they can, and so do its pieces. -/
theorem unambiguous_wordKind : wordKind.Unambiguous where
  text_ne_nil := by
    intro w rest hfits hnil
    obtain ⟨p, ps, hpieces⟩ := List.exists_cons_of_ne_nil hfits.pieces_ne_nil
    have hwritten := (List.append_eq_nil_iff.mp hnil).2
    have hfit := hfits.pieces_fit
    rw [hpieces] at hwritten hfit
    exact unambiguous_pieceKind.text_ne_nil hfit.1 (List.append_eq_nil_iff.mp hwritten).1
  unique := by
    intro w v rest rest' hw hv heq
    obtain ⟨gap, pieces⟩ := w
    obtain ⟨gap', pieces'⟩ := v
    have hsplit : gap ++ (pieceKind.write pieces ++ rest) =
        gap' ++ (pieceKind.write pieces' ++ rest') := by
      rw [← List.append_assoc, ← List.append_assoc]
      exact heq
    obtain ⟨rfl, hpieces⟩ := run_unique hw.blank (head?_pieces hw.pieces_ne_nil hw.pieces_fit)
      hv.blank (head?_pieces hv.pieces_ne_nil hv.pieces_fit) hsplit
    obtain ⟨hsame, -⟩ := unambiguous_pieceKind.fitAll_unique hw.pieces_fit hv.pieces_fit
      hw.ends.stops hv.ends.stops hpieces
    obtain rfl : pieces = pieces' := hsame
    rfl

theorem stops_trail {trail : List Char} (htrail : ∀ c ∈ trail, isBlank c = true)
    (dangling : Bool) : wordKind.Stops (trail ++ ending dangling) := by
  intro w rest hfits heq
  have hsplit : w.gap ++ (pieceKind.write w.pieces ++ rest) = trail ++ ending dangling := by
    rw [← List.append_assoc]
    exact heq
  obtain ⟨-, hpieces⟩ := run_unique hfits.blank
    (head?_pieces hfits.pieces_ne_nil hfits.pieces_fit) htrail (head?_ending dangling) hsplit
  exact hfits.pieces_ne_nil ((stops_ending dangling).eq_nil hfits.pieces_fit hpieces)

/-- **A line is a sentence in one way only.** -/
theorem Sentence.text_injective {s t : Sentence} (h : s.text = t.text) : s = t := by
  obtain ⟨hwords, hrest⟩ := unambiguous_wordKind.fitAll_unique s.fit t.fit
    (stops_trail s.blank _) (stops_trail t.blank _) h
  obtain ⟨htrail, hending⟩ :=
    run_unique s.blank (head?_ending _) t.blank (head?_ending _) hrest
  have hdangling : s.dangling = t.dangling := by
    cases hs : s.dangling <;> cases ht : t.dangling <;> simp_all [ending]
  exact Sentence.ext hwords htrail hdangling

/-! ## No line is refused -/

theorem head?_of_stops {cs : List Char} (h : itemKind.Stops cs) : ∀ c ∈ cs.head?, c = '"' := by
  intro c hc
  obtain ⟨rest, rfl⟩ := List.head?_eq_some_iff.mp hc
  by_contra hquote
  refine h (.plain c) rest ⟨hquote, ?_⟩ rfl
  rintro rfl d hd
  -- else the backslash escapes what comes after it
  obtain ⟨after, rfl⟩ := List.head?_eq_some_iff.mp hd
  exact not_or.mp fun hescaped ↦ h (.escaped d) after hescaped rfl

theorem exists_closing {quote : Char} {cs : List Char} (h : ∀ c ∈ cs.head?, c = quote) :
    ∃ closed rest, cs = closing quote closed ++ rest ∧ (closed = false → rest = []) := by
  cases cs with
  | nil => exact ⟨false, [], rfl, fun _ ↦ rfl⟩
  | cons c rest =>
    obtain rfl := h c rfl
    exact ⟨true, rest, rfl, nofun⟩

theorem exists_single (cs : List Char) : ∃ run closed rest,
    cs = run ++ (closing '\'' closed ++ rest) ∧ pieceKind.Fits (.single run closed) rest := by
  have hends : ∀ c ∈ (cs.dropWhile (· != '\'')).head?, c = '\'' := by
    intro c hc
    simpa using head?_dropWhile (· != '\'') cs c hc
  obtain ⟨closed, rest, hrest, hclosed⟩ := exists_closing hends
  refine ⟨cs.takeWhile (· != '\''), closed, rest, ?_, ?_, hclosed⟩
  · rw [← hrest, List.takeWhile_append_dropWhile]
  · intro hmem
    exact absurd (List.mem_takeWhile_imp hmem) (by decide)

theorem exists_double (cs : List Char) : ∃ quoted closed rest,
    cs = itemKind.write quoted ++ (closing '"' closed ++ rest) ∧
      pieceKind.Fits (.double quoted closed) rest := by
  obtain ⟨quoted, after, rfl, hfit, hstops⟩ :=
    itemKind.exists_fitAll unambiguous_itemKind.text_ne_nil cs
  obtain ⟨closed, rest, rfl, hclosed⟩ := exists_closing (head?_of_stops hstops)
  exact ⟨quoted, closed, rest, rfl, hfit, hclosed⟩

theorem endsWord_of_stops {cs : List Char} (h : pieceKind.Stops cs) : EndsWord cs := by
  cases cs with
  | nil => exact .inl ⟨false, rfl⟩
  | cons c cs =>
    by_contra hends
    have hblank : isBlank c = false := by
      by_contra hc
      exact hends (.inr ⟨c, cs, eq_true_of_ne_false hc, rfl⟩)
    by_cases hback : c = '\\'
    · subst hback
      cases cs with
      | nil => exact hends (.inl ⟨true, rfl⟩)
      | cons d cs => exact h (.escaped d) cs trivial rfl
    by_cases hsingle : c = '\''
    · obtain ⟨run, closed, rest, rfl, hfits⟩ := exists_single cs
      subst hsingle
      exact h _ rest hfits (by simp [pieceKind, Piece.text])
    by_cases hdouble : c = '"'
    · obtain ⟨quoted, closed, rest, rfl, hfits⟩ := exists_double cs
      subst hdouble
      exact h _ rest hfits (by simp [pieceKind, Piece.text])
    exact h (.bare c) cs ⟨hblank, hback, hsingle, hdouble⟩ rfl

/-- Words stop where only blanks and perhaps a lone backslash are left. -/
theorem eq_ending_of_stops {cs : List Char} (h : wordKind.Stops cs) :
    ∃ dangling, cs.dropWhile isBlank = ending dangling := by
  obtain ⟨pieces, rest, hcut, hfit, hstops⟩ :=
    pieceKind.exists_fitAll unambiguous_pieceKind.text_ne_nil (cs.dropWhile isBlank)
  have hends := endsWord_of_stops hstops
  by_cases hpieces : pieces = []
  · rw [hpieces] at hcut
    obtain rfl : cs.dropWhile isBlank = rest := hcut
    rcases hends with hending | ⟨c, after, hc, hrest⟩
    · exact hending
    · have hhead := head?_dropWhile isBlank cs c (by rw [hrest]; rfl)
      rw [hc] at hhead
      cases hhead
  · -- the blanks with the pieces behind them are a word
    refine absurd ?_ (h ⟨cs.takeWhile isBlank, pieces⟩ rest
      ⟨fun c hc ↦ List.mem_takeWhile_imp hc, hpieces, hfit, hends⟩)
    change cs.takeWhile isBlank ++ pieceKind.write pieces ++ rest = cs
    rw [List.append_assoc, ← hcut, List.takeWhile_append_dropWhile]

/-- **Every line is a sentence.** -/
theorem exists_sentence (cs : List Char) : ∃ s : Sentence, s.text = cs := by
  obtain ⟨ws, rest, rfl, hfit, hstops⟩ :=
    wordKind.exists_fitAll unambiguous_wordKind.text_ne_nil cs
  obtain ⟨dangling, hending⟩ := eq_ending_of_stops hstops
  have hrest : rest = rest.takeWhile isBlank ++ ending dangling := by
    rw [← hending, List.takeWhile_append_dropWhile]
  rw [hrest] at hfit
  refine ⟨⟨ws, rest.takeWhile isBlank, dangling, hfit, fun c hc ↦ List.mem_takeWhile_imp hc⟩, ?_⟩
  rw [Sentence.text, ← hrest]

/-! ## The scan finds the words of the sentence -/

section Meaning

open Scan

variable {w : List Char} {done : List (List Char)} {rest : List Char}

theorem finish_waiting (h : ∀ c ∈ rest.head?, c ≠ '"' ∧ c ≠ '\\') :
    (rest.foldl step { mode := .doubleEscaped, word := some w, done }).finish =
      (rest.foldl step { mode := .double, word := some ('\\' :: w), done }).finish := by
  cases rest with
  | nil => simp [finish, push, close]
  | cons c rest =>
    obtain ⟨hquote, hback⟩ := h c rfl
    have hstep : step { mode := .doubleEscaped, word := some w, done } c =
        step { mode := .double, word := some ('\\' :: w), done } c := by
      simp [step, take, takeDouble, push, Mode.next, isEscapable, hquote, hback]
    rw [List.foldl_cons, hstep, List.foldl_cons]

theorem finish_items {quoted : List Item} (h : itemKind.FitAll quoted rest) :
    ((itemKind.write quoted ++ rest).foldl step { mode := .double, word := some w, done }).finish =
      (rest.foldl step
        { mode := .double, word := some ((quoted.map Item.value).reverse ++ w), done }).finish := by
  induction quoted generalizing w with
  | nil => rfl
  | cons x quoted ih =>
    obtain ⟨hx, hquoted⟩ := h
    have hvalue : ((x :: quoted).map Item.value).reverse ++ w =
        (quoted.map Item.value).reverse ++ x.value :: w := by simp
    rw [hvalue, ← ih hquoted, Kind.write_cons, List.append_assoc, List.foldl_append]
    cases x with
    | escaped c =>
      have hc : isEscapable c = true := by
        rcases hx with rfl | rfl <;> rfl
      have hback : isEscapable '\\' = true := rfl
      simp [itemKind, Item.text, Item.value, step, take, takeDouble, push, Mode.next, Mode.inDouble,
        hc, hback]
    | plain c =>
      obtain ⟨hquote, hnext⟩ := hx
      -- a backslash waits for the character after it, which tells that it is plain
      by_cases hc : c = '\\'
      · subst hc
        exact finish_waiting (hnext rfl)
      · have hplain : isEscapable c = false := by simp [isEscapable, hquote, hc]
        simp [itemKind, Item.text, Item.value, step, take, takeDouble, push, Mode.next,
          Mode.inDouble, hplain, hquote, hc]

theorem foldl_run {run : List Char} (h : '\'' ∉ run) :
    run.foldl step { mode := .single, word := some w, done } =
      { mode := .single, word := some (run.reverse ++ w), done } := by
  induction run generalizing w with
  | nil => rfl
  | cons c run ih =>
    rw [List.mem_cons, not_or] at h
    obtain ⟨hc, hrun⟩ := h
    have hstep : step { mode := .single, word := some w, done } c =
        { mode := .single, word := some (c :: w), done } := by
      simp [step, take, push, Mode.next, Ne.symm hc]
    rw [List.foldl_cons, hstep, ih hrun, List.reverse_cons, List.append_assoc]
    rfl

theorem finish_closing {mode : Mode} {quote : Char} {closed : Bool}
    (hmode : mode = .single ∧ quote = '\'' ∨ mode = .double ∧ quote = '"')
    (h : closed = false → rest = []) :
    ((closing quote closed ++ rest).foldl step { mode, word := some w, done }).finish =
      (rest.foldl step { mode := .bare, word := some w, done }).finish := by
  cases closed with
  | false =>
    obtain rfl := h rfl
    rcases hmode with ⟨rfl, rfl⟩ | ⟨rfl, rfl⟩ <;> rfl
  | true => rcases hmode with ⟨rfl, rfl⟩ | ⟨rfl, rfl⟩ <;> rfl

/-- **A piece that is read adds its value to the open word.** -/
theorem Piece.finish_foldl {s : Scan} (hs : s.mode = .bare) {p : Piece}
    (h : pieceKind.Fits p rest) :
    ((pieceKind.text p ++ rest).foldl step s).finish =
      (rest.foldl step (s.pushAll p.value)).finish := by
  obtain ⟨mode, word, done⟩ := s
  obtain rfl : mode = .bare := hs
  cases p with
  | bare c =>
    obtain ⟨hblank, hback, hsingle, hdouble⟩ := h
    simp [pieceKind, text, value, step, take, push, pushAll, Mode.next, hblank, hback, hsingle,
      hdouble]
  | escaped c => rfl
  | single run closed =>
    obtain ⟨hrun, hclosed⟩ := h
    have htext : pieceKind.text (.single run closed) ++ rest =
        '\'' :: (run ++ (closing '\'' closed ++ rest)) := by simp [pieceKind, text]
    have hopen : step { mode := .bare, word, done } '\'' =
        { mode := .single, word := some (word.getD []), done } := rfl
    rw [htext, List.foldl_cons, hopen, List.foldl_append, foldl_run hrun,
      finish_closing (.inl ⟨rfl, rfl⟩) hclosed]
    rfl
  | double quoted closed =>
    obtain ⟨hquoted, hclosed⟩ := h
    have htext : pieceKind.text (.double quoted closed) ++ rest =
        '"' :: (itemKind.write quoted ++ (closing '"' closed ++ rest)) := by
      simp [pieceKind, text]
    have hopen : step { mode := .bare, word, done } '"' =
        { mode := .double, word := some (word.getD []), done } := rfl
    rw [htext, List.foldl_cons, hopen, finish_items hquoted,
      finish_closing (.inr ⟨rfl, rfl⟩) hclosed]
    rfl

theorem finish_pieces {s : Scan} (hs : s.mode = .bare) {ps : List Piece} (v : List Char)
    (h : pieceKind.FitAll ps rest) :
    ((pieceKind.write ps ++ rest).foldl step (s.pushAll v)).finish =
      (rest.foldl step (s.pushAll (v ++ ps.flatMap Piece.value))).finish := by
  induction ps generalizing v with
  | nil => simp
  | cons p ps ih =>
    have hpush : (s.pushAll v).pushAll p.value = s.pushAll (v ++ p.value) := by simp [pushAll]
    have hmode : (s.pushAll v).mode = .bare := hs
    rw [Kind.write_cons, List.append_assoc, Piece.finish_foldl hmode h.1, hpush, ih _ h.2,
      List.flatMap_cons, List.append_assoc]

theorem EndsWord.finish_foldl (h : EndsWord rest) (v : List Char) :
    (rest.foldl step (pushAll {} v)).finish = v :: words rest := by
  have hfinish : (pushAll {} v).finish = [v] := by simp [pushAll, finish, close]
  rcases h with ⟨dangling, rfl⟩ | ⟨c, after, hc, rfl⟩
  · cases dangling with
    | false => exact hfinish
    | true => exact hfinish
  · rw [List.foldl_cons, step_of_isBlank rfl hc, foldl_following, finish_following,
      List.reverse_reverse, hfinish, words_cons_of_isBlank hc]
    rfl

theorem words_write {ws : List Word} (h : wordKind.FitAll ws rest) :
    words (wordKind.write ws ++ rest) = ws.map Word.value ++ words rest := by
  induction ws with
  | nil => rfl
  | cons w ws ih =>
    obtain ⟨hw, hws⟩ := h
    obtain ⟨p, ps, hpieces⟩ := List.exists_cons_of_ne_nil hw.pieces_ne_nil
    have hfit := hw.pieces_fit
    have htext : wordKind.text w = w.gap ++ pieceKind.write w.pieces := rfl
    have hvalue : w.value = p.value ++ ps.flatMap Piece.value := by
      rw [Word.value, hpieces, List.flatMap_cons]
    rw [hpieces] at hfit htext
    rw [Kind.write_cons, htext, List.append_assoc, List.append_assoc,
      words_blanks_append hw.blank, Kind.write_cons, List.append_assoc, words, Scan.of,
      Piece.finish_foldl rfl hfit.1, finish_pieces rfl _ hfit.2, ← hvalue, hw.ends.finish_foldl,
      ih hws]
    rfl

theorem Sentence.words_text (s : Sentence) : Line.words s.text = s.values := by
  have hending : Line.words (ending s.dangling) = [] := by
    cases s.dangling <;> rfl
  rw [text, words_write s.fit, words_blanks_append s.blank, hending, List.append_nil]
  rfl

end Meaning

/-- **What the words of a line are.** Every line is a sentence in exactly one way, and its words are
the values of the words of that sentence, in order. -/
theorem tokenize_denotes (line : String) :
    ∃ s : Sentence, (∀ t : Sentence, t.text = line.toList ↔ t = s) ∧
      tokenize line = s.values.map String.ofList := by
  obtain ⟨s, hs⟩ := exists_sentence line.toList
  refine ⟨s, fun t ↦ ⟨?_, ?_⟩, ?_⟩
  · intro ht
    exact Sentence.text_injective (ht.trans hs.symm)
  · rintro rfl
    exact hs
  · rw [tokenize, ← hs, s.words_text]

example : tokenize "a'b c'\\  '' \"\\d\\\"" = ["ab c ", "", "\\d\""] := by decide +kernel

end CommandShell.Line.Grammar
