import CommandShell.Proofs.Line.RoundTrip
import CommandShell.Text.Integer
import Mathlib.Tactic.SplitIfs

/-!
# Numbers as words

An integer in decimal digits is read back as it was written (`readIntegerString_toString`), as long
as there are no more digits than the reader takes. None of its characters means anything to the
shell, so on a line it stands for itself and needs no quotes (`stands_toString`).
-/

namespace CommandShell

open CommandShell.Text

/-! ## Plain words -/

namespace Line

/-- A character that means nothing to the shell: no blank, no quote, no backslash and no pipe. -/
structure IsPlain (c : Char) : Prop where
  not_blank : isBlank c = false
  not_special : c ∉ ['\\', '\'', '"', '|']

variable {c : Char} {cs : List Char}

theorem IsPlain.scan_step (h : IsPlain c) (word : Option (List Char)) (done : List (List Char)) :
    Scan.step { word, done } c = { word := some (c :: word.getD []), done } := by
  have hspecial := h.not_special
  simp only [List.mem_cons, List.not_mem_nil, or_false, not_or] at hspecial
  simp [Scan.step, Scan.take, Scan.push, Mode.next, hspecial, h.not_blank]

theorem IsPlain.cut_step (h : IsPlain c) (segment : List Char) (done : List (List Char)) :
    Cut.step { segment, done } c = { segment := c :: segment, done } := by
  have hspecial := h.not_special
  simp only [List.mem_cons, List.not_mem_nil, or_false, not_or] at hspecial
  simp [Cut.step, Cut.keep, hspecial]

theorem foldl_plain (h : ∀ c ∈ cs, IsPlain c) (word : List Char) (done : List (List Char)) :
    cs.foldl Scan.step { word := some word, done } =
      { word := some (cs.reverse ++ word), done } := by
  induction cs generalizing word with
  | nil => rfl
  | cons c cs ih =>
    obtain ⟨hc, hcs⟩ := List.forall_mem_cons.mp h
    rw [List.foldl_cons, hc.scan_step, Option.getD_some, ih hcs, List.reverse_cons,
      List.append_assoc, List.singleton_append]

theorem whole_of_isPlain (h : ∀ c ∈ cs, IsPlain c) : Whole cs := by
  induction cs with
  | nil => exact fun _ _ ↦ rfl
  | cons c cs ih =>
    obtain ⟨hc, hcs⟩ := List.forall_mem_cons.mp h
    intro segment done
    rw [List.foldl_cons, hc.cut_step, ih hcs, List.reverse_cons, List.append_assoc,
      List.singleton_append]

/-- **Plain characters are a word that stands for itself.** -/
theorem stands_of_isPlain (hne : cs ≠ []) (h : ∀ c ∈ cs, IsPlain c) : Stands cs cs where
  words := by
    obtain ⟨c, cs, rfl⟩ := List.exists_cons_of_ne_nil hne
    obtain ⟨hc, hcs⟩ := List.forall_mem_cons.mp h
    have hscan : Scan.of (c :: cs) = { word := some (cs.reverse ++ [c]) } := by
      rw [Scan.of, List.foldl_cons, hc.scan_step]
      exact foldl_plain hcs [c] []
    rw [words, hscan, Scan.finish]
    simp [Scan.close]
  closed := (whole_of_isPlain h).closed
  whole := whole_of_isPlain h
  tight := by
    refine ⟨hne, ?_, ?_⟩
    · intro c hc
      exact (h c (List.mem_of_mem_head? hc)).not_blank
    · intro c hc
      exact (h c (List.mem_of_mem_getLast? hc)).not_blank

end Line

namespace Text

/-! ## Digits -/

theorem toNat_of_isDigit {c : Char} (h : c.isDigit = true) : 48 ≤ c.toNat ∧ c.toNat ≤ 57 := by
  rw [Char.isDigit, Bool.and_eq_true, decide_eq_true_eq, decide_eq_true_eq] at h
  exact h

theorem digitValue?_of_isDigit {c : Char} (h : c.isDigit = true) :
    digitValue? c = some (c.toNat - '0'.toNat) := by
  obtain ⟨hlow, hhigh⟩ := toNat_of_isDigit h
  have hzero : (decide (0x30 ≤ c.toNat) && decide (c.toNat < 0x30 + 10)) = true := by
    rw [Bool.and_eq_true, decide_eq_true_eq, decide_eq_true_eq]
    omega
  -- the zero that comes first in the table is that of these digits
  have hfind : zeroDigits.find? (fun z ↦ z ≤ c.toNat && c.toNat < z + 10) = some 0x30 := by
    unfold zeroDigits
    exact List.find?_cons_of_pos hzero
  rw [digitValue?, hfind]
  rfl

theorem isBlank_of_isDigit {c : Char} (h : c.isDigit = true) : isBlank c = false := by
  obtain ⟨hlow, hhigh⟩ := toNat_of_isDigit h
  simp only [isBlank, blankRanges, List.any_cons, List.any_nil, Bool.or_false, Bool.or_eq_false_iff,
    Bool.and_eq_false_iff, decide_eq_false_iff_not]
  omega

theorem readDigits_of_isDigit {cs : List Char} (hne : cs ≠ []) (h : ∀ c ∈ cs, c.isDigit = true) :
    readDigits cs = some (cs.map fun c ↦ c.toNat - '0'.toNat) := by
  induction cs with
  | nil => exact absurd rfl hne
  | cons c cs ih =>
    obtain ⟨hc, hcs⟩ := List.forall_mem_cons.mp h
    cases cs with
    | nil =>
      rw [readDigits, digitValue?_of_isDigit hc]
      rfl
    | cons d cs =>
      rw [readDigits, digitValue?_of_isDigit hc, ih (List.cons_ne_nil d cs) hcs]
      · rfl
      · nofun
      · rintro rest ⟨⟩
        exact absurd (hcs '_' List.mem_cons_self) (by decide)

theorem isDigit_toDigits (n : Nat) : ∀ c ∈ Nat.toDigits 10 n, c.isDigit = true :=
  fun _ hc ↦ Nat.isDigit_of_mem_toDigits (by decide) (by decide) hc

theorem readNat_toDigits {n : Nat} (h : (Nat.toDigits 10 n).length ≤ maxDigits) :
    readNat (Nat.toDigits 10 n) = some n := by
  have hdigits := readDigits_of_isDigit Nat.toDigits_ne_nil (isDigit_toDigits n)
  have hvalue : ofDigits ((Nat.toDigits 10 n).map fun c ↦ c.toNat - '0'.toNat) = n := by
    rw [ofDigits, List.foldl_map]
    exact Nat.ofDigitChars_toDigits (by decide) (by decide)
  rw [readNat, hdigits]
  simp only [List.length_map, if_pos h, hvalue]

/-! ## Signs -/

theorem dropWhile_isNumberBlank {cs : List Char} (h : ∀ c ∈ cs.head?, isBlank c = false) :
    cs.dropWhile isNumberBlank = cs := by
  cases cs with
  | nil => rfl
  | cons c cs => rw [List.dropWhile_cons_of_neg (by simp [isNumberBlank, h c rfl])]

theorem dropNumberBlanks_eq {cs : List Char} (h : Line.Tight cs) :
    ((cs.dropWhile isNumberBlank).reverse.dropWhile isNumberBlank).reverse = cs := by
  obtain ⟨-, hhead, hlast⟩ := h
  rw [dropWhile_isNumberBlank hhead,
    dropWhile_isNumberBlank (by rwa [List.head?_reverse]), List.reverse_reverse]

theorem toList_toString (n : Int) :
    (toString n).toList = (if n < 0 then ['-'] else []) ++ Nat.toDigits 10 n.natAbs := by
  rw [Int.toString_eq_repr]
  cases n with
  | ofNat n => simp [Int.repr, Nat.repr]
  | negSucc n => simp [Int.repr, Nat.repr]

theorem toDigits_isPlain (n : Nat) : ∀ c ∈ Nat.toDigits 10 n, Line.IsPlain c := by
  intro c hc
  have hdigit := isDigit_toDigits n c hc
  refine ⟨isBlank_of_isDigit hdigit, ?_⟩
  simp only [List.mem_cons, List.not_mem_nil, or_false]
  rintro (rfl | rfl | rfl | rfl) <;> exact absurd hdigit (by decide)

theorem stands_toString (n : Int) : Line.Stands (toString n).toList (toString n).toList := by
  have hminus : Line.IsPlain '-' := ⟨by decide, by decide⟩
  rw [toList_toString]
  refine Line.stands_of_isPlain ?_ ?_
  · exact List.append_ne_nil_of_right_ne_nil _ Nat.toDigits_ne_nil
  · intro c hc
    split_ifs at hc
    · obtain rfl | hc := List.mem_cons.mp hc
      · exact hminus
      · exact toDigits_isPlain n.natAbs c hc
    · exact toDigits_isPlain n.natAbs c hc

/-- **An integer is read back as it was written**, unless it has too many digits. -/
theorem readIntegerString_toString {n : Int}
    (h : (Nat.toDigits 10 n.natAbs).length ≤ maxDigits) :
    readIntegerString (toString n) = some n := by
  have hread := readNat_toDigits h
  have hinner := dropNumberBlanks_eq (stands_toString n).tight
  rw [readIntegerString, readInteger, hinner, toList_toString]
  split_ifs with hneg
  · rw [List.singleton_append]
    simp only [hread]
    exact congrArg some (by omega : -(n.natAbs : Int) = n)
  · rw [List.nil_append]
    -- a digit is no sign
    have hdigit := isDigit_toDigits n.natAbs
    split
    · next heq => exact absurd (hdigit '-' (heq ▸ List.mem_cons_self)) (by decide)
    · next heq => exact absurd (hdigit '+' (heq ▸ List.mem_cons_self)) (by decide)
    · rw [hread]
      exact congrArg some (by omega : (n.natAbs : Int) = n)

end Text

namespace Line

/-- A line of two words that need no quotes is a command with one argument. -/
theorem parse_two_words {name argument : String} (hname : Stands name.toList name.toList)
    (hargument : Stands argument.toList argument.toList) (hplain : Operator.ofWord? name = none) :
    parse (name ++ " " ++ argument) =
      .ok { raw := name ++ " " ++ argument, commands := [⟨name, [argument]⟩] } := by
  have hline : (name ++ " " ++ argument).toList = name.toList ++ ([' '] ++ argument.toList) := by
    rw [String.toList_append, String.toList_append, List.append_assoc]
    rfl
  have htokens : tokenize (name ++ " " ++ argument) = [name, argument] := by
    rw [tokenize, hline, List.singleton_append, words_append_cons hname.closed (by decide),
      hname.words, hargument.words]
    simp
  have hextract : extract [name, argument] = ([name, argument], {}) := by
    rw [extract_cons_of_plain hplain, extract]
  rw [parse_of_whole, htokens, hextract]
  · rw [hline]
    exact hname.tight.append hargument.tight [' ']
  · rw [hline]
    exact hname.whole.append (whole_blank.append hargument.whole)

end Line

end CommandShell
