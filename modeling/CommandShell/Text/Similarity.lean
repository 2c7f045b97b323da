/-!
# Similar texts

How much two texts have in common: the longest piece that is in both, and then the same on the left
of it and on the right of it. Of several longest pieces the first one counts.
-/

namespace CommandShell.Text

/-- A piece that two texts have in common: where it begins in each, and its length. -/
structure CommonPiece where
  left : Nat := 0
  right : Nat := 0
  length : Nat := 0
  deriving DecidableEq, Repr, Inhabited

def commonStart : List Char → List Char → Nat
  | a :: as, b :: bs => if a = b then commonStart as bs + 1 else 0
  | _, _ => 0

def CommonPiece.longer (p q : CommonPiece) : CommonPiece :=
  if p.length < q.length then q else p

def longestPiece (as bs : List Char) : CommonPiece :=
  let piecesAt := fun (i : Nat) ↦ (List.range bs.length).map fun j ↦
    (⟨i, j, commonStart (as.drop i) (bs.drop j)⟩ : CommonPiece)
  ((List.range as.length).flatMap piecesAt).foldl CommonPiece.longer {}

/-- The number of characters that two texts have in common. -/
def inCommon (as bs : List Char) : Nat :=
  match longestPiece as bs with
  | ⟨left, right, length⟩ =>
    if _ : 0 < length ∧ left + length ≤ as.length then
      length + inCommon (as.take left) (bs.take right) +
        inCommon (as.drop (left + length)) (bs.drop (right + length))
    else 0
termination_by as.length
decreasing_by
  · rw [List.length_take]; omega
  · rw [List.length_drop]; omega

/-- Whether six tenths of the characters of two texts are in common. -/
def areClose (as bs : List Char) : Bool :=
  3 * (as.length + bs.length) ≤ 10 * inCommon as bs

end CommandShell.Text
