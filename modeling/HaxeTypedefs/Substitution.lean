/-
Substitutions: every match of a target gives way to a replacement.

* **`Substitution.apply`** searches the text once and never looks at what it has
  put in.
* **`Substitution.text_of_count_eq_zero`** — a substitution without matches leaves the text
  as it is.
-/
import HaxeTypedefs.Pattern.Search

namespace HaxeTypedefs

/-- What takes the place of a match. -/
inductive Replacement where
  /-- always the same text -/
  | literal (text : String)
  /-- the marked part of the match between two texts -/
  | template (opening closing : String)
  /-- the match in a line comment, and the block on the lines below it -/
  | supersede (block : String)
  deriving DecidableEq, Repr

/-- The replacement of one match.  What the match reads is put in as it stands. -/
def Replacement.render : Replacement → Match → List Char
  | literal text, _ => text.toList
  | template opening closing, m => opening.toList ++ m.marked ++ closing.toList
  | supersede block, m => "//  ".toList ++ m.text ++ " \n".toList ++ block.toList

theorem Replacement.render_literal (text : String) (m : Match) :
    (literal text).render m = text.toList := by
  rw [render]

theorem Replacement.render_template (opening closing : String) (m : Match) :
    (template opening closing).render m =
      opening.toList ++ m.marked ++ closing.toList := by
  rw [render]

/-- The replacement as it is written down, with `$` and the number of a group in braces for
the marked part. -/
def Replacement.written : Replacement → String
  | literal text => text
  | template opening closing => opening ++ "$\x7b1\x7d" ++ closing
  | supersede block => block

structure Substitution where
  target : Target
  replacement : Replacement
  deriving DecidableEq, Repr

/-- A text after replacing, and how many matches have been replaced. -/
structure Outcome where
  text : List Char
  count : Nat
  deriving DecidableEq, Repr

namespace Substitution

/-- A piece of the searched text after replacing. -/
def renderPiece (s : Substitution) : Piece → List Char
  | .passed c => [c]
  | .found m => s.replacement.render m

/-- Replaces every match, from left to right. -/
def apply (s : Substitution) (text : List Char) : Outcome :=
  let pieces := s.target.pieces text
  ⟨pieces.flatMap s.renderPiece, pieces.countP Piece.isFound⟩

theorem text_of_count_eq_zero {s : Substitution} {text : List Char}
    (h : (s.apply text).count = 0) : (s.apply text).text = text := by
  have hnone : ∀ p ∈ s.target.pieces text, ¬ p.isFound = true := List.countP_eq_zero.mp h
  have heq : (s.target.pieces text).map s.renderPiece = (s.target.pieces text).map Piece.text := by
    refine List.map_congr_left fun p hp => ?_
    cases p with
    | passed c => rfl
    | found m => exact absurd rfl (hnone _ hp)
  have := s.target.text_pieces text
  rw [List.flatMap_def, ← heq] at this
  simpa [apply, List.flatMap_def] using this

end Substitution

end HaxeTypedefs
