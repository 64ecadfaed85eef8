/-
Searching a text for every match of a target.

A target is a pattern in three parts, of which the middle one may be marked so
that a replacement can refer to it.  `Target.pieces` goes once through the text,
from left to right: where a match begins, it takes the preferred one and goes on
behind it; every other character is passed over.  `^` and word edges look at the
real neighbours, matched before or not.

* **`Target.text_pieces`** — the pieces put together are the text searched;
* **`Target.piecesFrom_of_matchAt`** — behind a match the search goes on as if it
  began there.
-/
import HaxeTypedefs.Pattern.Basic

namespace HaxeTypedefs

/-- What is looked for. -/
structure Target where
  lead : Pattern
  marked : Option Pattern
  trail : Pattern
  deriving DecidableEq, Repr

/-- A target without a marked part. -/
def Target.plain (p : Pattern) : Target := ⟨p, none, .nothing⟩

/-- A target with a marked part. -/
def Target.marking (lead marked trail : Pattern) : Target := ⟨lead, some marked, trail⟩

/-- The text of a match, in the three parts of its target. -/
structure Match where
  lead : List Char
  marked : List Char
  trail : List Char
  deriving DecidableEq, Repr

def Match.text (m : Match) : List Char := m.lead ++ m.marked ++ m.trail

/-- The preferred match that begins here and reads at least one character. -/
def Target.matchAt (t : Target) (s : Place) : Option Match :=
  let reading := (t.lead.ends s).findSome? fun a =>
    ((t.marked.getD .nothing).ends a).findSome? fun b =>
      (t.trail.ends b).head?.map fun c => ⟨s.textTo a, a.textTo b, b.textTo c⟩
  reading.filter fun m => !m.text.isEmpty

/-- A part of a searched text: a character that no match covers, or a match. -/
inductive Piece where
  | passed (c : Char)
  | found (m : Match)
  deriving DecidableEq, Repr

namespace Piece

def text : Piece → List Char
  | passed c => [c]
  | found m => m.text

def isFound : Piece → Bool
  | passed _ => false
  | found _ => true

end Piece

/-- The pieces of what is ahead, of which the first `covered` characters belong to a match
that has been found already. -/
def Target.piecesFrom (t : Target) (covered : Nat) (before : Option Char) :
    List Char → List Piece
  | [] => []
  | c :: rest =>
    match covered with
    | covered + 1 => t.piecesFrom covered (some c) rest
    | 0 =>
      match t.matchAt ⟨before, c :: rest⟩ with
      | some m => .found m :: t.piecesFrom (m.text.length - 1) (some c) rest
      | none => .passed c :: t.piecesFrom 0 (some c) rest

/-- The whole text in pieces. -/
def Target.pieces (t : Target) (text : List Char) : List Piece :=
  t.piecesFrom 0 none text

/-! ### Nothing is lost -/

/-- A match reads on from the place where it is looked for, and reads something. -/
theorem Target.exists_of_matchAt {t : Target} {s : Place} {m : Match}
    (h : t.matchAt s = some m) : m.text ≠ [] ∧ ∃ u, s.Reaches m.text u := by
  obtain ⟨h, hne⟩ := Option.filter_eq_some_iff.mp h
  obtain ⟨a, ha, h⟩ := List.exists_of_findSome?_eq_some h
  obtain ⟨b, hb, h⟩ := List.exists_of_findSome?_eq_some h
  obtain ⟨c, hc, rfl⟩ := Option.map_eq_some_iff.mp h
  obtain ⟨u, hu⟩ := Pattern.exists_of_mem_ends ha
  obtain ⟨v, hv⟩ := Pattern.exists_of_mem_ends hb
  obtain ⟨w, hw⟩ := Pattern.exists_of_mem_ends (List.mem_of_mem_head? hc)
  refine ⟨by simpa using hne, c, ?_⟩
  rw [hu.textTo_eq, hv.textTo_eq, hw.textTo_eq]
  exact (hu.trans hv).trans hw

/-- The pieces ahead hold everything ahead but what is covered. -/
theorem Target.text_piecesFrom (t : Target) (covered : Nat) (before : Option Char)
    (ahead : List Char) :
    (t.piecesFrom covered before ahead).flatMap Piece.text = ahead.drop covered := by
  induction ahead generalizing covered before with
  | nil => simp [piecesFrom]
  | cons c rest ih =>
    cases covered with
    | succ covered => simp [piecesFrom, ih]
    | zero =>
      cases hm : t.matchAt ⟨before, c :: rest⟩ with
      | none => simp [piecesFrom, hm, ih, Piece.text]
      | some m =>
        obtain ⟨hne, u, hu⟩ := exists_of_matchAt hm
        -- the match begins with `c`, so it covers one character less of the rest
        obtain ⟨w, hw⟩ : ∃ w, m.text = c :: w := by
          cases hmt : m.text with
          | nil => exact absurd hmt hne
          | cons d w => exact ⟨w, by have := hmt ▸ hu.ahead_eq; simp_all⟩
        have hrest : rest = w ++ u.ahead := by simpa [hw] using hu.ahead_eq
        have hdrop : rest.drop w.length = u.ahead := by simp [hrest]
        simp [piecesFrom, hm, ih, Piece.text, hw, hdrop]
        exact hrest.symm

/-- Covered characters are walked over. -/
theorem Target.piecesFrom_of_reaches (t : Target) {s u : Place} {w : List Char}
    (h : s.Reaches w u) :
    t.piecesFrom w.length s.before s.ahead = t.piecesFrom 0 u.before u.ahead := by
  induction h with
  | here => rfl
  | step _ ih => simpa [piecesFrom] using ih

theorem Target.piecesFrom_of_matchAt {t : Target} {s u : Place} {m : Match}
    (hm : t.matchAt s = some m) (hu : s.Reaches m.text u) :
    t.piecesFrom 0 s.before s.ahead = .found m :: t.piecesFrom 0 u.before u.ahead := by
  obtain ⟨hne, -⟩ := exists_of_matchAt hm
  cases hmt : m.text with
  | nil => exact absurd hmt hne
  | cons c w =>
    rw [hmt] at hu
    cases hu with
    | step hrest => simp [piecesFrom, hm, hmt, ← t.piecesFrom_of_reaches hrest]

theorem Target.text_pieces (t : Target) (text : List Char) :
    (t.pieces text).flatMap Piece.text = text := by
  simp [pieces, text_piecesFrom]

end HaxeTypedefs
