/-
The matches that a search finds, and what they cover.

The pieces of a text are taken as they come, so that what stands before a piece and behind
it can be spoken of.  A piece that is a match is the one that the target chooses there, and
wherever the target could be read, a match that has been found begins or goes on.

* **`Target.chooses_of_found`** — a match that is found is chosen where it begins;
* **`Target.exists_found`** — a place where the target can be read belongs to a match that is
  found;
* **`Rule.text_apply_eq_renderAll`** — the text that a rule leaves, piece by piece.
-/
import HaxeTypedefs.Proofs.LeftmostFirst

namespace HaxeTypedefs

/-- The searched text of some pieces. -/
def textOf (pieces : List Piece) : List Char :=
  pieces.flatMap Piece.text

@[simp] theorem textOf_nil : textOf [] = [] := rfl

@[simp] theorem textOf_passed_cons (c : Char) (pieces : List Piece) :
    textOf (.passed c :: pieces) = c :: textOf pieces := rfl

@[simp] theorem textOf_found_cons (m : Match) (pieces : List Piece) :
    textOf (.found m :: pieces) = m.text ++ textOf pieces := by
  simp [textOf, Piece.text]

@[simp] theorem textOf_append (pieces pieces' : List Piece) :
    textOf (pieces ++ pieces') = textOf pieces ++ textOf pieces' :=
  List.flatMap_append

@[simp] theorem textOf_map_passed (w : List Char) : textOf (w.map .passed) = w := by
  induction w with
  | nil => rfl
  | cons c w ih => rw [List.map_cons, textOf_passed_cons, ih]

/-- Pieces without a match are the characters of their text. -/
theorem eq_map_passed {pieces : List Piece} (h : ∀ m, .found m ∉ pieces) :
    pieces = (textOf pieces).map .passed := by
  induction pieces with
  | nil => rfl
  | cons p pieces ih =>
    obtain ⟨hp, hpieces⟩ := forall_and.mp fun m => not_or.mp (List.mem_cons.not.mp (h m))
    cases p with
    | passed c => rw [textOf_passed_cons, List.map_cons, ← ih hpieces]
    | found m => exact absurd rfl (hp m)

/-- Some pieces after replacing. -/
def Substitution.renderAll (s : Substitution) (pieces : List Piece) : List Char :=
  pieces.flatMap s.renderPiece

namespace Substitution

variable {s : Substitution}

@[simp] theorem renderAll_nil : s.renderAll [] = [] := rfl

@[simp] theorem renderAll_passed_cons (c : Char) (pieces : List Piece) :
    s.renderAll (.passed c :: pieces) = c :: s.renderAll pieces := rfl

@[simp] theorem renderAll_found_cons (m : Match) (pieces : List Piece) :
    s.renderAll (.found m :: pieces) = s.replacement.render m ++ s.renderAll pieces := by
  simp [renderAll, renderPiece]

@[simp] theorem renderAll_append (pieces pieces' : List Piece) :
    s.renderAll (pieces ++ pieces') = s.renderAll pieces ++ s.renderAll pieces' :=
  List.flatMap_append

@[simp] theorem renderAll_map_passed (w : List Char) : s.renderAll (w.map .passed) = w := by
  induction w with
  | nil => rfl
  | cons c w ih => rw [List.map_cons, renderAll_passed_cons, ih]

end Substitution

theorem Rule.text_apply_eq_renderAll {r : Rule} {s : Substitution} (h : r.substitutions = [s])
    (text : List Char) : (r.apply text).text = s.renderAll (s.target.pieces text) := by
  rw [apply_of_singleton h]
  rfl

theorem Place.Reaches.rest {s t u : Place} {v w : List Char} (h : s.Reaches v t)
    (h' : s.Reaches (v ++ w) u) : t.Reaches w u := by
  induction h with
  | here => exact h'
  | step _ ih => cases h' with | step h' => exact ih h'

namespace Target

variable {t : Target} {text x y : List Char} {m : Match} {px py : List Piece}

theorem textOf_pieces (t : Target) (text : List Char) : textOf (t.pieces text) = text :=
  t.text_pieces text

/-- The pieces from a place on: a match that is chosen there, or a character. -/
theorem piecesFrom_cons_cases {s : Place} {p : Piece} {pieces : List Piece}
    (h : t.piecesFrom 0 s.before s.ahead = p :: pieces) :
    ∃ u, s.Reaches p.text u ∧ pieces = t.piecesFrom 0 u.before u.ahead ∧
      ∀ m, p = .found m → t.matchAt s = some m := by
  obtain ⟨b, ahead⟩ := s
  cases ahead with
  | nil => cases h
  | cons c rest =>
    cases hm : t.matchAt ⟨b, c :: rest⟩ with
    | none =>
      simp only [piecesFrom, hm] at h
      obtain ⟨rfl, rfl⟩ := List.cons.inj h
      exact ⟨⟨some c, rest⟩, .step (.here _), rfl, fun m hp => by cases hp⟩
    | some m =>
      obtain ⟨-, u, hu⟩ := exists_of_matchAt hm
      rw [piecesFrom_of_matchAt hm hu] at h
      obtain ⟨rfl, rfl⟩ := List.cons.inj h
      refine ⟨u, hu, rfl, fun m' hp => ?_⟩
      cases hp
      rfl

theorem matchAt_of_found_from {s : Place}
    (h : t.piecesFrom 0 s.before s.ahead = px ++ .found m :: py) :
    ∃ u, s.Reaches (textOf px) u ∧ t.matchAt u = some m := by
  induction px generalizing s with
  | nil =>
    obtain ⟨-, -, -, hm⟩ := piecesFrom_cons_cases h
    exact ⟨s, .here s, hm m rfl⟩
  | cons p px ih =>
    obtain ⟨u, hu, hrest, -⟩ := piecesFrom_cons_cases h
    obtain ⟨v, hv, hm⟩ := ih hrest.symm
    exact ⟨v, hu.trans hv, hm⟩

theorem eq_of_found (h : t.pieces text = px ++ .found m :: py) :
    text = textOf px ++ (m.text ++ textOf py) := by
  rw [← t.textOf_pieces text, h, textOf_append, textOf_found_cons]

/-- A match that the search finds is the one that the target chooses where it begins. -/
theorem chooses_of_found (h : t.pieces text = px ++ .found m :: py) :
    t.Chooses (.between (textOf px) (m.text ++ textOf py)) m := by
  obtain ⟨u, hu, hm⟩ := matchAt_of_found_from (s := .start text) h
  have hplace : (Place.start text).Reaches (textOf px)
      (.between (textOf px) (m.text ++ textOf py)) := by
    rw [eq_of_found h]
    exact Place.reaches_between [] (textOf px) _
  rw [hu.unique hplace] at hm
  exact (matchAt_eq_some_iff.mp hm).1

/-- Whatever place of the text ahead the target can be read at, a match has been found that begins
there or goes on there. -/
theorem exists_found_from (ht : t.Solid) {s p : Place} (hp : s.Reaches x p) (h : t.Matches p) :
    ∃ px m py u v, t.piecesFrom 0 s.before s.ahead = px ++ .found m :: py ∧
      x = textOf px ++ u ∧ m.text = u ++ v ∧ v ≠ [] ∧ p.ahead = v ++ textOf py := by
  -- by the distance of the two places: the first piece takes away at least one character
  induction hn : x.length using Nat.strongRecOn generalizing s x with
  | ind n ih =>
    -- where the first piece is behind, the rest of the way is shorter
    have hbehind : ∀ (pc : Piece) (u : Place) (z : List Char), s.Reaches pc.text u →
        t.piecesFrom 0 s.before s.ahead = pc :: t.piecesFrom 0 u.before u.ahead →
        pc.text ≠ [] → x = pc.text ++ z →
        ∃ px m py u v, t.piecesFrom 0 s.before s.ahead = px ++ .found m :: py ∧
          x = textOf px ++ u ∧ m.text = u ++ v ∧ v ≠ [] ∧ p.ahead = v ++ textOf py := by
      rintro pc u z hu hpieces hne rfl
      have hlt : z.length < n := by
        have := List.length_pos_iff.mpr hne
        rw [← hn, List.length_append]
        omega
      obtain ⟨px, m, py, w, v, hrest, rfl, hm, hv, hahead⟩ := ih _ hlt (hu.rest hp) rfl
      refine ⟨pc :: px, m, py, w, v, by rw [hpieces, hrest, List.cons_append], ?_, hm, hv, hahead⟩
      cases pc <;> simp [Piece.text]
    cases hm : t.matchAt s with
    | some m =>
      obtain ⟨hne, u, hu⟩ := exists_of_matchAt hm
      have hpieces := piecesFrom_of_matchAt hm hu
      have hsplit : x ++ p.ahead = m.text ++ u.ahead := by rw [← hp.ahead_eq, ← hu.ahead_eq]
      rcases List.append_eq_append_iff.mp hsplit with ⟨v, hv, hahead⟩ | ⟨z, hz, -⟩
      · cases v with
        | nil =>
          rw [List.append_nil] at hv
          exact hbehind (.found m) u [] hu hpieces hne (by rw [List.append_nil]; exact hv.symm)
        | cons c v =>
          refine ⟨[], m, _, x, c :: v, hpieces, rfl, hv, List.cons_ne_nil c v, ?_⟩
          rw [textOf, text_piecesFrom]
          exact hahead
      · exact hbehind (.found m) u z hu hpieces hne hz
    | none =>
      cases hp with
      | here => exact absurd h ((matchAt_eq_none_iff ht).mp hm)
      | @step b c rest x _ hrest =>
        have hpieces : t.piecesFrom 0 b (c :: rest) = .passed c :: t.piecesFrom 0 (some c) rest := by
          simp only [piecesFrom, hm]
        exact hbehind (.passed c) ⟨some c, rest⟩ x (.step (.here _)) hpieces
          (List.cons_ne_nil c []) rfl

/-- A place where the target can be read belongs to a match that the search finds: the match begins
there, or has begun before and goes on. -/
theorem exists_found (ht : t.Solid) (h : t.Matches (.between x y)) :
    ∃ px m py u v, t.pieces (x ++ y) = px ++ .found m :: py ∧ x = textOf px ++ u ∧
      m.text = u ++ v ∧ v ≠ [] ∧ y = v ++ textOf py :=
  exists_found_from (s := .start (x ++ y)) ht (Place.reaches_between [] x y) (by simpa using h)

end Target

end HaxeTypedefs
