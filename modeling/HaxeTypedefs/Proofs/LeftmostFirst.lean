/-
Replacing is leftmost-first.

`Target.Factors` takes a text apart into gaps and matches: no match begins in a
gap, and a match is the reading that the operators of the target prefer where it
begins.  What lies before is looked at, never read again.  A text has one such
factoring, and the search finds it.

* **`Target.matchAt_eq_some_iff`** — the match at a place is the preferred reading;
* **`Target.exists_factors`**, **`Target.pieces_eq_of_factors`** — a text has one
  factoring, and its parts are the pieces of the search;
* **`Rule.apply_eq_iff_series`** — a rule replaces the matches of the factoring of each of
  its substitutions in turn, and counts them.
-/
import Mathlib.Data.List.Basic
import HaxeTypedefs.Proofs.Spelling
import HaxeTypedefs.Rule

namespace HaxeTypedefs

/-- The parts of the target one after the other. -/
def Target.whole (t : Target) : Pattern :=
  .seq t.lead (.seq (t.marked.getD .nothing) t.trail)

/-- The target can be read in this way at the place. -/
def Target.Reads (t : Target) (s : Place) (r : Reading) : Prop :=
  ∃ u, t.whole.Reads s r u

/-- The target can be read at the place. -/
def Target.Matches (t : Target) (s : Place) : Prop :=
  ∃ r, t.Reads s r

/-- The three parts of a reading of a target. -/
def Reading.toMatch : Reading → Match
  | pair r (pair r' r'') => ⟨r.text, r'.text, r''.text⟩
  | r => ⟨r.text, [], []⟩

/-- The match is the reading that the target prefers to every other one at the place. -/
def Target.Chooses (t : Target) (s : Place) (m : Match) : Prop :=
  ∃ r, t.Reads s r ∧ r.toMatch = m ∧ ∀ r', t.Reads s r' → r' = r ∨ t.whole.Prefers r r'

/-- Every reading of the target reads something. -/
def Target.Solid (t : Target) : Prop :=
  0 < t.whole.shortest

instance (t : Target) : Decidable t.Solid :=
  inferInstanceAs (Decidable (0 < t.whole.shortest))

theorem Reading.text_toMatch (r : Reading) : r.toMatch.text = r.text := by
  unfold toMatch
  split <;> simp [Match.text, Reading.text]

/-- The readings of a target are listed as its three parts are searched, one nested in the other. -/
theorem Target.exists_listed (t : Target) (s : Place) :
    ∃ l, t.whole.Lists s l ∧ (l.map fun x => x.1.toMatch) =
      (t.lead.ends s).flatMap fun a => ((t.marked.getD .nothing).ends a).flatMap fun b =>
        (t.trail.ends b).map fun c => (⟨s.textTo a, a.textTo b, b.textTo c⟩ : Match) := by
  obtain ⟨l, hl, hends⟩ := t.lead.exists_listed s
  choose lm hlm hendsm using (t.marked.getD .nothing).exists_listed
  choose lt hlt hendst using t.trail.exists_listed
  refine ⟨_, hl.seq fun u => (hlm u).seq hlt, ?_⟩
  have hnested : ((t.lead.ends s).flatMap fun a => ((t.marked.getD .nothing).ends a).flatMap
      fun b => (t.trail.ends b).map fun c => (⟨s.textTo a, a.textTo b, b.textTo c⟩ : Match)) =
      l.flatMap fun x => (lm x.2).flatMap fun y => (lt y.2).map fun z =>
        (⟨x.1.text, y.1.text, z.1.text⟩ : Match) := by
    -- what lies between two places is what has been read from the one to the other
    rw [← hends, List.flatMap_map]
    refine List.flatMap_congr fun x hx => ?_
    rw [← hendsm, List.flatMap_map]
    refine List.flatMap_congr fun y hy => ?_
    rw [← hendst, List.map_map]
    refine List.map_congr_left fun z hz => ?_
    have hx' := ((hl.mem_iff _ _).mp hx).reaches.textTo_eq
    have hy' := (((hlm x.2).mem_iff _ _).mp hy).reaches.textTo_eq
    have hz' := (((hlt y.2).mem_iff _ _).mp hz).reaches.textTo_eq
    simp only [Function.comp_apply, hx', hy', hz']
  rw [hnested]
  simp [List.map_flatMap, Function.comp_def, Reading.toMatch]

theorem Target.chooses_iff_of_lists {t : Target} {s : Place} {m : Match}
    {l : List (Reading × Place)} (hl : t.whole.Lists s l) :
    t.Chooses s m ↔ ∃ x, l.head? = some x ∧ x.1.toMatch = m := by
  constructor
  · rintro ⟨r, ⟨u, hr⟩, rfl, hbest⟩
    exact ⟨(r, u), hl.head?_eq_some_iff.mpr ⟨hr, fun r' u' hr' => hbest r' ⟨u', hr'⟩⟩, rfl⟩
  · rintro ⟨⟨r, u⟩, hx, rfl⟩
    obtain ⟨hr, hbest⟩ := hl.head?_eq_some_iff.mp hx
    exact ⟨r, ⟨u, hr⟩, rfl, fun r' ⟨u', hr'⟩ => hbest r' u' hr'⟩

theorem Target.matchAt_eq_some_iff {t : Target} {s : Place} {m : Match} :
    t.matchAt s = some m ↔ t.Chooses s m ∧ m.text ≠ [] := by
  obtain ⟨l, hl, hmatches⟩ := t.exists_listed s
  -- the three nested searches of `matchAt` take the head of the list of all readings
  have hreading : ((t.lead.ends s).findSome? fun a =>
      ((t.marked.getD .nothing).ends a).findSome? fun b =>
        (t.trail.ends b).head?.map fun c => (⟨s.textTo a, a.textTo b, b.textTo c⟩ : Match)) =
      (l.map fun x => x.1.toMatch).head? := by
    rw [hmatches]
    simp [List.head?_flatMap]
  rw [chooses_iff_of_lists hl, Target.matchAt, hreading, List.head?_map, Option.filter_eq_some_iff,
    Option.map_eq_some_iff]
  simp

/-- A match is a reading from the place, character by character. -/
theorem Target.Chooses.exists_reads {t : Target} {s : Place} {m : Match} (h : t.Chooses s m) :
    ∃ r u, t.whole.Reads s r u ∧ r.text = m.text ∧ s.Reaches m.text u := by
  obtain ⟨r, ⟨u, hr⟩, rfl, -⟩ := h
  exact ⟨r, u, hr, r.text_toMatch.symm, r.text_toMatch ▸ hr.reaches⟩

/-- A target that reads something chooses no empty match. -/
theorem Target.Chooses.text_ne_nil {t : Target} {s : Place} {m : Match} (h : t.Chooses s m)
    (ht : t.Solid) : m.text ≠ [] := by
  obtain ⟨r, u, hr, hrm, -⟩ := h.exists_reads
  exact List.ne_nil_of_length_pos (hrm ▸ Nat.lt_of_lt_of_le ht hr.shortest_le)

theorem Target.Chooses.matches {t : Target} {s : Place} {m : Match} (h : t.Chooses s m) :
    t.Matches s := by
  obtain ⟨r, hr, -⟩ := h
  exact ⟨r, hr⟩

/-- Where a target that reads something can be read, it chooses a match. -/
theorem Target.exists_chooses {t : Target} (ht : t.Solid) {s : Place} (h : t.Matches s) :
    ∃ m, t.Chooses s m ∧ m.text ≠ [] := by
  obtain ⟨r₀, u₀, h₀⟩ := h
  obtain ⟨l, hl, -⟩ := t.whole.exists_listed s
  cases l with
  | nil => exact absurd ((hl.mem_iff _ _).mpr h₀) List.not_mem_nil
  | cons x l =>
    obtain ⟨hr, hbest⟩ := hl.head?_eq_some_iff.mp (show (x :: l).head? = some (x.1, x.2) from rfl)
    have hm : t.Chooses s x.1.toMatch :=
      ⟨x.1, ⟨x.2, hr⟩, rfl, fun r' ⟨u', hr'⟩ => hbest r' u' hr'⟩
    exact ⟨_, hm, hm.text_ne_nil ht⟩

theorem Target.matchAt_eq_none_iff {t : Target} (ht : t.Solid) {s : Place} :
    t.matchAt s = none ↔ ¬ t.Matches s := by
  constructor
  · intro hnone h
    obtain ⟨m, hm⟩ := exists_chooses ht h
    rw [matchAt_eq_some_iff.mpr hm] at hnone
    cases hnone
  · intro hno
    cases hm : t.matchAt s with
    | none => rfl
    | some m => exact absurd (matchAt_eq_some_iff.mp hm).1.matches hno

/-- No match begins behind a character that is not a line feed if all begin lines, or if none begins
with what is ahead. -/
theorem Target.not_matches_of_behind {t : Target} (ht : t.Solid) {b c : Char} (hb : b ≠ '\n')
    (h : t.whole.anchored = true ∨ t.whole.begins c = false) (rest : List Char) :
    ¬ t.Matches ⟨some b, c :: rest⟩ := by
  rintro ⟨r, u, hr⟩
  rcases h with h | h
  · have hstart := hr.atLineStart_of_anchored h
    simp [Place.atLineStart, hb] at hstart
  · rw [hr.begins_of_ahead ht rfl] at h
    cases h

/-- A description of the chosen matches is exact if it fits at most one match, and none where the
target cannot be read. -/
theorem Target.chooses_iff_of_form {t : Target} (ht : t.Solid) {s : Place} {F : Match → Prop}
    (hform : ∀ m, t.Chooses s m → F m) (hmatches : ∀ m, F m → t.Matches s)
    (hunique : ∀ m m', F m → F m' → m = m') {m : Match} : t.Chooses s m ↔ F m := by
  refine ⟨hform m, fun hm => ?_⟩
  obtain ⟨m', hm', -⟩ := exists_chooses ht (hmatches m hm)
  rwa [hunique m m' hm (hform m' hm')]

/-! ### Factorings of a text -/

/-- The place right behind the first text, where the second one is ahead. -/
def Place.between (behind ahead : List Char) : Place := ⟨behind.getLast?, ahead⟩

theorem Place.reaches_between (behind w ahead : List Char) :
    (between behind (w ++ ahead)).Reaches w (between (behind ++ w) ahead) := by
  induction w generalizing behind with
  | nil => simpa using Place.Reaches.here _
  | cons c w ih =>
    have h := ih (behind ++ [c])
    rw [List.append_assoc, List.singleton_append] at h
    refine .step ?_
    rwa [between, List.getLast?_concat] at h

/-- The text of a gap, and of matches with the gap behind each. -/
def spelled (gap : List Char) (ms : List (Match × List Char)) : List Char :=
  gap ++ ms.flatMap fun x => x.1.text ++ x.2

theorem spelled_cons (gap : List Char) (m : Match) (gap' : List Char)
    (ms : List (Match × List Char)) :
    spelled gap ((m, gap') :: ms) = gap ++ (m.text ++ spelled gap' ms) := by
  simp [spelled]

namespace Target

/-- No match begins in the gap, which lies between the two other texts. -/
def Free (t : Target) (behind gap ahead : List Char) : Prop :=
  ∀ x c y, gap = x ++ c :: y → ¬ t.Matches (.between (behind ++ x) (c :: y ++ ahead))

/-- What comes behind the first text is a gap, and matches with a gap behind each: each gap is
free of matches, and each match is not empty and the one that the target chooses. -/
inductive Factors (t : Target) : (behind gap : List Char) → List (Match × List Char) → Prop
  | last {behind gap : List Char} : t.Free behind gap [] → Factors t behind gap []
  | next {behind gap gap' : List Char} {m : Match} {ms : List (Match × List Char)} :
      t.Free behind gap (m.text ++ spelled gap' ms) → m.text ≠ [] →
        t.Chooses (.between (behind ++ gap) (m.text ++ spelled gap' ms)) m →
          Factors t (behind ++ gap ++ m.text) gap' ms → Factors t behind gap ((m, gap') :: ms)

/-- A place without a match makes the first gap one character longer. -/
theorem Factors.cons_gap {t : Target} {behind gap : List Char} {c : Char}
    {ms : List (Match × List Char)} (h : t.Factors (behind ++ [c]) gap ms)
    (hno : ¬ t.Matches (.between behind (c :: spelled gap ms))) : t.Factors behind (c :: gap) ms := by
  have hfree : ∀ {ahead}, t.Free (behind ++ [c]) gap ahead →
      ¬ t.Matches (.between behind (c :: (gap ++ ahead))) → t.Free behind (c :: gap) ahead := by
    intro ahead hfree hno x d y h
    cases x with
    | nil =>
      obtain ⟨rfl, rfl⟩ : c = d ∧ gap = y := by simpa using h
      simpa using hno
    | cons e x =>
      obtain ⟨rfl, rfl⟩ : c = e ∧ gap = x ++ d :: y := by simpa using h
      simpa using hfree x d y rfl
  cases h with
  | last h => exact .last (hfree h (by simpa [spelled] using hno))
  | next h hne hm hms =>
    refine .next (hfree h (by simpa [spelled] using hno)) hne ?_ ?_
    · simpa using hm
    · simpa using hms

/-- The pieces of a gap, and of matches with the gap behind each. -/
def piecesOf (gap : List Char) (ms : List (Match × List Char)) : List Piece :=
  gap.map .passed ++ ms.flatMap fun x => .found x.1 :: x.2.map .passed

variable {t : Target}

theorem piecesFrom_of_free (ht : t.Solid) {behind gap ahead : List Char}
    (h : t.Free behind gap ahead) :
    t.piecesFrom 0 behind.getLast? (gap ++ ahead) =
      gap.map .passed ++ t.piecesFrom 0 (behind ++ gap).getLast? ahead := by
  induction gap generalizing behind with
  | nil => simp
  | cons c gap ih =>
    have hnone : t.matchAt ⟨behind.getLast?, c :: (gap ++ ahead)⟩ = none := by
      have := h [] c gap rfl
      rw [List.append_nil] at this
      exact (matchAt_eq_none_iff ht).mpr this
    have hfree : t.Free (behind ++ [c]) gap ahead := by
      rintro x d y rfl
      simpa using h (c :: x) d y rfl
    have hrest := ih hfree
    rw [List.getLast?_concat, List.append_assoc, List.singleton_append] at hrest
    simp only [List.cons_append, piecesFrom, hnone, hrest, List.map_cons]

/-- The parts of a factoring are the pieces of the search. -/
theorem pieces_eq_of_factors (ht : t.Solid) {behind gap : List Char}
    {ms : List (Match × List Char)} (h : t.Factors behind gap ms) :
    t.piecesFrom 0 behind.getLast? (spelled gap ms) = piecesOf gap ms := by
  induction h with
  | last hfree => simpa [spelled, piecesOf, piecesFrom] using piecesFrom_of_free ht hfree
  | @next behind gap gap' m ms hfree hne hm _ ih =>
    have hfound : t.piecesFrom 0 (behind ++ gap).getLast? (m.text ++ spelled gap' ms) =
        .found m :: t.piecesFrom 0 (behind ++ gap ++ m.text).getLast? (spelled gap' ms) :=
      piecesFrom_of_matchAt (matchAt_eq_some_iff.mpr ⟨hm, hne⟩)
        (Place.reaches_between (behind ++ gap) m.text (spelled gap' ms))
    calc t.piecesFrom 0 behind.getLast? (spelled gap ((m, gap') :: ms))
        = t.piecesFrom 0 behind.getLast? (gap ++ (m.text ++ spelled gap' ms)) := by
          rw [spelled_cons]
      _ = gap.map .passed ++
            t.piecesFrom 0 (behind ++ gap).getLast? (m.text ++ spelled gap' ms) :=
          piecesFrom_of_free ht hfree
      _ = gap.map .passed ++ .found m ::
            t.piecesFrom 0 (behind ++ gap ++ m.text).getLast? (spelled gap' ms) := by
          rw [hfound]
      _ = piecesOf gap ((m, gap') :: ms) := by
          rw [ih]
          simp [piecesOf]

/-- Every text has a factoring. -/
theorem exists_factors (ht : t.Solid) (behind text : List Char) :
    ∃ gap ms, spelled gap ms = text ∧ t.Factors behind gap ms := by
  -- by the length of the text: a match takes away at least one character
  induction hn : text.length using Nat.strongRecOn generalizing behind text with
  | ind n ih =>
    cases hm : t.matchAt (.between behind text) with
    | some m =>
      obtain ⟨hch, hne⟩ := matchAt_eq_some_iff.mp hm
      obtain ⟨r, u, -, -, hu⟩ := hch.exists_reads
      obtain rfl : text = m.text ++ u.ahead := hu.ahead_eq
      have hlt : u.ahead.length < n := by
        have := List.length_pos_iff.mpr hne
        rw [← hn, List.length_append]
        omega
      obtain ⟨gap, ms, hs, hf⟩ := ih _ hlt (behind ++ m.text) u.ahead rfl
      refine ⟨[], (m, gap) :: ms, by simp [spelled, ← hs], .next ?_ hne ?_ ?_⟩
      · rintro x c y h
        simp at h
      · simpa [hs] using hch
      · simpa using hf
    | none =>
      have hno := (matchAt_eq_none_iff ht).mp hm
      cases text with
      | nil =>
        refine ⟨[], [], rfl, .last ?_⟩
        rintro x c y h
        simp at h
      | cons c text =>
        obtain ⟨gap, ms, hs, hf⟩ :=
          ih text.length (by rw [← hn]; exact Nat.lt_succ_self _) (behind ++ [c]) text rfl
        refine ⟨c :: gap, ms, by simp [spelled, ← hs], ?_⟩
        exact hf.cons_gap (by simpa [hs] using hno)

end Target

/-! ### Replacing the matches of a factoring -/

/-- What the replacement puts in the place of the match. -/
inductive Replacement.Puts : Replacement → Match → List Char → Prop
  | literal {text : String} {m : Match} : Puts (.literal text) m text.toList
  | template {opening closing : String} {m : Match} :
      Puts (.template opening closing) m (opening.toList ++ m.marked ++ closing.toList)
  | supersede {block : String} {m : Match} :
      Puts (.supersede block) m ("//  ".toList ++ m.text ++ " \n".toList ++ block.toList)

theorem Replacement.puts_iff {r : Replacement} {m : Match} {w : List Char} :
    r.Puts m w ↔ w = r.render m := by
  constructor
  · intro h; cases h <;> rfl
  · rintro rfl
    cases r with
    | literal => exact .literal
    | template => exact .template
    | supersede => exact .supersede

/-- The text of a factoring after replacing: the gaps stay. -/
inductive Substitution.Replaces (s : Substitution) :
    (gap : List Char) → List (Match × List Char) → List Char → Prop
  | last {gap : List Char} : Replaces s gap [] gap
  | next {gap gap' w out : List Char} {m : Match} {ms : List (Match × List Char)} :
      s.replacement.Puts m w → Replaces s gap' ms out →
        Replaces s gap ((m, gap') :: ms) (gap ++ w ++ out)

/-- The substitutions are made one after the other, each on the text that the one before has
left: all matches of a factoring are replaced, and their numbers add up. -/
inductive Substitution.Series : List Substitution → (text out : List Char) → Nat → Prop
  | done {text : List Char} : Series [] text text 0
  | step {s : Substitution} {ss : List Substitution} {gap mid out : List Char}
      {ms : List (Match × List Char)} {n : Nat} :
      s.target.Factors [] gap ms → s.Replaces gap ms mid → Series ss mid out n →
        Series (s :: ss) (spelled gap ms) out (ms.length + n)

namespace Substitution

variable {s : Substitution}

/-- The text of a factoring with the rendered matches. -/
def rendered (s : Substitution) (gap : List Char) (ms : List (Match × List Char)) : List Char :=
  gap ++ ms.flatMap fun x => s.replacement.render x.1 ++ x.2

theorem rendered_cons (gap : List Char) (m : Match) (gap' : List Char)
    (ms : List (Match × List Char)) :
    s.rendered gap ((m, gap') :: ms) = gap ++ (s.replacement.render m ++ s.rendered gap' ms) := by
  simp [rendered]

theorem replaces_iff {gap out : List Char} {ms : List (Match × List Char)} :
    s.Replaces gap ms out ↔ out = s.rendered gap ms := by
  induction ms generalizing gap out with
  | nil =>
    constructor
    · intro h; cases h; simp [rendered]
    · rintro rfl; simpa [rendered] using Replaces.last
  | cons x ms ih =>
    obtain ⟨m, gap'⟩ := x
    constructor
    · intro h
      cases h with
      | next hw hout => simp [Replacement.puts_iff.mp hw, ih.mp hout, rendered]
    · rintro rfl
      have h : s.Replaces gap ((m, gap') :: ms) _ :=
        .next (Replacement.puts_iff.mpr rfl) (ih.mpr rfl)
      simpa [rendered] using h

/-- A substitution renders the matches of the factoring and counts them. -/
theorem apply_eq_of_factors (hs : s.target.Solid) {gap : List Char}
    {ms : List (Match × List Char)} (h : s.target.Factors [] gap ms) :
    s.apply (spelled gap ms) = ⟨s.rendered gap ms, ms.length⟩ := by
  have hpieces : s.target.pieces (spelled gap ms) = Target.piecesOf gap ms :=
    Target.pieces_eq_of_factors hs h
  have hgap : ∀ g : List Char, (g.map Piece.passed).flatMap s.renderPiece = g ∧
      (g.map Piece.passed).countP Piece.isFound = 0 := by
    intro g
    induction g with
    | nil => exact ⟨rfl, rfl⟩
    | cons c g ih => simpa [renderPiece, Piece.isFound] using ih
  have hms : (ms.flatMap fun x => Piece.found x.1 :: x.2.map Piece.passed).flatMap s.renderPiece =
        ms.flatMap (fun x => s.replacement.render x.1 ++ x.2) ∧
      (ms.flatMap fun x => Piece.found x.1 :: x.2.map Piece.passed).countP Piece.isFound =
        ms.length := by
    clear h hpieces
    induction ms with
    | nil => exact ⟨rfl, rfl⟩
    | cons x ms ih =>
      simp [ih, hgap, renderPiece, Piece.isFound, List.countP_cons]
  rw [apply, hpieces, Target.piecesOf, List.flatMap_append, List.countP_append, (hgap gap).1,
    (hgap gap).2, hms.1, hms.2, Nat.zero_add]
  rfl

/-- Makes the substitutions one after the other and adds up their replacements. -/
def applyAll : List Substitution → List Char → Outcome
  | [], text => ⟨text, 0⟩
  | s :: ss, text =>
    ⟨(applyAll ss (s.apply text).text).text,
      (s.apply text).count + (applyAll ss (s.apply text).text).count⟩

theorem foldl_apply_eq (ss : List Substitution) (o : Outcome) :
    ss.foldl (fun sofar s => ⟨(s.apply sofar.text).text, sofar.count + (s.apply sofar.text).count⟩)
      o = ⟨(applyAll ss o.text).text, o.count + (applyAll ss o.text).count⟩ := by
  induction ss generalizing o with
  | nil => rfl
  | cons s ss ih => rw [List.foldl_cons, ih, applyAll, Nat.add_assoc]

theorem applyAll_eq_iff {ss : List Substitution} (hss : ∀ s ∈ ss, s.target.Solid)
    {text out : List Char} {n : Nat} :
    applyAll ss text = ⟨out, n⟩ ↔ Series ss text out n := by
  -- one step of the series for each substitution
  induction ss generalizing text n with
  | nil =>
    constructor
    · intro h; cases h; exact .done
    · intro h; cases h; rfl
  | cons s ss ih =>
    have hs := hss s List.mem_cons_self
    have ih := fun {text n} =>
      @ih (fun s hs => hss s (List.mem_cons_of_mem _ hs)) text n
    constructor
    · intro h
      obtain ⟨gap, ms, rfl, hf⟩ := Target.exists_factors hs [] text
      rw [applyAll, apply_eq_of_factors hs hf] at h
      obtain ⟨rfl, rfl⟩ := Outcome.mk.inj h
      exact .step hf (replaces_iff.mpr rfl) (ih.mp rfl)
    · intro h
      cases h with
      | step hf hr hss' =>
        rw [replaces_iff.mp hr] at hss'
        rw [applyAll, apply_eq_of_factors hs hf, ih.mpr hss']

end Substitution

theorem Rule.apply_eq_applyAll (r : Rule) (text : List Char) :
    r.apply text = Substitution.applyAll r.substitutions text := by
  have h := Substitution.foldl_apply_eq r.substitutions ⟨text, 0⟩
  rw [Nat.zero_add] at h
  exact h

theorem Rule.apply_of_singleton {r : Rule} {s : Substitution} (h : r.substitutions = [s])
    (text : List Char) : r.apply text = s.apply text := by
  rw [apply_eq_applyAll, h]
  rfl

theorem Rule.solid_of_mem {r : Rule} {s : Substitution} (h : s ∈ r.substitutions) :
    s.target.Solid := by
  have key : ∀ r ∈ Rule.all, ∀ s ∈ r.substitutions, 0 < s.target.whole.shortest := by
    decide
  exact key r r.mem_all s h

/-- What holds without substitutions, and goes on holding with one more of the rule made first, holds of
the rule. -/
theorem Rule.apply_induction {r : Rule} {P : (List Char → Outcome) → Prop}
    (nil : P fun text => ⟨text, 0⟩)
    (cons : ∀ s ∈ r.substitutions, s.target.Solid → ∀ f, P f → P fun text =>
      ⟨(f (s.apply text).text).text, (s.apply text).count + (f (s.apply text).text).count⟩) :
    P r.apply := by
  have hall : ∀ ss, (∀ s ∈ ss, s ∈ r.substitutions) → P (Substitution.applyAll ss) := by
    intro ss hss
    induction ss with
    | nil => exact nil
    | cons s ss ih =>
      have hs := hss s List.mem_cons_self
      exact cons s hs (solid_of_mem hs) _ (ih fun s hs => hss s (List.mem_cons_of_mem _ hs))
  have happly : r.apply = Substitution.applyAll r.substitutions := funext r.apply_eq_applyAll
  rw [happly]
  exact hall _ fun s hs => hs

/-- Applying a rule is leftmost-first replacement: the outcome is the one that the factorings
of the texts say, one for each substitution of the rule in order. -/
theorem Rule.apply_eq_iff_series {r : Rule} {text out : List Char} {n : Nat} :
    r.apply text = ⟨out, n⟩ ↔ Substitution.Series r.substitutions text out n := by
  rw [apply_eq_applyAll]
  exact Substitution.applyAll_eq_iff fun s hs => r.solid_of_mem hs

end HaxeTypedefs
