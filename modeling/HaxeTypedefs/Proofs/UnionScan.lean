/-
Unions, found without going back.

Behind the head of a union (`Node =` or `Node = `) the two rules for unions may read white
space in many ways, and try each of them.  A scan does with one: it takes each run of
characters as long as it goes, and what the runs are and what follows decides whether a
union begins.  It goes on behind the `;` of a union, and else behind the head.

* **`UnionLayout.scan`** — the scan;
* **`UnionLayout.onLines?_eq_some_iff`**, **`UnionLayout.onOneLine?_eq_some_iff`** — what it
  takes for a union;
* **`Substitution.ScannedBy.scanned_eq_scan`** — a search that chooses these unions finds what the
  scan finds;
* **`Rule.unions_eq_scan`** — so do the two rules, in every text.
-/
import HaxeTypedefs.Proofs.Gap
import HaxeTypedefs.Proofs.Matches

namespace HaxeTypedefs

/-- How the unions of one layout are told apart from other text. -/
structure UnionLayout where
  /-- what stands before a union -/
  head : List Char
  /-- the union itself, if the text behind a head begins with one -/
  captured? : List Char → Option (List Char)

/-- A scanned text, and the unions that the scan has met. -/
structure Scanned where
  text : List Char
  captures : List (List Char)
  deriving DecidableEq, Repr

/-- The text up to the first `;`, and with it, if it begins with `|`. -/
def alternatives? (text : List Char) : Option (List Char) :=
  if text.head? = some '|' ∧ ';' ∈ text then some (text.takeWhile (· != ';') ++ [';']) else none

namespace UnionLayout

/-- Lines of alternatives: white space that goes on behind a line feed, and the alternatives. -/
def onLines? (behind : List Char) : Option (List Char) :=
  let blanks := behind.takeWhile isBlank
  if '\n' ∈ blanks.dropLast then
    (alternatives? (behind.dropWhile isBlank)).map (blanks ++ ·)
  else none

/-- Alternatives on one line: a word, white space, and the other alternatives. -/
def onOneLine? (behind : List Char) : Option (List Char) :=
  let word := behind.takeWhile isWord
  let rest := behind.dropWhile isWord
  let blanks := rest.takeWhile isBlank
  if word ≠ [] ∧ blanks ≠ [] then
    ((alternatives? (rest.dropWhile isBlank)).filter fun w => '\n' ∉ w).map (word ++ blanks ++ ·)
  else none

/-- The unions of `Rule.multiLineUnion`. -/
def multiLine : UnionLayout := ⟨"Node =".toList, onLines?⟩

/-- The unions of `Rule.singleLineUnion`. -/
def singleLine : UnionLayout := ⟨"Node = ".toList, onOneLine?⟩

/-- Goes once through the text and collapses the unions. -/
def scan (l : UnionLayout) : List Char → Scanned
  | [] => ⟨[], []⟩
  | c :: rest =>
    if l.head <+: c :: rest then
      let behind := rest.drop (l.head.length - 1)
      match l.captured? behind with
      | some w =>
        let next := l.scan (behind.drop w.length)
        ⟨"Node = BaseNode; /* ".toList ++ w ++ " */".toList ++ next.text, w :: next.captures⟩
      | none =>
        let next := l.scan behind
        ⟨l.head ++ next.text, next.captures⟩
    else
      let next := l.scan rest
      ⟨c :: next.text, next.captures⟩
termination_by text => text.length
decreasing_by
  all_goals
    simp only [List.length_drop, List.length_cons]
    omega

variable {l : UnionLayout}

theorem scan_cons_of_not_prefix {c : Char} {rest : List Char} (h : ¬ l.head <+: c :: rest) :
    l.scan (c :: rest) = ⟨c :: (l.scan rest).text, (l.scan rest).captures⟩ := by
  rw [scan, if_neg h]

/-- Behind a head the scan goes on with a union or behind the head. -/
theorem scan_head_append (h : l.head ≠ []) (behind : List Char) :
    l.scan (l.head ++ behind) = match l.captured? behind with
      | some w =>
        ⟨"Node = BaseNode; /* ".toList ++ w ++ " */".toList ++ (l.scan (behind.drop w.length)).text,
          w :: (l.scan (behind.drop w.length)).captures⟩
      | none => ⟨l.head ++ (l.scan behind).text, (l.scan behind).captures⟩ := by
  obtain ⟨c, w, hhead⟩ := List.exists_cons_of_ne_nil h
  have hdrop : (w ++ behind).drop (l.head.length - 1) = behind := by
    rw [hhead]
    simp
  have hprefix : l.head <+: c :: (w ++ behind) := ⟨behind, by rw [hhead, List.cons_append]⟩
  have hsplit : l.head ++ behind = c :: (w ++ behind) := by rw [hhead, List.cons_append]
  rw [hsplit, scan, if_pos hprefix, hdrop]

theorem scan_of_captured (h : l.head ≠ []) {w behind : List Char}
    (hw : l.captured? (w ++ behind) = some w) : l.scan (l.head ++ (w ++ behind)) =
      ⟨"Node = BaseNode; /* ".toList ++ w ++ " */".toList ++ (l.scan behind).text,
        w :: (l.scan behind).captures⟩ := by
  rw [scan_head_append h, hw]
  simp only [List.drop_left]

theorem scan_of_captured_eq_none (h : l.head ≠ []) {behind : List Char}
    (hno : l.captured? behind = none) :
    l.scan (l.head ++ behind) = ⟨l.head ++ (l.scan behind).text, (l.scan behind).captures⟩ := by
  rw [scan_head_append h, hno]

/-! ### What is taken for a union -/

theorem alternatives?_eq_some_iff {text v : List Char} : alternatives? text = some v ↔
    ∃ w rest, text = '|' :: (w ++ ';' :: rest) ∧ ';' ∉ w ∧ v = '|' :: (w ++ [';']) := by
  constructor
  · intro h
    rw [alternatives?] at h
    split at h
    · rename_i hbar
      obtain ⟨w, x, rfl, hw, hx⟩ := exists_span (· != ';') text
      rw [takeWhile_append_of_span hw hx] at h
      -- the `;` that the text has is not in the run before it
      obtain ⟨rest, rfl⟩ : ∃ rest, x = ';' :: rest := by
        cases x with
        | nil => exact absurd (by simpa using hbar.2) (forall_bne_iff.mp hw)
        | cons d x =>
          obtain rfl : d = ';' := by simpa using hx
          exact ⟨x, rfl⟩
      cases w with
      | nil => cases hbar.1
      | cons d w =>
        obtain rfl : d = '|' := by simpa using hbar.1
        refine ⟨w, rest, rfl, fun hmem => ?_, (Option.some.inj h).symm⟩
        exact forall_bne_iff.mp hw (List.mem_cons_of_mem _ hmem)
    · cases h
  · rintro ⟨w, rest, rfl, hw, rfl⟩
    have hrun : ∀ c ∈ '|' :: w, (c != ';') = true := by
      rw [forall_bne_iff]
      simp [hw]
    have htake : ('|' :: (w ++ ';' :: rest)).takeWhile (· != ';') = '|' :: w :=
      takeWhile_append_of_span (x := ';' :: rest) hrun rfl
    rw [alternatives?, if_pos ⟨rfl, by simp⟩, htake]
    rfl

theorem mem_dropLast_iff {α : Type} {c : α} {l : List α} :
    c ∈ l.dropLast ↔ ∃ a b, l = a ++ c :: b ∧ b ≠ [] := by
  constructor
  · intro h
    obtain ⟨a, b, hb⟩ := List.append_of_mem h
    have hne : l ≠ [] := by
      rintro rfl
      cases h
    have hlast := List.dropLast_append_getLast hne
    rw [hb, List.append_assoc, List.cons_append] at hlast
    exact ⟨a, b ++ [l.getLast hne], hlast.symm, by simp⟩
  · rintro ⟨a, b, rfl, hb⟩
    rw [List.dropLast_append_of_ne_nil (by simp), List.dropLast_cons_of_ne_nil hb]
    simp

theorem onLines?_eq_some_iff {behind v : List Char} : onLines? behind = some v ↔
    ∃ bl bl' w rest, behind = bl ++ '\n' :: (bl' ++ '|' :: (w ++ ';' :: rest)) ∧
      (∀ c ∈ bl, isBlank c = true) ∧ bl' ≠ [] ∧ (∀ c ∈ bl', isBlank c = true) ∧ ';' ∉ w ∧
      v = bl ++ '\n' :: (bl' ++ '|' :: (w ++ [';'])) := by
  obtain ⟨blanks, x, rfl, hblanks, hx⟩ := exists_span isBlank behind
  simp only [onLines?, takeWhile_append_of_span hblanks hx, dropWhile_append_of_span hblanks hx]
  constructor
  · intro h
    split at h
    · rename_i hmem
      obtain ⟨bl, bl', rfl, hne⟩ := mem_dropLast_iff.mp hmem
      obtain ⟨u, hu, rfl⟩ := Option.map_eq_some_iff.mp h
      obtain ⟨w, rest, rfl, hw, rfl⟩ := alternatives?_eq_some_iff.mp hu
      refine ⟨bl, bl', w, rest, by simp, fun c hc => hblanks c (by simp [hc]), hne,
        fun c hc => hblanks c (by simp [hc]), hw, by simp⟩
    · cases h
  · rintro ⟨bl, bl', w, rest, htext, hbl, hne, hbl', hw, rfl⟩
    have hrun : ∀ c ∈ bl ++ '\n' :: bl', isBlank c = true := by
      intro c hc
      rcases List.mem_append.mp hc with hc | hc
      · exact hbl c hc
      · rcases List.mem_cons.mp hc with rfl | hc
        · decide
        · exact hbl' c hc
    -- the run of white space ends where the bar stands
    obtain ⟨rfl, rfl⟩ := span_unique
      (show blanks ++ x = (bl ++ '\n' :: bl') ++ '|' :: (w ++ ';' :: rest) by simpa using htext)
      hblanks hrun hx rfl
    rw [if_pos (mem_dropLast_iff.mpr ⟨bl, bl', rfl, hne⟩),
      alternatives?_eq_some_iff.mpr ⟨w, rest, rfl, hw, rfl⟩]
    simp

example : onLines? " \n | A;\n".toList = some " \n | A;".toList ∧
    onLines? " \n| A;\n".toList = none := by
  decide

theorem onOneLine?_eq_some_iff {behind v : List Char} : onOneLine? behind = some v ↔
    ∃ word bl w rest, behind = word ++ (bl ++ '|' :: (w ++ ';' :: rest)) ∧ word ≠ [] ∧
      (∀ c ∈ word, isWord c = true) ∧ bl ≠ [] ∧ (∀ c ∈ bl, isBlank c = true) ∧ '\n' ∉ w ∧ ';' ∉ w ∧
      v = word ++ (bl ++ '|' :: (w ++ [';'])) := by
  -- the scan takes the longest word and the longest white space, and a match can have no others
  obtain ⟨word, x, rfl, hword, hx⟩ := exists_span isWord behind
  obtain ⟨blanks, y, rfl, hblanks, hy⟩ := exists_span isBlank x
  simp only [onOneLine?, takeWhile_append_of_span hword hx, dropWhile_append_of_span hword hx,
    takeWhile_append_of_span hblanks hy, dropWhile_append_of_span hblanks hy]
  constructor
  · intro h
    split at h
    · rename_i hne
      obtain ⟨u, hu, rfl⟩ := Option.map_eq_some_iff.mp h
      obtain ⟨hu, hline⟩ := Option.filter_eq_some_iff.mp hu
      obtain ⟨w, rest, rfl, hw, rfl⟩ := alternatives?_eq_some_iff.mp hu
      have hlineFeed : '\n' ∉ w := by
        intro hmem
        simp [hmem] at hline
      exact ⟨word, blanks, w, rest, rfl, hne.1, hword, hne.2, hblanks, hlineFeed, hw, by simp⟩
    · cases h
  · rintro ⟨word', bl, w, rest, htext, hne, hword', hne', hbl, hline, hw, rfl⟩
    obtain ⟨rfl, hrest⟩ := span_unique htext hword hword' hx
      (head?_any_append hne' (head?_blank_any_isWord hbl))
    obtain ⟨rfl, rfl⟩ := span_unique hrest hblanks hbl hy rfl
    rw [if_pos ⟨hne, hne'⟩, alternatives?_eq_some_iff.mpr ⟨w, rest, rfl, hw, rfl⟩]
    simp [hline]

end UnionLayout

/-! ### The search finds what the scan finds -/

/-- What the match marks. -/
def Piece.capture? : Piece → Option (List Char)
  | passed _ => none
  | found m => some m.marked

/-- What the matches of the target mark, one after the other. -/
def Target.captures (t : Target) (text : List Char) : List (List Char) :=
  (t.pieces text).filterMap Piece.capture?

namespace Substitution

/-- The substitution collapses the unions of the layout. -/
structure ScannedBy (s : Substitution) (l : UnionLayout) : Prop where
  solid : s.target.Solid
  head_ne_nil : l.head ≠ []
  /-- no union begins within a head -/
  begins_eq_false : ∀ c ∈ l.head.tail, s.target.whole.begins c = false
  chooses_iff : ∀ {b ahead m}, s.target.Chooses ⟨b, ahead⟩ m ↔ ∃ behind w,
    ahead = l.head ++ behind ∧ l.captured? behind = some w ∧ m = ⟨l.head, w, []⟩
  replacement_eq : s.replacement = .template "Node = BaseNode; /* " " */"

variable {s : Substitution} {l : UnionLayout}

theorem ScannedBy.not_matches (h : s.ScannedBy l) {b : Option Char} {ahead : List Char}
    (hno : ∀ behind, ahead = l.head ++ behind → l.captured? behind = none) :
    ¬ s.target.Matches ⟨b, ahead⟩ := by
  intro hmatch
  obtain ⟨m, hm, -⟩ := Target.exists_chooses h.solid hmatch
  obtain ⟨behind, w, hahead, hw, -⟩ := h.chooses_iff.mp hm
  rw [hno behind hahead] at hw
  cases hw

/-- Behind a head without a union the search goes on as the scan does. -/
theorem ScannedBy.free_head (h : s.ScannedBy l) (before : List Char) {behind : List Char}
    (hno : l.captured? behind = none) : s.target.Free before l.head behind := by
  obtain ⟨c, w, hhead⟩ := List.exists_cons_of_ne_nil h.head_ne_nil
  have hfirst : ¬ s.target.Matches (.between before (l.head ++ behind)) := by
    refine h.not_matches fun behind' hbehind => ?_
    rwa [← List.append_cancel_left hbehind]
  rw [hhead] at hfirst ⊢
  rw [← List.singleton_append]
  refine Target.free_append (Target.free_singleton hfirst) (Target.free_of_begins h.solid ?_)
  intro d hd
  exact h.begins_eq_false d (by rwa [hhead, List.tail_cons])

/-- The text that the substitution makes of the pieces, and what they mark. -/
def scanned (s : Substitution) (pieces : List Piece) : Scanned :=
  ⟨pieces.flatMap s.renderPiece, pieces.filterMap Piece.capture?⟩

theorem scanned_passed_append (w : List Char) (pieces : List Piece) :
    s.scanned (w.map .passed ++ pieces) =
      ⟨w ++ (s.scanned pieces).text, (s.scanned pieces).captures⟩ := by
  induction w with
  | nil => rfl
  | cons c w ih =>
    have hcons : s.scanned (.passed c :: (w.map .passed ++ pieces)) =
        ⟨c :: (s.scanned (w.map .passed ++ pieces)).text,
          (s.scanned (w.map .passed ++ pieces)).captures⟩ := rfl
    rw [List.map_cons, List.cons_append, hcons, ih, List.cons_append]

/-- What is captured is the text behind the head. -/
theorem ScannedBy.exists_of_captured (h : s.ScannedBy l) {behind w : List Char}
    (hw : l.captured? behind = some w) : ∃ rest, behind = w ++ rest := by
  have hm : s.target.Chooses ⟨none, l.head ++ behind⟩ ⟨l.head, w, []⟩ :=
    h.chooses_iff.mpr ⟨behind, w, rfl, hw, rfl⟩
  obtain ⟨r, u, -, -, hu⟩ := hm.exists_reads
  have hahead : l.head ++ behind = (⟨l.head, w, []⟩ : Match).text ++ u.ahead := hu.ahead_eq
  rw [Match.text, List.append_nil, List.append_assoc] at hahead
  exact ⟨u.ahead, List.append_cancel_left hahead⟩

/-- The search goes on behind a union as the scan does. -/
theorem ScannedBy.scanned_of_captured (h : s.ScannedBy l) (before : List Char) {w rest : List Char}
    (hw : l.captured? (w ++ rest) = some w) :
    s.scanned (s.target.piecesFrom 0 before.getLast? (l.head ++ (w ++ rest))) =
      ⟨"Node = BaseNode; /* ".toList ++ w ++ " */".toList ++
          (s.scanned (s.target.piecesFrom 0 (before ++ (l.head ++ w)).getLast? rest)).text,
        w ::
          (s.scanned (s.target.piecesFrom 0 (before ++ (l.head ++ w)).getLast? rest)).captures⟩ := by
  have htext : (⟨l.head, w, []⟩ : Match).text = l.head ++ w := by simp [Match.text]
  have hm : s.target.matchAt (.between before (l.head ++ (w ++ rest))) = some ⟨l.head, w, []⟩ :=
    Target.matchAt_eq_some_iff.mpr
      ⟨h.chooses_iff.mpr ⟨w ++ rest, w, rfl, hw, rfl⟩, by simp [htext, h.head_ne_nil]⟩
  have hreaches : (Place.between before (l.head ++ (w ++ rest))).Reaches
      (⟨l.head, w, []⟩ : Match).text (.between (before ++ (l.head ++ w)) rest) := by
    rw [htext, ← List.append_assoc]
    exact Place.reaches_between before (l.head ++ w) rest
  refine (congrArg s.scanned (Target.piecesFrom_of_matchAt hm hreaches)).trans ?_
  simp [scanned, Place.between, renderPiece, Piece.capture?, h.replacement_eq,
    Replacement.render_template]

/-- What the search makes of the text behind another one is what the scan makes of it. -/
theorem ScannedBy.scanned_eq_scan (h : s.ScannedBy l) (before ahead : List Char) :
    s.scanned (s.target.piecesFrom 0 before.getLast? ahead) = l.scan ahead := by
  -- by the length of what is ahead, since a union and a head are more than one character
  induction hn : ahead.length using Nat.strongRecOn generalizing before ahead with
  | ind n ih =>
    have hgap : ∀ gap rest, ahead = gap ++ rest → gap ≠ [] → s.target.Free before gap rest →
        s.scanned (s.target.piecesFrom 0 before.getLast? ahead) =
          ⟨gap ++ (l.scan rest).text, (l.scan rest).captures⟩ := by
      rintro gap rest rfl hne hfree
      have hlt : rest.length < n := by
        have := List.length_pos_iff.mpr hne
        rw [← hn, List.length_append]
        omega
      rw [Target.piecesFrom_of_free h.solid hfree, scanned_passed_append,
        ih _ hlt (before ++ gap) rest rfl]
    cases ahead with
    | nil =>
      rw [UnionLayout.scan]
      rfl
    | cons c rest =>
      by_cases hhead : l.head <+: c :: rest
      · obtain ⟨behind, hbehind⟩ := hhead
        cases hcaptured : l.captured? behind with
        | none =>
          rw [hgap _ _ hbehind.symm h.head_ne_nil (h.free_head before hcaptured), ← hbehind,
            UnionLayout.scan_of_captured_eq_none h.head_ne_nil hcaptured]
        | some w =>
          obtain ⟨rest', rfl⟩ := h.exists_of_captured hcaptured
          have hlt : rest'.length < n := by
            have := List.length_pos_iff.mpr h.head_ne_nil
            rw [← hn, ← hbehind, List.length_append, List.length_append]
            omega
          rw [← hbehind, h.scanned_of_captured before hcaptured,
            UnionLayout.scan_of_captured h.head_ne_nil hcaptured, ih _ hlt _ rest' rfl]
      · rw [UnionLayout.scan_cons_of_not_prefix hhead]
        refine hgap [c] rest rfl (List.cons_ne_nil c []) (Target.free_singleton ?_)
        exact h.not_matches fun behind hbehind => absurd ⟨behind, hbehind.symm⟩ hhead

theorem ScannedBy.apply_eq_scan (h : s.ScannedBy l) (text : List Char) :
    s.apply text = ⟨(l.scan text).text, (l.scan text).captures.length⟩ ∧
      s.target.captures text = (l.scan text).captures := by
  have hscan : s.scanned (s.target.pieces text) = l.scan text := h.scanned_eq_scan [] text
  have hcount : ((s.target.pieces text).filterMap Piece.capture?).length =
      (s.target.pieces text).countP Piece.isFound := by
    rw [List.length_filterMap_eq_countP]
    refine List.countP_congr fun p _ => ?_
    cases p <;> simp [Piece.capture?, Piece.isFound]
  rw [← hscan, apply, ← hcount]
  exact ⟨rfl, rfl⟩

theorem scannedBy_multiLineUnion :
    ScannedBy ⟨Target.multiLineUnion, .template "Node = BaseNode; /* " " */"⟩ .multiLine := by
  refine ⟨by decide, by decide, by decide, ?_, rfl⟩
  intro b ahead m
  rw [Target.chooses_multiLineUnion_iff]
  constructor
  · rintro ⟨bl, bl', w, rest, rfl, hbl, hne, hbl', hw, rfl⟩
    exact ⟨_, _, rfl, UnionLayout.onLines?_eq_some_iff.mpr
      ⟨bl, bl', w, rest, rfl, hbl, hne, hbl', hw, rfl⟩, rfl⟩
  · rintro ⟨behind, v, rfl, hv, rfl⟩
    obtain ⟨bl, bl', w, rest, rfl, hbl, hne, hbl', hw, rfl⟩ :=
      UnionLayout.onLines?_eq_some_iff.mp hv
    exact ⟨bl, bl', w, rest, rfl, hbl, hne, hbl', hw, rfl⟩

theorem scannedBy_singleLineUnion :
    ScannedBy ⟨Target.singleLineUnion, .template "Node = BaseNode; /* " " */"⟩ .singleLine := by
  refine ⟨by decide, by decide, by decide, ?_, rfl⟩
  intro b ahead m
  rw [Target.chooses_singleLineUnion_iff]
  constructor
  · rintro ⟨v, bl, w, rest, rfl, hv, hword, hne, hbl, hline, hw, rfl⟩
    exact ⟨_, _, rfl, UnionLayout.onOneLine?_eq_some_iff.mpr
      ⟨v, bl, w, rest, rfl, hv, hword, hne, hbl, hline, hw, rfl⟩, rfl⟩
  · rintro ⟨behind, x, rfl, hx, rfl⟩
    obtain ⟨v, bl, w, rest, rfl, hv, hword, hne, hbl, hline, hw, rfl⟩ :=
      UnionLayout.onOneLine?_eq_some_iff.mp hx
    exact ⟨v, bl, w, rest, rfl, hv, hword, hne, hbl, hline, hw, rfl⟩

end Substitution

namespace Rule

/-- The two rules for unions make of every text what the scan for their layout makes of it: the
same text with the same captures, as many as are counted. -/
theorem unions_eq_scan (text : List Char) :
    (multiLineUnion.apply text = ⟨(UnionLayout.multiLine.scan text).text,
        (UnionLayout.multiLine.scan text).captures.length⟩ ∧
      multiLineUnion.substitutions.map (·.target.captures text) =
        [(UnionLayout.multiLine.scan text).captures]) ∧
    (singleLineUnion.apply text = ⟨(UnionLayout.singleLine.scan text).text,
        (UnionLayout.singleLine.scan text).captures.length⟩ ∧
      singleLineUnion.substitutions.map (·.target.captures text) =
        [(UnionLayout.singleLine.scan text).captures]) := by
  obtain ⟨hmulti, hmultiCaptures⟩ := Substitution.scannedBy_multiLineUnion.apply_eq_scan text
  obtain ⟨hsingle, hsingleCaptures⟩ := Substitution.scannedBy_singleLineUnion.apply_eq_scan text
  refine ⟨⟨?_, ?_⟩, ?_, ?_⟩
  · rw [apply_of_singleton (r := multiLineUnion) rfl]
    exact hmulti
  · exact congrArg (fun w => [w]) hmultiCaptures
  · rw [apply_of_singleton (r := singleLineUnion) rfl]
    exact hsingle
  · exact congrArg (fun w => [w]) hsingleCaptures

end Rule

end HaxeTypedefs
