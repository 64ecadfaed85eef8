/-
What the comments of kind literals hide.

`kindLiteral` makes `kind: String, // 'Field'` of `kind: 'Field',`.  The comment goes to the end
of the line and not only to the end of the literal, so in a text that had no comments it hides
whatever stands behind the discriminant on its line.

* **`Region.drop_hides_renderAll`** — the text after replacing is read piece by piece: a match
  opens a comment, and a line feed closes it;
* **`Rule.kindLiteral_hides_iff`** — which characters get hidden, and when none is.
-/
import Mathlib.Data.List.Chain
import HaxeTypedefs.Proofs.Comment
import HaxeTypedefs.Proofs.Found
import HaxeTypedefs.Proofs.Matches

namespace HaxeTypedefs

/-- The substitution of `kindLiteral`. -/
def kindSubstitution : Substitution :=
  ⟨Target.kindLiteral, .template "kind: String, // " ""⟩

/-- The match is a discriminant with its literal. -/
def IsKind (m : Match) : Prop :=
  ∃ w z : List Char, '\n' ∉ w ∧
    m = ⟨"kind: ".toList, "'".toList ++ (w ++ "'".toList), z⟩

theorem isKind_of_found {text : List Char} {px py : List Piece} {m : Match}
    (h : Target.kindLiteral.pieces text = px ++ .found m :: py) : IsKind m := by
  obtain ⟨w, z, rest, -, -, hw, -, rfl⟩ :=
    Target.chooses_kindLiteral_iff.mp (Target.chooses_of_found h)
  exact ⟨w, z, fun hmem => absurd (hw _ hmem) (by decide), rfl⟩

/-- The region behind some pieces after replacing, for a text that has no comments itself. -/
def Region.behind : Region → List Piece → Region
  | region, [] => region
  | _, .found _ :: pieces => behind lineComment pieces
  | region, .passed c :: pieces => behind (if c = '\n' then code else region) pieces

namespace Region

variable {px py pieces : List Piece} {region : Region}

/-- A comment is open behind some pieces if it was open before, or has been opened since, and no line
feed has come. -/
theorem behind_eq_lineComment_iff : region.behind pieces = lineComment ↔
    region = lineComment ∧ .passed '\n' ∉ pieces ∨
      ∃ px m py, pieces = px ++ .found m :: py ∧ .passed '\n' ∉ py := by
  induction pieces generalizing region with
  | nil => simp [behind]
  | cons p pieces ih =>
    have hcons : (∃ px m py, p :: pieces = px ++ .found m :: py ∧ .passed '\n' ∉ py) ↔
        (∃ m, p = .found m ∧ .passed '\n' ∉ pieces) ∨
          ∃ px m py, pieces = px ++ .found m :: py ∧ .passed '\n' ∉ py := by
      constructor
      · rintro ⟨px, m, py, h, hpy⟩
        cases px with
        | nil =>
          obtain ⟨rfl, rfl⟩ := List.cons.inj h
          exact .inl ⟨m, rfl, hpy⟩
        | cons q px => exact .inr ⟨px, m, py, (List.cons.inj h).2, hpy⟩
      · rintro (⟨m, rfl, hpy⟩ | ⟨px, m, py, rfl, hpy⟩)
        · exact ⟨[], m, pieces, rfl, hpy⟩
        · exact ⟨p :: px, m, py, rfl, hpy⟩
    rw [hcons]
    cases p with
    | found m => simpa [behind, ih] using fun _ hfeed => .inl hfeed
    | passed c =>
      rw [behind, ih]
      by_cases hc : c = '\n'
      · simp [hc]
      · simp [hc, Ne.symm hc]

theorem behind_ne_blockComment (h : region ≠ blockComment) : region.behind pieces ≠ blockComment := by
  induction pieces generalizing region with
  | nil => exact h
  | cons p pieces ih =>
    cases p with
    | found m => exact ih (by decide)
    | passed c =>
      refine ih ?_
      split
      · decide
      · exact h

theorem behind_cons (region : Region) (p : Piece) (pieces : List Piece) :
    region.behind (p :: pieces) = (region.behind [p]).behind pieces := by
  cases p <;> rfl

/-- One piece of the text after replacing. -/
theorem drop_hides_piece {p : Piece} {z : List Char} (hregion : region ≠ blockComment)
    (hmatch : ∀ m, p = .found m → IsKind m)
    (hclear : p = .passed '/' → ∀ d ∈ z.head?, d ≠ '/' ∧ d ≠ '*') :
    (region.hides (kindSubstitution.renderPiece p ++ z)).drop
      (kindSubstitution.renderPiece p).length = (region.behind [p]).hides z := by
  cases p with
  | passed c =>
    show (region.hides (c :: z)).drop 1 = (if c = '\n' then code else region).hides z
    cases region with
    | code => rw [hides_code_cons fun hc => hclear (by rw [hc]), ite_self, List.drop_one, List.tail_cons]
    | lineComment =>
      rw [hides]
      split <;> rfl
    | blockComment => exact absurd rfl hregion
  | found m =>
    obtain ⟨w, z', hw, rfl⟩ := hmatch _ rfl
    -- the text before the slashes, the slashes, and the rest, which has no line feed
    have hliteral : '\n' ∉ " '".toList ++ (w ++ "'".toList) := by
      have hfixed : '\n' ∉ " '".toList ∧ '\n' ∉ "'".toList := by decide
      simp only [List.mem_append, not_or]
      exact ⟨hfixed.1, hw, hfixed.2⟩
    have hrender : kindSubstitution.renderPiece
          (.found ⟨"kind: ".toList, "'".toList ++ (w ++ "'".toList), z'⟩) =
        "kind: String, //".toList ++ (" '".toList ++ (w ++ "'".toList)) := by
      simp [Substitution.renderPiece, kindSubstitution, Replacement.render]
    rw [hrender]
    show _ = lineComment.hides z
    cases region with
    | code =>
      have hopen : ∀ u, code.hides ("kind: String, //".toList ++ u) =
          (List.replicate 14 false ++ [true, true]) ++ lineComment.hides u := fun _ => rfl
      rw [List.append_assoc, hopen, hides_line_of_not_mem hliteral,
        ← List.append_assoc (_ ++ [true, true])]
      refine List.drop_left' ?_
      simp only [List.length_append, List.length_replicate]
      rfl
    | lineComment =>
      have hall : '\n' ∉ "kind: String, //".toList ++ (" '".toList ++ (w ++ "'".toList)) := by
        have hfixed : '\n' ∉ "kind: String, //".toList := by decide
        rw [List.mem_append, not_or]
        exact ⟨hfixed, hliteral⟩
      rw [hides_line_of_not_mem hall]
      exact List.drop_left' (List.length_replicate ..)
    | blockComment => exact absurd rfl hregion

end Region

/-- The text opens no comments. -/
def NoComments (text : List Char) : Prop :=
  ¬ "//".toList <:+: text ∧ ¬ "/*".toList <:+: text

instance (text : List Char) : Decidable (NoComments text) :=
  inferInstanceAs (Decidable (_ ∧ _))

theorem NoComments.right {x y : List Char} (h : NoComments (x ++ y)) : NoComments y :=
  ⟨fun hy => h.1 (hy.trans (List.suffix_append x y).isInfix),
    fun hy => h.2 (hy.trans (List.suffix_append x y).isInfix)⟩

theorem NoComments.next {x : List Char} (h : NoComments ('/' :: x)) :
    ∀ d ∈ x.head?, d ≠ '/' ∧ d ≠ '*' := by
  intro d hd
  obtain ⟨y, rfl⟩ := List.head?_eq_some_iff.mp hd
  refine ⟨?_, ?_⟩
  · rintro rfl
    exact h.1 (List.prefix_append "//".toList y).isInfix
  · rintro rfl
    exact h.2 (List.prefix_append "/*".toList y).isInfix

/-- What comes behind a piece begins with the same character as before replacing: all matches and
their replacements begin alike. -/
theorem head?_renderAll {pieces : List Piece} (h : ∀ m, .found m ∈ pieces → IsKind m) :
    (kindSubstitution.renderAll pieces).head? = (textOf pieces).head? := by
  cases pieces with
  | nil => rfl
  | cons p pieces =>
    cases p with
    | passed c => rfl
    | found m =>
      obtain ⟨w, z, -, rfl⟩ := h m List.mem_cons_self
      rfl

/-- The text after replacing, read from some piece on. -/
theorem Region.drop_hides_renderAll {px py : List Piece} {region : Region}
    (hregion : region ≠ blockComment) (hmatch : ∀ m, .found m ∈ px ++ py → IsKind m)
    (hclear : NoComments (textOf (px ++ py))) :
    (region.hides (kindSubstitution.renderAll (px ++ py))).drop
      (kindSubstitution.renderAll px).length =
        (region.behind px).hides (kindSubstitution.renderAll py) := by
  -- by the pieces, with the region that the first of them is read in
  induction px generalizing region with
  | nil => rfl
  | cons p px ih =>
    have hmatchrest : ∀ m, .found m ∈ px ++ py → IsKind m :=
      fun m hm => hmatch m (List.mem_cons_of_mem p hm)
    have htext : textOf (p :: px ++ py) = p.text ++ textOf (px ++ py) := rfl
    have hnext : p = .passed '/' → ∀ d ∈ (kindSubstitution.renderAll (px ++ py)).head?,
        d ≠ '/' ∧ d ≠ '*' := by
      rintro rfl
      rw [head?_renderAll hmatchrest]
      exact hclear.next
    have hpiece := drop_hides_piece hregion (fun m hm => hmatch m (by simp [hm])) hnext
    have hrender : ∀ pieces, kindSubstitution.renderAll (p :: pieces) =
        kindSubstitution.renderPiece p ++ kindSubstitution.renderAll pieces := fun _ => rfl
    rw [htext] at hclear
    rw [List.cons_append, hrender, hrender, List.length_append, ← List.drop_drop, hpiece,
      behind_cons region p px, ih (behind_ne_blockComment hregion) hmatchrest hclear.right]

namespace Rule

/-- The character between the two texts belongs to a comment of the whole text. -/
def InComment (before : List Char) (c : Char) (behind : List Char) : Prop :=
  (Region.code.hides (before ++ c :: behind))[before.length]? = some true

instance (before : List Char) (c : Char) (behind : List Char) :
    Decidable (InComment before c behind) :=
  inferInstanceAs (Decidable (_ = _))

/-- The text has no comments, and no quotes besides those of the kind literals. -/
structure Bare (text : List Char) : Prop where
  no_comments : NoComments text
  no_apostrophe : .passed '\'' ∉ Target.kindLiteral.pieces text
  no_quote : .passed '"' ∉ Target.kindLiteral.pieces text

/-- No character that the matches of `kindLiteral` leave out is in a comment after replacing. -/
def HidesLiteralsOnly (text : List Char) : Prop :=
  ∀ px c py, Target.kindLiteral.pieces text = px ++ .passed c :: py →
    ¬ InComment (kindSubstitution.renderAll px) c (kindSubstitution.renderAll py)

theorem inComment_iff {text : List Char} (h : NoComments text) {px py : List Piece} {c : Char}
    (hpieces : Target.kindLiteral.pieces text = px ++ .passed c :: py) :
    InComment (kindSubstitution.renderAll px) c (kindSubstitution.renderAll py) ↔
      c ≠ '\n' ∧ ∃ qx m qy, px = qx ++ .found m :: qy ∧ .passed '\n' ∉ qy := by
  have hmatch : ∀ m, .found m ∈ px ++ .passed c :: py → IsKind m := by
    intro m hm
    rw [← hpieces] at hm
    obtain ⟨qx, qy, hsplit⟩ := List.append_of_mem hm
    exact isKind_of_found hsplit
  have hclear : NoComments (textOf (px ++ .passed c :: py)) := by
    rwa [← hpieces, Target.textOf_pieces]
  have hcode : Region.code ≠ .blockComment := by decide
  have hdrop := Region.drop_hides_renderAll hcode hmatch hclear
  have hline : Region.code.behind px = .lineComment ↔ _ := Region.behind_eq_lineComment_iff
  have hblock : Region.code.behind px ≠ .blockComment := Region.behind_ne_blockComment hcode
  rw [Substitution.renderAll_append, Substitution.renderAll_passed_cons] at hdrop
  rw [InComment, ← List.head?_drop, hdrop]
  simp only [reduceCtorEq, false_and, false_or] at hline
  rw [← hline]
  -- where the character stands decides, and only a slash in the code needs a look at what follows
  cases hregion : Region.code.behind px with
  | code =>
    have hnext : c = '/' → ∀ d ∈ (kindSubstitution.renderAll py).head?, d ≠ '/' ∧ d ≠ '*' := by
      rintro rfl
      rw [head?_renderAll fun m hm => hmatch m (by simp [hm])]
      rw [textOf_append] at hclear
      exact hclear.right.next
    rw [Region.hides_code_cons hnext]
    simp
  | lineComment =>
    rw [Region.hides]
    split <;> simp_all
  | blockComment => exact absurd hregion hblock

/-- In a text without comments the rule hides exactly what stands behind a discriminant on its line.  So
it hides the literals only if nothing but other discriminants and a line feed comes behind one. -/
theorem kindLiteral_hides_iff {text : List Char} (h : Bare text) :
    (kindLiteral.apply text).text =
      kindSubstitution.renderAll (Target.kindLiteral.pieces text) ∧
    (∀ px c py, Target.kindLiteral.pieces text = px ++ .passed c :: py →
      (InComment (kindSubstitution.renderAll px) c (kindSubstitution.renderAll py) ↔
        c ≠ '\n' ∧ ∃ qx m qy, px = qx ++ .found m :: qy ∧ .passed '\n' ∉ qy)) ∧
    (HidesLiteralsOnly text ↔ (Target.kindLiteral.pieces text).IsChain fun p q =>
      p.isFound = true → q.isFound = true ∨ q = .passed '\n') := by
  refine ⟨text_apply_eq_renderAll rfl text, fun px c py => inComment_iff h.no_comments, ?_⟩
  rw [List.isChain_iff_forall_rel_of_append_cons_cons]
  constructor
  · intro hides p q px py hpieces hp
    cases p with
    | passed => cases hp
    | found m =>
      cases q with
      | found => exact .inl rfl
      | passed c =>
        refine .inr (congrArg Piece.passed (by_contra fun hc => ?_))
        rw [List.append_cons] at hpieces
        exact hides _ c py hpieces
          ((inComment_iff h.no_comments hpieces).mpr ⟨hc, px, m, [], rfl, List.not_mem_nil⟩)
  · intro hchain px c py hpieces hin
    obtain ⟨hc, qx, m, qy, rfl, hfeed⟩ := (inComment_iff h.no_comments hpieces).mp hin
    clear hin
    -- by the pieces between the match and the character: the next one is a match as well
    induction qy generalizing qx m with
    | nil =>
      rw [List.append_assoc] at hpieces
      simpa [Piece.isFound, hc] using hchain hpieces rfl
    | cons p qy ih =>
      rw [List.append_assoc] at hpieces
      cases p with
      | passed d =>
        obtain rfl : d = '\n' := by simpa [Piece.isFound] using hchain hpieces rfl
        exact hfeed List.mem_cons_self
      | found m' =>
        exact ih (qx ++ [.found m]) m' (fun hmem => hfeed (List.mem_cons_of_mem _ hmem))
          (by rw [hpieces]; simp)

/-- The rule hides literals only where discriminants end their lines. -/
theorem kindLiteral_hides_iff_of_lines :
    Bare "\x7b\n  kind: 'Field',\n  a: B,\n\x7d".toList ∧
      HidesLiteralsOnly "\x7b\n  kind: 'Field',\n  a: B,\n\x7d".toList := by
  have hbare : Bare "\x7b\n  kind: 'Field',\n  a: B,\n\x7d".toList :=
    ⟨by decide +kernel, by decide, by decide⟩
  exact ⟨hbare, (kindLiteral_hides_iff hbare).2.2.mpr (by decide)⟩

/-- It hides a field and the closing brace behind a discriminant. -/
theorem not_hidesLiteralsOnly :
    Bare "\x7b kind: 'A', b: B \x7d".toList ∧ ¬ HidesLiteralsOnly "\x7b kind: 'A', b: B \x7d".toList := by
  refine ⟨⟨by decide +kernel, by decide, by decide⟩, fun h => ?_⟩
  refine h ("\x7b ".toList.map .passed ++ .found ⟨"kind: ".toList, "'A'".toList, ",".toList⟩ ::
    " b: B ".toList.map .passed) '}' [] (by decide) ?_
  decide

end Rule

end HaxeTypedefs
