/-
Lines that begin with white space, and the others.

`variance` and `nullableToken` are for indented lines.  What they look for begins with white
space at the start of a line, but line feeds are white space as well: it may begin on a blank
line above, and then the line of the `+` or of the field need not be indented.  So a flush line,
one that is empty or begins with another character, can change too, and the lines of a match
are joined.

* **`Rule.flush_unmarked_iff`** — `variance` keeps the flush lines exactly if none of them
  begins with a `+` below a blank line;
* **`Rule.flushByFields_of_leadLines`** — `nullableToken` keeps them exactly if all lines of the
  fields that are found are indented;
* **`Rule.keepsLines_iff`** — when the two rules keep the lines of a text.
-/
import Mathlib.Data.List.Chain
import HaxeTypedefs.Proofs.TokenField
import HaxeTypedefs.Proofs.VarianceMark
import HaxeTypedefs.Proofs.Provenance

namespace HaxeTypedefs

/-! ### Flush lines -/

/-- The line begins with white space. -/
def isIndented (line : List Char) : Bool := line.head?.any isBlank

/-- The lines that are empty or begin with a character other than white space. -/
def flush (lines : List (List Char)) : List (List Char) :=
  lines.filter fun line => !isIndented line

section

variable {x y line : List Char} {lines lines' : List (List Char)}

@[simp] theorem flush_append (lines lines' : List (List Char)) :
    flush (lines ++ lines') = flush lines ++ flush lines' :=
  List.filter_append ..

theorem flush_cons (line : List Char) (lines : List (List Char)) :
    flush (line :: lines) = flush [line] ++ flush lines :=
  flush_append [line] lines

theorem flush_singleton (line : List Char) :
    flush [line] = if isIndented line then [] else [line] := by
  cases h : isIndented line <;> simp [flush, h]

theorem flush_eq_nil_iff : flush lines = [] ↔ ∀ line ∈ lines, isIndented line = true := by
  simp [flush]

theorem append_eq_append_iff_of_length_le {α : Type} {x x' y y' : List α}
    (hx : x'.length ≤ x.length) (hy : y'.length ≤ y.length) :
    x ++ y = x' ++ y' ↔ x = x' ∧ y = y' := by
  constructor
  · intro h
    have hlen := congrArg List.length h
    rw [List.length_append, List.length_append] at hlen
    exact List.append_inj h (by omega)
  · rintro ⟨rfl, rfl⟩
    rfl

/-- If there are not more flush lines than before, then those of before are among the lines only if
the flush lines are the same. -/
theorem flush_sublist_iff (h : (flush lines').length ≤ (flush lines).length) :
    (flush lines).Sublist lines' ↔ flush lines = flush lines' := by
  constructor
  · intro hsub
    have hflush := hsub.filter fun line => !isIndented line
    rw [flush, List.filter_filter] at hflush
    simp only [Bool.and_self] at hflush
    exact hflush.eq_of_length_le h
  · intro heq
    rw [heq]
    exact List.filter_sublist

/-- What is put behind the last line does not change where the lines begin, unless that line is
empty. -/
theorem flush_splitOn_append_eq_nil_iff (hx : ¬ BeginsLine x) (hy : '\n' ∉ y) :
    flush ((x ++ y).splitOn '\n') = [] ↔ flush (x.splitOn '\n') = [] := by
  induction x using lines_induction with
  | last line hline =>
    cases line with
    | nil => exact absurd (by simp [BeginsLine]) hx
    | cons c line =>
      have hboth : '\n' ∉ c :: line ++ y := by
        rw [List.mem_append, not_or]
        exact ⟨hline, hy⟩
      rw [List.splitOn_eq_singleton hline, List.splitOn_eq_singleton hboth, flush_singleton,
        flush_singleton, isIndented, isIndented, List.cons_append, List.head?_cons, List.head?_cons]
      cases Option.any isBlank (some c) <;> simp
  | next line rest hline ih =>
    have hrest : ¬ BeginsLine rest := fun h => hx (h.below line)
    rw [List.append_assoc, List.cons_append, List.splitOn_append_cons_self,
      List.splitOn_append_cons_self, flush_append, flush_append, List.append_eq_nil_iff,
      List.append_eq_nil_iff, ih hrest]

/-- The lines from the start of a line on are lines of the whole text. -/
theorem splitOn_subset_of_append (hx : BeginsLine x) :
    y.splitOn '\n' ⊆ (x ++ y).splitOn '\n' := by
  rcases x.eq_nil_or_concat' with rfl | ⟨x, c, rfl⟩
  · exact List.Subset.refl _
  · obtain rfl : c = '\n' := hx c (by simp)
    rw [List.append_assoc, List.singleton_append, List.splitOn_append_cons_self]
    exact List.subset_append_right _ _

theorem lineFeed_not_mem_of_mem_splitOn (h : line ∈ x.splitOn '\n') : '\n' ∉ line := by
  induction x using lines_induction with
  | last x hx =>
    rw [List.splitOn_eq_singleton hx, List.mem_singleton] at h
    rwa [h]
  | next x rest hx ih =>
    rw [List.splitOn_append_cons_self_of_not_mem hx] at h
    rcases List.mem_cons.mp h with rfl | h
    · exact hx
    · exact ih h

end

namespace Rule

/-! ### Marks -/

/-- A line loses its mark and stays as it was only if it is indented. -/
theorem flush_singleton_unmarked (belowBlank : Bool) (line : List Char) :
    (flush [unmarked (line, losesMark belowBlank line)]).length ≤ (flush [line]).length ∧
      (flush [line] = flush [unmarked (line, losesMark belowBlank line)] ↔
        (belowBlank = true → line.head? ≠ some '+')) := by
  cases h : losesMark belowBlank line with
  | false =>
    refine ⟨Nat.le_refl _, iff_of_true rfl fun hbelow hplus => ?_⟩
    obtain ⟨rest, rfl⟩ := List.head?_eq_some_iff.mp hplus
    have hmark : HasMark ('+' :: rest) := by
      rw [HasMark, List.find?_cons_of_pos (by decide)]
    rw [losesMark, hbelow, Bool.true_or, Bool.and_true, decide_eq_true hmark] at h
    cases h
  | true =>
    -- an indented line stays indented; one that begins with the mark is a blank line's neighbour
    obtain ⟨indent, rest, rfl, hindent⟩ := exists_of_hasMark (hasMark_of_losesMark h)
    rw [unmarked, if_pos rfl, erase_mark hindent]
    cases indent with
    | nil =>
      have hbelow : belowBlank = true := by
        have hplus : ('+' :: rest).head?.any isBlank = false := rfl
        rw [losesMark, List.nil_append, hplus, Bool.or_false, Bool.and_eq_true] at h
        exact h.2
      have hflush : flush ['+' :: rest] = ['+' :: rest] := rfl
      rw [List.nil_append, List.nil_append, hflush, flush_singleton]
      refine ⟨by split <;> simp, iff_of_false ?_ (by simp [hbelow])⟩
      split <;> simp
    | cons c indent =>
      have hc : isBlank c = true := hindent c List.mem_cons_self
      have hplus : c ≠ '+' := by
        rintro rfl
        exact absurd hc (by decide)
      simp [flush_singleton, isIndented, hc, hplus]

/-- The flush lines stay as they were exactly if none of them begins with a `+` below a blank line. -/
theorem flush_unmarked_iff (belowBlank : Bool) (lines : List (List Char)) :
    (flush ((withMarks belowBlank lines).map unmarked)).length ≤ (flush lines).length ∧
      (flush lines = flush ((withMarks belowBlank lines).map unmarked) ↔
        (∀ line ∈ lines.head?, belowBlank = true → line.head? ≠ some '+') ∧
        lines.IsChain fun above line => above.all isBlank = true → line.head? ≠ some '+') := by
  -- by the lines, each with whether the one above it is blank
  induction lines generalizing belowBlank with
  | nil => exact ⟨Nat.le_refl _, by simp [withMarks]⟩
  | cons line lines ih =>
    obtain ⟨hle, heq⟩ := flush_singleton_unmarked belowBlank line
    obtain ⟨hrestle, hresteq⟩ := ih (line.all isBlank)
    rw [withMarks, List.map_cons, List.isChain_cons, flush_cons line, flush_cons (unmarked _)]
    refine ⟨?_, ?_⟩
    · rw [List.length_append, List.length_append]
      omega
    · rw [append_eq_append_iff_of_length_le hle hrestle, heq, hresteq]
      simp

theorem splitOn_variance (text : List Char) :
    (variance.apply text).text.splitOn '\n' =
      (withMarks false (text.splitOn '\n')).map unmarked := by
  have happly := @apply_variance_append [] (by simp) text
  rw [List.nil_append, List.isEmpty_nil, Bool.not_true, List.nil_append] at happly
  rw [happly]
  refine List.splitOn_intercalate '\n' ?_ ?_
  · simp only [List.forall_mem_map]
    intro x hx hfeed
    have hline : x.1 ∈ text.splitOn '\n' := by
      rw [← map_fst_withMarks false (text.splitOn '\n')]
      exact List.mem_map_of_mem hx
    refine lineFeed_not_mem_of_mem_splitOn hline ?_
    rw [unmarked] at hfeed
    split at hfeed
    · exact List.mem_of_mem_erase hfeed
    · exact hfeed
  · exact fun h => withMarks_ne_nil (by simp) (List.map_eq_nil_iff.mp h)

/-! ### Fields -/

/-- The substitution of `nullableToken`. -/
def fieldSubstitution : Substitution :=
  ⟨Target.nullableToken, .template "  ?" ": Null<Token>"⟩

theorem render_toMatch (f : TokenField) :
    fieldSubstitution.replacement.render f.toMatch = f.inHaxe := rfl

theorem lineFeed_not_mem_inHaxe (f : TokenField) : '\n' ∉ f.inHaxe := by
  have hfixed : '\n' ∉ "  ?".toList ∧ '\n' ∉ ": Null<Token>".toList := by decide
  simp only [TokenField.inHaxe, List.mem_append, not_or]
  exact ⟨⟨hfixed.1, f.lineFeed_not_mem_name⟩, hfixed.2⟩

theorem not_beginsLine_written (f : TokenField) : ¬ BeginsLine f.written := by
  obtain ⟨w, hw⟩ := f.exists_written_eq
  rw [hw]
  exact fun h => absurd h.right (by decide)

/-- Each match is a field of type `Token | null`, and a line begins with it. -/
def LeadLines (pieces : List Piece) : Prop :=
  ∀ px m py, pieces = px ++ .found m :: py → BeginsLine (textOf px) ∧ ∃ f : TokenField, m = f.toMatch

theorem leadLines_pieces (text : List Char) : LeadLines (Target.nullableToken.pieces text) := by
  intro px m py h
  obtain ⟨hpx, f, hm, -⟩ := TokenField.of_found h
  exact ⟨hpx, f, hm⟩

namespace LeadLines

variable {px py pieces block : List Piece}

theorem left (h : LeadLines (px ++ py)) : LeadLines px := by
  rintro qx m qy rfl
  exact h qx m (qy ++ py) (by simp)

theorem right (h : LeadLines (px ++ py)) : LeadLines py := by
  rintro qx m qy rfl
  obtain ⟨hbegins, hm⟩ := h (px ++ qx) m qy (by simp)
  rw [textOf_append] at hbegins
  exact ⟨hbegins.right, hm⟩

/-- A line begins behind some pieces only if a line feed is the last of them. -/
theorem not_beginsLine (h : LeadLines pieces) (hfeed : .passed '\n' ∉ pieces) (hne : pieces ≠ []) :
    ¬ BeginsLine (textOf pieces) := by
  obtain ⟨px, p, rfl⟩ := (List.eq_nil_or_concat' pieces).resolve_left hne
  rw [textOf_append]
  intro hbegins
  have hlast := hbegins.right
  cases p with
  | passed c =>
    obtain rfl : c = '\n' := hlast c rfl
    simp at hfeed
  | found m =>
    obtain ⟨-, f, rfl⟩ := h px m [] rfl
    rw [textOf_found_cons, textOf_nil, List.append_nil, TokenField.text_toMatch] at hlast
    exact not_beginsLine_written f hlast

/-- Between two line feeds that no match covers there is at most one match, and it comes first. -/
theorem block_cases (h : LeadLines block) (hfeed : .passed '\n' ∉ block) :
    ∃ w : List Char, '\n' ∉ w ∧
      (block = w.map .passed ∨ ∃ f : TokenField, block = .found f.toMatch :: w.map .passed) := by
  cases block with
  | nil => exact ⟨[], by simp, .inl rfl⟩
  | cons p rest =>
    -- a match further on would have to begin a line, and no line begins there
    have hrest : rest = (textOf rest).map .passed := by
      refine eq_map_passed fun m hm => ?_
      obtain ⟨qx, qy, rfl⟩ := List.append_of_mem hm
      have hbegins := (h (p :: qx) m qy rfl).1
      rw [← List.cons_append] at h hfeed
      exact h.left.not_beginsLine (fun hmem => hfeed (List.mem_append_left _ hmem))
        (List.cons_ne_nil p qx) hbegins
    rw [List.mem_cons, not_or] at hfeed
    have hnot : '\n' ∉ textOf rest := by
      intro hmem
      rw [hrest] at hfeed
      exact hfeed.2 (List.mem_map_of_mem hmem)
    cases p with
    | passed c =>
      have hc : '\n' ≠ c := fun hc => hfeed.1 (congrArg Piece.passed hc)
      refine ⟨c :: textOf rest, ?_, .inl (by rw [List.map_cons, ← hrest])⟩
      rw [List.mem_cons, not_or]
      exact ⟨hc, hnot⟩
    | found m =>
      obtain ⟨-, f, rfl⟩ := h [] m rest rfl
      exact ⟨textOf rest, hnot, .inr ⟨f, by rw [← hrest]⟩⟩

end LeadLines

/-- A field and the rest of its line: the line in its place is indented, so no flush line is left. -/
theorem flush_field_iff (f : TokenField) {w : List Char} (hw : '\n' ∉ w) :
    flush ((f.inHaxe ++ w).splitOn '\n') = [] ∧
      (flush ((f.written ++ w).splitOn '\n') = [] ↔ flush (f.written.splitOn '\n') = []) := by
  refine ⟨?_, flush_splitOn_append_eq_nil_iff (not_beginsLine_written f) hw⟩
  have hline : '\n' ∉ f.inHaxe ++ w := by
    rw [List.mem_append, not_or]
    exact ⟨lineFeed_not_mem_inHaxe f, hw⟩
  have hindented : isIndented (f.inHaxe ++ w) = true := rfl
  rw [List.splitOn_eq_singleton hline, flush_singleton, if_pos hindented]

/-- Replacing the fields of the pieces brings no flush line, and the flush lines stay as they were
exactly if all lines of the fields are indented. -/
def FlushByFields (pieces : List Piece) : Prop :=
  (flush ((fieldSubstitution.renderAll pieces).splitOn '\n')).length ≤
      (flush ((textOf pieces).splitOn '\n')).length ∧
    (flush ((textOf pieces).splitOn '\n') =
        flush ((fieldSubstitution.renderAll pieces).splitOn '\n') ↔
      ∀ m, .found m ∈ pieces → flush (m.text.splitOn '\n') = [])

theorem flushByFields_of_block {block : List Piece} (h : LeadLines block)
    (hfeed : .passed '\n' ∉ block) : FlushByFields block := by
  obtain ⟨w, hw, rfl | ⟨f, rfl⟩⟩ := h.block_cases hfeed
  · simp [FlushByFields]
  · obtain ⟨hhaxe, hflow⟩ := flush_field_iff f hw
    simp [FlushByFields, render_toMatch, TokenField.text_toMatch, hhaxe, hflow]

theorem flushByFields_of_leadLines {pieces : List Piece} (h : LeadLines pieces) :
    FlushByFields pieces := by
  -- by the line feeds that no match covers: they part the text before and after replacing
  induction pieces using parts_induction (Piece.passed '\n') with
  | last block hfeed => exact flushByFields_of_block h hfeed
  | next block rest hfeed ih =>
    obtain ⟨hle, heq⟩ := flushByFields_of_block h.left hfeed
    have hrest : LeadLines rest := by
      rw [List.append_cons] at h
      exact h.right
    obtain ⟨hrestle, hresteq⟩ := ih hrest
    simp only [FlushByFields, Substitution.renderAll_append, Substitution.renderAll_passed_cons,
      textOf_append, textOf_passed_cons, List.splitOn_append_cons_self, flush_append,
      List.length_append]
    refine ⟨Nat.add_le_add hle hrestle, ?_⟩
    rw [append_eq_append_iff_of_length_le hle hrestle, heq, hresteq]
    simp [or_imp, forall_and]

/-- There are as many lines as before exactly if no field takes up more than one. -/
theorem count_lineFeed_iff {pieces : List Piece} (h : LeadLines pieces) :
    (fieldSubstitution.renderAll pieces).count '\n' ≤ (textOf pieces).count '\n' ∧
      ((fieldSubstitution.renderAll pieces).count '\n' = (textOf pieces).count '\n' ↔
        ∀ m, .found m ∈ pieces → '\n' ∉ m.text) := by
  induction pieces with
  | nil => simp
  | cons p pieces ih =>
    obtain ⟨hle, heq⟩ := ih (show LeadLines ([p] ++ pieces) from h).right
    cases p with
    | passed c =>
      simp [List.count_cons, hle, heq]
    | found m =>
      obtain ⟨-, f, rfl⟩ := h [] m pieces rfl
      have hzero : f.inHaxe.count '\n' = 0 := List.count_eq_zero.mpr (lineFeed_not_mem_inHaxe f)
      have hall : (∀ m, .found m ∈ .found f.toMatch :: pieces → '\n' ∉ m.text) ↔
          '\n' ∉ f.toMatch.text ∧ ∀ m, .found m ∈ pieces → '\n' ∉ m.text := by
        simp [or_imp, forall_and]
      rw [Substitution.renderAll_found_cons, textOf_found_cons, render_toMatch, List.count_append,
        List.count_append, hzero, hall, ← heq, ← List.count_eq_zero]
      omega

/-! ### Lines kept -/

/-- The rule keeps the lines of the text: those that are empty or begin with a character other than
white space are among the lines that it leaves, and there are as many lines as before if each field
with a token has its type on the line of its name. -/
structure KeepsLines (r : Rule) (text : List Char) : Prop where
  length_eq : (∀ f : TokenField, f.StandsIn text → '\n' ∉ f.space) →
    ((r.apply text).text.splitOn '\n').length = (text.splitOn '\n').length
  sublist : (flush (text.splitOn '\n')).Sublist ((r.apply text).text.splitOn '\n')

/-- What holds of each match that is found, and of the end of a match from the start of a line on, holds
of each field in the text. -/
theorem forall_found_iff {P : List Char → Prop} (hP : ∀ u v, BeginsLine u → P (u ++ v) → P v)
    (text : List Char) : (∀ m, .found m ∈ Target.nullableToken.pieces text → P m.text) ↔
      ∀ f : TokenField, f.StandsIn text → P f.written := by
  constructor
  · rintro h f ⟨x, y, rfl, hx⟩
    obtain ⟨px, g, py, u, hpieces, rfl, -, hindent, hname, hspace⟩ :=
      TokenField.exists_found (f := f) (y := y) hx
    have hg := h g.toMatch (by rw [hpieces]; simp)
    have hwritten : g.written = u ++ f.written := by
      simp [TokenField.written, hindent, hname, hspace]
    rw [TokenField.text_toMatch, hwritten] at hg
    exact hP u _ hx.right hg
  · intro h m hm
    obtain ⟨px, py, hpieces⟩ := List.append_of_mem hm
    obtain ⟨hpx, f, rfl, hsplit⟩ := TokenField.of_found hpieces
    rw [TokenField.text_toMatch]
    exact h f ⟨_, _, hsplit, hpx⟩

theorem keepsLines_variance_iff (text : List Char) : variance.KeepsLines text ↔
    (text.splitOn '\n').IsChain fun above line => above.all isBlank = true → line.head? ≠ some '+' := by
  obtain ⟨hle, heq⟩ := flush_unmarked_iff false (text.splitOn '\n')
  rw [← splitOn_variance] at hle heq
  have hlength : ((variance.apply text).text.splitOn '\n').length = (text.splitOn '\n').length := by
    rw [splitOn_variance, List.length_map, ← List.length_map (f := Prod.fst), map_fst_withMarks]
  have hkeeps : variance.KeepsLines text ↔
      (flush (text.splitOn '\n')).Sublist ((variance.apply text).text.splitOn '\n') :=
    ⟨fun h => h.sublist, fun h => ⟨fun _ => hlength, h⟩⟩
  rw [hkeeps, flush_sublist_iff hle, heq]
  simp

theorem keepsLines_nullableToken_iff (text : List Char) : nullableToken.KeepsLines text ↔
    ∀ f : TokenField, f.StandsIn text →
      (∀ line ∈ f.written.splitOn '\n', isIndented line = true) ∧
      ((∀ g : TokenField, g.StandsIn text → '\n' ∉ g.space) → '\n' ∉ f.indent) := by
  have hlead := leadLines_pieces text
  have htext : (nullableToken.apply text).text =
      fieldSubstitution.renderAll (Target.nullableToken.pieces text) :=
    text_apply_eq_renderAll rfl text
  obtain ⟨hle, heq⟩ := flushByFields_of_leadLines hlead
  obtain ⟨-, hcount⟩ := count_lineFeed_iff hlead
  rw [← htext, Target.textOf_pieces] at hle heq hcount
  -- the flush lines are kept exactly if no field has a part of one
  have hflush : (flush (text.splitOn '\n')).Sublist ((nullableToken.apply text).text.splitOn '\n') ↔
      ∀ f : TokenField, f.StandsIn text → ∀ line ∈ f.written.splitOn '\n', isIndented line = true := by
    rw [flush_sublist_iff hle, heq, forall_found_iff (P := fun w => flush (w.splitOn '\n') = [])]
    · simp only [flush_eq_nil_iff]
    · intro u v hu huv
      rw [flush_eq_nil_iff] at huv ⊢
      exact fun line hline => huv line (splitOn_subset_of_append hu hline)
  -- and no line is lost exactly if no field goes over a line feed
  have hlines : ((nullableToken.apply text).text.splitOn '\n').length = (text.splitOn '\n').length ↔
      ∀ f : TokenField, f.StandsIn text → '\n' ∉ f.indent ∧ '\n' ∉ f.space := by
    rw [length_splitOn_eq, length_splitOn_eq, Nat.add_right_cancel_iff, hcount,
      forall_found_iff (P := fun w => '\n' ∉ w) fun u v _ h hv => h (List.mem_append_right u hv)]
    refine forall₂_congr fun f _ => ?_
    have hfixed : '\n' ∉ ":".toList ∧ '\n' ∉ "Token | null".toList := by decide
    simp only [TokenField.written, List.mem_append, not_or, f.lineFeed_not_mem_name, hfixed.1,
      hfixed.2, not_false_eq_true, true_and, and_true]
  constructor
  · rintro ⟨hlength, hsub⟩ f hf
    exact ⟨hflush.mp hsub f hf, fun hspace => (hlines.mp (hlength hspace) f hf).1⟩
  · intro h
    exact ⟨fun hspace => hlines.mpr fun f hf => ⟨(h f hf).2 hspace, hspace f hf⟩,
      hflush.mpr fun f hf => (h f hf).1⟩

/-- `variance` keeps the lines of a text exactly if none begins with a `+` below a blank one.
`nullableToken` does exactly if its fields are indented on all their lines, and none has a line feed in
the white space before it while all have their types on the lines of their names. -/
theorem keepsLines_iff (text : List Char) :
    (variance.KeepsLines text ↔ (text.splitOn '\n').IsChain fun above line =>
      above.all isBlank = true → line.head? ≠ some '+') ∧
    (nullableToken.KeepsLines text ↔ ∀ f : TokenField, f.StandsIn text →
      (∀ line ∈ f.written.splitOn '\n', isIndented line = true) ∧
      ((∀ g : TokenField, g.StandsIn text → '\n' ∉ g.space) → '\n' ∉ f.indent)) :=
  ⟨keepsLines_variance_iff text, keepsLines_nullableToken_iff text⟩

/-- Below a blank line a `+` and a field are changed that are not indented, and above an indented field a
blank line is lost. -/
theorem not_keepsLines :
    ¬ variance.KeepsLines "\n+top: Level,".toList ∧
      ¬ nullableToken.KeepsLines "\nnext: Token | null".toList ∧
      ¬ nullableToken.KeepsLines "\n  next: Token | null".toList := by
  refine ⟨fun h => absurd h.sublist ?_, fun h => absurd h.sublist ?_,
    fun h => absurd h.sublist ?_⟩ <;> decide

end Rule

end HaxeTypedefs
