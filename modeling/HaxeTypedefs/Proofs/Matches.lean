/-
The matches of each target, spelled out.

For each target of the rules one statement says which match it chooses at a place:
how the text ahead is put together, and where the match stops.  The readings a
target has to choose from are unfolded here and nowhere else.

* **`span_unique`** — a run of characters of one kind ends in one place, and `takeWhile` and
  `dropWhile` find it there;
* **`Target.chooses_optionalField_iff`** and its likes — the chosen match, without
  readings and preferences.
-/
import HaxeTypedefs.Proofs.LeftmostFirst

namespace HaxeTypedefs

/-- A run of characters of one kind ends where a character of another kind follows. -/
theorem span_unique {p : Char → Bool} {w w' x x' : List Char} (h : w ++ x = w' ++ x')
    (hw : ∀ c ∈ w, p c = true) (hw' : ∀ c ∈ w', p c = true) (hx : x.head?.any p = false)
    (hx' : x'.head?.any p = false) : w = w' ∧ x = x' := by
  induction w generalizing w' with
  | nil =>
    cases w' with
    | nil => exact ⟨rfl, h⟩
    | cons c w' =>
      obtain rfl : x = c :: (w' ++ x') := h
      simp [hw' c] at hx
  | cons c w ih =>
    cases w' with
    | nil =>
      obtain rfl : x' = c :: (w ++ x) := h.symm
      simp [hw c] at hx'
    | cons d w' =>
      obtain ⟨rfl, htail⟩ := List.cons.inj h
      obtain ⟨rfl, rfl⟩ := ih htail (fun c hc => hw c (List.mem_cons_of_mem _ hc))
        (fun c hc => hw' c (List.mem_cons_of_mem _ hc))
      exact ⟨rfl, rfl⟩

/-- A text begins with a run of characters of one kind, which may be empty. -/
theorem exists_span (p : Char → Bool) (text : List Char) :
    ∃ w x, text = w ++ x ∧ (∀ c ∈ w, p c = true) ∧ x.head?.any p = false := by
  induction text with
  | nil => exact ⟨[], [], rfl, by simp, rfl⟩
  | cons c text ih =>
    by_cases hc : p c = true
    · obtain ⟨w, x, rfl, hw, hx⟩ := ih
      exact ⟨c :: w, x, rfl, by simpa [hc] using hw, hx⟩
    · exact ⟨[], c :: text, rfl, by simp, by simpa using hc⟩

theorem takeWhile_append_of_span {p : Char → Bool} {w x : List Char} (hw : ∀ c ∈ w, p c = true)
    (hx : x.head?.any p = false) : (w ++ x).takeWhile p = w := by
  rw [List.takeWhile_append_of_pos hw]
  cases x with
  | nil => exact List.append_nil w
  | cons c x =>
    have hc : p c = false := hx
    simp [hc]

theorem dropWhile_append_of_span {p : Char → Bool} {w x : List Char} (hw : ∀ c ∈ w, p c = true)
    (hx : x.head?.any p = false) : (w ++ x).dropWhile p = x := by
  rw [List.dropWhile_append_of_pos hw]
  cases x with
  | nil => rfl
  | cons c x =>
    have hc : p c = false := hx
    simp [hc]

theorem head?_any_append {p : Char → Bool} {w x : List Char} (hw : w ≠ [])
    (h : w.head?.any p = false) : (w ++ x).head?.any p = false := by
  cases w with
  | nil => exact absurd rfl hw
  | cons c w => exact h

theorem forall_bne_iff {d : Char} {w : List Char} : (∀ c ∈ w, (c != d) = true) ↔ d ∉ w := by
  simp only [bne_iff_ne]
  exact ⟨fun h hc => h _ hc rfl, fun h c hc hcd => h (hcd ▸ hc)⟩

theorem head?_blank_any_isWord {bl : List Char} (h : ∀ c ∈ bl, isBlank c = true) :
    bl.head?.any isWord = false := by
  cases bl with
  | nil => rfl
  | cons c bl => exact isWord_eq_false_of_isBlank (h c List.mem_cons_self)

theorem head?_word_any_isBlank {w rest : List Char} (hne : w ≠ [])
    (hw : ∀ c ∈ w, isWord c = true) : (w ++ rest).head?.any isBlank = false := by
  cases w with
  | nil => exact absurd rfl hne
  | cons c w =>
    by_contra hc
    have hword := hw c List.mem_cons_self
    rw [isWord_eq_false_of_isBlank (by simpa using hc)] at hword
    cases hword

namespace Target

open Pattern

section

variable {b : Option Char} {ahead : List Char} {m : Match} {r : Reading}

/-- No reading is preferred to the one that is chosen. -/
theorem not_prefers_of_best {t : Target} {s : Place} {r r' : Reading}
    (hbest : ∀ r', t.Reads s r' → r' = r ∨ t.whole.Prefers r r') (hr' : t.Reads s r') :
    ¬ t.whole.Prefers r' r := by
  intro h
  rcases hbest r' hr' with rfl | h'
  · exact h.ne rfl
  · exact h.asymm h'

/-! ### Fixed texts -/

theorem chooses_text_iff {w : List Char} (hw : w ≠ []) :
    (plain (.text w)).Chooses ⟨b, ahead⟩ m ↔ ∃ rest, ahead = w ++ rest ∧ m = ⟨w, [], []⟩ := by
  have hreads : ∀ r, (plain (.text w)).Reads ⟨b, ahead⟩ r ↔
      ∃ rest, ahead = w ++ rest ∧ r = .pair (.plain w) (.pair (.plain []) (.plain [])) := by
    intro r
    simp only [Target.Reads, whole, plain, Option.getD_none, reads_seq_iff, reads_text_iff,
      reads_nothing_iff, existsAndEq, true_and, and_true]
  have hsolid : (plain (.text w)).Solid := by
    simpa [Solid, whole, plain, shortest] using List.length_pos_iff.mpr hw
  apply chooses_iff_of_form hsolid
  · rintro m ⟨r, hr, rfl, -⟩
    obtain ⟨rest, rfl, rfl⟩ := (hreads r).mp hr
    exact ⟨rest, rfl, rfl⟩
  · rintro m ⟨rest, rfl, -⟩
    exact ⟨_, (hreads _).mpr ⟨rest, rfl, rfl⟩⟩
  · rintro m m' ⟨-, -, rfl⟩ ⟨-, -, rfl⟩
    rfl

/-! ### Optional fields -/

/-- `(\w+)\?:(\s+\?)?` -/
def optionalField : Target :=
  .marking .nothing Rule.someWord (.inOrder ["?:", .maybe (.inOrder [Rule.someBlanks, "?"])])

/-- What may be read behind the colon of an optional field: white space with a question mark
behind it, if there is any. -/
def OptionalMark (z rest : List Char) : Prop :=
  (∃ bl, z = bl ++ "?".toList ∧ bl ≠ [] ∧ ∀ c ∈ bl, isBlank c = true) ∨
    z = [] ∧ ∀ bl rest', rest = bl ++ ("?".toList ++ rest') →
      (∀ c ∈ bl, isBlank c = true) → bl = []

theorem reads_optionalField_iff :
    optionalField.Reads ⟨b, ahead⟩ r ↔ ∃ w z rest, ahead = w ++ ("?:".toList ++ (z.text ++ rest)) ∧
      w ≠ [] ∧ (∀ c ∈ w, isWord c = true) ∧
      (z = .absent ∨ ∃ bl, z = .present (.pair (.plain bl) (.plain "?".toList)) ∧ bl ≠ [] ∧
        ∀ c ∈ bl, isBlank c = true) ∧
      r = .pair (.plain []) (.pair (.plain w) (.pair (.plain "?:".toList) z)) := by
  simp only [optionalField, Target.Reads, whole, marking, Rule.someWord, Rule.someBlanks, inOrder,
    Option.getD_some, reads_seq_iff, reads_nothing_iff, reads_run_iff, reads_text_iff,
    reads_maybe_iff, existsAndEq, true_and, and_true]
  constructor
  · rintro ⟨u, z, w, rest, ⟨⟨hw, hne, rfl⟩, hz⟩, rfl⟩
    rcases hz with ⟨rfl, rfl⟩ | ⟨bl, rest', rfl, ⟨hbl, hble, rfl⟩, rfl⟩
    · exact ⟨w, .absent, rest, rfl, List.ne_nil_of_length_pos hne, hw, .inl rfl, rfl⟩
    · exact ⟨w, _, rest', by simp [Reading.text], List.ne_nil_of_length_pos hne, hw,
        .inr ⟨bl, rfl, List.ne_nil_of_length_pos hble, hbl⟩, rfl⟩
  · rintro ⟨w, z, rest, rfl, hne, hw, hz, rfl⟩
    have hlen := List.length_pos_iff.mpr hne
    rcases hz with rfl | ⟨bl, rfl, hble, hbl⟩
    · exact ⟨_, _, w, rest, ⟨⟨hw, hlen, rfl⟩, .inl ⟨rfl, rfl⟩⟩, rfl⟩
    · exact ⟨_, _, w, bl ++ ("?".toList ++ rest), ⟨⟨hw, hlen, by simp [Reading.text]⟩,
        .inr ⟨bl, rest, rfl, ⟨hbl, List.length_pos_iff.mpr hble, rfl⟩, rfl⟩⟩, rfl⟩

theorem chooses_optionalField_iff :
    optionalField.Chooses ⟨b, ahead⟩ m ↔ ∃ w z rest, ahead = w ++ ("?:".toList ++ (z ++ rest)) ∧
      w ≠ [] ∧ (∀ c ∈ w, isWord c = true) ∧ OptionalMark z rest ∧ m = ⟨[], w, "?:".toList ++ z⟩ := by
  apply chooses_iff_of_form (t := optionalField) (by decide)
  · rintro m ⟨r, hr, rfl, hbest⟩
    obtain ⟨w, z, rest, rfl, hne, hw, hz, rfl⟩ := reads_optionalField_iff.mp hr
    refine ⟨w, z.text, rest, rfl, hne, hw, ?_, rfl⟩
    rcases hz with rfl | ⟨bl, rfl, hble, hbl⟩
    · refine .inr ⟨rfl, ?_⟩
      rintro bl rest' rfl hbl
      by_contra hble
      -- the reading with the mark would be preferred
      refine not_prefers_of_best hbest (reads_optionalField_iff.mpr ⟨w,
        .present (.pair (.plain bl) (.plain "?".toList)), rest', ?_, hne, hw,
        .inr ⟨bl, rfl, hble, hbl⟩, rfl⟩) (.second (.second (.second .present)))
      simp [Reading.text]
    · exact .inl ⟨bl, rfl, hble, hbl⟩
  · rintro m ⟨w, z, rest, rfl, hne, hw, hz, -⟩
    rcases hz with ⟨bl, rfl, hble, hbl⟩ | ⟨rfl, -⟩
    · exact ⟨_, reads_optionalField_iff.mpr ⟨w, .present (.pair (.plain bl) (.plain "?".toList)),
        rest, rfl, hne, hw, .inr ⟨bl, rfl, hble, hbl⟩, rfl⟩⟩
    · exact ⟨_, reads_optionalField_iff.mpr ⟨w, .absent, rest, rfl, hne, hw, .inl rfl, rfl⟩⟩
  · rintro m m' ⟨w, z, rest, rfl, -, hw, hz, rfl⟩ ⟨w', z', rest', h, -, hw', hz', rfl⟩
    obtain ⟨rfl, h₁⟩ := span_unique h hw hw' rfl rfl
    have hz₀ := List.append_cancel_left h₁
    suffices z = z' by rw [this]
    rcases hz with ⟨bl, rfl, hble, hbl⟩ | ⟨rfl, hno⟩ <;>
      rcases hz' with ⟨bl', rfl, hble', hbl'⟩ | ⟨rfl, hno'⟩
    · rw [List.append_assoc, List.append_assoc] at hz₀
      rw [(span_unique hz₀ hbl hbl' rfl rfl).1]
    · exact absurd (hno' bl rest (by simpa using hz₀.symm) hbl) hble
    · exact absurd (hno bl' rest' (by simpa using hz₀) hbl') hble'
    · rfl

/-! ### Primitive types -/

theorem solid_primitiveType (p : String) : (Rule.primitiveType p).Solid := by
  simp only [Solid, whole, Rule.primitiveType, plain, inOrder, shortest]
  exact Nat.lt_of_lt_of_le Nat.zero_lt_one (Nat.le_trans (Nat.le_add_right 1 _)
    (Nat.le_add_right _ _))

theorem chooses_primitiveType_iff {p : String} (hne : p.toList ≠ [])
    (hp : ∀ c ∈ p.toList, isWord c = true) :
    (Rule.primitiveType p).Chooses ⟨b, ahead⟩ m ↔
      ∃ bl rest, ahead = ":".toList ++ (bl ++ (p.toList ++ rest)) ∧ (∀ c ∈ bl, isBlank c = true) ∧
        rest.head?.any isWord = false ∧ m = ⟨":".toList ++ (bl ++ p.toList), [], []⟩ := by
  have hlast : ∀ o, (p.toList.getLast?.or o).any isWord = true := by
    intro o
    rw [List.getLast?_eq_some_getLast hne]
    exact hp _ (List.getLast_mem hne)
  have hhead : ∀ rest, (p.toList ++ rest).head?.any isBlank = false :=
    fun _ => head?_word_any_isBlank hne hp
  have hreads : ∀ r, (Rule.primitiveType p).Reads ⟨b, ahead⟩ r ↔ ∃ bl rest,
      ahead = ":".toList ++ (bl ++ (p.toList ++ rest)) ∧ (∀ c ∈ bl, isBlank c = true) ∧
        rest.head?.any isWord = false ∧ r = .pair (.pair (.plain ":".toList) (.pair (.plain bl)
          (.pair (.plain p.toList) (.plain [])))) (.pair (.plain []) (.plain [])) := by
    intro r
    simp only [Rule.primitiveType, Target.Reads, whole, plain, Rule.optionalBlanks, inOrder,
      Option.getD_none, reads_seq_iff, reads_nothing_iff, reads_run_iff, reads_text_iff,
      reads_wordEdge_iff, existsAndEq, true_and, and_true, Place.atWordEdge, hlast, Nat.zero_le]
    simp only [CharClass.has, Bool.true_bne, Bool.not_eq_true', and_assoc]
  apply chooses_iff_of_form (solid_primitiveType p)
  · rintro m ⟨r, hr, rfl, -⟩
    obtain ⟨bl, rest, rfl, hbl, hrest, rfl⟩ := (hreads r).mp hr
    exact ⟨bl, rest, rfl, hbl, hrest, by simp [Reading.toMatch, Reading.text]⟩
  · rintro m ⟨bl, rest, rfl, hbl, hrest, rfl⟩
    exact ⟨_, (hreads _).mpr ⟨bl, rest, rfl, hbl, hrest, rfl⟩⟩
  · rintro m m' ⟨bl, rest, rfl, hbl, -, rfl⟩ ⟨bl', rest', h, hbl', -, rfl⟩
    have htail := List.append_cancel_left h
    rw [(span_unique htail hbl hbl' (hhead _) (hhead _)).1]

/-! ### Variance marks -/

/-- `^(\s+)\+` -/
def variance : Target := .marking .lineStart Rule.someBlanks "+"

theorem chooses_variance_iff :
    variance.Chooses ⟨b, ahead⟩ m ↔ ∃ bl rest, ahead = bl ++ ("+".toList ++ rest) ∧
      Place.atLineStart ⟨b, ahead⟩ = true ∧ bl ≠ [] ∧ (∀ c ∈ bl, isBlank c = true) ∧
        m = ⟨[], bl, "+".toList⟩ := by
  have hreads : ∀ r, variance.Reads ⟨b, ahead⟩ r ↔ ∃ bl rest, ahead = bl ++ ("+".toList ++ rest) ∧
      Place.atLineStart ⟨b, ahead⟩ = true ∧ bl ≠ [] ∧ (∀ c ∈ bl, isBlank c = true) ∧
        r = .pair (.plain []) (.pair (.plain bl) (.plain "+".toList)) := by
    intro r
    simp only [variance, Target.Reads, whole, marking, Rule.someBlanks, Option.getD_some,
      reads_seq_iff, reads_run_iff, reads_text_iff, reads_lineStart_iff, existsAndEq, true_and,
      and_true, CharClass.has]
    constructor
    · rintro ⟨bl, rest, hs, ⟨hbl, hle, rfl⟩, rfl⟩
      exact ⟨bl, rest, rfl, hs, List.ne_nil_of_length_pos hle, hbl, rfl⟩
    · rintro ⟨bl, rest, rfl, hs, hne, hbl, rfl⟩
      exact ⟨bl, rest, hs, ⟨hbl, List.length_pos_iff.mpr hne, rfl⟩, rfl⟩
  apply chooses_iff_of_form (t := variance) (by decide)
  · rintro m ⟨r, hr, rfl, -⟩
    obtain ⟨bl, rest, rfl, hs, hne, hbl, rfl⟩ := (hreads r).mp hr
    exact ⟨bl, rest, rfl, hs, hne, hbl, rfl⟩
  · rintro m ⟨bl, rest, rfl, hs, hne, hbl, rfl⟩
    exact ⟨_, (hreads _).mpr ⟨bl, rest, rfl, hs, hne, hbl, rfl⟩⟩
  · rintro m m' ⟨bl, rest, rfl, -, -, hbl, rfl⟩ ⟨bl', rest', h, -, -, hbl', rfl⟩
    rw [(span_unique h hbl hbl' rfl rfl).1]

/-! ### Unions -/

/-- `Node =(\s*\n\s+\|(?s:.*?);)` -/
def multiLineUnion : Target :=
  .marking "Node ="
    (.inOrder [Rule.optionalBlanks, "\n", Rule.someBlanks, "|", .run .any 0 .fewest, ";"]) .nothing

theorem reads_multiLineUnion_iff :
    multiLineUnion.Reads ⟨b, ahead⟩ r ↔ ∃ bl bl' w rest,
      ahead = "Node =".toList ++
          (bl ++ ("\n".toList ++ (bl' ++ ("|".toList ++ (w ++ (";".toList ++ rest)))))) ∧
        (∀ c ∈ bl, isBlank c = true) ∧ bl' ≠ [] ∧ (∀ c ∈ bl', isBlank c = true) ∧
        r = .pair (.plain "Node =".toList) (.pair (.pair (.plain bl) (.pair (.plain "\n".toList)
          (.pair (.plain bl') (.pair (.plain "|".toList)
            (.pair (.plain w) (.plain ";".toList)))))) (.plain [])) := by
  simp only [multiLineUnion, Target.Reads, whole, marking, Rule.someBlanks, Rule.optionalBlanks,
    inOrder, Option.getD_some, reads_seq_iff, reads_nothing_iff, reads_run_iff, reads_text_iff,
    existsAndEq, true_and, and_true, CharClass.has, Nat.zero_le]
  constructor
  · rintro ⟨bl, bl', w, rest, rfl, ⟨hbl, ⟨hbl', hle⟩, -⟩, rfl⟩
    exact ⟨bl, bl', w, rest, rfl, hbl, List.ne_nil_of_length_pos hle, hbl', rfl⟩
  · rintro ⟨bl, bl', w, rest, rfl, hbl, hne, hbl', rfl⟩
    exact ⟨bl, bl', w, rest, rfl, ⟨hbl, ⟨hbl', List.length_pos_iff.mpr hne⟩, fun _ _ => trivial⟩, rfl⟩

theorem chooses_multiLineUnion_iff :
    multiLineUnion.Chooses ⟨b, ahead⟩ m ↔ ∃ bl bl' w rest,
      ahead = "Node =".toList ++
          (bl ++ ("\n".toList ++ (bl' ++ ("|".toList ++ (w ++ (";".toList ++ rest)))))) ∧
        (∀ c ∈ bl, isBlank c = true) ∧ bl' ≠ [] ∧ (∀ c ∈ bl', isBlank c = true) ∧ ';' ∉ w ∧
        m = ⟨"Node =".toList, bl ++ ("\n".toList ++ (bl' ++ ("|".toList ++ (w ++ ";".toList)))), []⟩ := by
  apply chooses_iff_of_form (t := multiLineUnion) (by decide)
  · rintro m ⟨r, hr, rfl, hbest⟩
    obtain ⟨bl, bl', w, rest, rfl, hbl, hne, hbl', rfl⟩ := reads_multiLineUnion_iff.mp hr
    refine ⟨bl, bl', w, rest, rfl, hbl, hne, hbl', ?_, by simp [Reading.toMatch, Reading.text]⟩
    intro hmem
    -- a reading up to the earlier `;` would be preferred
    obtain ⟨w', w'', rfl⟩ := List.append_of_mem hmem
    refine not_prefers_of_best hbest (reads_multiLineUnion_iff.mpr
      ⟨bl, bl', w', w'' ++ (";".toList ++ rest), ?_, hbl, hne, hbl', rfl⟩)
      (.second (.first (.second (.second (.second (.second (.first (.fewest ?_))))))))
    · simp
    · simp
  · rintro m ⟨bl, bl', w, rest, rfl, hbl, hne, hbl', -, rfl⟩
    exact ⟨_, reads_multiLineUnion_iff.mpr ⟨bl, bl', w, rest, rfl, hbl, hne, hbl', rfl⟩⟩
  · rintro m m' ⟨bl, bl', w, rest, rfl, hbl, -, hbl', hw, rfl⟩
      ⟨cl, cl', v, rest', h, hcl, -, hcl', hv, rfl⟩
    -- where the first line ends is open, where the white space ends is not
    have hblank : ∀ {x y : List Char}, (∀ c ∈ x, isBlank c = true) → (∀ c ∈ y, isBlank c = true) →
        ∀ c ∈ x ++ ("\n".toList ++ y), isBlank c = true := by
      intro x y hx hy c hc
      rcases List.mem_append.mp hc with hc | hc
      · exact hx c hc
      · rcases List.mem_append.mp hc with hc | hc
        · rw [List.mem_singleton.mp hc]; decide
        · exact hy c hc
    have htail : (bl ++ ("\n".toList ++ bl')) ++ ("|".toList ++ (w ++ (";".toList ++ rest))) =
        (cl ++ ("\n".toList ++ cl')) ++ ("|".toList ++ (v ++ (";".toList ++ rest'))) := by
      simpa using List.append_cancel_left h
    obtain ⟨hspace, hbar⟩ := span_unique htail (hblank hbl hbl') (hblank hcl hcl') rfl rfl
    have hbody : w ++ (";".toList ++ rest) = v ++ (";".toList ++ rest') :=
      List.append_cancel_left hbar
    obtain ⟨rfl, -⟩ := span_unique hbody (forall_bne_iff.mpr hw) (forall_bne_iff.mpr hv) rfl rfl
    have hmarked := congrArg (· ++ ("|".toList ++ (w ++ ";".toList))) hspace
    simpa using hmarked

/-- `Node = (\w+\s+\|.*?;)` -/
def singleLineUnion : Target :=
  .marking "Node = " (.inOrder [Rule.someWord, Rule.someBlanks, "|", Rule.gapInLine, ";"]) .nothing

theorem reads_singleLineUnion_iff :
    singleLineUnion.Reads ⟨b, ahead⟩ r ↔ ∃ v bl w rest,
      ahead = "Node = ".toList ++ (v ++ (bl ++ ("|".toList ++ (w ++ (";".toList ++ rest))))) ∧
        v ≠ [] ∧ (∀ c ∈ v, isWord c = true) ∧ bl ≠ [] ∧ (∀ c ∈ bl, isBlank c = true) ∧ '\n' ∉ w ∧
        r = .pair (.plain "Node = ".toList) (.pair (.pair (.plain v) (.pair (.plain bl)
          (.pair (.plain "|".toList) (.pair (.plain w) (.plain ";".toList))))) (.plain [])) := by
  simp only [singleLineUnion, Target.Reads, whole, marking, Rule.someBlanks, Rule.someWord,
    Rule.gapInLine, inOrder, Option.getD_some, reads_seq_iff, reads_nothing_iff, reads_run_iff,
    reads_text_iff, existsAndEq, true_and, and_true, CharClass.has, forall_bne_iff, Nat.zero_le]
  constructor
  · rintro ⟨v, bl, w, rest, rfl, ⟨⟨hv, hle⟩, ⟨hbl, hle'⟩, hw⟩, rfl⟩
    exact ⟨v, bl, w, rest, rfl, List.ne_nil_of_length_pos hle, hv, List.ne_nil_of_length_pos hle',
      hbl, hw, rfl⟩
  · rintro ⟨v, bl, w, rest, rfl, hv, hword, hne, hbl, hw, rfl⟩
    exact ⟨v, bl, w, rest, rfl, ⟨⟨hword, List.length_pos_iff.mpr hv⟩,
      ⟨hbl, List.length_pos_iff.mpr hne⟩, hw⟩, rfl⟩

theorem chooses_singleLineUnion_iff :
    singleLineUnion.Chooses ⟨b, ahead⟩ m ↔ ∃ v bl w rest,
      ahead = "Node = ".toList ++ (v ++ (bl ++ ("|".toList ++ (w ++ (";".toList ++ rest))))) ∧
        v ≠ [] ∧ (∀ c ∈ v, isWord c = true) ∧ bl ≠ [] ∧ (∀ c ∈ bl, isBlank c = true) ∧
        '\n' ∉ w ∧ ';' ∉ w ∧
        m = ⟨"Node = ".toList, v ++ (bl ++ ("|".toList ++ (w ++ ";".toList))), []⟩ := by
  apply chooses_iff_of_form (t := singleLineUnion) (by decide)
  · rintro m ⟨r, hr, rfl, hbest⟩
    obtain ⟨v, bl, w, rest, rfl, hv, hword, hne, hbl, hw, rfl⟩ := reads_singleLineUnion_iff.mp hr
    refine ⟨v, bl, w, rest, rfl, hv, hword, hne, hbl, hw, ?_,
      by simp [Reading.toMatch, Reading.text]⟩
    -- a semicolon among the alternatives would end a shorter reading, which is preferred
    intro hmem
    obtain ⟨w', w'', rfl⟩ := List.append_of_mem hmem
    refine not_prefers_of_best hbest (reads_singleLineUnion_iff.mpr
      ⟨v, bl, w', w'' ++ (";".toList ++ rest), ?_, hv, hword, hne, hbl, ?_, rfl⟩)
      (.second (.first (.second (.second (.second (.first (.fewest ?_)))))))
    · simp
    · exact fun h => hw (List.mem_append_left _ h)
    · simp
  · rintro m ⟨v, bl, w, rest, rfl, hv, hword, hne, hbl, hw, -, rfl⟩
    exact ⟨_, reads_singleLineUnion_iff.mpr ⟨v, bl, w, rest, rfl, hv, hword, hne, hbl, hw, rfl⟩⟩
  · rintro m m' ⟨v, bl, w, rest, rfl, -, hword, hne, hbl, -, hw, rfl⟩
      ⟨v', bl', w', rest', h, -, hword', hne', hbl', -, hw', rfl⟩
    obtain ⟨rfl, hspace⟩ := span_unique (List.append_cancel_left h) hword hword'
      (head?_any_append hne (head?_blank_any_isWord hbl))
      (head?_any_append hne' (head?_blank_any_isWord hbl'))
    obtain ⟨rfl, hbar⟩ := span_unique hspace hbl hbl' rfl rfl
    have hbody : w ++ (";".toList ++ rest) = w' ++ (";".toList ++ rest') :=
      List.append_cancel_left hbar
    obtain ⟨rfl, -⟩ := span_unique hbody (forall_bne_iff.mpr hw) (forall_bne_iff.mpr hw') rfl rfl
    rfl

/-- `\bNamedTypeNode \| ListTypeNode\b` -/
def typeNodeUnion : Target :=
  .plain (.inOrder [.wordEdge, "NamedTypeNode | ListTypeNode", .wordEdge])

theorem matches_typeNodeUnion_iff : typeNodeUnion.Matches ⟨b, ahead⟩ ↔ ∃ rest,
    ahead = "NamedTypeNode | ListTypeNode".toList ++ rest ∧ b.any isWord = false ∧
      rest.head?.any isWord = false := by
  have hfirst : ∀ rest, ("NamedTypeNode | ListTypeNode".toList ++ rest).head?.any isWord = true :=
    fun rest => rfl
  have hlast : ("NamedTypeNode | ListTypeNode".toList.getLast?.or b).any isWord = true := rfl
  simp only [typeNodeUnion, Target.Matches, Target.Reads, whole, plain, inOrder, Option.getD_none,
    reads_seq_iff, reads_nothing_iff, reads_text_iff, reads_wordEdge_iff, existsAndEq, true_and,
    and_true, Place.atWordEdge]
  constructor
  · rintro ⟨rest, hb, rfl, hrest⟩
    refine ⟨rest, rfl, ?_, ?_⟩
    · rw [hfirst] at hb
      simpa using hb
    · rw [hlast] at hrest
      simpa using hrest
  · rintro ⟨rest, rfl, hb, hrest⟩
    refine ⟨rest, ?_, rfl, ?_⟩
    · rw [hfirst, hb]
      rfl
    · rw [hlast, hrest]
      rfl

theorem text_of_chooses_typeNodeUnion (h : typeNodeUnion.Chooses ⟨b, ahead⟩ m) :
    m.text = "NamedTypeNode | ListTypeNode".toList := by
  obtain ⟨r, ⟨u, hr⟩, rfl, -⟩ := h
  rw [Reading.text_toMatch]
  simp only [typeNodeUnion, whole, plain, inOrder, Option.getD_none, reads_seq_iff,
    reads_nothing_iff, reads_text_iff, reads_wordEdge_iff, existsAndEq, true_and, and_true,
    Place.atWordEdge] at hr
  obtain ⟨rest, -, -, -, rfl⟩ := hr
  simp [Reading.text]

/-! ### Superseded lines -/

/-- `^(typedef .*? TypeNode .*)` -/
def supersededTypeNode : Target :=
  .marking .lineStart (.inOrder ["typedef ", Rule.gapInLine, " TypeNode ", Rule.restOfLine]) .nothing

theorem reads_supersededTypeNode_iff :
    supersededTypeNode.Reads ⟨b, ahead⟩ r ↔ ∃ g w rest,
      ahead = "typedef ".toList ++ (g ++ (" TypeNode ".toList ++ (w ++ rest))) ∧
        Place.atLineStart ⟨b, ahead⟩ = true ∧ '\n' ∉ g ∧ '\n' ∉ w ∧
        r = .pair (.plain []) (.pair (.pair (.plain "typedef ".toList) (.pair (.plain g)
          (.pair (.plain " TypeNode ".toList) (.plain w)))) (.plain [])) := by
  simp only [supersededTypeNode, Target.Reads, whole, marking, Rule.gapInLine, Rule.restOfLine,
    inOrder, Option.getD_some, reads_seq_iff, reads_nothing_iff, reads_run_iff, reads_text_iff,
    reads_lineStart_iff, existsAndEq, true_and, and_true, CharClass.has, forall_bne_iff,
    Nat.zero_le]
  constructor
  · rintro ⟨g, w, rest, hs, ⟨rfl, hg, hw⟩, rfl⟩
    exact ⟨g, w, rest, rfl, hs, hg, hw, rfl⟩
  · rintro ⟨g, w, rest, rfl, hs, hg, hw, rfl⟩
    exact ⟨g, w, rest, hs, ⟨rfl, hg, hw⟩, rfl⟩

/-! ### Token fields -/

/-- `^\s+(prev|next):\s*Token \| null` -/
def nullableToken : Target :=
  .marking (.inOrder [.lineStart, Rule.someBlanks]) (.either "prev" "next")
    (.inOrder [":", Rule.optionalBlanks, "Token | null"])

theorem reads_eitherText_iff {v w : List Char} {u : Place} :
    (Pattern.either (.text v) (.text w)).Reads ⟨b, ahead⟩ r u ↔
      (r = .left (.plain v) ∨ r = .right (.plain w)) ∧
        ∃ rest, u = ⟨r.text.getLast?.or b, rest⟩ ∧ ahead = r.text ++ rest := by
  simp only [reads_either_iff, reads_text_iff]
  constructor
  · rintro (⟨_, rfl, rfl, h⟩ | ⟨_, rfl, rfl, h⟩)
    · exact ⟨.inl rfl, h⟩
    · exact ⟨.inr rfl, h⟩
  · rintro ⟨rfl | rfl, h⟩
    · exact .inl ⟨_, rfl, rfl, h⟩
    · exact .inr ⟨_, rfl, rfl, h⟩

theorem reads_nullableToken_iff :
    nullableToken.Reads ⟨b, ahead⟩ r ↔ ∃ bl name bl' rest,
      ahead = bl ++ (name.text ++ (":".toList ++ (bl' ++ ("Token | null".toList ++ rest)))) ∧
        Place.atLineStart ⟨b, ahead⟩ = true ∧ bl ≠ [] ∧ (∀ c ∈ bl, isBlank c = true) ∧
        (name = .left (.plain "prev".toList) ∨ name = .right (.plain "next".toList)) ∧
        (∀ c ∈ bl', isBlank c = true) ∧
        r = .pair (.pair (.plain []) (.plain bl)) (.pair name
          (.pair (.plain ":".toList) (.pair (.plain bl') (.plain "Token | null".toList)))) := by
  simp only [nullableToken, Target.Reads, whole, marking, Rule.someBlanks, Rule.optionalBlanks,
    inOrder, Option.getD_some, reads_seq_iff, reads_run_iff, reads_text_iff, reads_lineStart_iff,
    reads_eitherText_iff, existsAndEq, true_and, and_true, CharClass.has, Nat.zero_le]
  constructor
  · rintro ⟨bl, name, bl', rest, ⟨hs, hbl, hle, rfl⟩, ⟨hname, hbl'⟩, rfl⟩
    exact ⟨bl, name, bl', rest, rfl, hs, List.ne_nil_of_length_pos hle, hbl, hname, hbl', rfl⟩
  · rintro ⟨bl, name, bl', rest, rfl, hs, hne, hbl, hname, hbl', rfl⟩
    exact ⟨bl, name, bl', rest, ⟨hs, hbl, List.length_pos_iff.mpr hne, rfl⟩, ⟨hname, hbl'⟩, rfl⟩

theorem chooses_nullableToken_iff :
    nullableToken.Chooses ⟨b, ahead⟩ m ↔ ∃ bl name bl' rest,
      ahead = bl ++ (name ++ (":".toList ++ (bl' ++ ("Token | null".toList ++ rest)))) ∧
        Place.atLineStart ⟨b, ahead⟩ = true ∧ bl ≠ [] ∧ (∀ c ∈ bl, isBlank c = true) ∧
        (name = "prev".toList ∨ name = "next".toList) ∧ (∀ c ∈ bl', isBlank c = true) ∧
        m = ⟨bl, name, ":".toList ++ (bl' ++ "Token | null".toList)⟩ := by
  apply chooses_iff_of_form (t := nullableToken) (by decide)
  · rintro m ⟨r, hr, rfl, -⟩
    obtain ⟨bl, name, bl', rest, rfl, hs, hne, hbl, hname, hbl', rfl⟩ :=
      reads_nullableToken_iff.mp hr
    refine ⟨bl, name.text, bl', rest, rfl, hs, hne, hbl, ?_, hbl', rfl⟩
    rcases hname with rfl | rfl
    · exact .inl rfl
    · exact .inr rfl
  · rintro m ⟨bl, name, bl', rest, rfl, hs, hne, hbl, rfl | rfl, hbl', rfl⟩
    · exact ⟨_, reads_nullableToken_iff.mpr
        ⟨bl, _, bl', rest, rfl, hs, hne, hbl, .inl rfl, hbl', rfl⟩⟩
    · exact ⟨_, reads_nullableToken_iff.mpr
        ⟨bl, _, bl', rest, rfl, hs, hne, hbl, .inr rfl, hbl', rfl⟩⟩
  · rintro m m' ⟨bl, name, bl', rest, rfl, -, -, hbl, hname, hbl', rfl⟩
      ⟨cl, name', cl', rest', h, -, -, hcl, hname', hcl', rfl⟩
    have hhead : ∀ {n x : List Char}, n = "prev".toList ∨ n = "next".toList →
        (n ++ x).head?.any isBlank = false := by
      rintro n x (rfl | rfl) <;> rfl
    obtain ⟨rfl, hnames⟩ := span_unique h hbl hcl (hhead hname) (hhead hname')
    obtain ⟨rfl, hcolon⟩ : name = name' ∧ ":".toList ++ (bl' ++ ("Token | null".toList ++ rest)) =
        ":".toList ++ (cl' ++ ("Token | null".toList ++ rest')) := by
      refine List.append_inj hnames ?_
      rcases hname with rfl | rfl <;> rcases hname' with rfl | rfl <;> rfl
    obtain ⟨rfl, -⟩ := span_unique (List.append_cancel_left hcolon) hbl' hcl' rfl rfl
    rfl

/-! ### Imports -/

/-- `^(import type .*)` -/
def importType : Target :=
  .marking .lineStart (.inOrder ["import type ", Rule.restOfLine]) .nothing

theorem reads_importType_iff :
    importType.Reads ⟨b, ahead⟩ r ↔ ∃ w rest, ahead = "import type ".toList ++ (w ++ rest) ∧
      Place.atLineStart ⟨b, ahead⟩ = true ∧ '\n' ∉ w ∧
        r = .pair (.plain []) (.pair (.pair (.plain "import type ".toList) (.plain w)) (.plain [])) := by
  simp only [importType, Target.Reads, whole, marking, Rule.restOfLine, inOrder, Option.getD_some,
    reads_seq_iff, reads_nothing_iff, reads_run_iff, reads_text_iff, reads_lineStart_iff,
    existsAndEq, true_and, and_true, CharClass.has, forall_bne_iff, Nat.zero_le]
  constructor
  · rintro ⟨w, rest, hs, ⟨rfl, hw⟩, rfl⟩
    exact ⟨w, rest, rfl, hs, hw, rfl⟩
  · rintro ⟨w, rest, rfl, hs, hw, rfl⟩
    exact ⟨w, rest, hs, ⟨rfl, hw⟩, rfl⟩

theorem chooses_importType_iff :
    importType.Chooses ⟨b, ahead⟩ m ↔ ∃ w rest, ahead = "import type ".toList ++ (w ++ rest) ∧
      Place.atLineStart ⟨b, ahead⟩ = true ∧ '\n' ∉ w ∧ rest.head?.any (· != '\n') = false ∧
        m = ⟨[], "import type ".toList ++ w, []⟩ := by
  apply chooses_iff_of_form (t := importType) (by decide)
  · rintro m ⟨r, hr, rfl, hbest⟩
    obtain ⟨w, rest, rfl, hs, hw, rfl⟩ := reads_importType_iff.mp hr
    refine ⟨w, rest, rfl, hs, hw, ?_, rfl⟩
    cases rest with
    | nil => rfl
    | cons c rest =>
      -- a reading that goes on in the line is preferred
      by_contra hc
      have hcn : c ≠ '\n' := by simpa using hc
      refine not_prefers_of_best hbest (reads_importType_iff.mpr
        ⟨w ++ [c], rest, ?_, hs, ?_, rfl⟩) (.second (.first (.second (.most ?_))))
      · simp
      · simp [hw, hcn.symm]
      · simp
  · rintro m ⟨w, rest, rfl, hs, hw, -, rfl⟩
    exact ⟨_, reads_importType_iff.mpr ⟨w, rest, rfl, hs, hw, rfl⟩⟩
  · rintro m m' ⟨w, rest, rfl, -, hw, hrest, rfl⟩ ⟨w', rest', h, -, hw', hrest', rfl⟩
    obtain ⟨rfl, -⟩ := span_unique (List.append_cancel_left h) (forall_bne_iff.mpr hw)
      (forall_bne_iff.mpr hw') hrest hrest'
    rfl

/-! ### Kind literals -/

/-- `kind: ('\w+')[,;]?` -/
def kindLiteral : Target :=
  .marking "kind: " (.inOrder ["'", Rule.someWord, "'"]) (.maybe (.one (.among [',', ';'])))

theorem reads_kindLiteral_iff :
    kindLiteral.Reads ⟨b, ahead⟩ r ↔ ∃ w z rest,
      ahead = "kind: ".toList ++ ("'".toList ++ (w ++ ("'".toList ++ (z.text ++ rest)))) ∧
        w ≠ [] ∧ (∀ c ∈ w, isWord c = true) ∧
        (z = .absent ∨ ∃ c, z = .present (.plain [c]) ∧ [',', ';'].contains c = true) ∧
        r = .pair (.plain "kind: ".toList) (.pair (.pair (.plain "'".toList) (.pair (.plain w)
          (.plain "'".toList))) z) := by
  simp only [kindLiteral, Target.Reads, whole, marking, Rule.someWord, inOrder, Option.getD_some,
    reads_seq_iff, reads_maybe_iff, reads_one_iff, reads_run_iff, reads_text_iff,
    existsAndEq, true_and, and_true, CharClass.has]
  constructor
  · rintro ⟨_, z, w, rest, rfl, ⟨⟨hw, hle⟩, hz⟩, rfl⟩
    rcases hz with ⟨rfl, rfl⟩ | ⟨c, rfl, rest', rfl, hc, rfl⟩
    · exact ⟨w, .absent, rest, rfl, List.ne_nil_of_length_pos hle, hw, .inl rfl, rfl⟩
    · exact ⟨w, _, rest', rfl, List.ne_nil_of_length_pos hle, hw, .inr ⟨c, rfl, hc⟩, rfl⟩
  · rintro ⟨w, z, rest, rfl, hne, hw, hz, rfl⟩
    have hlen := List.length_pos_iff.mpr hne
    rcases hz with rfl | ⟨c, rfl, hc⟩
    · exact ⟨_, _, w, rest, rfl, ⟨⟨hw, hlen⟩, .inl ⟨rfl, rfl⟩⟩, rfl⟩
    · exact ⟨_, _, w, c :: rest, rfl, ⟨⟨hw, hlen⟩, .inr ⟨c, rfl, rest, rfl, hc, rfl⟩⟩, rfl⟩

theorem chooses_kindLiteral_iff :
    kindLiteral.Chooses ⟨b, ahead⟩ m ↔ ∃ w z rest,
      ahead = "kind: ".toList ++ ("'".toList ++ (w ++ ("'".toList ++ (z ++ rest)))) ∧
        w ≠ [] ∧ (∀ c ∈ w, isWord c = true) ∧
        ((∃ c, z = [c] ∧ [',', ';'].contains c = true) ∨
          z = [] ∧ rest.head?.any [',', ';'].contains = false) ∧
        m = ⟨"kind: ".toList, "'".toList ++ (w ++ "'".toList), z⟩ := by
  apply chooses_iff_of_form (t := kindLiteral) (by decide)
  · rintro m ⟨r, hr, rfl, hbest⟩
    obtain ⟨w, z, rest, rfl, hne, hw, hz, rfl⟩ := reads_kindLiteral_iff.mp hr
    refine ⟨w, z.text, rest, rfl, hne, hw, ?_, rfl⟩
    rcases hz with rfl | ⟨c, rfl, hc⟩
    · refine .inr ⟨rfl, ?_⟩
      cases rest with
      | nil => rfl
      | cons c rest =>
        -- a reading with the mark is preferred
        by_contra hc
        exact not_prefers_of_best hbest (reads_kindLiteral_iff.mpr ⟨w, .present (.plain [c]), rest,
          rfl, hne, hw, .inr ⟨c, rfl, eq_true_of_ne_false hc⟩, rfl⟩) (.second (.second .present))
    · exact .inl ⟨c, rfl, hc⟩
  · rintro m ⟨w, z, rest, rfl, hne, hw, hz, -⟩
    rcases hz with ⟨c, rfl, hc⟩ | ⟨rfl, -⟩
    · exact ⟨_, reads_kindLiteral_iff.mpr
        ⟨w, .present (.plain [c]), rest, rfl, hne, hw, .inr ⟨c, rfl, hc⟩, rfl⟩⟩
    · exact ⟨_, reads_kindLiteral_iff.mpr ⟨w, .absent, rest, rfl, hne, hw, .inl rfl, rfl⟩⟩
  · rintro m m' ⟨w, z, rest, rfl, -, hw, hz, rfl⟩ ⟨w', z', rest', h, -, hw', hz', rfl⟩
    have hliteral := List.append_cancel_left (List.append_cancel_left h)
    obtain ⟨rfl, hclosed⟩ := span_unique hliteral hw hw' rfl rfl
    have htail := List.append_cancel_left hclosed
    suffices z = z' by rw [this]
    rcases hz with ⟨c, rfl, hc⟩ | ⟨rfl, hno⟩ <;> rcases hz' with ⟨c', rfl, hc'⟩ | ⟨rfl, hno'⟩
    · simpa using (List.cons.inj htail).1
    · rw [← show c :: rest = rest' from htail] at hno'
      simp_all
    · rw [show rest = c' :: rest' from htail] at hno
      simp_all
    · rfl

/-! ### Operation types -/

/-- `typedef .*? OperationTypeNode.*` -/
def operationType : Target :=
  .plain (.inOrder ["typedef ", Rule.gapInLine, " OperationTypeNode", Rule.restOfLine])

theorem reads_operationType_iff :
    operationType.Reads ⟨b, ahead⟩ r ↔ ∃ g w rest,
      ahead = "typedef ".toList ++ (g ++ (" OperationTypeNode".toList ++ (w ++ rest))) ∧
        '\n' ∉ g ∧ '\n' ∉ w ∧
        r = .pair (.pair (.plain "typedef ".toList) (.pair (.plain g)
          (.pair (.plain " OperationTypeNode".toList) (.plain w))))
            (.pair (.plain []) (.plain [])) := by
  simp only [operationType, Target.Reads, whole, plain, Rule.gapInLine, Rule.restOfLine, inOrder,
    Option.getD_none, reads_seq_iff, reads_nothing_iff, reads_run_iff, reads_text_iff,
    existsAndEq, true_and, and_true, CharClass.has, forall_bne_iff, Nat.zero_le]
  constructor
  · rintro ⟨g, w, rest, ⟨rfl, hg, hw⟩, rfl⟩
    exact ⟨g, w, rest, rfl, hg, hw, rfl⟩
  · rintro ⟨g, w, rest, rfl, hg, hw, rfl⟩
    exact ⟨g, w, rest, ⟨rfl, hg, hw⟩, rfl⟩

theorem chooses_operationType_iff :
    operationType.Chooses ⟨b, ahead⟩ m ↔ ∃ g w rest,
      ahead = "typedef ".toList ++ (g ++ (" OperationTypeNode".toList ++ (w ++ rest))) ∧
        '\n' ∉ g ∧ '\n' ∉ w ∧ rest.head?.any (· != '\n') = false ∧
        m = ⟨"typedef ".toList ++ (g ++ (" OperationTypeNode".toList ++ w)), [], []⟩ := by
  apply chooses_iff_of_form (t := operationType) (by decide)
  · rintro m ⟨r, hr, rfl, hbest⟩
    obtain ⟨g, w, rest, rfl, hg, hw, rfl⟩ := reads_operationType_iff.mp hr
    refine ⟨g, w, rest, rfl, hg, hw, ?_, by simp [Reading.toMatch, Reading.text]⟩
    cases rest with
    | nil => rfl
    | cons c rest =>
      by_contra hc
      have hcn : c ≠ '\n' := by simpa using hc
      refine not_prefers_of_best hbest (reads_operationType_iff.mpr
        ⟨g, w ++ [c], rest, ?_, hg, ?_, rfl⟩) (.first (.second (.second (.second (.most ?_)))))
      · simp
      · simp [hw, hcn.symm]
      · simp
  · rintro m ⟨g, w, rest, rfl, hg, hw, -, rfl⟩
    exact ⟨_, reads_operationType_iff.mpr ⟨g, w, rest, rfl, hg, hw, rfl⟩⟩
  · rintro m m' ⟨g, w, rest, rfl, hg, hw, hrest, rfl⟩ ⟨g', w', rest', h, hg', hw', hrest', rfl⟩
    -- both matches go to the end of the line
    have hline : ∀ {x y : List Char}, '\n' ∉ x → '\n' ∉ y →
        ∀ c ∈ x ++ (" OperationTypeNode".toList ++ y), (c != '\n') = true := by
      intro x y hx hy
      rw [forall_bne_iff]
      simp [hx, hy]
    have htail : (g ++ (" OperationTypeNode".toList ++ w)) ++ rest =
        (g' ++ (" OperationTypeNode".toList ++ w')) ++ rest' := by
      simpa using List.append_cancel_left h
    rw [(span_unique htail (hline hg hw) (hline hg' hw') hrest hrest').1]

end

end Target

end HaxeTypedefs
