/-
Variance marks, line by line.

The mark of a line is a `+` with nothing but white space before it.  `variance` looks for
white space at the start of a line and for a `+` behind it, and since line feeds are white
space, the lines above the mark belong to the match as far as they are blank.  So a mark goes
if it is indented, and goes as well if it is not and the line above is blank.

* **`Rule.apply_variance_of_line`** — what becomes of a line and the white space above it;
* **`Rule.apply_variance_append`** — which marks go, for every text;
* **`Rule.exists_iterate_variance`** — applied over and over the rule comes to rest;
* **`Rule.variance_deletes_marks`** — marks are all that is deleted, at most one of each line,
  and no indented one stays.
-/
import Mathlib.Logic.Function.Iterate
import HaxeTypedefs.Proofs.Line
import HaxeTypedefs.Proofs.Tally

namespace HaxeTypedefs

/-- The first character of the line that is not white space is a `+`. -/
def HasMark (line : List Char) : Prop :=
  line.find? (fun c => !isBlank c) = some '+'

instance (line : List Char) : Decidable (HasMark line) :=
  inferInstanceAs (Decidable (line.find? (fun c => !isBlank c) = some '+'))

/-- The line has a mark, and there is white space before it: on the line, or above it. -/
def losesMark (belowBlank : Bool) (line : List Char) : Bool :=
  decide (HasMark line) && (belowBlank || line.head?.any isBlank)

/-- The lines, each with whether its mark is deleted. -/
def withMarks : (belowBlank : Bool) → List (List Char) → List (List Char × Bool)
  | _, [] => []
  | belowBlank, line :: lines =>
    (line, losesMark belowBlank line) :: withMarks (line.all isBlank) lines

/-- The line without its mark, if the mark is deleted. -/
def unmarked (x : List Char × Bool) : List Char :=
  if x.2 then x.1.erase '+' else x.1

theorem map_fst_withMarks (belowBlank : Bool) (lines : List (List Char)) :
    (withMarks belowBlank lines).map Prod.fst = lines := by
  induction lines generalizing belowBlank with
  | nil => rfl
  | cons line lines ih => rw [withMarks, List.map_cons, ih]

theorem withMarks_ne_nil {belowBlank : Bool} {lines : List (List Char)} (h : lines ≠ []) :
    withMarks belowBlank lines ≠ [] := by
  intro hnil
  have hfst := map_fst_withMarks belowBlank lines
  rw [hnil] at hfst
  exact h hfst.symm

theorem exists_of_mem_withMarks {belowBlank : Bool} {lines : List (List Char)}
    {x : List Char × Bool} (hx : x ∈ withMarks belowBlank lines) : ∃ b, x.2 = losesMark b x.1 := by
  induction lines generalizing belowBlank with
  | nil => cases hx
  | cons line lines ih =>
    rcases List.mem_cons.mp hx with rfl | hx
    · exact ⟨belowBlank, rfl⟩
    · exact ih hx

theorem hasMark_of_losesMark {belowBlank : Bool} {line : List Char}
    (h : losesMark belowBlank line = true) : HasMark line :=
  of_decide_eq_true (Bool.and_eq_true_iff.mp h).1

theorem losesMark_of_indented {belowBlank : Bool} {line : List Char} (hmark : HasMark line)
    (hindent : line.head?.any isBlank = true) : losesMark belowBlank line = true := by
  simp [losesMark, hmark, hindent]

theorem losesMark_eq_false_of_blank {belowBlank : Bool} {line : List Char}
    (h : line.all isBlank = true) : losesMark belowBlank line = false := by
  have hno : ¬ HasMark line := by
    intro hmark
    have hplus := List.all_eq_true.mp h _ (List.mem_of_find?_eq_some hmark)
    exact absurd hplus (by decide)
  simp [losesMark, hno]

section

variable {indent w rest : List Char}

theorem erase_mark (hindent : ∀ c ∈ indent, isBlank c = true) :
    (indent ++ '+' :: rest).erase '+' = indent ++ rest := by
  have hnot : '+' ∉ indent := fun hmem => absurd (hindent _ hmem) (by decide)
  rw [List.erase_append_right _ hnot, List.erase_cons_head]

/-- The mark of a line stands behind its white space. -/
theorem exists_of_hasMark {line : List Char} (h : HasMark line) :
    ∃ indent rest, line = indent ++ '+' :: rest ∧ ∀ c ∈ indent, isBlank c = true := by
  obtain ⟨-, indent, rest, hline, hindent⟩ := List.find?_eq_some_iff_append.mp h
  exact ⟨indent, rest, hline, fun c hc => by simpa using hindent c hc⟩

/-- A line begins with white space, and the first character behind it tells whether it has a mark. -/
theorem hasMark_append_iff (hindent : ∀ c ∈ indent, isBlank c = true)
    (hw : w.head?.any isBlank = false) : HasMark (indent ++ w) ↔ w.head? = some '+' := by
  have hnone : indent.find? (fun c => !isBlank c) = none := by
    rw [List.find?_eq_none]
    intro c hc
    simp [hindent c hc]
  rw [HasMark, List.find?_append, hnone, Option.none_or]
  cases w with
  | nil => rfl
  | cons c w =>
    have hc : isBlank c = false := hw
    simp [hc]

theorem losesMark_append_iff (blanks : List Char) (hindent : ∀ c ∈ indent, isBlank c = true)
    (hw : w.head?.any isBlank = false) : losesMark (!blanks.isEmpty) (indent ++ w) = true ↔
      w.head? = some '+' ∧ blanks ++ indent ≠ [] := by
  have hhead : (indent ++ w).head?.any isBlank = true ↔ indent ≠ [] := by
    cases indent with
    | nil => simp [hw]
    | cons c indent => simpa using hindent c List.mem_cons_self
  rw [losesMark, Bool.and_eq_true_iff, decide_eq_true_iff, hasMark_append_iff hindent hw,
    Bool.or_eq_true_iff, hhead]
  refine and_congr_right fun _ => ?_
  cases blanks <;> simp

end

/-! ### A line and the white space above it -/

/-- What begins a line and ends with another one begins in the white space above that. -/
theorem exists_of_lineStart {blanks line x y : List Char} (hline : '\n' ∉ line)
    (htext : blanks ++ line = x ++ y) (hs : x.getLast? = none ∨ x.getLast? = some '\n') :
    ∃ z, blanks = x ++ z ∧ y = z ++ line := by
  rcases List.append_eq_append_iff.mp htext with ⟨z, rfl, hz⟩ | ⟨z, hz, rfl⟩
  · cases hlast : z.getLast? with
    | none =>
      obtain rfl := List.getLast?_eq_none_iff.mp hlast
      exact ⟨[], by simp, hz.symm⟩
    | some d =>
      -- the line feed would be one of the line
      rw [List.getLast?_append, hlast] at hs
      obtain rfl : d = '\n' := by simpa using hs
      refine absurd ?_ hline
      rw [hz]
      exact List.mem_append_left _ (List.mem_of_getLast? hlast)
  · exact ⟨z, hz, rfl⟩

namespace Target

variable {blanks indent w x y ahead : List Char} {m : Match}

/-- What `variance` chooses on a line and the white space above it: the white space from some line
start on and the mark behind it. -/
theorem chooses_variance_of_line_iff (hblanks : ∀ c ∈ blanks ++ indent, isBlank c = true)
    (hline : '\n' ∉ indent ++ w) (hw : w.head?.any isBlank = false)
    (hahead : (w ++ ahead).head? = w.head?) (htext : blanks ++ (indent ++ w) = x ++ y) :
    variance.Chooses (.between x (y ++ ahead)) m ↔
      w.head? = some '+' ∧ (x.getLast? = none ∨ x.getLast? = some '\n') ∧
        ∃ z, blanks = x ++ z ∧ z ++ indent ≠ [] ∧ m = ⟨[], z ++ indent, "+".toList⟩ := by
  have hrun : ∀ {z}, blanks = x ++ z → ∀ c ∈ z ++ indent, isBlank c = true := by
    rintro z rfl c hc
    exact hblanks c (by rw [List.append_assoc]; exact List.mem_append_right _ hc)
  rw [Place.between, chooses_variance_iff]
  constructor
  · rintro ⟨bl, rest, hsplit, hs, hne, hbl, rfl⟩
    have hstart := Place.atLineStart_iff.mp hs
    -- a match begins at the start of a line, and so before the indent
    obtain ⟨z, hz, rfl⟩ := exists_of_lineStart hline htext hstart
    have hspan : (z ++ indent) ++ (w ++ ahead) = bl ++ ("+".toList ++ rest) := by
      rw [← hsplit]
      simp
    obtain ⟨rfl, hplus⟩ := span_unique hspan (hrun hz) hbl (by rwa [hahead]) rfl
    exact ⟨by rw [← hahead, hplus]; rfl, hstart, z, hz, hne, rfl⟩
  · rintro ⟨hplus, hs, z, rfl, hne, rfl⟩
    obtain ⟨rest, rfl⟩ := List.head?_eq_some_iff.mp hplus
    obtain rfl : z ++ (indent ++ '+' :: rest) = y := by
      rw [List.append_assoc] at htext
      exact List.append_cancel_left htext
    exact ⟨z ++ indent, rest ++ ahead, by simp, Place.atLineStart_iff.mpr hs, hne, hrun rfl, rfl⟩

/-- Behind a line that is not blank begins another search. -/
theorem stops_variance {line : List Char} (hblanks : ∀ c ∈ blanks, isBlank c = true)
    (hline : '\n' ∉ line) (hne : line.all isBlank = false) : variance.Stops (blanks ++ line) := by
  obtain ⟨indent, w, rfl, hindent, hw⟩ := exists_span isBlank line
  have hall := List.forall_mem_append.mpr ⟨hblanks, hindent⟩
  obtain ⟨d, v, rfl⟩ : ∃ d v, w = d :: v := by
    refine List.exists_cons_of_ne_nil ?_
    rintro rfl
    rw [List.append_nil, List.all_eq_true.mpr hindent] at hne
    cases hne
  constructor
  · intro x y rest htext _
    refine matchAt_congr fun m => ?_
    refine (chooses_variance_of_line_iff hall hline hw rfl htext).trans ?_
    rw [← List.append_nil y]
    exact (chooses_variance_of_line_iff hall hline hw rfl htext).symm
  · intro rest
    rw [matchAt_eq_none_iff (by decide)]
    intro hmatch
    obtain ⟨m, hm, -⟩ := exists_chooses (by decide) hmatch
    have htext : blanks ++ (indent ++ d :: v) = (blanks ++ (indent ++ d :: v)) ++ [] := by simp
    obtain ⟨-, -, z, hz, -⟩ := (chooses_variance_of_line_iff hall hline hw rfl htext).mp hm
    -- the line feed stands behind the white space, and not in it
    simpa using congrArg List.length hz

end Target

namespace Rule

variable {blanks line : List Char}

theorem apply_variance_of_line (hblanks : ∀ c ∈ blanks, isBlank c = true) (hline : '\n' ∉ line) :
    variance.apply (blanks ++ line) =
      ⟨blanks ++ unmarked (line, losesMark (!blanks.isEmpty) line),
        if losesMark (!blanks.isEmpty) line then 1 else 0⟩ := by
  rw [apply_of_singleton (r := variance) (s := ⟨Target.variance, .template "" ""⟩) rfl]
  obtain ⟨indent, w, rfl, hindent, hw⟩ := exists_span isBlank line
  have hall := List.forall_mem_append.mpr ⟨hblanks, hindent⟩
  have hiff := losesMark_append_iff blanks hindent hw
  by_cases hloses : losesMark (!blanks.isEmpty) (indent ++ w) = true
  · obtain ⟨hplus, hne⟩ := hiff.mp hloses
    obtain ⟨rest, rfl⟩ := List.head?_eq_some_iff.mp hplus
    have hrest : '\n' ∉ rest := fun hmem => hline (by simp [hmem])
    have htext : (⟨[], blanks ++ indent, "+".toList⟩ : Match).text = blanks ++ indent ++ ['+'] := rfl
    have hm : Target.variance.Chooses
        (.between [] ((⟨[], blanks ++ indent, "+".toList⟩ : Match).text ++ rest))
        ⟨[], blanks ++ indent, "+".toList⟩ :=
      Target.chooses_variance_iff.mpr
        ⟨blanks ++ indent, rest, by rw [htext]; simp, rfl, hne, hall, rfl⟩
    -- no line begins behind the mark
    have hfree : Target.variance.Free
        ([] ++ (⟨[], blanks ++ indent, "+".toList⟩ : Match).text) rest [] := by
      refine Target.free_of_anchored (by decide) (d := '+') ?_ (by decide) hrest
      rw [htext, List.nil_append, List.getLast?_concat]
    have happly := Substitution.apply_of_match (s := ⟨Target.variance, .template "" ""⟩)
      (by decide) Target.free_nil hm hfree
    rw [htext] at happly
    simp only [hloses, unmarked, if_true, erase_mark hindent]
    simpa [Replacement.render_template] using happly
  · have hflag : losesMark (!blanks.isEmpty) (indent ++ w) = false := by simpa using hloses
    simp only [hflag, unmarked, Bool.false_eq_true, if_false]
    refine Substitution.apply_of_free (by decide) ?_
    intro x c y htext hmatch
    obtain ⟨m, hm, -⟩ := Target.exists_chooses (by decide) hmatch
    rw [List.nil_append] at hm
    obtain ⟨hplus, -, z, rfl, hne, -⟩ :=
      (Target.chooses_variance_of_line_iff hall hline hw (by simp) htext).mp hm
    refine hloses (hiff.mpr ⟨hplus, ?_⟩)
    rw [List.append_assoc]
    exact List.append_ne_nil_of_right_ne_nil x hne

/-- Each line below white space loses its mark or is left as it is. -/
theorem apply_variance_append (hblanks : ∀ c ∈ blanks, isBlank c = true) (text : List Char) :
    variance.apply (blanks ++ text) =
      ⟨blanks ++ ['\n'].intercalate
          ((withMarks (!blanks.isEmpty) (text.splitOn '\n')).map unmarked),
        (withMarks (!blanks.isEmpty) (text.splitOn '\n')).countP Prod.snd⟩ := by
  -- by the lines: the blank ones go to the white space above the others
  induction text using lines_induction generalizing blanks with
  | last line hline =>
    rw [List.splitOn_eq_singleton hline, apply_variance_of_line hblanks hline]
    simp [withMarks, List.countP_cons]
  | next line rest hline ih =>
    have hsplit : (line ++ '\n' :: rest).splitOn '\n' = line :: rest.splitOn '\n' :=
      List.splitOn_append_cons_self_of_not_mem hline rest
    have hne : ∀ b, (withMarks b (rest.splitOn '\n')).map unmarked ≠ [] := by
      intro b h
      exact withMarks_ne_nil (by simp) (List.map_eq_nil_iff.mp h)
    rw [hsplit, withMarks, List.map_cons, List.intercalate_cons_of_ne_nil (hne _), List.countP_cons]
    cases hblank : line.all isBlank with
    | true =>
      have hmore : ∀ c ∈ blanks ++ (line ++ ['\n']), isBlank c = true := by
        refine List.forall_mem_append.mpr ⟨hblanks, List.forall_mem_append.mpr
          ⟨List.all_eq_true.mp hblank, List.forall_mem_singleton.mpr (by decide)⟩⟩
      have hrest := ih hmore
      have hempty : (blanks ++ (line ++ ['\n'])).isEmpty = false := by simp
      rw [hempty] at hrest
      have hkeeps : losesMark (!blanks.isEmpty) line = false := losesMark_eq_false_of_blank hblank
      simpa [hkeeps, unmarked] using hrest
    | false =>
      have hparts := parts_of_singleton (r := variance) rfl
        (Target.stops_variance hblanks hline hblank)
      have happend : blanks ++ (line ++ '\n' :: rest) = (blanks ++ line) ++ '\n' :: rest := by simp
      have hrest := @ih [] (by simp)
      rw [List.nil_append] at hrest
      rw [happend, hparts rest, apply_variance_of_line hblanks hline, hrest]
      simp [Nat.add_comm]

/-! ### Over and over -/

/-- Every replacement takes a `+` away. -/
theorem count_plus_variance (text : List Char) :
    (variance.apply text).text.count '+' + (variance.apply text).count = text.count '+' := by
  have hmoves : variance.Moves ⟨[('+', 1)]⟩ (-1) (-1) := by decide +kernel
  obtain ⟨hge, hle⟩ := weight_apply hmoves text
  rw [Scale.weight_single, Scale.weight_single] at hge hle
  omega

/-- There are not more changes than there are `+`. -/
theorem exists_iterate_variance (text : List Char) :
    ∃ n ≤ text.count '+', variance.apply ((fun t => (variance.apply t).text)^[n] text) =
      ⟨(fun t => (variance.apply t).text)^[n] text, 0⟩ := by
  induction hk : text.count '+' using Nat.strongRecOn generalizing text with
  | ind k ih =>
    have hcount := count_plus_variance text
    by_cases hzero : (variance.apply text).count = 0
    · refine ⟨0, Nat.zero_le k, ?_⟩
      have htext := count_eq_zero_iff.mp hzero
      show variance.apply text = ⟨text, 0⟩
      rw [← hzero]
      exact congrArg (fun t => (⟨t, _⟩ : Outcome)) htext
    · obtain ⟨n, hn, hfixed⟩ := ih ((variance.apply text).text.count '+') (by omega) _ rfl
      refine ⟨n + 1, by omega, ?_⟩
      rw [Function.iterate_succ_apply]
      exact hfixed

/-- The rule deletes as many marks as it counts, and nothing else: one of each line at most, each
the first character of its line that is not white space, and every indented one.  Applied over and
over it stops making changes after as many times as there are `+` in the text at the latest. -/
theorem variance_deletes_marks (text : List Char) :
    variance.apply text =
      ⟨['\n'].intercalate ((withMarks false (text.splitOn '\n')).map unmarked),
        (withMarks false (text.splitOn '\n')).countP Prod.snd⟩ ∧
    (withMarks false (text.splitOn '\n')).map Prod.fst = text.splitOn '\n' ∧
    (∀ x ∈ withMarks false (text.splitOn '\n'), x.2 = true →
      ∃ indent rest, x.1 = indent ++ '+' :: rest ∧ (∀ c ∈ indent, isBlank c = true) ∧
        unmarked x = indent ++ rest) ∧
    (∀ x ∈ withMarks false (text.splitOn '\n'),
      HasMark x.1 → x.1.head?.any isBlank = true → x.2 = true) ∧
    ∃ n ≤ text.count '+', variance.apply ((fun t => (variance.apply t).text)^[n] text) =
      ⟨(fun t => (variance.apply t).text)^[n] text, 0⟩ := by
  refine ⟨?_, map_fst_withMarks _ _, fun x hx h => ?_, fun x hx hmark hindent => ?_,
    exists_iterate_variance text⟩
  · have hlines := @apply_variance_append [] (by simp) text
    simpa using hlines
  · obtain ⟨b, hb⟩ := exists_of_mem_withMarks hx
    obtain ⟨indent, rest, hline, hindent⟩ := exists_of_hasMark (hasMark_of_losesMark (hb ▸ h))
    refine ⟨indent, rest, hline, hindent, ?_⟩
    rw [unmarked, if_pos h, hline, erase_mark hindent]
  · obtain ⟨b, hb⟩ := exists_of_mem_withMarks hx
    rw [hb]
    exact losesMark_of_indented hmark hindent

theorem variance_deletes_marks_of_fields :
    variance.apply "+a: b,\n \t+c: +d,\n\n+e".toList = ⟨"+a: b,\n \tc: +d,\n\ne".toList, 2⟩ ∧
      ∀ x ∈ withMarks false ("+a: b,\n \t+c: +d,\n\n+e".toList.splitOn '\n'),
        x.1 = " \t+c: +d,".toList → x.2 = true := by
  obtain ⟨happly, -, -, hindented, -⟩ :=
    variance_deletes_marks "+a: b,\n \t+c: +d,\n\n+e".toList
  constructor
  · rw [happly]
    decide
  · intro x hx hline
    exact hindented x hx (by rw [hline]; decide) (by rw [hline]; decide)

end Rule

end HaxeTypedefs
