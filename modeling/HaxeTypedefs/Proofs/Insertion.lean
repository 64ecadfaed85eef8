/-
Rules that only put texts around what they find.

Eight rules keep every character of a match.  Each has fixed texts of its own: one before
the match, one between its first part and the rest, and one behind it.  So the text that
such a rule leaves is the text it was given with these texts put in, and as long as no
other rule finds anything, the text that a run begins with can be read in the text it leaves.

* **`Rule.render_eq_around`** — a replacement is its match with the texts of the rule around it;
* **`Frame.sublist_layOut`**, **`Frame.length_layOut`** — nothing is lost, and every match adds
  the same length;
* **`Rule.framing_only_inserts`** — the eight rules, and the runs in which no other rule replaces anything.
-/
import HaxeTypedefs.Proofs.Matches
import HaxeTypedefs.Proofs.Tally

namespace HaxeTypedefs

/-- The texts that are put around a match: before it, between its first part and the rest, and
behind it. -/
structure Frame where
  before : String
  between : String
  behind : String

namespace Frame

/-- The match in its frame. -/
def around (f : Frame) (m : Match) : List Char :=
  f.before.toList ++ (m.lead ++ (f.between.toList ++ (m.marked ++ (m.trail ++ f.behind.toList))))

/-- What the frame adds to the length of a match. -/
def length (f : Frame) : Nat :=
  f.before.toList.length + f.between.toList.length + f.behind.toList.length

/-- The text of a factoring with a frame around each match. -/
def layOut (f : Frame) (gap : List Char) (ms : List (Match × List Char)) : List Char :=
  gap ++ ms.flatMap fun x => f.around x.1 ++ x.2

theorem layOut_cons (f : Frame) (gap : List Char) (m : Match) (gap' : List Char)
    (ms : List (Match × List Char)) :
    f.layOut gap ((m, gap') :: ms) = gap ++ (f.around m ++ f.layOut gap' ms) := by
  simp [layOut]

theorem sublist_around (f : Frame) (m : Match) : m.text.Sublist (f.around m) := by
  have hrest : (m.marked ++ m.trail).Sublist (m.marked ++ (m.trail ++ f.behind.toList)) := by
    rw [← List.append_assoc]
    exact List.sublist_append_left _ _
  have hsplit : m.text = m.lead ++ (m.marked ++ m.trail) := by simp [Match.text]
  rw [hsplit, around]
  refine List.Sublist.trans ?_ (List.sublist_append_right _ _)
  exact (List.Sublist.refl m.lead).append (hrest.trans (List.sublist_append_right _ _))

theorem length_around (f : Frame) (m : Match) :
    (f.around m).length = m.text.length + f.length := by
  simp only [around, length, Match.text, List.length_append]
  omega

/-- No character of the text is lost or moved. -/
theorem sublist_layOut (f : Frame) (gap : List Char) (ms : List (Match × List Char)) :
    (spelled gap ms).Sublist (f.layOut gap ms) := by
  induction ms generalizing gap with
  | nil => simp [spelled, layOut]
  | cons x ms ih =>
    obtain ⟨m, gap'⟩ := x
    rw [spelled_cons, layOut_cons]
    exact (List.Sublist.refl gap).append ((f.sublist_around m).append (ih gap'))

theorem length_layOut (f : Frame) (gap : List Char) (ms : List (Match × List Char)) :
    (f.layOut gap ms).length = (spelled gap ms).length + ms.length * f.length := by
  induction ms generalizing gap with
  | nil => simp [spelled, layOut]
  | cons x ms ih =>
    obtain ⟨m, gap'⟩ := x
    rw [spelled_cons, layOut_cons]
    simp only [List.length_append, List.length_cons, ih gap', f.length_around m, Nat.add_mul,
      Nat.one_mul]
    omega

end Frame

namespace Rule

/-- The texts that a rule puts around its matches, if it leaves these as they are. -/
def frame? : Rule → Option Frame
  | exportType => some ⟨"typedef /* ", "", " */"⟩
  | multiLineUnion => some ⟨"", " BaseNode; /* ", " */"⟩
  | singleLineUnion => some ⟨"", "BaseNode; /* ", " */"⟩
  | typeNodeUnion => some ⟨"TypeNode /* ", "", " */"⟩
  | supersededTypeNode | importType => some ⟨"// ", "", ""⟩
  | readOnlyArray => some ⟨"/* ", "", " */Array"⟩
  | operationType => some ⟨"//  ", "", " \n" ++ operationTypes.render⟩
  | optionalField | primitives | variance | nullableToken | optionalValue | kindLiteral => none

/-- A frame without a text in its middle goes around the match as a whole. -/
theorem around_of_between {before behind : String} (m : Match) :
    (Frame.mk before "" behind).around m = before.toList ++ (m.text ++ behind.toList) := by
  simp [Frame.around, Match.text]

/-- What takes the place of a match is the match in the frame of its rule. -/
theorem render_eq_around {r : Rule} {f : Frame} (hf : r.frame? = some f) {s : Substitution}
    (hs : s ∈ r.substitutions) {place : Place} {m : Match} (hm : s.target.Chooses place m) :
    s.replacement.render m = f.around m := by
  -- only the rules with a frame are left, each with its one substitution
  cases r <;> cases hf <;> obtain rfl := List.mem_singleton.mp hs
  case exportType =>
    obtain ⟨rest, -, rfl⟩ := (Target.chooses_text_iff (by decide)).mp hm
    decide
  case multiLineUnion =>
    obtain ⟨bl, bl', w, rest, -, -, -, -, -, rfl⟩ := Target.chooses_multiLineUnion_iff.mp hm
    simp [Replacement.render, Frame.around]
  case singleLineUnion =>
    obtain ⟨word, bl, w, rest, -, -, -, -, -, -, -, rfl⟩ := Target.chooses_singleLineUnion_iff.mp hm
    simp [Replacement.render, Frame.around]
  case typeNodeUnion =>
    rw [around_of_between, Target.text_of_chooses_typeNodeUnion hm, Replacement.render_literal]
    decide
  case supersededTypeNode =>
    obtain ⟨r, hr, rfl, -⟩ := hm
    obtain ⟨g, w, rest, -, -, -, -, rfl⟩ := Target.reads_supersededTypeNode_iff.mp hr
    rw [around_of_between]
    simp [Replacement.render, Reading.toMatch, Reading.text, Match.text]
  case importType =>
    obtain ⟨w, rest, -, -, -, -, rfl⟩ := Target.chooses_importType_iff.mp hm
    rw [around_of_between]
    simp [Replacement.render, Match.text]
  case readOnlyArray =>
    obtain ⟨rest, -, rfl⟩ := (Target.chooses_text_iff (by decide)).mp hm
    decide
  case operationType =>
    rw [around_of_between, String.toList_append, Replacement.render]
    simp only [List.append_assoc]

/-- The text of a factoring after replacing has the frame around each match. -/
theorem rendered_eq_layOut {r : Rule} {f : Frame} (hf : r.frame? = some f) {s : Substitution}
    (hs : s ∈ r.substitutions) {behind gap : List Char} {ms : List (Match × List Char)}
    (h : s.target.Factors behind gap ms) : s.rendered gap ms = f.layOut gap ms := by
  induction h with
  | last _ => simp [Substitution.rendered, Frame.layOut]
  | next _ _ hm _ ih =>
    rw [Substitution.rendered_cons, Frame.layOut_cons, render_eq_around hf hs hm, ih]

/-- The rules that put a frame around their matches. -/
def framing : List Rule :=
  [exportType, multiLineUnion, singleLineUnion, typeNodeUnion, supersededTypeNode, importType,
   readOnlyArray, operationType]

theorem exists_frame {r : Rule} (hr : r ∈ framing) :
    ∃ s f, r.substitutions = [s] ∧ r.frame? = some f := by
  cases r <;> first | exact ⟨_, _, rfl, rfl⟩ | exact absurd hr (by decide)

theorem apply_eq_layOut {r : Rule} {s : Substitution} {f : Frame} (hs : r.substitutions = [s])
    (hf : r.frame? = some f) (text : List Char) :
    ∃ gap ms, s.target.Factors [] gap ms ∧ spelled gap ms = text ∧
      r.apply text = ⟨f.layOut gap ms, ms.length⟩ := by
  have hmem : s ∈ r.substitutions := by
    rw [hs]
    exact List.mem_singleton_self s
  obtain ⟨gap, ms, rfl, h⟩ := Target.exists_factors (solid_of_mem hmem) [] text
  refine ⟨gap, ms, h, rfl, ?_⟩
  rw [apply_of_singleton hs, Substitution.apply_eq_of_factors (solid_of_mem hmem) h,
    rendered_eq_layOut hf hmem h]

theorem sublist_apply {r : Rule} (hr : r ∈ framing) (text : List Char) :
    text.Sublist (r.apply text).text := by
  obtain ⟨s, f, hs, hf⟩ := exists_frame hr
  obtain ⟨gap, ms, -, rfl, happly⟩ := apply_eq_layOut hs hf text
  rw [happly]
  exact f.sublist_layOut gap ms

end Rule

namespace Run

/-- Where every rule without a frame leaves the running text as it is, no character is lost. -/
theorem sublist_textFrom {rules : List Rule} (hrules : rules.Nodup) (text : List Char)
    (h : ∀ r ∉ Rule.framing, countFrom rules text r = 0) :
    text.Sublist (textFrom rules text) := by
  induction rules generalizing text with
  | nil => exact List.Sublist.refl text
  | cons r rules ih =>
    obtain ⟨hr, hrules⟩ := List.nodup_cons.mp hrules
    have hstep : text.Sublist (r.apply text).text := by
      by_cases hframing : r ∈ Rule.framing
      · exact Rule.sublist_apply hframing text
      · have hcount := h r hframing
        rw [countFrom_cons, if_pos rfl, Rule.count_eq_zero_iff] at hcount
        rw [hcount]
    have hrest : ∀ r' ∉ Rule.framing, countFrom rules (r.apply text).text r' = 0 := by
      intro r' hr'
      have hcount := h r' hr'
      rw [countFrom_cons] at hcount
      split at hcount
      · -- the rule does not take part again
        rename_i heq
        rw [heq]
        exact countFrom_of_not_mem hr _
      · exact hcount
    rw [textFrom_cons]
    exact hstep.trans (ih hrules _ hrest)

end Run

/-- Each of the eight rules puts its own texts around the matches that it replaces and inside of them,
and does nothing else: the text stays a subsequence, and every replacement makes it longer by the same
length.  So a run in which the other six rules replace nothing keeps the text as a subsequence. -/
theorem Rule.framing_only_inserts :
    (∀ r ∈ framing, ∃ s f, r.substitutions = [s] ∧ r.frame? = some f ∧ ∀ text,
      (∃ gap ms, s.target.Factors [] gap ms ∧ spelled gap ms = text ∧
        r.apply text = ⟨f.layOut gap ms, ms.length⟩) ∧
      text.Sublist (r.apply text).text ∧
      (r.apply text).text.length = text.length + (r.apply text).count * f.length) ∧
    ∀ text, (∀ r ∉ framing, (Run.of text).report.count r = 0) →
      text.Sublist (Run.of text).text := by
  refine ⟨fun r hr => ?_, fun text h => ?_⟩
  · obtain ⟨s, f, hs, hf⟩ := exists_frame hr
    refine ⟨s, f, hs, hf, fun text => ⟨apply_eq_layOut hs hf text, sublist_apply hr text, ?_⟩⟩
    obtain ⟨gap, ms, -, rfl, happly⟩ := apply_eq_layOut hs hf text
    rw [happly]
    exact f.length_layOut gap ms
  · rw [Run.text_of]
    exact Run.sublist_textFrom (by decide) text h

/-- A union and an array inside of it: the second rule puts its texts into the comment that the first
one has opened. -/
theorem Rule.framing_only_inserts_of_union :
    Rule.multiLineUnion ∈ framing ∧
      (multiLineUnion.apply "ANode =\n  | B;".toList).text.length =
        "ANode =\n  | B;".toList.length + 1 * 17 ∧
      (∀ r ∉ framing, (Run.of "ANode =\n  | $ReadOnlyArray<B>;".toList).report.count r = 0) ∧
      "ANode =\n  | $ReadOnlyArray<B>;".toList.Sublist
        (Run.of "ANode =\n  | $ReadOnlyArray<B>;".toList).text := by
  obtain ⟨hrules, hruns⟩ := framing_only_inserts
  have hmem : multiLineUnion ∈ framing := by decide
  have hcounts : ∀ r ∉ framing,
      (Run.of "ANode =\n  | $ReadOnlyArray<B>;".toList).report.count r = 0 := by
    have hall : ∀ r ∈ all, r ∉ framing →
        (Run.of "ANode =\n  | $ReadOnlyArray<B>;".toList).report.count r = 0 := by decide +kernel
    exact fun r => hall r r.mem_all
  refine ⟨hmem, ?_, hcounts, hruns _ hcounts⟩
  obtain ⟨s, f, hs, hf, h⟩ := hrules _ hmem
  obtain ⟨-, -, hlength⟩ := h "ANode =\n  | B;".toList
  rw [hlength]
  cases hf
  decide

end HaxeTypedefs
