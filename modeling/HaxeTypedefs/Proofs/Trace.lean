/-
What a match of a rule cannot do without.

Five rules are told by a small part of their matches: the mark behind an optional
field, the text of an optional value, the start of an import or of a superseded
line, a literal of a kind.  Where this part does not occur the rule has nothing to
replace, and the rule itself leaves a text in which it does not occur.

* **`Rule.count_eq_zero_of_cleared`** — a text without the trace of a rule has no match;
* **`Rule.cleared_apply`** — the rule removes its trace.
-/
import HaxeTypedefs.Proofs.Absence
import HaxeTypedefs.Proofs.Matches

namespace HaxeTypedefs

/-! ### The traces -/

namespace Pattern

/-- `\w\?:` -/
def optionalMark : Pattern := .inOrder [.one .word, "?:"]

/-- `\ntypedef .*? TypeNode `; the line feed is the one before the line. -/
def supersededLine : Pattern := .inOrder ["\ntypedef ", Rule.gapInLine, " TypeNode "]

def optionalValue : Pattern := "value:String | void"

/-- The line feed is the one before the line. -/
def importLine : Pattern := "\nimport type "

/-- `kind: '\w+'` -/
def quotedKind : Pattern := .inOrder ["kind: '", Rule.someWord, "'"]

variable {x : List Char}

theorem absent_text_iff {w : List Char} : (Pattern.text w).Absent x ↔ ¬ w <:+: x := by
  constructor
  · intro h
    exact h ⟨none, w ++ []⟩ _ _ (reads_text_iff.mpr ⟨rfl, [], rfl, rfl⟩)
  · rintro h ⟨b, ahead⟩ r u hr hx
    obtain ⟨rfl, -⟩ := reads_text_iff.mp hr
    exact h hx

/-- The texts of a pattern, from the form of its readings. -/
theorem absent_iff_of_reads {p : Pattern} {W : List Char → Prop}
    (h : ∀ b ahead r, (∃ u, p.Reads ⟨b, ahead⟩ r u) → W r.text)
    (h' : ∀ w, W w → ∃ r, r.text = w ∧ ∃ u, p.Reads ⟨none, w ++ []⟩ r u) :
    p.Absent x ↔ ∀ w, W w → ¬ w <:+: x := by
  constructor
  · intro hx w hw
    obtain ⟨r, rfl, u, hr⟩ := h' w hw
    exact hx _ r u hr
  · intro hx s r u hr
    exact hx _ (h _ _ _ ⟨u, hr⟩)

theorem absent_optionalMark_iff :
    optionalMark.Absent x ↔ ∀ w, (∃ c, isWord c = true ∧ w = c :: "?:".toList) → ¬ w <:+: x := by
  have hreads : ∀ b ahead r, (∃ u, optionalMark.Reads ⟨b, ahead⟩ r u) ↔ ∃ c rest,
      isWord c = true ∧ ahead = c :: ("?:".toList ++ rest) ∧
        r = .pair (.plain [c]) (.plain "?:".toList) := by
    intro b ahead r
    simp only [optionalMark, inOrder, reads_seq_iff, reads_one_iff, reads_text_iff, existsAndEq,
      true_and, and_assoc, CharClass.has]
  apply absent_iff_of_reads
  · intro b ahead r hr
    obtain ⟨c, rest, hc, -, rfl⟩ := (hreads b ahead r).mp hr
    exact ⟨c, hc, rfl⟩
  · rintro w ⟨c, hc, rfl⟩
    exact ⟨_, rfl, (hreads none _ _).mpr ⟨c, [], hc, rfl, rfl⟩⟩

theorem absent_supersededLine_iff : supersededLine.Absent x ↔
    ∀ w, (∃ g, '\n' ∉ g ∧ w = "\ntypedef ".toList ++ (g ++ " TypeNode ".toList)) →
      ¬ w <:+: x := by
  have hreads : ∀ b ahead r, (∃ u, supersededLine.Reads ⟨b, ahead⟩ r u) ↔ ∃ g rest,
      ahead = "\ntypedef ".toList ++ (g ++ (" TypeNode ".toList ++ rest)) ∧ '\n' ∉ g ∧
        r = .pair (.plain "\ntypedef ".toList) (.pair (.plain g) (.plain " TypeNode ".toList)) := by
    intro b ahead r
    simp only [supersededLine, Rule.gapInLine, inOrder, reads_seq_iff, reads_run_iff,
      reads_text_iff, existsAndEq, true_and, and_true, CharClass.has, forall_bne_iff, Nat.zero_le]
  apply absent_iff_of_reads
  · intro b ahead r hr
    obtain ⟨g, rest, -, hg, rfl⟩ := (hreads b ahead r).mp hr
    exact ⟨g, hg, rfl⟩
  · rintro w ⟨g, hg, rfl⟩
    exact ⟨_, rfl, (hreads none _ _).mpr ⟨g, [], by simp, hg, rfl⟩⟩

theorem absent_quotedKind_iff : quotedKind.Absent x ↔
    ∀ w, (∃ v, 0 < v.length ∧ (∀ c ∈ v, isWord c = true) ∧
      w = "kind: '".toList ++ (v ++ "'".toList)) → ¬ w <:+: x := by
  have hreads : ∀ b ahead r, (∃ u, quotedKind.Reads ⟨b, ahead⟩ r u) ↔ ∃ v rest,
      ahead = "kind: '".toList ++ (v ++ ("'".toList ++ rest)) ∧ (∀ c ∈ v, isWord c = true) ∧
        1 ≤ v.length ∧ r = .pair (.plain "kind: '".toList) (.pair (.plain v) (.plain "'".toList)) := by
    intro b ahead r
    simp only [quotedKind, Rule.someWord, inOrder, reads_seq_iff, reads_run_iff, reads_text_iff,
      existsAndEq, true_and, and_assoc, CharClass.has]
  apply absent_iff_of_reads
  · intro b ahead r hr
    obtain ⟨v, rest, -, hv, hle, rfl⟩ := (hreads b ahead r).mp hr
    exact ⟨v, hle, hv, rfl⟩
  · rintro w ⟨v, hle, hv, rfl⟩
    exact ⟨_, rfl, (hreads none _ _).mpr ⟨v, [], by simp, hv, hle, rfl⟩⟩

end Pattern

/-! ### Matches and traces -/

namespace Target

/-- Where the target can be read, there is the trace, and where no match begins, there is none.  The
text at the edge stands for the place before the first line. -/
structure Traced (t : Target) (p : Pattern) (edge : List Char) : Prop where
  not_absent : ∀ behind ahead r, t.Reads (.between behind ahead) r →
    ¬ p.Absent (edge ++ (behind ++ ahead))
  absent_of_free : ∀ behind gap ahead e, t.Free behind gap ahead →
    (e = [] ∨ e = edge ∧ behind = []) → p.Absent (e ++ gap)

theorem traced_optionalField : optionalField.Traced Pattern.optionalMark [] := by
  constructor
  · intro behind ahead r hr habsent
    obtain ⟨w, z, rest, rfl, hne, hw, -, -⟩ := reads_optionalField_iff.mp hr
    -- the last character of the word is enough
    obtain ⟨v, c, rfl⟩ := (List.eq_nil_or_concat w).resolve_left hne
    refine Pattern.absent_optionalMark_iff.mp habsent _ ⟨c, hw c (by simp), rfl⟩ ?_
    exact ⟨behind ++ v, z.text ++ rest, by simp⟩
  · rintro behind gap ahead e hfree he
    obtain rfl : e = [] := by rcases he with rfl | ⟨rfl, -⟩ <;> rfl
    rw [List.nil_append, Pattern.absent_optionalMark_iff]
    rintro _ ⟨c, hc, rfl⟩ ⟨x, y, rfl⟩
    refine hfree x c ("?:".toList ++ y) (by simp) ⟨_, reads_optionalField_iff.mpr
      ⟨[c], .absent, y ++ ahead, by simp [Reading.text], by simp, by simpa using hc, .inl rfl, rfl⟩⟩

theorem traced_optionalValue :
    (plain (.text "value:String | void".toList)).Traced Pattern.optionalValue [] := by
  have hreads : ∀ {b ahead rest}, ahead = "value:String | void".toList ++ rest →
      (plain (.text "value:String | void".toList)).Matches ⟨b, ahead⟩ := by
    rintro b ahead rest rfl
    exact ((chooses_text_iff (by decide)).mpr ⟨rest, rfl, rfl⟩).matches
  constructor
  · intro behind ahead r hr habsent
    obtain ⟨m, hm, -⟩ := exists_chooses (by decide) ⟨r, hr⟩
    obtain ⟨rest, rfl, -⟩ := (chooses_text_iff (by decide)).mp hm
    exact Pattern.absent_text_iff.mp habsent ⟨behind, rest, by simp⟩
  · rintro behind gap ahead e hfree he
    obtain rfl : e = [] := by rcases he with rfl | ⟨rfl, -⟩ <;> rfl
    rw [List.nil_append]
    refine Pattern.absent_text_iff.mpr ?_
    rintro ⟨x, y, rfl⟩
    have hrest : 'v' :: ("alue:String | void".toList ++ y) ++ ahead =
        "value:String | void".toList ++ (y ++ ahead) := by simp
    exact hfree x 'v' ("alue:String | void".toList ++ y) (by simp) (hreads hrest)

theorem traced_kindLiteral : kindLiteral.Traced Pattern.quotedKind [] := by
  constructor
  · intro behind ahead r hr habsent
    obtain ⟨w, z, rest, rfl, hne, hw, -, -⟩ := reads_kindLiteral_iff.mp hr
    refine Pattern.absent_quotedKind_iff.mp habsent _ ⟨w, List.length_pos_iff.mpr hne, hw, rfl⟩ ?_
    exact ⟨behind, z.text ++ rest, by simp⟩
  · rintro behind gap ahead e hfree he
    obtain rfl : e = [] := by rcases he with rfl | ⟨rfl, -⟩ <;> rfl
    rw [List.nil_append, Pattern.absent_quotedKind_iff]
    rintro _ ⟨w, hlen, hw, rfl⟩ ⟨x, y, rfl⟩
    refine hfree x 'k' ("ind: '".toList ++ (w ++ ("'".toList ++ y))) (by simp)
      ⟨_, reads_kindLiteral_iff.mpr ⟨w, .absent, y ++ ahead, by simp [Reading.text],
        List.ne_nil_of_length_pos hlen, hw, .inl rfl, rfl⟩⟩

/-- A line of a gap, with the line feed before it. -/
theorem exists_line_of_infix {behind gap e w : List Char} (he : e = [] ∨ e = ['\n'] ∧ behind = [])
    (h : '\n' :: w <:+: e ++ gap) :
    ∃ x y, gap = x ++ (w ++ y) ∧ ∀ ahead, (Place.between (behind ++ x) ahead).atLineStart = true := by
  have hinside : '\n' :: w <:+: gap → ∃ x y, gap = x ++ (w ++ y) ∧
      ∀ ahead, (Place.between (behind ++ x) ahead).atLineStart = true := by
    rintro ⟨x, y, rfl⟩
    refine ⟨x ++ ['\n'], y, by simp, fun ahead => ?_⟩
    rw [← List.append_assoc, Place.between, List.getLast?_concat]
    rfl
  rcases he with rfl | ⟨rfl, rfl⟩
  · exact hinside h
  · rcases List.infix_cons_iff.mp h with hprefix | hpart
    · obtain ⟨y, hy⟩ := hprefix
      exact ⟨[], y, (List.cons.inj hy).2.symm, fun ahead => rfl⟩
    · exact hinside hpart

/-- The start of a line and the line feed before it. -/
theorem infix_of_atLineStart {behind w rest : List Char}
    (h : (Place.between behind (w ++ rest)).atLineStart = true) :
    '\n' :: w <:+: ['\n'] ++ (behind ++ (w ++ rest)) := by
  rcases List.eq_nil_or_concat behind with rfl | ⟨x, c, rfl⟩
  · exact ⟨[], rest, by simp⟩
  · obtain rfl : c = '\n' := by simpa [Place.between, Place.atLineStart] using h
    exact ⟨'\n' :: x, rest, by simp⟩

theorem traced_importType : importType.Traced Pattern.importLine ['\n'] := by
  constructor
  · intro behind ahead r hr habsent
    obtain ⟨w, rest, rfl, hs, -, -⟩ := reads_importType_iff.mp hr
    exact Pattern.absent_text_iff.mp habsent (infix_of_atLineStart hs)
  · intro behind gap ahead e hfree he
    refine Pattern.absent_text_iff.mpr fun h => ?_
    have hline : '\n' :: "import type ".toList <:+: e ++ gap := by simpa using h
    obtain ⟨x, y, rfl, hs⟩ := exists_line_of_infix he hline
    refine hfree x 'i' ("mport type ".toList ++ y) rfl
      ⟨_, reads_importType_iff.mpr ⟨[], y ++ ahead, by simp, hs _, by simp, rfl⟩⟩

theorem traced_supersededTypeNode : supersededTypeNode.Traced Pattern.supersededLine ['\n'] := by
  constructor
  · intro behind ahead r hr habsent
    obtain ⟨g, w, rest, h, hs, hg, -, -⟩ := reads_supersededTypeNode_iff.mp hr
    have hsplit : ahead = ("typedef ".toList ++ (g ++ " TypeNode ".toList)) ++ (w ++ rest) := by
      simpa using h
    rw [hsplit] at hs habsent
    exact Pattern.absent_supersededLine_iff.mp habsent _ ⟨g, hg, rfl⟩ (infix_of_atLineStart hs)
  · intro behind gap ahead e hfree he
    rw [Pattern.absent_supersededLine_iff]
    rintro _ ⟨g, hg, rfl⟩ h
    have hline : '\n' :: ("typedef ".toList ++ (g ++ " TypeNode ".toList)) <:+: e ++ gap := by
      simpa using h
    obtain ⟨x, y, rfl, hs⟩ := exists_line_of_infix he hline
    refine hfree x 't' ("ypedef ".toList ++ (g ++ (" TypeNode ".toList ++ y))) (by simp)
      ⟨_, reads_supersededTypeNode_iff.mpr ⟨g, [], y ++ ahead, by simp, hs _, hg, by simp, rfl⟩⟩

end Target

/-! ### What the rules put in has no trace -/

namespace Pattern

variable {l y w : List Char} {c d : Char}

theorem joins_optionalMark_iff :
    optionalMark.joins c d = true ↔ c = '?' ∧ d = ':' ∨ isWord c = true ∧ d = '?' := by
  simp [optionalMark, inOrder, joins, hasPair, finishes, begins, CharClass.has, @eq_comm _ c,
    @eq_comm _ d]

theorem begins_supersededLine_iff : supersededLine.begins c = true ↔ c = '\n' := by
  simp [supersededLine, inOrder, begins, shortest, @eq_comm _ c]

theorem shields_nullString {p : Pattern}
    (hp : p ∈ [optionalMark, optionalValue, .text " TypeNode ".toList]) :
    p.Shields "?value:Null<String>".toList := by
  have hcuts : ∀ p ∈ [optionalMark, optionalValue, .text " TypeNode ".toList],
      p.Cuts ['?'] "value:Null<String".toList ['>'] := by
    simp only [String.reduceToList]
    decide
  exact (hcuts p hp).shields (by decide)

/-- A line that is a comment from its start on is no import. -/
theorem shields_importLine_of_slash {w : List Char} (hw : '\n' ∉ w) : importLine.Shields ('/' :: w) := by
  refine shields_of_begins (by decide) ?_ (by simp) ?_
  · intro c hc
    have hcn : c ≠ '\n' := by
      rintro rfl
      exact (List.mem_cons.mp hc).elim (by decide) hw
    simpa [importLine, begins] using hcn.symm
  · intro c d hd e he
    obtain rfl : '/' = e := by simpa using he
    simp [importLine, joins, hasPair]

theorem shields_optionalField {place : Place} {m : Match}
    (hm : Target.optionalField.Chooses place m) :
    optionalMark.Shields ((Replacement.template "?" " /* opt */ :").render m) := by
  obtain ⟨w, z, rest, -, hne, hw, -, rfl⟩ := Target.chooses_optionalField_iff.mp hm
  have hmark : '?' ∉ w ++ " /* opt */ ".toList := by
    intro h
    rcases List.mem_append.mp h with h | h
    · exact absurd (hw _ h) (by decide)
    · revert h; decide
  have hmiddle : optionalMark.Absent (w ++ " /* opt */ ".toList) :=
    absent_of_needs (show "?:".toList ∈ optionalMark.needs by decide)
      fun h => hmark (h.subset (by decide))
  have hfirst : optionalMark.Apart ['?'] (w ++ " /* opt */ ".toList ++ [':']) := by
    intro c hc d hd
    obtain rfl : '?' = c := by simpa using hc
    rw [List.append_assoc, List.head?_append_of_ne_nil _ hne] at hd
    rw [Bool.eq_false_iff, ne_eq, joins_optionalMark_iff]
    rintro (⟨-, rfl⟩ | ⟨h, -⟩)
    · exact absurd (hw _ (List.mem_of_mem_head? hd)) (by decide)
    · revert h; decide
  have hlast : optionalMark.Apart (w ++ " /* opt */ ".toList) [':'] := by
    intro c hc d hd
    rw [List.getLast?_append_of_ne_nil _ (by decide)] at hc
    obtain rfl : ' ' = c := by simpa using hc
    obtain rfl : ':' = d := by simpa using hd
    decide
  -- no mark lies across the question mark at the front or the colon at the end
  have hshields := shields_of_cuts (by decide) (by decide) (by decide) hmiddle (by decide)
    ⟨hfirst, hlast⟩
  simpa [Replacement.render] using hshields

/-- A text without a line feed may stand behind one. -/
theorem absent_supersededLine_append (hl : supersededLine.Absent l) (hy : supersededLine.Absent y)
    (hfits : ∀ c ∈ l.getLast?, c = '\n') (hw : '\n' ∉ w) (hne : w ≠ [])
    (hhead : ∀ c ∈ w.head?, c = ' ' ∨ c = '/') : supersededLine.Absent (l ++ w ++ y) := by
  have hbegins : ∀ c ∈ w, supersededLine.begins c = false := by
    intro c hc
    rw [Bool.eq_false_iff, ne_eq, begins_supersededLine_iff]
    rintro rfl
    exact hw hc
  rw [List.append_assoc]
  refine absent_append hl (absent_append_of_begins (by decide) hbegins hy) ?_
  intro c hc d hd
  rw [List.head?_append_of_ne_nil _ hne] at hd
  rw [hfits c hc]
  rcases hhead d hd with rfl | rfl <;> decide

/-- A word in quotation marks may stand behind anything but the start of a literal. -/
theorem absent_quotedKind_append (hl : quotedKind.Absent l) (hy : quotedKind.Absent y)
    (hw : ∀ c ∈ w, isWord c = true) :
    quotedKind.Absent (l ++ ("kind: String, // ".toList ++ ("'".toList ++ (w ++ "'".toList))) ++ y) := by
  have hquoted : quotedKind.Absent (w ++ '\'' :: y) := by
    rw [absent_quotedKind_iff]
    rintro _ ⟨v, hlen, hv, rfl⟩ ⟨x, z, h⟩
    have hsplit : x ++ ("kind: '".toList ++ (v ++ ("'".toList ++ z))) = w ++ '\'' :: y := by
      simpa using h
    rcases List.append_eq_append_iff.mp hsplit with ⟨x', rfl, hx⟩ | ⟨x', rfl, hx⟩
    · -- the word would be `kind`, with a colon behind it
      have hspan := span_unique (show "kind".toList ++ (": '".toList ++ (v ++ ("'".toList ++ z))) =
        x' ++ '\'' :: y by simpa using hx) (by decide)
        (fun c hc => hw c (List.mem_append_right _ hc)) rfl rfl
      exact absurd (List.cons.inj hspan.2).1 (by decide)
    · cases x' with
      | nil => exact absurd (List.cons.inj hx).1 (by decide)
      | cons d x' =>
        refine absent_quotedKind_iff.mp hy _ ⟨v, hlen, hv, rfl⟩ ⟨x', z, ?_⟩
        simpa using (List.cons.inj hx).2.symm
  have hright : quotedKind.Absent ("String, // '".toList ++ (w ++ '\'' :: y)) :=
    absent_append_of_begins (by decide) (by decide) hquoted
  have hleft : quotedKind.Absent (l ++ "kind: ".toList) :=
    absent_append_of_finishes (by decide) hl (by decide)
  have hseam : quotedKind.Apart (l ++ "kind: ".toList) ("String, // '".toList ++ (w ++ '\'' :: y)) := by
    intro c hc d hd
    rw [List.getLast?_append_of_ne_nil _ (by decide)] at hc
    obtain rfl : ' ' = c := by simpa using hc
    obtain rfl : 'S' = d := by simpa using hd
    decide
  simpa using absent_append hleft hright hseam

end Pattern

/-! ### Rules and traces -/

/-- Where the trace is absent there is nothing to replace. -/
theorem Substitution.apply_of_absent {s : Substitution} (hs : s.target.Solid) {p : Pattern}
    {edge text : List Char} (ht : s.target.Traced p edge) (h : p.Absent (edge ++ text)) :
    s.apply text = ⟨text, 0⟩ := by
  have hfree : s.target.Free [] text [] := by
    rintro x c y rfl ⟨r, hr⟩
    exact ht.not_absent _ _ r hr (by simpa using h)
  have := apply_eq_of_factors hs (.last hfree)
  simpa [spelled, rendered] using this

namespace Rule

/-- The trace of a rule, and the text at its edge; the other rules are not told by one. -/
def trace? : Rule → Option (Pattern × List Char)
  | optionalField => some (.optionalMark, [])
  | supersededTypeNode => some (.supersededLine, ['\n'])
  | optionalValue => some (.optionalValue, [])
  | importType => some (.importLine, ['\n'])
  | kindLiteral => some (.quotedKind, [])
  | _ => none

/-- The text has no trace of the rule. -/
def Cleared (r : Rule) (text : List Char) : Prop :=
  ∀ x ∈ r.trace?, x.1.Absent (x.2 ++ text)

/-- The rules with a trace make one substitution each, whose matches have the trace. -/
theorem exists_traced {r : Rule} {p : Pattern} {edge : List Char} (h : r.trace? = some (p, edge)) :
    ∃ s, r.substitutions = [s] ∧ s.target.Traced p edge := by
  cases r <;> cases h
  case optionalField => exact ⟨_, rfl, Target.traced_optionalField⟩
  case supersededTypeNode => exact ⟨_, rfl, Target.traced_supersededTypeNode⟩
  case optionalValue => exact ⟨_, rfl, Target.traced_optionalValue⟩
  case importType => exact ⟨_, rfl, Target.traced_importType⟩
  case kindLiteral => exact ⟨_, rfl, Target.traced_kindLiteral⟩

theorem count_eq_zero_of_cleared {r : Rule} (hr : r.trace?.isSome) {text : List Char}
    (h : r.Cleared text) : (r.apply text).count = 0 := by
  obtain ⟨⟨p, edge⟩, htrace⟩ := Option.isSome_iff_exists.mp hr
  obtain ⟨s, hs, htraced⟩ := exists_traced htrace
  have hsolid : s.target.Solid := solid_of_mem (r := r) (by rw [hs]; exact List.mem_singleton_self s)
  rw [apply_of_singleton hs, Substitution.apply_of_absent hsolid htraced (h _ htrace)]

theorem cleared_apply (r : Rule) (text : List Char) : r.Cleared (r.apply text).text := by
  rintro ⟨p, edge⟩ htrace
  obtain ⟨s, hs, htraced⟩ := exists_traced htrace
  have hsolid : s.target.Solid := solid_of_mem (r := r) (by rw [hs]; exact List.mem_singleton_self s)
  have hedge : ∀ c ∈ edge, c = '\n' := by
    cases r <;> cases htrace <;> decide
  rw [apply_of_singleton hs]
  refine Substitution.absent_apply_of_free hsolid hedge htraced.absent_of_free ?_ text
  intro place m l y hm hfits hl hy
  cases r <;> cases htrace <;> obtain rfl := (List.cons.inj hs).1
  case optionalField => exact Pattern.shields_optionalField hm l y hl hy
  case supersededTypeNode =>
    obtain ⟨r, hr, rfl, -⟩ := hm
    obtain ⟨g, w, rest, -, hline, hg, hw, rfl⟩ := Target.reads_supersededTypeNode_iff.mp hr
    have hput := Pattern.absent_supersededLine_append
      (w := "// typedef ".toList ++ (g ++ (" TypeNode ".toList ++ w))) hl hy (hfits hline)
      (by simp [hg, hw]) (by simp) (by simp)
    simpa [Replacement.render, Reading.toMatch, Reading.text] using hput
  case optionalValue =>
    have hshields : Pattern.optionalValue.Shields "?value:Null<String>".toList :=
      Pattern.shields_nullString (by simp)
    exact hshields l y hl hy
  case importType =>
    obtain ⟨w, rest, -, hline, hw, -, rfl⟩ := Target.chooses_importType_iff.mp hm
    have hshields : Pattern.importLine.Shields ('/' :: ("/ import type ".toList ++ w)) :=
      Pattern.shields_importLine_of_slash (by simp [hw])
    simpa [Replacement.render] using hshields l y hl hy
  case kindLiteral =>
    obtain ⟨w, z, rest, -, -, hw, -, rfl⟩ := Target.chooses_kindLiteral_iff.mp hm
    have := Pattern.absent_quotedKind_append hl hy hw
    simpa [Replacement.render] using this

end Rule

end HaxeTypedefs
