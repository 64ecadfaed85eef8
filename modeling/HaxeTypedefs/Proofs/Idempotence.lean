/-
Rules that leave nothing for themselves to do.

A rule settles when no target of it has a match in what the rule makes of a text.
Five rules remove their trace, and so does a sixth, `nullableToken`, whose trace is a
field with the white space and the line feed before it; `primitives` replaces each
annotation by one that it does not look for.  The seven others find in their own
output what they put there themselves.

* **`Rule.settles_iff`** — which rules settle;
* **`Rule.idempotent_iff`** — these rules, and no others, change nothing when they are
  applied for a second time.
-/
import HaxeTypedefs.Proofs.Line
import HaxeTypedefs.Proofs.PrimitiveType
import HaxeTypedefs.Proofs.Trace

namespace HaxeTypedefs

/-! ### The trace of a nullable token -/

namespace Pattern

/-- A field on an indented line: `\n\s+(prev|next):\s*Token \| null`.  The line feed is the one
before the line. -/
def tokenLine : Pattern :=
  .inOrder ["\n", Rule.someBlanks, .either "prev" "next", ":", Rule.optionalBlanks, "Token | null"]

theorem absent_tokenLine_iff {x : List Char} : tokenLine.Absent x ↔
    ∀ w, (∃ bl, ∃ name : Reading, ∃ bl', bl ≠ [] ∧ (∀ c ∈ bl, isBlank c = true) ∧
      (name = .left (.plain "prev".toList) ∨ name = .right (.plain "next".toList)) ∧
      (∀ c ∈ bl', isBlank c = true) ∧
        w = '\n' :: (bl ++ (name.text ++ (":".toList ++ (bl' ++ "Token | null".toList))))) →
      ¬ w <:+: x := by
  have hreads : ∀ b ahead r, (∃ u, tokenLine.Reads ⟨b, ahead⟩ r u) ↔ ∃ bl name bl' rest,
      ahead = "\n".toList ++
          (bl ++ (name.text ++ (":".toList ++ (bl' ++ ("Token | null".toList ++ rest))))) ∧
        (((∀ c ∈ bl, isBlank c = true) ∧ 1 ≤ bl.length) ∧
          (name = .left (.plain "prev".toList) ∨ name = .right (.plain "next".toList)) ∧
            ∀ c ∈ bl', isBlank c = true) ∧
        r = .pair (.plain "\n".toList) (.pair (.plain bl) (.pair name (.pair (.plain ":".toList)
          (.pair (.plain bl') (.plain "Token | null".toList))))) := by
    intro b ahead r
    simp only [tokenLine, Rule.someBlanks, Rule.optionalBlanks, inOrder, reads_seq_iff,
      reads_run_iff, reads_text_iff, Target.reads_eitherText_iff, existsAndEq, true_and, and_true,
      CharClass.has, Nat.zero_le]
    constructor
    · rintro ⟨name, bl, bl', rest, h⟩
      exact ⟨bl, name, bl', rest, h⟩
    · rintro ⟨bl, name, bl', rest, h⟩
      exact ⟨name, bl, bl', rest, h⟩
  apply absent_iff_of_reads
  · intro b ahead r hr
    obtain ⟨bl, name, bl', rest, -, ⟨⟨hbl, hlen⟩, hname, hbl'⟩, rfl⟩ := (hreads b ahead r).mp hr
    exact ⟨bl, name, bl', List.ne_nil_of_length_pos hlen, hbl, hname, hbl', rfl⟩
  · rintro w ⟨bl, name, bl', hne, hbl, hname, hbl', rfl⟩
    exact ⟨_, rfl, (hreads none _ _).mpr ⟨bl, name, bl', [], by simp,
      ⟨⟨hbl, List.length_pos_iff.mpr hne⟩, hname, hbl'⟩, rfl⟩⟩

end Pattern

namespace Target

theorem traced_nullableToken : nullableToken.Traced Pattern.tokenLine ['\n'] := by
  constructor
  · intro behind ahead r hr habsent
    obtain ⟨bl, name, bl', rest, h, hs, hne, hbl, hname, hbl', -⟩ := reads_nullableToken_iff.mp hr
    have hsplit : ahead =
        (bl ++ (name.text ++ (":".toList ++ (bl' ++ "Token | null".toList)))) ++ rest := by
      simpa using h
    rw [hsplit] at hs habsent
    exact Pattern.absent_tokenLine_iff.mp habsent _ ⟨bl, name, bl', hne, hbl, hname, hbl', rfl⟩
      (infix_of_atLineStart hs)
  · intro behind gap ahead e hfree he
    rw [Pattern.absent_tokenLine_iff]
    rintro _ ⟨bl, name, bl', hne, hbl, hname, hbl', rfl⟩ hline
    obtain ⟨x, y, rfl, hs⟩ := exists_line_of_infix he hline
    obtain ⟨c, bl, rfl⟩ := List.exists_cons_of_ne_nil hne
    refine hfree x c (bl ++ (name.text ++ (":".toList ++ (bl' ++ ("Token | null".toList ++ y)))))
      (by simp) ⟨_, reads_nullableToken_iff.mpr
        ⟨c :: bl, name, bl', y ++ ahead, by simp, hs _, hne, hbl, hname, hbl', rfl⟩⟩

end Target

/-! ### The rules that settle -/

theorem TypedefWith.append {name text : List Char} (h : TypedefWith name text) (y : List Char) :
    TypedefWith name (text ++ y) := by
  obtain ⟨g, w, rfl⟩ := h
  exact ⟨g, w ++ y, by simp only [List.append_assoc]⟩

namespace Rule

/-- The rule leaves nothing for its substitutions to do. -/
def Settles (r : Rule) : Prop :=
  ∀ text, ∀ s ∈ r.substitutions, s.apply (r.apply text).text = ⟨(r.apply text).text, 0⟩

theorem apply_eq_of_forall {r : Rule} {text : List Char}
    (h : ∀ s ∈ r.substitutions, s.apply text = ⟨text, 0⟩) : r.apply text = ⟨text, 0⟩ := by
  rw [apply_eq_applyAll]
  generalize r.substitutions = ss at h
  induction ss with
  | nil => rfl
  | cons s ss ih =>
    rw [Substitution.applyAll, h s List.mem_cons_self,
      ih fun s hs => h s (List.mem_cons_of_mem _ hs)]
    rfl

/-- A rule with one substitution settles if a text without its trace comes out. -/
theorem settles_of_traced {r : Rule} {s : Substitution} {p : Pattern} {edge : List Char}
    (hr : r.substitutions = [s]) (ht : s.target.Traced p edge)
    (h : ∀ text, p.Absent (edge ++ (r.apply text).text)) : r.Settles := by
  intro text s' hs'
  obtain rfl : s' = s := by simpa [hr] using hs'
  exact Substitution.apply_of_absent (solid_of_mem hs') ht (h text)

theorem settles_of_trace {r : Rule} (hr : r.trace?.isSome) : r.Settles := by
  obtain ⟨⟨p, edge⟩, htrace⟩ := Option.isSome_iff_exists.mp hr
  obtain ⟨s, hs, htraced⟩ := exists_traced htrace
  exact settles_of_traced hs htraced fun text => r.cleared_apply text _ htrace

theorem settles_nullableToken : nullableToken.Settles := by
  refine settles_of_traced (s := ⟨Target.nullableToken, .template "  ?" ": Null<Token>"⟩) rfl
    Target.traced_nullableToken fun text => ?_
  rw [apply_of_singleton (r := nullableToken) rfl]
  refine Substitution.absent_apply_of_free (by decide) (by decide)
    Target.traced_nullableToken.absent_of_free ?_ text
  intro place m l y hm _ hl hy
  obtain ⟨bl, name, bl', rest, -, -, -, -, hname, -, rfl⟩ := Target.chooses_nullableToken_iff.mp hm
  -- the type that is put in has no `T` with the rest of the old one behind it
  have hshields : Pattern.tokenLine.Shields ("  ?".toList ++ name ++ ": Null<Token>".toList) := by
    rcases hname with rfl | rfl
    · have hcuts : Pattern.tokenLine.Cuts "  ".toList "?prev: Null<Token".toList ">".toList := by
        simp only [String.reduceToList]
        decide
      exact hcuts.shields (by decide)
    · have hcuts : Pattern.tokenLine.Cuts "  ".toList "?next: Null<Token".toList ">".toList := by
        simp only [String.reduceToList]
        decide
      exact hcuts.shields (by decide)
  simpa [Replacement.render] using hshields l y hl hy

theorem settles_primitives : primitives.Settles := by
  intro text s hs
  obtain ⟨n, hn, rfl⟩ : ∃ n ∈ primitiveNames, Substitution.annotating n.1 n.2 = s :=
    List.mem_map.mp hs
  refine Substitution.apply_of_free (Target.solid_primitiveType n.1) ?_
  rw [apply_eq_applyAll]
  exact Substitution.free_primitiveType_applyAll (isTypeName_of_mem n hn)
    (fun n' hn' => ⟨isTypeName_of_mem n' hn', replacesName_of_mem n' hn' n hn⟩)
    (.inl (List.mem_map_of_mem hn))

/-- A typedef of the operation types is found again in the comment that is made of it. -/
theorem count_operationType_apply_apply {line : List Char} (hline : '\n' ∉ line)
    (h : (operationType.apply line).count ≠ 0) :
    (operationType.apply (operationType.apply line).text).count ≠ 0 := by
  rcases apply_operationType_of_line hline with ⟨x, y, rfl, hy, -, happly⟩ | ⟨-, happly⟩
  · -- what the typedef becomes, up to the line feed before the enumeration
    have hcomment : '\n' ∉ x ++ "//  ".toList ++ (y ++ " ".toList) := by
      rw [List.mem_append, not_or] at hline
      simp [hline.1, hline.2]
    have hagain : (operationType.apply (x ++ "//  ".toList ++ (y ++ " ".toList))).count ≠ 0 := by
      rcases apply_operationType_of_line hcomment with ⟨x', y', -, -, -, hone⟩ | ⟨hno, -⟩
      · rw [hone]
        exact Nat.one_ne_zero
      · exact absurd (hy.append " ".toList) (hno _ _ rfl)
    have hlines : (operationType.apply (x ++ y)).text =
        x ++ "//  ".toList ++ (y ++ " ".toList) ++ '\n' :: operationTypes.render.toList := by
      rw [happly]
      simp
    rw [hlines, parts_of_mem_lineRules (by decide) _]
    exact fun hsum => hagain (Nat.eq_zero_of_add_eq_zero_right hsum)
  · exact absurd (congrArg Outcome.count happly) h

/-- A text that a rule has something to replace in, and again in what came of it, if the rule does
not settle. -/
def unsettled? : Rule → Option String
  | exportType => some "export type"
  | variance => some "  ++"
  | multiLineUnion => some "Node =\n |Node =\n |;"
  | singleLineUnion => some "Node = a |Node = b |;"
  | typeNodeUnion => some "NamedTypeNode | ListTypeNode"
  | readOnlyArray => some "$ReadOnlyArray"
  | operationType => some "typedef  OperationTypeNode"
  | _ => none

theorem count_apply_apply_of_unsettled {r : Rule} {text : String} (h : r.unsettled? = some text) :
    (r.apply (r.apply text.toList).text).count ≠ 0 := by
  cases r <;> cases h
  case operationType => exact count_operationType_apply_apply (by decide) (by decide)
  all_goals decide

theorem settles_iff {r : Rule} : r.Settles ↔
    r ∈ [optionalField, primitives, supersededTypeNode, nullableToken, optionalValue, importType,
      kindLiteral] := by
  constructor
  · intro h
    -- a rule that settles has no text with replacements in what came of it
    have hnone : r.unsettled? = none := by
      cases hr : r.unsettled? with
      | none => rfl
      | some text =>
        refine absurd ?_ (count_apply_apply_of_unsettled hr)
        rw [apply_eq_of_forall (h text.toList)]
    revert hnone
    cases r <;> decide
  · intro hr
    cases r
    case primitives => exact settles_primitives
    case nullableToken => exact settles_nullableToken
    case optionalField | supersededTypeNode | optionalValue | importType | kindLiteral =>
      exact settles_of_trace rfl
    all_goals exact absurd hr (by decide)

/-- The seven rules, and no others, have nothing to replace in what they made of a text, in any of
their substitutions. -/
theorem idempotent_iff (r : Rule) :
    (∀ text,
      r.apply (r.apply text).text = ⟨(r.apply text).text, 0⟩ ∧
        ∀ s ∈ r.substitutions, s.apply (r.apply text).text = ⟨(r.apply text).text, 0⟩) ↔
      r ∈ [optionalField, primitives, supersededTypeNode, nullableToken, optionalValue, importType,
        kindLiteral] := by
  rw [← settles_iff]
  constructor
  · intro h text
    exact (h text).2
  · intro h text
    exact ⟨apply_eq_of_forall (h text), h text⟩

end Rule

end HaxeTypedefs
