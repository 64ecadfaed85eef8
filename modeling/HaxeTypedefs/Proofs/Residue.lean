/-
No rule brings back what an earlier one has removed.

The trace of a rule stays absent through every later rule of the run: what a later
rule puts in shields the text around it, or goes with the text around it by an
argument of its own.  So the rule finds nothing to replace in the text that a run
leaves.

* **`Rule.Cleared.apply`** — a later rule keeps the trace absent;
* **`Run.count_apply_text_of`** — applied again to the text of a run, the five rules replace
  nothing.
-/
import HaxeTypedefs.Proofs.Seam
import HaxeTypedefs.Proofs.Trace

namespace HaxeTypedefs

/-- A rule with one substitution keeps a pattern absent if what it puts in shields. -/
theorem Rule.absent_edge_apply_of_shielded {r : Rule} {s : Substitution}
    (hr : r.substitutions = [s]) {p : Pattern} (h : s.Shielded p) {edge text : List Char}
    (hedge : ∀ c ∈ edge, c = '\n') (ht : p.Absent (edge ++ text)) :
    p.Absent (edge ++ (r.apply text).text) := by
  rw [apply_of_singleton hr]
  refine Substitution.absent_apply_of_shielded (solid_of_mem (r := r) ?_) hedge h ht
  rw [hr]
  exact List.mem_singleton_self s

theorem Rule.absent_apply_of_shielded {r : Rule} {s : Substitution} (hr : r.substitutions = [s])
    {p : Pattern} (h : s.Shielded p) {text : List Char} (ht : p.Absent text) :
    p.Absent (r.apply text).text :=
  @absent_edge_apply_of_shielded r s hr p h [] text (by simp) ht

namespace Pattern

variable {p : Pattern} {l y w : List Char} {c d : Char}

/-- The lines that the last rule puts below a match: between a space and the last line feed they
have no trace, and behind the match no line of theirs has one.  All facts about them stand here, so
that they are spelled out once. -/
theorem operationTypes_lines :
    (∀ p ∈ [optionalMark, optionalValue, quotedKind],
      p.Cuts [' '] ("\n".toList ++ operationTypes.render.toList.dropLast) ['\n']) ∧
    (∀ p ∈ [importLine, supersededLine],
      ∃ v ∈ p.needs, ¬ v <:+: "\n".toList ++ operationTypes.render.toList) ∧
    operationTypes.render.toList = operationTypes.render.toList.dropLast ++ ['\n'] := by
  rw [toList_render_operationTypes]
  iterate 5 rw [String.toList_ofList]
  decide +kernel

/-! What the later rules put in shields the traces of the earlier ones. -/

theorem shields_lineComment (hp : p ∈ [optionalMark, optionalValue]) : p.Shields "// ".toList := by
  have hcuts : ∀ p ∈ [optionalMark, optionalValue], p.Cuts ['/'] ['/'] [' '] := by decide
  exact (hcuts p hp).shields (by decide)

theorem shields_kindString (hp : p ∈ [optionalMark, optionalValue, importLine]) :
    p.Shields "kind: String, // ".toList := by
  have hcuts : ∀ p ∈ [optionalMark, optionalValue, importLine],
      p.Cuts ['k'] "ind: String, //".toList [' '] := by
    simp only [String.reduceToList]
    decide
  exact (hcuts p hp).shields (by decide)

theorem shields_array (hp : p ∈ [optionalValue, importLine, quotedKind, .text " TypeNode ".toList]) :
    p.Shields "/* $ReadOnlyArray */Array".toList := by
  have hcuts : ∀ p ∈ [optionalValue, importLine, quotedKind, .text " TypeNode ".toList],
      p.Cuts ['/'] "* $ReadOnlyArray */".toList "Array".toList := by
    simp only [String.reduceToList]
    decide
  exact (hcuts p hp).shields (by decide)

theorem shielded_operationType (hp : p ∈ [optionalMark, optionalValue, quotedKind]) :
    Substitution.Shielded p ⟨Target.operationType, .supersede operationTypes.render⟩ := by
  obtain ⟨hcuts, -, hsplit⟩ := operationTypes_lines
  have hopening : ∀ p ∈ [optionalMark, optionalValue, quotedKind],
      p.Cuts ['/'] "/ ".toList [' '] := by
    simp only [String.reduceToList]
    decide
  have hbreak : ∀ block : List Char, " \n".toList ++ block = [' '] ++ ("\n".toList ++ block) :=
    fun _ => rfl
  refine ⟨(hopening p hp).shields (by decide), (hcuts p hp).shields ?_⟩
  rw [List.append_assoc, List.append_assoc, ← hsplit]
  exact hbreak _

/-- A literal of a kind that becomes a comment. -/
theorem absent_kindLiteral_apply {edge text : List Char} (hedge : ∀ c ∈ edge, c = '\n')
    (hopening : p.Shields "kind: String, // ".toList) (hquote : ∀ d, p.joins '\'' d = false)
    (h : p.Absent (edge ++ text)) :
    p.Absent (edge ++ (Rule.kindLiteral.apply text).text) := by
  rw [Rule.apply_of_singleton (r := .kindLiteral) rfl]
  refine Substitution.absent_apply (by decide) hedge ?_ h
  intro place m l y hm _ habsent
  obtain ⟨w, z, rest, -, -, -, -, rfl⟩ := Target.chooses_kindLiteral_iff.mp hm
  have hl : p.Absent l := habsent.of_infix ⟨[], _, by simp; rfl⟩
  have hmarked : p.Absent ("'".toList ++ (w ++ "'".toList)) :=
    habsent.of_infix ⟨l ++ "kind: ".toList, z ++ y, by simp [Match.text]⟩
  have hy : p.Absent y := habsent.of_infix (List.suffix_append _ _).isInfix
  have hright : p.Absent ("'".toList ++ (w ++ "'".toList) ++ y) := by
    refine absent_append hmarked hy ?_
    intro c hc d _
    rw [List.getLast?_append_of_ne_nil _ (by simp), List.getLast?_append_of_ne_nil _ (by simp)] at hc
    obtain rfl : '\'' = c := by simpa using hc
    exact hquote d
  have := hopening l _ hl hright
  simpa [Replacement.render] using this

/-! ### Optional fields -/

/-- What ends with a word gives way to another text: if the text behind goes with the one, it goes
with the other. -/
theorem absent_optionalMark_replace (hl : optionalMark.Absent l) (hw : optionalMark.Absent w)
    (hleft : optionalMark.Apart l w) (hright : optionalMark.Apart w [d]) (hne : w ≠ [])
    (hc : isWord c = true) (hy : optionalMark.Absent (c :: y)) :
    optionalMark.Absent (l ++ (w ++ d :: y)) := by
  have hy' : optionalMark.Absent (d :: y) := by
    rw [absent_optionalMark_iff] at hy ⊢
    rintro _ ⟨e, he, rfl⟩ hpart
    rcases List.infix_cons_iff.mp hpart with ⟨z, hz⟩ | hpart
    · refine hy _ ⟨c, hc, rfl⟩ ⟨[], z, ?_⟩
      rw [List.nil_append, ← (List.cons.inj hz).2]
      rfl
    · exact hy _ ⟨e, he, rfl⟩ (hpart.trans (List.suffix_cons c y).isInfix)
  refine absent_append hl (absent_append hw hy' hright) ?_
  intro a ha b hb
  rw [List.head?_append_of_ne_nil _ hne] at hb
  exact hleft a ha b hb

/-- The primitive types end with a word character, as the names that they become do, or the comment
behind one. -/
theorem absent_optionalMark_primitiveType {primitive haxe : String} {text : List Char}
    {front : List Char} {c : Char} (hp : primitive.toList = front ++ [c])
    (hword : ∀ c ∈ primitive.toList, isWord c = true)
    (hput : ∃ w d, haxe.toList = ":".toList ++ (w ++ [d]) ∧ w ≠ [] ∧ optionalMark.Absent w ∧
      optionalMark.Apart ":".toList w ∧ optionalMark.Apart w [d])
    (h : optionalMark.Absent text) :
    optionalMark.Absent
      ((⟨Rule.primitiveType primitive, .literal haxe⟩ : Substitution).apply text).text := by
  have hne : primitive.toList ≠ [] := by simp [hp]
  refine @Substitution.absent_apply _ _ [] ?_ (by simp) ?_ text h
  · exact Target.solid_primitiveType primitive
  intro place m l y hm _ habsent
  obtain ⟨bl, rest, -, -, -, rfl⟩ := (Target.chooses_primitiveType_iff hne hword).mp hm
  obtain ⟨w, d, hhaxe, hwne, hw, hcolon, hend⟩ := hput
  have hl : optionalMark.Absent (l ++ ":".toList) :=
    habsent.of_infix ⟨[], bl ++ primitive.toList ++ y, by simp [Match.text]⟩
  have hy : optionalMark.Absent (c :: y) :=
    habsent.of_infix ⟨l ++ ":".toList ++ bl ++ front, [], by simp [Match.text, hp]⟩
  have hleft : optionalMark.Apart (l ++ ":".toList) w := by
    intro a ha b hb
    rw [List.getLast?_append_of_ne_nil _ (by decide)] at ha
    exact hcolon a ha b hb
  have := absent_optionalMark_replace hl hw hleft hend hwne (hword c (by simp [hp])) hy
  simpa [Replacement.render, hhaxe] using this

theorem absent_optionalMark_primitives {text : List Char} (h : optionalMark.Absent text) :
    optionalMark.Absent (Rule.primitives.apply text).text := by
  have hput : ∀ w d, (∃ v ∈ optionalMark.needs, ¬ v <:+: w) ∧ optionalMark.Apart ":".toList w ∧
      optionalMark.Apart w [d] → w ≠ [] → ∀ haxe : String, haxe.toList = ":".toList ++ (w ++ [d]) →
        ∃ w d, haxe.toList = ":".toList ++ (w ++ [d]) ∧ w ≠ [] ∧ optionalMark.Absent w ∧
          optionalMark.Apart ":".toList w ∧ optionalMark.Apart w [d] := by
    rintro w d ⟨⟨v, hv, hw⟩, hcuts⟩ hne haxe heq
    exact ⟨w, d, heq, hne, absent_of_needs hv hw, hcuts⟩
  have hboolean := absent_optionalMark_primitiveType (show "boolean".toList = "boolea".toList ++ ['n']
    by decide) (by decide) (hput "Boo".toList 'l' (by
      simp only [String.reduceToList]
      decide) (by decide) ":Bool" (by decide)) h
  have hstring := absent_optionalMark_primitiveType (show "string".toList = "strin".toList ++ ['g']
    by decide) (by decide) (hput "Strin".toList 'g' (by
      simp only [String.reduceToList]
      decide) (by decide) ":String" (by decide)) hboolean
  have hnumber := absent_optionalMark_primitiveType (show "number".toList = "numbe".toList ++ ['r']
    by decide) (by decide) (hput "Int /* number *".toList '/' (by
      simp only [String.reduceToList]
      decide) (by decide) ":Int /* number */" (by decide)) hstring
  rw [Rule.apply_eq_applyAll]
  exact hnumber

theorem absent_optionalMark_variance {text : List Char} (h : optionalMark.Absent text) :
    optionalMark.Absent (Rule.variance.apply text).text := by
  rw [Rule.apply_of_singleton (r := .variance) rfl]
  refine @Substitution.absent_apply _ _ [] (by decide) (by simp) ?_ text h
  intro place m l y hm _ habsent
  obtain ⟨bl, rest, -, -, hne, hbl, rfl⟩ := Target.chooses_variance_iff.mp hm
  have hleft : optionalMark.Absent (l ++ bl) :=
    habsent.of_infix ⟨[], "+".toList ++ y, by simp [Match.text]⟩
  have hy : optionalMark.Absent y := habsent.of_infix (List.suffix_append _ _).isInfix
  have hseam : optionalMark.Apart (l ++ bl) y := by
    intro c hc d _
    rw [List.getLast?_append_of_ne_nil _ hne] at hc
    have hblank := hbl c (List.mem_of_getLast? hc)
    rw [Bool.eq_false_iff, ne_eq, joins_optionalMark_iff]
    rintro (⟨rfl, -⟩ | ⟨hword, -⟩)
    · exact absurd hblank (by decide)
    · rw [isWord_eq_false_of_isBlank hblank] at hword
      cases hword
  simpa [Replacement.render] using absent_append hleft hy hseam

theorem absent_optionalMark_nullableToken {text : List Char} (h : optionalMark.Absent text) :
    optionalMark.Absent (Rule.nullableToken.apply text).text := by
  rw [Rule.apply_of_singleton (r := .nullableToken) rfl]
  refine @Substitution.absent_apply _ _ [] (by decide) (by simp) ?_ text h
  intro place m l y hm _ habsent
  obtain ⟨bl, name, bl', rest, -, -, -, -, hname, -, rfl⟩ := Target.chooses_nullableToken_iff.mp hm
  have hl : optionalMark.Absent l := habsent.of_infix ⟨[], _, by simp; rfl⟩
  have hy : optionalMark.Absent y := habsent.of_infix (List.suffix_append _ _).isInfix
  have hshields : ∀ name, name = "prev".toList ∨ name = "next".toList →
      optionalMark.Shields ("  ?".toList ++ name ++ ": Null<Token>".toList) := by
    rintro _ (rfl | rfl)
    · exact (show optionalMark.Cuts [' '] " ?prev: Null<Token".toList ['>'] by
        simp only [String.reduceToList]
        decide).shields (by decide)
    · exact (show optionalMark.Cuts [' '] " ?next: Null<Token".toList ['>'] by
        simp only [String.reduceToList]
        decide).shields (by decide)
  exact hshields name hname l y hl hy

theorem absent_optionalMark_readOnlyArray {text : List Char} (h : optionalMark.Absent text) :
    optionalMark.Absent (Rule.readOnlyArray.apply text).text := by
  rw [Rule.apply_of_singleton (r := .readOnlyArray) rfl]
  refine @Substitution.absent_apply _ _ [] (by decide) (by simp) ?_ text h
  intro place m l y hm _ habsent
  obtain ⟨rest, -, rfl⟩ := (Target.chooses_text_iff (by decide)).mp hm
  have hl : optionalMark.Absent l := habsent.of_infix ⟨[], _, by simp; rfl⟩
  have hy : optionalMark.Absent ('y' :: y) :=
    habsent.of_infix ⟨l ++ "$ReadOnlyArra".toList, [], by simp [Match.text]⟩
  have hw : optionalMark.Absent "/* $ReadOnlyArray */Arra".toList := by
    refine absent_of_needs (show "?:".toList ∈ optionalMark.needs by decide) ?_
    simp only [String.reduceToList]
    decide
  have hleft : optionalMark.Apart l "/* $ReadOnlyArray */Arra".toList := by
    intro c _ d hd
    obtain rfl : '/' = d := by simpa using hd
    rw [Bool.eq_false_iff, ne_eq, joins_optionalMark_iff]
    simp
  have hright : optionalMark.Apart "/* $ReadOnlyArray */Arra".toList ['y'] := by
    simp only [String.reduceToList]
    decide
  have := absent_optionalMark_replace hl hw hleft hright (by decide) (by decide) hy
  simpa [Replacement.render] using this

theorem absent_optionalMark_apply {r : Rule} (hr : Rule.optionalField.number < r.number)
    {text : List Char} (h : optionalMark.Absent text) : optionalMark.Absent (r.apply text).text := by
  have hline : optionalMark.Shields "// ".toList := shields_lineComment (by simp)
  have hopening : optionalMark.Shields "Node = BaseNode; /* ".toList :=
    (show optionalMark.Cuts ['N'] "ode = BaseNode; /*".toList [' '] by
      simp only [String.reduceToList]
      decide).shields (by decide)
  have hclosing : optionalMark.Shields " */".toList :=
    (show optionalMark.Cuts [' '] ['*'] ['/'] by decide).shields (by decide)
  cases r
  case exportType | optionalField => exact absurd hr (by decide)
  case primitives => exact absent_optionalMark_primitives h
  case variance => exact absent_optionalMark_variance h
  case multiLineUnion =>
    exact Rule.absent_apply_of_shielded (r := .multiLineUnion) rfl ⟨hopening, .inl hclosing⟩ h
  case singleLineUnion =>
    exact Rule.absent_apply_of_shielded (r := .singleLineUnion) rfl ⟨hopening, .inl hclosing⟩ h
  case typeNodeUnion =>
    refine Rule.absent_apply_of_shielded (r := .typeNodeUnion) rfl ?_ h
    exact (show optionalMark.Cuts ['T'] "ypeNode /* NamedTypeNode | ListTypeNode *".toList ['/'] by
      simp only [String.reduceToList]
      decide).shields (by decide)
  case supersededTypeNode =>
    exact Rule.absent_apply_of_shielded (r := .supersededTypeNode) rfl ⟨hline, .inr ⟨rfl, rfl⟩⟩ h
  case nullableToken => exact absent_optionalMark_nullableToken h
  case optionalValue =>
    exact Rule.absent_apply_of_shielded (r := .optionalValue) rfl (shields_nullString (by simp)) h
  case importType =>
    exact Rule.absent_apply_of_shielded (r := .importType) rfl ⟨hline, .inr ⟨rfl, rfl⟩⟩ h
  case kindLiteral =>
    refine @absent_kindLiteral_apply optionalMark [] text (by simp) (shields_kindString (by simp)) ?_ h
    intro d
    rw [Bool.eq_false_iff, ne_eq, joins_optionalMark_iff]
    rintro (⟨hquote, -⟩ | ⟨hquote, -⟩)
    · exact absurd hquote (by decide)
    · exact absurd hquote (by decide)
  case readOnlyArray => exact absent_optionalMark_readOnlyArray h
  case operationType =>
    exact Rule.absent_apply_of_shielded (r := .operationType) rfl
      (shielded_operationType (by simp)) h

/-! ### Optional values and literals of kinds -/

theorem absent_optionalValue_apply {r : Rule} (hr : Rule.optionalValue.number < r.number)
    {text : List Char} (h : optionalValue.Absent text) :
    optionalValue.Absent (r.apply text).text := by
  cases r
  case importType =>
    exact Rule.absent_apply_of_shielded (r := .importType) rfl
      ⟨shields_lineComment (by simp), .inr ⟨rfl, rfl⟩⟩ h
  case kindLiteral =>
    refine @absent_kindLiteral_apply optionalValue [] text (by simp) (shields_kindString (by simp)) ?_ h
    intro d
    simp [optionalValue, joins, hasPair]
  case readOnlyArray =>
    exact Rule.absent_apply_of_shielded (r := .readOnlyArray) rfl (shields_array (by simp)) h
  case operationType =>
    exact Rule.absent_apply_of_shielded (r := .operationType) rfl
      (shielded_operationType (by simp)) h
  all_goals exact absurd hr (by decide)

theorem absent_quotedKind_apply {r : Rule} (hr : Rule.kindLiteral.number < r.number)
    {text : List Char} (h : quotedKind.Absent text) : quotedKind.Absent (r.apply text).text := by
  cases r
  case readOnlyArray =>
    exact Rule.absent_apply_of_shielded (r := .readOnlyArray) rfl (shields_array (by simp)) h
  case operationType =>
    exact Rule.absent_apply_of_shielded (r := .operationType) rfl
      (shielded_operationType (by simp)) h
  all_goals exact absurd hr (by decide)

/-! ### The last rule

It puts in whole lines, the last of them below the match, which goes to the end of its line. -/

theorem rest_of_operationType {behind rest : List Char} {m : Match}
    (hm : Target.operationType.Chooses (.between behind (m.text ++ rest)) m) :
    (∀ c ∈ rest.head?, c = '\n') ∧ ∃ g w, '\n' ∉ g ∧ '\n' ∉ w ∧
      m.text = "typedef ".toList ++ (g ++ (" OperationTypeNode".toList ++ w)) := by
  obtain ⟨g, w, rest', h, hg, hw, hrest, rfl⟩ := Target.chooses_operationType_iff.mp hm
  have heq : rest = rest' := by simpa [Match.text] using h
  refine ⟨?_, g, w, hg, hw, by simp [Match.text]⟩
  intro c hc
  rw [← heq, Option.mem_def.mp hc] at hrest
  simpa using hrest

/-- A gap before a match is not empty where what comes first is a line feed. -/
theorem head?_gap_of_factors {behind gap gap' : List Char} {m : Match} {ms : List (Match × List Char)}
    (h : Target.operationType.Factors behind gap ((m, gap') :: ms))
    (hhead : ∀ c ∈ (spelled gap ((m, gap') :: ms)).head?, c = '\n') : gap.head? = some '\n' := by
  cases h with
  | next _ _ hm _ =>
    obtain ⟨-, g, w, -, -, htext⟩ := rest_of_operationType hm
    cases gap with
    | nil => exact absurd (hhead 't' (by simp [spelled, htext])) (by decide)
    | cons c gap =>
      rw [hhead c (by simp [spelled])]
      rfl

/-- Replacing leaves the line feed that a text begins with. -/
theorem head?_rendered_operationType {behind gap : List Char} {ms : List (Match × List Char)}
    (h : Target.operationType.Factors behind gap ms)
    (hhead : ∀ c ∈ (spelled gap ms).head?, c = '\n') {r : Replacement} :
    ∀ c ∈ ((⟨Target.operationType, r⟩ : Substitution).rendered gap ms).head?, c = '\n' := by
  cases ms with
  | nil => simpa [Substitution.rendered, spelled] using hhead
  | cons x ms =>
    have hgap := head?_gap_of_factors h hhead
    cases gap with
    | nil => cases hgap
    | cons d gap =>
      obtain rfl : d = '\n' := by simpa using hgap
      simp [Substitution.rendered]

/-- The substitution that the last rule makes. -/
def operationSubstitution : Substitution :=
  ⟨Target.operationType, .supersede operationTypes.render⟩

/-- What stands before a match of the last rule is the text as it was searched, and what stands
behind begins with the line feed at the end of the line. -/
theorem absent_operationType_apply {edge text : List Char}
    (hput : ∀ behind gap rest m y, Target.operationType.Free behind gap (m.text ++ rest) →
      Target.operationType.Chooses (.between (behind ++ gap) (m.text ++ rest)) m →
      (behind = [] ∨ gap.head? = some '\n') → (∀ c ∈ y.head?, c = '\n') →
      p.Absent (edge ++ (behind ++ gap) ++ m.text ++ y) →
      p.Absent (edge ++ (behind ++ gap) ++
        ("//  ".toList ++ m.text ++ " \n".toList ++ operationTypes.render.toList) ++ y))
    (h : p.Absent (edge ++ text)) : p.Absent (edge ++ (Rule.operationType.apply text).text) := by
  -- by the matches from the last one on, so that what stands before each is not yet replaced
  have hall : ∀ {behind gap ms}, Target.operationType.Factors behind gap ms →
      (behind = [] ∨ ∀ c ∈ (spelled gap ms).head?, c = '\n') →
      p.Absent (edge ++ behind ++ spelled gap ms) →
        p.Absent (edge ++ behind ++ operationSubstitution.rendered gap ms) := by
    intro behind gap ms hf
    induction hf with
    | last _ => simp [spelled, Substitution.rendered]
    | @next behind gap gap' m ms hfree hne hm hrest ih =>
      intro hstart habsent
      obtain ⟨hend, -⟩ := rest_of_operationType hm
      have hright := ih (.inr hend) (by simpa [spelled] using habsent)
      have hdone := hput behind gap _ m (operationSubstitution.rendered gap' ms) hfree hm
        (hstart.imp_right (head?_gap_of_factors (.next hfree hne hm hrest)))
        (head?_rendered_operationType hrest hend) (by simpa using hright)
      have hrender : operationSubstitution.replacement.render m =
          "//  ".toList ++ m.text ++ " \n".toList ++ operationTypes.render.toList := rfl
      rw [← hrender] at hdone
      simpa [Substitution.rendered] using hdone
  rw [Rule.apply_of_singleton (r := .operationType) (s := operationSubstitution) rfl]
  have hsolid : operationSubstitution.target.Solid := by decide
  obtain ⟨gap, ms, rfl, hf⟩ := Target.exists_factors hsolid [] text
  rw [Substitution.apply_eq_of_factors hsolid hf]
  simpa using hall hf (.inl rfl) (by simpa using h)

/-- The lines below a match of the last rule, and what stands behind them. -/
theorem absent_operationTypes_append (hp : p ∈ [importLine, supersededLine]) (hy : p.Absent y)
    (hhead : ∀ c ∈ y.head?, c = '\n') :
    p.Absent ("\n".toList ++ operationTypes.render.toList ++ y) := by
  obtain ⟨-, hneeds, hsplit⟩ := operationTypes_lines
  obtain ⟨v, hv, hnot⟩ := hneeds p hp
  have hjoins : ∀ p ∈ [importLine, supersededLine], p.joins '\n' '\n' = false := by
    decide
  refine absent_append (absent_of_needs hv hnot) hy ?_
  intro c hc d hd
  rw [hhead d hd]
  rw [hsplit, ← List.append_assoc, List.getLast?_concat] at hc
  obtain rfl : '\n' = c := by simpa using hc
  exact hjoins p hp

/-! ### Imports -/

/-- The last rule makes a comment of the rest of a line, and there is no import on the lines below. -/
theorem absent_importLine_operationType {text : List Char} (h : importLine.Absent (['\n'] ++ text)) :
    importLine.Absent (['\n'] ++ (Rule.operationType.apply text).text) := by
  refine absent_operationType_apply ?_ h
  intro behind gap rest m y _ hm _ hhead habsent
  obtain ⟨-, g, w, hg, hw, htext⟩ := rest_of_operationType hm
  have hcomment : importLine.Shields ("//  ".toList ++ m.text ++ " ".toList) :=
    shields_importLine_of_slash (w := "/  ".toList ++ m.text ++ " ".toList) (by simp [htext, hg, hw])
  have hleft : importLine.Absent (['\n'] ++ (behind ++ gap)) :=
    habsent.of_infix ⟨[], m.text ++ y, by simp⟩
  have hy : importLine.Absent y := habsent.of_infix (List.suffix_append _ _).isInfix
  have hput := hcomment _ _ hleft (absent_operationTypes_append (show importLine ∈ _ by simp) hy hhead)
  rw [show " \n".toList = " ".toList ++ "\n".toList by decide]
  simpa only [List.append_assoc] using hput

theorem absent_importLine_apply {r : Rule} (hr : Rule.importType.number < r.number)
    {text : List Char} (h : importLine.Absent (['\n'] ++ text)) :
    importLine.Absent (['\n'] ++ (r.apply text).text) := by
  cases r
  case kindLiteral =>
    refine absent_kindLiteral_apply (by decide) (shields_kindString (by simp)) ?_ h
    intro d
    simp [importLine, joins, hasPair]
  case readOnlyArray =>
    exact Rule.absent_edge_apply_of_shielded (r := .readOnlyArray) rfl (shields_array (by simp))
      (by decide) h
  case operationType => exact absent_importLine_operationType h
  all_goals exact absurd hr (by decide)

/-! ### Superseded lines

A trace of these can begin far to the left of a replacement and end far to the right, so that the
whole line counts. -/

/-- A text that begins with the key in two texts put together. -/
theorem infix_append_of_head {key v x z : List Char} (hz : ∀ c ∈ z.head?, c ∉ key)
    (h : key ++ v <:+: x ++ z) :
    key ++ v <:+: x ∨ key ++ v <:+: z ∨ ∃ q q', key ++ q <:+ x ∧ v = q ++ q' ∧ q' <+: z := by
  rcases List.infix_append_iff_ne_nil.mp h with h | h | ⟨a, b, -, hb, hab, hax, hbz⟩
  · exact .inl h
  · exact .inr (.inl h)
  · refine .inr (.inr ?_)
    rcases List.append_eq_append_iff.mp hab with ⟨q, rfl, hv⟩ | ⟨q, hkey, hbq⟩
    · exact ⟨q, b, hax, hv, hbz⟩
    · cases q with
      | nil =>
        refine ⟨[], b, ?_, by simpa using hbq.symm, hbz⟩
        rw [List.append_nil, hkey, List.append_nil]
        exact hax
      | cons c q =>
        obtain ⟨z', rfl⟩ := hbz
        refine absurd ?_ (hz c (by simp [hbq]))
        simp [hkey]

/-- A start of two texts put together has a start of the second one, if only the empty one. -/
theorem exists_prefix_of_prefix_append {q x y : List Char} (h : q <+: x ++ y) :
    ∃ y', y' <+: y ∧ q <+: x ++ y' ∧ y' ⊆ q := by
  obtain ⟨z, hz⟩ := h
  rcases List.append_eq_append_iff.mp hz with ⟨a, ha, -⟩ | ⟨a, ha, hay⟩
  · exact ⟨[], List.nil_prefix, ⟨a, by rw [List.append_nil]; exact ha.symm⟩, List.nil_subset _⟩
  · exact ⟨a, ⟨z, hay.symm⟩, ⟨[], by simp [ha]⟩, by simp [ha]⟩

/-- A replacement in a line keeps the line from being superseded if it has nothing of what makes it
so. -/
theorem absent_supersededLine_replace {m : List Char} (hm : '\n' ∉ m) (hw : '\n' ∉ w)
    (hne : w ≠ []) (hhead : ∀ c ∈ w.head?, c ∉ "\ntypedef ".toList)
    (hshields : (Pattern.text " TypeNode ".toList).Shields w)
    (h : supersededLine.Absent (l ++ m ++ y)) : supersededLine.Absent (l ++ w ++ y) := by
  have hbelow : supersededLine.Absent (w ++ y) := by
    refine absent_append_of_begins (by decide) ?_ (h.of_infix (List.suffix_append _ _).isInfix)
    intro c hc
    rw [Bool.eq_false_iff, ne_eq, begins_supersededLine_iff]
    rintro rfl
    exact hw hc
  rw [absent_supersededLine_iff] at h hbelow ⊢
  rintro _ ⟨g, hg, rfl⟩ hpart
  rw [List.append_assoc] at hpart
  have hz : ∀ c ∈ (w ++ y).head?, c ∉ "\ntypedef ".toList := by
    rwa [List.head?_append_of_ne_nil _ hne]
  rcases infix_append_of_head hz hpart with hl | hr | ⟨q, q', ⟨x, rfl⟩, hv, hq'⟩
  · -- the line lies before the replacement
    refine h _ ⟨g, hg, rfl⟩ (hl.trans ?_)
    rw [List.append_assoc]
    exact (List.prefix_append _ _).isInfix
  · exact hbelow _ ⟨g, hg, rfl⟩ hr
  · -- the line begins before the replacement and goes on in it: the name is on one side of it
    have hline : '\n' ∉ q ++ q' := by
      rw [← hv]
      simp [hg]
    rw [List.mem_append, not_or] at hline
    obtain ⟨y', ⟨z', rfl⟩, ⟨z, hz⟩, hsub⟩ := exists_prefix_of_prefix_append hq'
    have hlit : " TypeNode ".toList <:+: q ++ w ++ y' := by
      have hsuffix : " TypeNode ".toList <:+: q ++ q' := hv ▸ (List.suffix_append _ _).isInfix
      exact hsuffix.trans ⟨[], z, by simp [← hz]⟩
    have hcases : " TypeNode ".toList <:+: q ∨ " TypeNode ".toList <:+: y' := by
      by_contra hno
      rw [not_or] at hno
      exact absent_text_iff.mp
        (hshields q y' (absent_text_iff.mpr hno.1) (absent_text_iff.mpr hno.2)) hlit
    rcases hcases with ⟨g', t, hgt⟩ | ⟨g', t, hgt⟩
    · refine h _ ⟨g', fun hmem => hline.1 (by simp [← hgt, hmem]), rfl⟩ ⟨x, t ++ m ++ (y' ++ z'), ?_⟩
      simp [← hgt]
    · have hgap : '\n' ∉ q ++ m ++ g' := by
        intro hmem
        simp only [List.mem_append, hline.1, hm, false_or] at hmem
        exact hline.2 (hsub (by simp [← hgt, hmem]))
      exact h _ ⟨_, hgap, rfl⟩ ⟨x, t ++ z', by simp [← hgt]⟩

/-- The last line of a text lies in its last part, if this is all of the text or begins with a line
feed. -/
theorem suffix_of_line {behind gap : List Char} (hgap : behind = [] ∨ gap.head? = some '\n')
    (hw : '\n' ∉ w) (h : '\n' :: w <:+ '\n' :: (behind ++ gap)) : w <:+ gap := by
  have hwhole : '\n' :: w <:+ gap → w <:+ gap := fun h => (List.suffix_cons _ _).trans h
  rcases hgap with rfl | hgap
  · rcases List.suffix_cons_iff.mp h with heq | hin
    · exact ⟨[], (List.cons.inj heq).2⟩
    · exact hwhole hin
  · rcases List.suffix_or_suffix_of_suffix h
      ((List.suffix_append behind gap).trans (List.suffix_cons _ _)) with hin | hout
    · exact hwhole hin
    · rcases List.suffix_cons_iff.mp hout with heq | hin
      · exact ⟨['\n'], heq.symm⟩
      · exact absurd (hin.subset (List.mem_of_mem_head? hgap)) hw

/-- The line of a match of the last rule is not superseded: the match would begin where the line
does. -/
theorem absent_supersededLine_operationType {behind gap rest : List Char} {m : Match}
    (hfree : Target.operationType.Free behind gap (m.text ++ rest))
    (hm : Target.operationType.Chooses (.between (behind ++ gap) (m.text ++ rest)) m)
    (hgap : behind = [] ∨ gap.head? = some '\n')
    (h : supersededLine.Absent (['\n'] ++ (behind ++ gap))) :
    supersededLine.Absent (['\n'] ++ (behind ++ gap) ++ ("//  ".toList ++ m.text ++ " ".toList)) := by
  obtain ⟨-, g, w, hg, hw, htext⟩ := rest_of_operationType hm
  have hcomment : '\n' ∉ "//  ".toList ++ m.text ++ " ".toList := by
    simp [htext, hg, hw]
  have hright : supersededLine.Absent ("//  ".toList ++ m.text ++ " ".toList) := by
    have := absent_append_of_begins (p := supersededLine) (y := []) (by decide)
      (x := "//  ".toList ++ m.text ++ " ".toList) ?_ (absent_nil (by decide))
    · simpa using this
    · intro c hc
      rw [Bool.eq_false_iff, ne_eq, begins_supersededLine_iff]
      rintro rfl
      exact hcomment hc
  rw [absent_supersededLine_iff] at h hright ⊢
  rintro _ ⟨g', hg', rfl⟩ hpart
  rcases infix_append_of_head (by simp) hpart with hl | hr | ⟨q, q', hq, hv, -⟩
  · exact h _ ⟨g', hg', rfl⟩ hl
  · exact hright _ ⟨g', hg', rfl⟩ hr
  · -- the typedef that begins the line would be found first
    have hline : '\n' ∉ q := by
      have hboth : '\n' ∉ q ++ q' := by rw [← hv]; simp [hg']
      exact fun hmem => hboth (List.mem_append_left _ hmem)
    obtain ⟨x, rfl⟩ : "typedef ".toList ++ q <:+ gap :=
      suffix_of_line hgap (by simp [hline]) (by simpa using hq)
    refine hfree x 't' ("ypedef ".toList ++ q) (by simp) ⟨_, Target.reads_operationType_iff.mpr
      ⟨q ++ ("typedef ".toList ++ g), w, rest, by simp [htext], ?_, hw, rfl⟩⟩
    simp [hline, hg]

/-- A word in quotation marks in a comment does not name the type. -/
theorem shields_quoted (hw : ' ' ∉ w) :
    (Pattern.text " TypeNode ".toList).Shields ("kind: String, // '".toList ++ w ++ "'".toList) := by
  have hquote : ∀ {x y : List Char}, x.getLast? = some '\'' →
      (Pattern.text " TypeNode ".toList).Apart x y := by
    intro x y hx c hc d _
    rw [hx] at hc
    obtain rfl : '\'' = c := by simpa using hc
    simp [joins, hasPair]
  have hword : (Pattern.text " TypeNode ".toList).Absent w :=
    absent_text_iff.mpr fun h => hw (h.subset (by decide))
  have hmiddle : (Pattern.text " TypeNode ".toList).Absent ("ind: String, // '".toList ++ w) :=
    absent_append (absent_of_needs (List.mem_singleton_self _) (by
      simp only [String.reduceToList]
      decide)) hword (hquote (by decide))
  have hlast : (Pattern.text " TypeNode ".toList).Apart ("ind: String, // '".toList ++ w) ['\''] := by
    intro c _ d hd
    obtain rfl : '\'' = d := by simpa using hd
    simp [joins, hasPair]
  have hfirst : (Pattern.text " TypeNode ".toList).Apart ['k']
      ("ind: String, // '".toList ++ w ++ ['\'']) := by
    intro c hc d _
    obtain rfl : 'k' = c := by simpa using hc
    simp [joins, hasPair]
  -- neither the word nor the two quotes can be a part of the name between its blanks
  have := shields_of_cuts (by decide) (by decide) (by decide) hmiddle (by decide) ⟨hfirst, hlast⟩
  simpa using this

section

variable {text : List Char}

theorem absent_supersededLine_nullableToken (h : supersededLine.Absent (['\n'] ++ text)) :
    supersededLine.Absent (['\n'] ++ (Rule.nullableToken.apply text).text) := by
  rw [Rule.apply_of_singleton (r := .nullableToken) rfl]
  refine Substitution.absent_apply (by decide) (by decide) ?_ h
  intro place m l y hm hfits habsent
  obtain ⟨bl, name, bl', rest, -, hs, -, -, hname, -, rfl⟩ := Target.chooses_nullableToken_iff.mp hm
  have hl : supersededLine.Absent l := habsent.of_infix ⟨[], _, by simp; rfl⟩
  have hy : supersededLine.Absent y := habsent.of_infix (List.suffix_append _ _).isInfix
  refine absent_supersededLine_append (w := "  ?".toList ++ name ++ ": Null<Token>".toList) hl hy
    (hfits hs) ?_ (by simp) (by simp)
  rcases hname with rfl | rfl <;> decide

theorem absent_supersededLine_optionalValue (h : supersededLine.Absent (['\n'] ++ text)) :
    supersededLine.Absent (['\n'] ++ (Rule.optionalValue.apply text).text) := by
  rw [Rule.apply_of_singleton (r := .optionalValue) rfl]
  refine Substitution.absent_apply (by decide) (by decide) ?_ h
  intro place m l y hm _ habsent
  obtain ⟨rest, -, rfl⟩ := (Target.chooses_text_iff (by decide)).mp hm
  exact absent_supersededLine_replace (by decide) (by decide) (by decide) (by decide)
    (shields_nullString (by simp)) habsent

theorem absent_supersededLine_importType (h : supersededLine.Absent (['\n'] ++ text)) :
    supersededLine.Absent (['\n'] ++ (Rule.importType.apply text).text) := by
  rw [Rule.apply_of_singleton (r := .importType) rfl]
  refine Substitution.absent_apply (by decide) (by decide) ?_ h
  intro place m l y hm hfits habsent
  obtain ⟨w, rest, -, hs, hw, -, rfl⟩ := Target.chooses_importType_iff.mp hm
  have hl : supersededLine.Absent l := habsent.of_infix ⟨[], _, by simp; rfl⟩
  have hy : supersededLine.Absent y := habsent.of_infix (List.suffix_append _ _).isInfix
  have hput := absent_supersededLine_append (w := "// import type ".toList ++ w) hl hy (hfits hs)
    (by simp [hw]) (by simp) (by simp)
  simpa [Replacement.render] using hput

theorem absent_supersededLine_kindLiteral (h : supersededLine.Absent (['\n'] ++ text)) :
    supersededLine.Absent (['\n'] ++ (Rule.kindLiteral.apply text).text) := by
  rw [Rule.apply_of_singleton (r := .kindLiteral) rfl]
  refine Substitution.absent_apply (by decide) (by decide) ?_ h
  intro place m l y hm _ habsent
  obtain ⟨w, z, rest, -, -, hw, hz, rfl⟩ := Target.chooses_kindLiteral_iff.mp hm
  have hword : ∀ c, isWord c = false → c ∉ w := by
    intro c hc hmem
    rw [hw c hmem] at hc
    cases hc
  have hline : '\n' ∉ z := by
    rcases hz with ⟨c, rfl, hc⟩ | ⟨rfl, -⟩
    · rintro hmem
      rw [← List.mem_singleton.mp hmem] at hc
      revert hc
      decide
    · exact List.not_mem_nil
  -- the literal stays on its line, which is what lets the line be judged as before
  have hput := absent_supersededLine_replace
    (w := "kind: String, // '".toList ++ w ++ "'".toList)
    (m := (⟨"kind: ".toList, "'".toList ++ (w ++ "'".toList), z⟩ : Match).text)
    (by simp [Match.text, hword '\n' (by decide), hline]) (by simp [hword '\n' (by decide)])
    (by simp) (by simp) (shields_quoted (hword ' ' (by decide))) habsent
  simpa [Replacement.render] using hput

theorem absent_supersededLine_readOnlyArray (h : supersededLine.Absent (['\n'] ++ text)) :
    supersededLine.Absent (['\n'] ++ (Rule.readOnlyArray.apply text).text) := by
  rw [Rule.apply_of_singleton (r := .readOnlyArray) rfl]
  refine Substitution.absent_apply (by decide) (by decide) ?_ h
  intro place m l y hm _ habsent
  obtain ⟨rest, -, rfl⟩ := (Target.chooses_text_iff (by decide)).mp hm
  exact absent_supersededLine_replace (by decide) (by decide) (by decide) (by decide)
    (shields_array (by simp)) habsent

theorem absent_supersededLine_operationType_apply (h : supersededLine.Absent (['\n'] ++ text)) :
    supersededLine.Absent (['\n'] ++ (Rule.operationType.apply text).text) := by
  refine absent_operationType_apply ?_ h
  intro behind gap rest m y hfree hm hgap hhead habsent
  have hl : supersededLine.Absent (['\n'] ++ (behind ++ gap)) :=
    habsent.of_infix ⟨[], _, by simp; rfl⟩
  have hy : supersededLine.Absent y := habsent.of_infix (List.suffix_append _ _).isInfix
  have hcomment := absent_supersededLine_operationType hfree hm hgap hl
  have hbelow := absent_operationTypes_append (show supersededLine ∈ _ by simp) hy hhead
  have hput := absent_append hcomment hbelow ?_
  · rw [show " \n".toList = " ".toList ++ "\n".toList by decide]
    simpa only [List.append_assoc] using hput
  · intro c _ d hd
    obtain rfl : '\n' = d := by simpa using hd
    simp [supersededLine, Rule.gapInLine, inOrder, joins, hasPair, begins, CharClass.has]

theorem absent_supersededLine_apply {r : Rule} (hr : Rule.supersededTypeNode.number < r.number)
    (h : supersededLine.Absent (['\n'] ++ text)) :
    supersededLine.Absent (['\n'] ++ (r.apply text).text) := by
  cases r
  case nullableToken => exact absent_supersededLine_nullableToken h
  case optionalValue => exact absent_supersededLine_optionalValue h
  case importType => exact absent_supersededLine_importType h
  case kindLiteral => exact absent_supersededLine_kindLiteral h
  case readOnlyArray => exact absent_supersededLine_readOnlyArray h
  case operationType => exact absent_supersededLine_operationType_apply h
  all_goals exact absurd hr (by decide)

end

end Pattern

/-! ### The whole run -/

theorem Rule.Cleared.apply {r r' : Rule} (hlater : r.number < r'.number) {text : List Char}
    (h : r.Cleared text) : r.Cleared (r'.apply text).text := by
  rintro ⟨p, edge⟩ htrace
  have hp := h _ htrace
  cases r <;> cases htrace
  case optionalField => exact Pattern.absent_optionalMark_apply hlater hp
  case supersededTypeNode => exact Pattern.absent_supersededLine_apply hlater hp
  case optionalValue => exact Pattern.absent_optionalValue_apply hlater hp
  case importType => exact Pattern.absent_importLine_apply hlater hp
  case kindLiteral => exact Pattern.absent_quotedKind_apply hlater hp

namespace Run

/-- The text that a run leaves has no trace of any rule. -/
theorem cleared_text_of (r : Rule) (text : List Char) : r.Cleared (of text).text := by
  have hlater : ∀ rules : List Rule, (∀ r' ∈ rules, r.number < r'.number) → ∀ {text},
      r.Cleared text → r.Cleared (textFrom rules text) := by
    intro rules hrules
    induction rules with
    | nil => exact fun h => h
    | cons r' rules ih =>
      intro text h
      exact ih (fun r' hr' => hrules r' (List.mem_cons_of_mem _ hr'))
        (h.apply (hrules r' List.mem_cons_self))
  obtain ⟨before, after, hall, hafter⟩ : ∃ before after, Rule.all = before ++ r :: after ∧
      ∀ r' ∈ after, r.number < r'.number := by
    refine ⟨Rule.all.take (r.number - 1), Rule.all.drop r.number, ?_⟩
    cases r <;> decide
  rw [text_of, hall, textFrom_append]
  exact hlater after hafter (r.cleared_apply _)

/-- No later rule brings back what one of these five has removed: applied again to the text that a
run leaves, they replace nothing. -/
theorem count_apply_text_of (text : List Char) :
    (Rule.optionalField.apply (of text).text).count = 0 ∧
      (Rule.supersededTypeNode.apply (of text).text).count = 0 ∧
      (Rule.optionalValue.apply (of text).text).count = 0 ∧
      (Rule.importType.apply (of text).text).count = 0 ∧
      (Rule.kindLiteral.apply (of text).text).count = 0 := by
  have hzero : ∀ r : Rule, r.trace?.isSome = true → (r.apply (of text).text).count = 0 :=
    fun r hr => r.count_eq_zero_of_cleared hr (cleared_text_of r text)
  exact ⟨hzero _ rfl, hzero _ rfl, hzero _ rfl, hzero _ rfl, hzero _ rfl⟩

end Run

end HaxeTypedefs
