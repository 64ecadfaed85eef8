/-
Rules that rewrite a text line by line.

A target whose matches have no line feed finds in a text what it finds in each of
its lines.  Three of these targets take a line to its end; what their rules make of
one line is said here without readings.

* **`Rule.apply_eq_lines`** — the lines are rewritten one apart from the other;
* **`Rule.apply_supersededTypeNode_of_line`**, **`Rule.apply_importType_of_line`**,
  **`Rule.apply_operationType_of_line`** — what becomes of a line;
* **`Rule.mem_lineRules_iff`** — which rules rewrite line by line: the others have two
  lines that they take together;
* **`Rule.rewrites_line_by_line`** — the text and the count of such a rule are put together
  from those of the lines.
-/
import Mathlib.Algebra.Ring.Nat
import HaxeTypedefs.Proofs.Gap
import HaxeTypedefs.Proofs.Seam

namespace HaxeTypedefs

/-! ### Texts apart -/

namespace Target

variable {t : Target} {text : List Char} {d : Char}

/-- What stands behind a character that no match can have is not seen from before it. -/
theorem matchAt_append_of_admits (hd : t.whole.admits d = false) (hword : isWord d = false)
    (b : Option Char) (y rest : List Char) :
    t.matchAt ⟨b, y ++ d :: rest⟩ = t.matchAt ⟨b, y⟩ := by
  have hhead : ∀ v : List Char, v.head?.any isWord = (v ++ d :: rest).head?.any isWord := by
    intro v
    cases v with
    | nil => exact hword.symm
    | cons c v => rfl
  refine matchAt_congr fun m => chooses_congr fun r => ⟨?_, ?_⟩
  · -- a reading ends before `d`, and sees the same edge of a word there
    rintro ⟨u, hr⟩
    have hnot : d ∉ r.text := by
      intro hmem
      rw [hr.admits_of_mem hmem] at hd
      cases hd
    obtain ⟨v, rfl, hu⟩ := exists_of_append_eq_of_not_mem hr.reaches.ahead_eq hnot
    refine ⟨_, hr.with_rest (y := v) ?_⟩
    rw [hu]
    exact hhead v
  · rintro ⟨u, hr⟩
    obtain rfl : y = r.text ++ u.ahead := hr.reaches.ahead_eq
    rw [List.append_assoc]
    exact ⟨_, hr.with_rest (hhead u.ahead).symm⟩

theorem matchAt_nil (ht : t.Solid) (b : Option Char) : t.matchAt ⟨b, []⟩ = none := by
  rw [matchAt_eq_none_iff ht]
  rintro ⟨r, u, hr⟩
  have hnil : [] = r.text ++ u.ahead := hr.reaches.ahead_eq
  have hle := Nat.lt_of_lt_of_le ht hr.shortest_le
  rw [(List.append_eq_nil_iff.mp hnil.symm).1] at hle
  exact Nat.lt_irrefl 0 hle

theorem stops_of_admits (ht : t.Solid) (h : t.whole.admits '\n' = false) (text : List Char) :
    t.Stops text := by
  refine ⟨fun x y rest _ _ => ?_, fun rest => ?_⟩
  · exact matchAt_append_of_admits h (by decide) x.getLast? y rest
  · have := matchAt_append_of_admits h (by decide) text.getLast? [] rest
    exact this.trans (matchAt_nil ht _)

end Target

namespace Rule

/-- No match of the rule has a character of the text. -/
def Avoids (r : Rule) (w : List Char) : Prop :=
  ∀ s ∈ r.substitutions, ∀ d ∈ w, s.target.whole.admits d = false

instance (r : Rule) (w : List Char) : Decidable (r.Avoids w) :=
  inferInstanceAs (Decidable (∀ s ∈ r.substitutions, ∀ d ∈ w, s.target.whole.admits d = false))

theorem parts_of_avoids {r : Rule} {s : Substitution} (hr : r.substitutions = [s])
    (h : r.Avoids ['\n']) (text : List Char) : r.Parts text := by
  have hs : s ∈ r.substitutions := by
    rw [hr]
    exact List.mem_singleton_self s
  exact parts_of_singleton hr
    (Target.stops_of_admits (solid_of_mem hs) (h s hs _ (List.mem_singleton_self _)) text)

end Rule

/-! ### Lines -/

/-- A property that a list without the separator has, and that such a list and a separator hand on
from the list behind them, is one of every list. -/
theorem parts_induction {α : Type} [DecidableEq α] (sep : α) {P : List α → Prop}
    (last : ∀ part, sep ∉ part → P part)
    (next : ∀ part rest, sep ∉ part → P rest → P (part ++ sep :: rest)) (l : List α) : P l := by
  suffices h : ∀ part, sep ∉ part → P (part ++ l) from h [] List.not_mem_nil
  induction l with
  | nil =>
    intro part hpart
    rw [List.append_nil]
    exact last part hpart
  | cons a l ih =>
    intro part hpart
    by_cases ha : a = sep
    · rw [ha]
      exact next part l hpart (ih [] List.not_mem_nil)
    · rw [List.append_cons]
      exact ih (part ++ [a]) (by simp [hpart, Ne.symm ha])

/-- A property that a line has, and that a line and a line feed hand on from the text behind them,
is one of every text. -/
theorem lines_induction {P : List Char → Prop} (last : ∀ line, '\n' ∉ line → P line)
    (next : ∀ line rest, '\n' ∉ line → P rest → P (line ++ '\n' :: rest)) (text : List Char) :
    P text :=
  parts_induction '\n' last next text

/-- A rule whose matches have no line feed rewrites each line as if it were alone. -/
theorem Rule.apply_eq_lines {r : Rule} (h : ∀ text, r.Parts text) (text : List Char) :
    (r.apply text).text =
      ['\n'].intercalate ((text.splitOn '\n').map fun line => (r.apply line).text) := by
  induction text using lines_induction with
  | last line hline => rw [List.splitOn_eq_singleton hline, List.map_singleton,
      List.intercalate_singleton]
  | next line rest hline ih =>
    have hne : (rest.splitOn '\n').map (fun line => (r.apply line).text) ≠ [] := by
      simp
    rw [h line rest, List.splitOn_append_cons_self_of_not_mem hline, List.map_cons,
      List.intercalate_cons_of_ne_nil hne, ← ih]
    simp

/-! ### What becomes of a line -/

/-- The text begins as a typedef, and has the name behind. -/
def TypedefWith (name text : List Char) : Prop :=
  ∃ g w, text = "typedef ".toList ++ (g ++ (name ++ w))

namespace Target

open Pattern

variable {b : Option Char} {ahead : List Char} {m : Match}

theorem chooses_supersededTypeNode_iff :
    supersededTypeNode.Chooses ⟨b, ahead⟩ m ↔ ∃ g w rest,
      ahead = "typedef ".toList ++ (g ++ (" TypeNode ".toList ++ (w ++ rest))) ∧
        Place.atLineStart ⟨b, ahead⟩ = true ∧ '\n' ∉ g ∧ '\n' ∉ w ∧
        rest.head?.any (· != '\n') = false ∧
        m = ⟨[], "typedef ".toList ++ (g ++ (" TypeNode ".toList ++ w)), []⟩ := by
  apply chooses_iff_of_form (t := supersededTypeNode) (by decide)
  · rintro m ⟨r, hr, rfl, hbest⟩
    obtain ⟨g, w, rest, rfl, hs, hg, hw, rfl⟩ := reads_supersededTypeNode_iff.mp hr
    refine ⟨g, w, rest, rfl, hs, hg, hw, ?_, by simp [Reading.toMatch, Reading.text]⟩
    cases rest with
    | nil => rfl
    | cons c rest =>
      by_contra hc
      have hcn : c ≠ '\n' := by simpa using hc
      refine not_prefers_of_best hbest (reads_supersededTypeNode_iff.mpr
        ⟨g, w ++ [c], rest, ?_, hs, hg, ?_, rfl⟩)
        (.second (.first (.second (.second (.second (.most ?_))))))
      · simp
      · simp [hw, hcn.symm]
      · simp
  · rintro m ⟨g, w, rest, rfl, hs, hg, hw, -, rfl⟩
    exact ⟨_, reads_supersededTypeNode_iff.mpr ⟨g, w, rest, rfl, hs, hg, hw, rfl⟩⟩
  · rintro m m' ⟨g, w, rest, rfl, -, hg, hw, hrest, rfl⟩ ⟨g', w', rest', h, -, hg', hw', hrest', rfl⟩
    -- both matches go to the end of the line
    have hline : ∀ {x y : List Char}, '\n' ∉ x → '\n' ∉ y →
        ∀ c ∈ x ++ (" TypeNode ".toList ++ y), (c != '\n') = true := by
      intro x y hx hy
      rw [forall_bne_iff]
      simp [hx, hy]
    have htail : (g ++ (" TypeNode ".toList ++ w)) ++ rest =
        (g' ++ (" TypeNode ".toList ++ w')) ++ rest' := by
      simpa using List.append_cancel_left h
    rw [(span_unique htail (hline hg hw) (hline hg' hw') hrest hrest').1]

end Target

/-- If a text has ends of some kind, it has a longest one. -/
theorem exists_longest_end (P : List Char → Prop) (text : List Char) :
    (∃ x y, text = x ++ y ∧ P y ∧ ∀ x' y', text = x' ++ y' → P y' → x <+: x') ∨
      ∀ x y, text = x ++ y → ¬ P y := by
  induction text with
  | nil =>
    by_cases h : P []
    · exact .inl ⟨[], [], rfl, h, fun x' _ _ _ => List.nil_prefix⟩
    · refine .inr fun x y hxy => ?_
      rwa [(List.append_eq_nil_iff.mp hxy.symm).2]
  | cons c text ih =>
    by_cases h : P (c :: text)
    · exact .inl ⟨[], c :: text, rfl, h, fun x' _ _ _ => List.nil_prefix⟩
    · have hstart : ∀ {y}, c :: text = [] ++ y → ¬ P y := by
        rintro y rfl
        exact h
      rcases ih with ⟨x, y, rfl, hy, hfirst⟩ | hno
      · refine .inl ⟨c :: x, y, rfl, hy, fun x' y' hxy hy' => ?_⟩
        cases x' with
        | nil => exact absurd hy' (hstart hxy)
        | cons d x' =>
          obtain ⟨rfl, htail⟩ := List.cons.inj hxy
          exact List.cons_prefix_cons.mpr ⟨rfl, hfirst x' y' htail hy'⟩
      · refine .inr fun x y hxy => ?_
        cases x with
        | nil => exact hstart hxy
        | cons d x => exact hno x y (List.cons.inj hxy).2

namespace Rule

variable {r : Rule} {s : Substitution} {line : List Char}

/-- A match that is marked as a whole, and is the whole line, is the only one to be replaced. -/
theorem apply_of_marked_line (hr : r.substitutions = [s]) {opening : String}
    (hput : s.replacement = .template opening "")
    (hm : s.target.Chooses (.between [] line) ⟨[], line, []⟩) :
    r.apply line = ⟨opening.toList ++ line, 1⟩ := by
  have hs : s.target.Solid := solid_of_mem (r := r) (by rw [hr]; exact List.mem_singleton_self s)
  have htext : (⟨[], line, []⟩ : Match).text = line := by simp [Match.text]
  have happly := Substitution.apply_of_match (x := []) (y := []) (m := ⟨[], line, []⟩) hs
    Target.free_nil (by simpa [htext] using hm) Target.free_nil
  rw [apply_of_singleton hr]
  simpa [htext, hput, Replacement.render] using happly

/-- Within a line, a target that asks for a line start is found at the beginning or not at all. -/
theorem apply_of_not_matches_line (hr : r.substitutions = [s]) (hstart : s.target.whole.anchored = true)
    (hline : '\n' ∉ line) (h : ¬ s.target.Matches (.between [] line)) :
    r.apply line = ⟨line, 0⟩ := by
  have hs : s.target.Solid := solid_of_mem (r := r) (by rw [hr]; exact List.mem_singleton_self s)
  rw [apply_of_singleton hr]
  refine Substitution.apply_of_free hs ?_
  cases line with
  | nil => exact Target.free_nil
  | cons d line =>
    rw [List.mem_cons, not_or] at hline
    refine Target.free_append (x := [d]) (Target.free_singleton (by simpa using h)) ?_
    exact Target.free_of_anchored hstart rfl (Ne.symm hline.1) hline.2

theorem apply_supersededTypeNode_of_line (hline : '\n' ∉ line) :
    (TypedefWith " TypeNode ".toList line ∧
        supersededTypeNode.apply line = ⟨"// ".toList ++ line, 1⟩) ∨
      (¬ TypedefWith " TypeNode ".toList line ∧ supersededTypeNode.apply line = ⟨line, 0⟩) := by
  by_cases h : TypedefWith " TypeNode ".toList line
  · refine .inl ⟨h, ?_⟩
    obtain ⟨g, w, rfl⟩ := h
    have hgw : '\n' ∉ g ∧ '\n' ∉ w := by
      simp only [List.mem_append, not_or] at hline
      exact ⟨hline.2.1, hline.2.2.2⟩
    exact apply_of_marked_line (r := supersededTypeNode) rfl rfl
      (Target.chooses_supersededTypeNode_iff.mpr ⟨g, w, [], by simp, rfl, hgw.1, hgw.2, rfl, rfl⟩)
  · refine .inr ⟨h, apply_of_not_matches_line (r := supersededTypeNode) rfl (by decide) hline ?_⟩
    rintro ⟨rd, hrd⟩
    obtain ⟨g, w, rest, hahead, -⟩ := Target.reads_supersededTypeNode_iff.mp hrd
    exact h ⟨g, w ++ rest, hahead⟩

theorem apply_importType_of_line (hline : '\n' ∉ line) :
    ("import type ".toList <+: line ∧ importType.apply line = ⟨"// ".toList ++ line, 1⟩) ∨
      (¬ "import type ".toList <+: line ∧ importType.apply line = ⟨line, 0⟩) := by
  by_cases h : "import type ".toList <+: line
  · refine .inl ⟨h, ?_⟩
    obtain ⟨w, rfl⟩ := h
    have hw : '\n' ∉ w := fun hmem => hline (List.mem_append_right _ hmem)
    exact apply_of_marked_line (r := importType) rfl rfl
      (Target.chooses_importType_iff.mpr ⟨w, [], by simp, rfl, hw, rfl, rfl⟩)
  · refine .inr ⟨h, apply_of_not_matches_line (r := importType) rfl (by decide) hline ?_⟩
    rintro ⟨rd, hrd⟩
    obtain ⟨w, rest, hahead, -⟩ := Target.reads_importType_iff.mp hrd
    exact h ⟨w ++ rest, hahead.symm⟩

/-- The first typedef with the name of the operation types on its line is taken to the end of the
line, wherever in the line it begins. -/
theorem apply_operationType_of_line (hline : '\n' ∉ line) :
    (∃ x y, line = x ++ y ∧ TypedefWith " OperationTypeNode".toList y ∧
        (∀ x' y', line = x' ++ y' → TypedefWith " OperationTypeNode".toList y' → x <+: x') ∧
        operationType.apply line =
          ⟨x ++ ("//  ".toList ++ y ++ " \n".toList ++ operationTypes.render.toList), 1⟩) ∨
      ((∀ x y, line = x ++ y → ¬ TypedefWith " OperationTypeNode".toList y) ∧
        operationType.apply line = ⟨line, 0⟩) := by
  have hmatches : ∀ {b : Option Char} {y : List Char}, Target.operationType.Matches ⟨b, y⟩ →
      TypedefWith " OperationTypeNode".toList y := by
    rintro b y ⟨rd, hrd⟩
    obtain ⟨g, w, rest, hahead, -⟩ := Target.reads_operationType_iff.mp hrd
    exact ⟨g, w ++ rest, hahead⟩
  have happly := apply_of_singleton (r := operationType) rfl line
  rw [happly]
  rcases exists_longest_end (TypedefWith " OperationTypeNode".toList) line with
    ⟨x, y, rfl, hy, hfirst⟩ | hno
  · refine .inl ⟨x, y, rfl, hy, hfirst, ?_⟩
    have htext : (⟨y, [], []⟩ : Match).text = y := by simp [Match.text]
    have hm : Target.operationType.Chooses (.between x y) ⟨y, [], []⟩ := by
      obtain ⟨g, w, rfl⟩ := hy
      simp only [List.mem_append, not_or] at hline
      exact Target.chooses_operationType_iff.mpr
        ⟨g, w, [], by simp, hline.2.2.1, hline.2.2.2.2, rfl, rfl⟩
    have hfree : Target.operationType.Free [] x y := by
      rintro x' c y' rfl hmatch
      -- a match in front of the first typedef
      have hle := (hfirst x' _ (by simp) (hmatches hmatch)).length_le
      rw [List.length_append, List.length_cons] at hle
      omega
    have hone := Substitution.apply_of_match (m := ⟨y, [], []⟩) (y := [])
      (s := ⟨Target.operationType, .supersede operationTypes.render⟩) (by decide)
      (by rwa [htext, List.append_nil]) (by rwa [htext, List.append_nil]) Target.free_nil
    rw [htext, List.append_nil, List.append_nil, Replacement.render, htext] at hone
    exact hone
  · refine .inr ⟨hno, Substitution.apply_of_free (by decide) ?_⟩
    rintro x c y rfl hmatch
    exact hno x (c :: y) rfl (by simpa using hmatches hmatch)

end Rule

/-! ### The rules that rewrite line by line -/

namespace Rule

/-- The rules that rewrite each line apart from the others. -/
def lineRules : List Rule :=
  [exportType, typeNodeUnion, supersededTypeNode, optionalValue, importType, kindLiteral,
   readOnlyArray, operationType]

theorem avoids_lineFeed_of_mem : ∀ r ∈ lineRules, r.Avoids ['\n'] := by
  decide

theorem parts_of_mem_lineRules {r : Rule} (hr : r ∈ lineRules) (text : List Char) :
    r.Parts text := by
  obtain ⟨s, hs⟩ : ∃ s, r.substitutions = [s] := by
    cases r <;> first | exact ⟨_, rfl⟩ | exact absurd hr (by decide)
  exact parts_of_avoids hs (avoids_lineFeed_of_mem r hr) text

/-- The end of one line and the beginning of the next that the rule takes together, if it takes
any. -/
def straddled? : Rule → Option (String × String)
  | optionalField => some ("a?:", "?")
  | primitives => some (":", "string")
  | variance => some (" ", "+")
  | multiLineUnion => some ("Node =", " |;")
  | singleLineUnion => some ("Node = a", "|;")
  | nullableToken => some (" ", "prev:Token | null")
  | _ => none

theorem not_parts_of_straddled {r : Rule} {a b : String} (h : r.straddled? = some (a, b)) :
    ¬ r.Parts a.toList := by
  intro hparts
  have hboth := hparts b.toList
  revert hboth
  cases r <;> cases h <;> decide

theorem mem_lineRules_iff {r : Rule} : r ∈ lineRules ↔ ∀ text, r.Parts text := by
  refine ⟨parts_of_mem_lineRules, fun hparts => ?_⟩
  have hnone : r.straddled? = none := by
    cases h : r.straddled? with
    | none => rfl
    | some ab => exact absurd (hparts _) (not_parts_of_straddled h)
  revert hnone
  cases r <;> decide

/-- The replacements of a rule that rewrites line by line are those of the lines. -/
theorem count_eq_sum_of_parts {r : Rule} (h : ∀ text, r.Parts text) (text : List Char) :
    (r.apply text).count = ((text.splitOn '\n').map fun line => (r.apply line).count).sum := by
  induction text using lines_induction with
  | last line hline => simp [List.splitOn_eq_singleton hline]
  | next line rest hline ih =>
    rw [h line rest, List.splitOn_append_cons_self_of_not_mem hline, List.map_cons, List.sum_cons,
      ← ih]

/-- A target that goes to the end of the line is found once in it. -/
theorem count_le_one_of_line {r : Rule} (hr : r ∈ [supersededTypeNode, importType, operationType])
    {line : List Char} (hline : '\n' ∉ line) : (r.apply line).count ≤ 1 := by
  simp only [List.mem_cons, List.not_mem_nil, or_false] at hr
  rcases hr with rfl | rfl | rfl
  · rcases apply_supersededTypeNode_of_line hline with ⟨-, h⟩ | ⟨-, h⟩ <;> simp [h]
  · rcases apply_importType_of_line hline with ⟨-, h⟩ | ⟨-, h⟩ <;> simp [h]
  · rcases apply_operationType_of_line hline with ⟨x, y, -, -, -, h⟩ | ⟨-, h⟩ <;> simp [h]

/-- The eight rules, and no others, rewrite two texts with a line feed between them one apart from
the other, and so the lines of every text; three of them replace at most once in a line. -/
theorem rewrites_line_by_line (r : Rule) :
    (r ∈ lineRules ↔ ∀ a b,
      r.apply (a ++ "\n".toList ++ b) =
        ⟨(r.apply a).text ++ "\n".toList ++ (r.apply b).text,
          (r.apply a).count + (r.apply b).count⟩) ∧
    (r ∈ lineRules → ∀ text,
      r.apply text =
        ⟨"\n".toList.intercalate ((text.splitOn '\n').map fun line => (r.apply line).text),
          ((text.splitOn '\n').map fun line => (r.apply line).count).sum⟩) ∧
    (r ∈ [supersededTypeNode, importType, operationType] →
      ∀ line, '\n' ∉ line → (r.apply line).count ≤ 1) := by
  refine ⟨?_, fun hr text => ?_, fun hr line hline => count_le_one_of_line hr hline⟩
  · rw [mem_lineRules_iff]
    constructor
    · intro hparts a b
      simpa using hparts a b
    · intro h a b
      simpa using h a b
  · have hparts := parts_of_mem_lineRules hr
    have hfeed : "\n".toList = ['\n'] := rfl
    rw [hfeed, ← apply_eq_lines hparts text, ← count_eq_sum_of_parts hparts text]

theorem rewrites_line_by_line_of_imports :
    importType.apply "import type A\nimport type B".toList =
        ⟨"// import type A\n// import type B".toList, 2⟩ ∧
      (importType.apply "import type A".toList).count ≤ 1 := by
  obtain ⟨-, hlines, hone⟩ := rewrites_line_by_line importType
  refine ⟨?_, hone (by decide) _ (by decide)⟩
  rw [hlines (by decide)]
  decide

end Rule

end HaxeTypedefs
