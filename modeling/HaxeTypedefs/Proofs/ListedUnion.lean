/-
Unions of names, as the late rules find them.

A union is declared on one line, or with each of its alternatives on a line of its own.
Up to `singleLineUnion` the rules put the alternatives of a union of nodes into a comment,
and `typeNodeUnion` puts a `TypeNode` in the place of two of them.  The rules behind look
for two names in a line, and what they see of a declaration on one line is told by its
list of alternatives.

* **`Run.exists_textFrom_listed`** — what `supersededTypeNode` finds of a declaration on one line;
* **`Run.turns_lines`** — a union of nodes over several lines, when it has become a `BaseNode`.
-/
import HaxeTypedefs.Proofs.Collapse
import HaxeTypedefs.Proofs.Line

namespace HaxeTypedefs

open Rule

/-! ### Declarations -/

/-- The alternatives of a union, as they are laid out behind the `=`. -/
inductive Listing where
  | oneLine (first : Identifier) (others : List Identifier)
  /-- one alternative on each line, with its indentation -/
  | lines (first : Indent × Identifier) (others : List (Indent × Identifier))

namespace Listing

def alternatives : Listing → List Identifier
  | oneLine a names => a :: names
  | lines row rows => (row :: rows).map Prod.snd

def IsOneLine : Listing → Prop
  | oneLine .. => True
  | lines .. => False

def text (print : Identifier → List Char) : Listing → List Char
  | oneLine a names => " ".toList ++ " | ".toList.intercalate ((a :: names).map print)
  | lines row rows => barred print (row :: rows)

/-- A declaration of a union of this name. -/
def declaration (name : String) (print : Identifier → List Char) (l : Listing) : List Char :=
  "export type ".toList ++ (name.toList ++ (" =".toList ++ (l.text print ++ ";".toList)))

end Listing

/-! ### Operation types among the alternatives -/

/-- The text behind a blank that tells a declaration of the operation types. -/
def operationName : List Char := " OperationTypeNode".toList

/-- A text that does not have the last character of what stands before a seam does not lie across it. -/
theorem infix_or_infix_of_last {w x y : List Char} (hlast : ∀ c ∈ x.getLast?, c ∉ w)
    (h : w <:+: x ++ y) : w <:+: x ∨ w <:+: y := by
  rcases List.infix_append_iff_ne_nil.mp h with h | h | ⟨u, v, hu, -, rfl, ⟨z, rfl⟩, -⟩
  · exact .inl h
  · exact .inr h
  · have hmem := List.getLast_mem hu
    refine absurd (List.mem_append_left v hmem) (hlast _ ?_)
    rw [List.getLast?_append_of_ne_nil _ hu, List.getLast?_eq_some_getLast hu]
    rfl

/-- The replacement of `typeNodeUnion` stands where a word may begin, so the name does not begin before
it and go on in it. -/
theorem infix_operation_replace {x y : List Char} (hedge : x.getLast?.any isWord = false)
    (h : operationName <:+: x ++ ("TypeNode /* NamedTypeNode | ListTypeNode */".toList ++ y)) :
    operationName <:+: x ∨ operationName <:+: y := by
  rcases List.infix_append_iff_ne_nil.mp h with h | h | ⟨u, v, hu, hv, huv, ⟨z, rfl⟩, hvy⟩
  · exact .inl h
  · refine .inr ((infix_or_infix_of_last (by decide) h).resolve_left (by decide))
  · obtain ⟨c, u', rfl⟩ : ∃ c u', u = u' ++ [c] :=
      ⟨u.getLast hu, u.dropLast, (List.dropLast_append_getLast hu).symm⟩
    obtain ⟨d, v', rfl⟩ := List.exists_cons_of_ne_nil hv
    have hliteral : "TypeNode /* NamedTypeNode | ListTypeNode */".toList =
        'T' :: "ypeNode /* NamedTypeNode | ListTypeNode */".toList := by
      decide
    rw [hliteral, List.cons_append] at hvy
    obtain ⟨rfl, -⟩ := List.cons_prefix_cons.mp hvy
    rw [← List.append_assoc, List.getLast?_concat] at hedge
    -- the only character that is not of a word stands at the start
    have hblank : operationName = ' ' :: "OperationTypeNode".toList := by decide
    rw [hblank, List.append_assoc] at huv
    have hword : ∀ d ∈ "OperationTypeNode".toList, isWord d = true := by decide
    cases u' with
    | nil =>
      obtain ⟨-, htail⟩ := List.cons.inj huv
      have hopen : "OperationTypeNode".toList = 'O' :: "perationTypeNode".toList := by decide
      rw [hopen] at htail
      exact absurd (List.cons.inj htail).1 (by decide)
    | cons e u' =>
      obtain ⟨-, htail⟩ := List.cons.inj huv
      have hc := hword c (by rw [htail]; simp)
      rw [Option.any_some, hc] at hedge
      cases hedge

/-- A text that reaches into no match, and into nothing that is put in the place of one, is found after
replacing exactly if it is found before. -/
theorem Substitution.infix_rendered_iff {s : Substitution} {w : List Char}
    (hkeep : ∀ behind gap ahead m, s.target.Chooses (.between (behind ++ gap) ahead) m → ∀ y,
      (w <:+: gap ++ (m.text ++ y) ↔ w <:+: gap ∨ w <:+: y) ∧
        (w <:+: gap ++ (s.replacement.render m ++ y) ↔ w <:+: gap ∨ w <:+: y))
    {behind gap : List Char} {ms : List (Match × List Char)} (h : s.target.Factors behind gap ms) :
    w <:+: s.rendered gap ms ↔ w <:+: spelled gap ms := by
  induction h with
  | last _ => simp [rendered, spelled]
  | @next behind gap gap' m ms _ _ hm _ ih =>
    rw [spelled_cons, rendered_cons, (hkeep _ _ _ _ hm _).1, (hkeep _ _ _ _ hm _).2, ih]

theorem operation_infix_typeNodeUnion {behind gap ahead : List Char} {m : Match}
    (hm : Target.typeNodeUnion.Chooses (.between (behind ++ gap) ahead) m) (y : List Char) :
    (operationName <:+: gap ++ (m.text ++ y) ↔ operationName <:+: gap ∨ operationName <:+: y) ∧
      (operationName <:+: gap ++ ("TypeNode /* NamedTypeNode | ListTypeNode */".toList ++ y) ↔
        operationName <:+: gap ∨ operationName <:+: y) := by
  have hpart : ∀ z, operationName <:+: gap ∨ operationName <:+: y →
      operationName <:+: gap ++ (z ++ y) := by
    rintro z (h | h)
    · exact h.trans (List.prefix_append _ _).isInfix
    · rw [← List.append_assoc]
      exact h.trans (List.suffix_append _ _).isInfix
  constructor
  · refine ⟨fun h => ?_, hpart _⟩
    rw [Target.text_of_chooses_typeNodeUnion hm] at h
    have hshields : (Pattern.text operationName).Shields "NamedTypeNode | ListTypeNode".toList :=
      (show (Pattern.text operationName).Cuts ['N'] "amedTypeNode | ".toList "ListTypeNode".toList by
        decide +kernel).shields (by decide)
    by_contra hno
    rw [not_or, ← Pattern.absent_text_iff, ← Pattern.absent_text_iff] at hno
    have := Pattern.absent_text_iff.mp (hshields gap y hno.1 hno.2)
    rw [List.append_assoc] at this
    exact this h
  · refine ⟨infix_operation_replace ?_, hpart _⟩
    obtain ⟨rest, -, hedge, -⟩ := Target.matches_typeNodeUnion_iff.mp hm.matches
    cases hgap : gap.getLast? with
    | none => rfl
    | some c =>
      rw [List.getLast?_append, hgap] at hedge
      exact hedge

/-- Behind a text that `typeNodeUnion` passes over it changes nothing of the declarations of the operation
types. -/
theorem exists_apply_typeNodeUnion {x y : List Char} (hx : Target.typeNodeUnion.Free [] x y) :
    ∃ y', (typeNodeUnion.apply (x ++ y)).text = x ++ y' ∧
      (operationName <:+: y' ↔ operationName <:+: y) := by
  have hs : Target.typeNodeUnion.Solid := by decide
  obtain ⟨gap, ms, rfl, h⟩ := Target.exists_factors hs x y
  -- the text that is passed over belongs to the first gap
  have hall : Target.typeNodeUnion.Factors [] (x ++ gap) ms := Target.Factors.append_gap h hx
  have happly := Substitution.apply_eq_of_factors
    (s := ⟨Target.typeNodeUnion, .literal "TypeNode /* NamedTypeNode | ListTypeNode */"⟩) hs hall
  have hfound : operationName <:+: Substitution.rendered
      ⟨Target.typeNodeUnion, .literal "TypeNode /* NamedTypeNode | ListTypeNode */"⟩ gap ms ↔
        operationName <:+: spelled gap ms :=
    Substitution.infix_rendered_iff (fun _ _ _ _ hm y => operation_infix_typeNodeUnion hm y) h
  refine ⟨_, ?_, hfound⟩
  have hspelled : spelled (x ++ gap) ms = x ++ spelled gap ms := by simp [spelled]
  rw [hspelled] at happly
  rw [apply_of_singleton (r := typeNodeUnion) rfl]
  refine (congrArg Outcome.text happly).trans ?_
  simp [Substitution.rendered]

/-! ### A `TypeNode` among the alternatives -/

/-- Behind a blank and before another one stand all names of a list but the last one. -/
theorem infix_inLine_iff {names : List Identifier} {w y : List Char} (hne : w ≠ [])
    (hw : ∀ c ∈ w, isWord c = true) (hword : y.head?.any isWord = false)
    (hy : ¬ " ".toList <+: y) (hno : ¬ ' ' :: (w ++ " ".toList) <:+: y) :
    ' ' :: (w ++ " ".toList) <:+: ' ' :: (inLine names ++ y) ↔
      w ∈ (names.map Identifier.text).dropLast := by
  have hsplit : ∀ {a z : List Char}, (∀ c ∈ a, isWord c = true) → z.head?.any isWord = false →
      ' ' :: (w ++ " ".toList) <:+: ' ' :: (a ++ z) →
        w = a ∧ " ".toList <+: z ∨ ' ' :: (w ++ " ".toList) <:+: z := fun ha hz h =>
    (prefix_or_infix_of_word ha hz hne hw rfl h).imp_left fun h => h.2 (by decide)
  induction names with
  | nil =>
    refine iff_of_false (fun h => ?_) List.not_mem_nil
    rcases hsplit (a := []) (by simp) hword h with ⟨rfl, -⟩ | h
    · exact hne rfl
    · exact hno h
  | cons a names ih =>
    cases names with
    | nil =>
      rw [inLine_singleton]
      refine iff_of_false (fun h => ?_) List.not_mem_nil
      rcases hsplit a.isWord_of_mem hword h with ⟨-, h⟩ | h
      · exact hy h
      · exact hno h
    | cons b names =>
      rw [List.map_cons, List.map_cons, List.dropLast_cons_cons, List.mem_cons, ← List.map_cons,
        inLine_cons_cons, List.append_assoc, List.append_assoc]
      refine Iff.trans ?_ (or_congr_right ih)
      constructor
      · intro h
        rcases hsplit a.isWord_of_mem rfl h with ⟨h, -⟩ | h
        · exact .inl h
        · exact .inr (infix_of_infix_bar hne hw rfl h)
      · rintro (rfl | h)
        · exact ⟨[], "| ".toList ++ (inLine (b :: names) ++ y), by simp⟩
        · exact h.trans ⟨' ' :: (a.text ++ " |".toList), [], by simp⟩

/-- The text between blanks that tells a declaration of `TypeNode`. -/
def typeNodeName : List Char := " TypeNode ".toList

/-- `supersededTypeNode` finds its name in a list of alternatives: between two blanks, or in the place
of the two names that `typeNodeUnion` takes for a `TypeNode`. -/
def ListsTypeNode (names : List Identifier) : Prop :=
  "TypeNode".toList ∈ (names.map Identifier.text).dropLast ∨
    ["NamedTypeNode".toList, "ListTypeNode".toList] <:+: names.map Identifier.text

theorem exists_text_apply_typeNodeUnion_of_pair {a b : Identifier} {names : List Identifier}
    {x y : List Char} (ha : "NamedTypeNode".toList = a.text) (hb : "ListTypeNode".toList = b.text)
    (hx : Target.typeNodeUnion.Free [] x (inLine (a :: b :: names) ++ y))
    (hedge : x.getLast?.any isWord = false) (hword : y.head?.any isWord = false) :
    ∃ z, (typeNodeUnion.apply (x ++ (inLine (a :: b :: names) ++ y))).text = x ++ z ∧
      typeNodeName <:+: ' ' :: z := by
  have hmatch : Target.typeNodeUnion.Matches (.between x (inLine (a :: b :: names) ++ y)) :=
    matches_typeNodeUnion_inLine hedge hword ha hb
  obtain ⟨m, hm, -⟩ := Target.exists_chooses (by decide) hmatch
  obtain ⟨rest, hrest, -⟩ := Target.matches_typeNodeUnion_iff.mp hmatch
  rw [← Target.text_of_chooses_typeNodeUnion hm] at hrest
  rw [hrest] at hm hx ⊢
  obtain ⟨z, hz⟩ := Substitution.exists_text_apply_of_chooses
    (s := ⟨Target.typeNodeUnion, .literal "TypeNode /* NamedTypeNode | ListTypeNode */"⟩)
    (by decide) hx hm
  refine ⟨_, (congrArg Outcome.text (apply_of_singleton (r := typeNodeUnion) rfl _)).trans hz, ?_⟩
  exact ⟨[], "/* NamedTypeNode | ListTypeNode */".toList ++ z, rfl⟩

/-- Where the two names follow each other in a list, a `TypeNode` is put in the place of them. -/
theorem exists_text_apply_typeNodeUnion {names : List Identifier} {x y : List Char}
    (h : ["NamedTypeNode".toList, "ListTypeNode".toList] <:+: names.map Identifier.text)
    (hx : Target.typeNodeUnion.Free [] x (inLine names ++ y)) (hedge : x.getLast?.any isWord = false)
    (hword : y.head?.any isWord = false) :
    ∃ z, (typeNodeUnion.apply (x ++ (inLine names ++ y))).text = x ++ z ∧
      typeNodeName <:+: ' ' :: z := by
  induction names generalizing x with
  | nil => simp at h
  | cons a names ih =>
    cases names with
    | nil =>
      have := h.length_le
      simp at this
    | cons b names =>
      by_cases hab : a.text = "NamedTypeNode".toList ∧ b.text = "ListTypeNode".toList
      · exact exists_text_apply_typeNodeUnion_of_pair hab.1.symm hab.2.symm hx hedge hword
      · have hno : a.text = "NamedTypeNode".toList → b.text ≠ "ListTypeNode".toList :=
          fun ha hb => hab ⟨ha, hb⟩
        have hpair : ["NamedTypeNode".toList, "ListTypeNode".toList] <:+:
            (b :: names).map Identifier.text := by
          rcases List.infix_cons_iff.mp h with h | h
          · obtain ⟨ha, h⟩ := List.cons_prefix_cons.mp h
            exact absurd (List.cons_prefix_cons.mp h).1.symm (hno ha.symm)
          · exact h
        have hsplit : inLine (a :: b :: names) ++ y =
            (a.text ++ " | ".toList) ++ (inLine (b :: names) ++ y) := by
          rw [inLine_cons_cons]
          simp only [List.append_assoc]
        rw [hsplit] at hx ⊢
        obtain ⟨z, hz, hname⟩ := ih hpair
          (Target.free_append (y := a.text ++ " | ".toList) hx (free_typeNodeUnion_bar hno hword))
          (by rw [← List.append_assoc, List.getLast?_append]; rfl)
        rw [List.append_assoc] at hz
        refine ⟨(a.text ++ " | ".toList) ++ z, ?_, hname.trans ⟨' ' :: (a.text ++ " |".toList), [], ?_⟩⟩
        · rw [hz, List.append_assoc]
        · simp

/-! ### Declarations on one line -/

/-- A declaration up to its `=`, behind `exportType`. -/
def declared (name : List Char) : List Char :=
  "typedef /* export type */ ".toList ++ (name ++ " =".toList)

/-- What stands around the alternatives: those of a union of nodes are in a comment. -/
def AroundListed (x y : List Char) : Prop :=
  x = [] ∧ y = ";".toList ∨ x = " BaseNode; /*".toList ∧ y = "; */".toList

variable {name : List Char}

/-- Words that do not end in `Node`. -/
def Slot.other : Slot := word.barring false true "Node"

theorem other_holds (hname : ∀ c ∈ name, isWord c = true) (hnode : ¬ "Node".toList <:+ name) :
    Slot.other.holds name := by
  refine ⟨hname, ?_⟩
  rw [occurs, Bool.eq_false_iff, ne_eq, List.isSuffixOf_iff_suffix]
  exact hnode

theorem declared_append (name y : List Char) : declared name ++ y =
    "typedef /* export type */ ".toList ++ (name ++ (" =".toList ++ y)) := by
  unfold declared
  exact (List.append_assoc _ _ _).trans (congrArg _ (List.append_assoc _ _ _))

theorem declared_fits {σ : Slot} {o : Sketch} {y : List Char} (hname : σ.holds name) (hy : o.Fits y) :
    Sketch.Fits ("typedef /* export type */ " :: σ :: " =" :: o) (declared name ++ y) := by
  have hfits : Sketch.Fits ("typedef /* export type */ " :: σ :: " =" :: o)
      ("typedef /* export type */ ".toList ++ (name ++ (" =".toList ++ y))) :=
    .next rfl (.next hname (.next rfl hy))
  exact declared_append name y ▸ hfits

theorem declared_listed_fits {σ τ : Slot} {w : List Char} (hname : σ.holds name) (hw : τ.holds w) :
    Sketch.Fits ["typedef /* export type */ ", σ, " =", τ, ";"] (declared name ++ (w ++ ";".toList)) :=
  declared_fits hname (.next hw (.last rfl))

theorem not_mem_declared (hname : ∀ c ∈ name, isWord c = true) :
    ∀ c ∈ ['\n', ':', '\'', '$'], c ∉ declared name := by
  have hfixed : ∀ c ∈ ['\n', ':', '\'', '$'], isWord c = false ∧
      c ∉ "typedef /* export type */ ".toList ∧ c ∉ " =".toList := by
    decide
  intro c hc hmem
  obtain ⟨hword, hopening, hequals⟩ := hfixed c hc
  unfold declared at hmem
  rcases List.mem_append.mp hmem with h | h
  · exact hopening h
  · rcases List.mem_append.mp h with h | h
    · rw [hname c h] at hword
      cases hword
    · exact hequals h

theorem free_typeNodeUnion_declared (hname : ∀ c ∈ name, isWord c = true) {y : List Char} :
    Target.typeNodeUnion.Free [] (declared name) y := by
  have hsplit : declared name =
      ("typedef /* export type */ ".toList ++ (name ++ " ".toList)) ++ "=".toList := by
    have hequals : " =".toList = " ".toList ++ "=".toList := by decide
    unfold declared
    rw [hequals]
    simp only [List.append_assoc]
  have hno : ¬ "NamedTypeNode | ListTypeNode".toList <:+:
      "typedef /* export type */ ".toList ++ (name ++ " ".toList) :=
    Sketch.not_infix_of_fits (o := ["typedef /* export type */ ", .word, " "])
      (.next rfl (.next (σ := .word) hname (.last rfl))) (by decide)
  rw [hsplit]
  exact Target.free_append (Target.free_of_admits (d := '=') (by decide) (by decide) hno)
    (Target.free_of_begins (by decide) (by decide))

namespace AroundListed

variable {x y : List Char} {names : List Identifier}

theorem not_mem (h : AroundListed x y) :
    ∀ c ∈ ['\n', ':', '\'', '$'], c ∉ x ++ ((" ".toList ++ inLine names) ++ y) := by
  have hlisted : ∀ c ∈ ['\n', ':', '\'', '$'], isListed c = false := by decide
  have hxy : ∀ c ∈ ['\n', ':', '\'', '$'], c ∉ x ∧ c ∉ y := by
    rcases h with ⟨rfl, rfl⟩ | ⟨rfl, rfl⟩ <;> decide
  intro c hc hmem
  rcases List.mem_append.mp hmem with h | h
  · exact (hxy c hc).1 h
  · rcases List.mem_append.mp h with h | h
    · have := (Slot.listed_holds names).1 c h
      rw [hlisted c hc] at this
      cases this
    · exact (hxy c hc).2 h

/-- The name of the operation types behind a blank is the start of an alternative. -/
theorem operation_infix_iff (h : AroundListed x y) :
    operationName <:+: x ++ ((" ".toList ++ inLine names) ++ y) ↔
      ∃ b ∈ names, "OperationTypeNode".toList <+: b.text := by
  have hx : ¬ operationName <:+: x ∧ ∀ c ∈ x.getLast?, c ∉ operationName := by
    rcases h with ⟨rfl, rfl⟩ | ⟨rfl, rfl⟩ <;> decide
  have hy : ¬ operationName <:+: y ∧ y.head?.any isWord = false := by
    rcases h with ⟨rfl, rfl⟩ | ⟨rfl, rfl⟩ <;> decide
  have hblank : operationName = ' ' :: ("OperationTypeNode".toList ++ []) := by decide
  constructor
  · intro h
    have hline := (infix_or_infix_of_last hx.2 h).resolve_left hx.1
    rw [hblank] at hline hy
    rcases exists_prefix_of_infix_inLine hy.2 (by decide) (by decide) rfl hline with
      ⟨b, hb, hstart, -⟩ | h
    · exact ⟨b, hb, hstart⟩
    · exact absurd h hy.1
  · rintro ⟨b, hb, v, hv⟩
    obtain ⟨u, z, huz⟩ := exists_of_mem_inLine hb
    refine ⟨x ++ u, v ++ (z ++ y), ?_⟩
    have hname : operationName = " ".toList ++ "OperationTypeNode".toList := by decide
    rw [huz, ← hv, hname]
    simp only [List.append_assoc]

/-- `TypeNode` between blanks is an alternative with others behind it. -/
theorem typeNode_infix_iff (h : AroundListed x y) :
    typeNodeName <:+: x ++ ((" ".toList ++ inLine names) ++ y) ↔
      "TypeNode".toList ∈ (names.map Identifier.text).dropLast := by
  have hx : ¬ typeNodeName <:+: x ∧ ∀ c ∈ x.getLast?, c ∉ typeNodeName := by
    rcases h with ⟨rfl, rfl⟩ | ⟨rfl, rfl⟩ <;> decide
  have hy : ¬ typeNodeName <:+: y ∧ y.head?.any isWord = false ∧ ¬ " ".toList <+: y := by
    rcases h with ⟨rfl, rfl⟩ | ⟨rfl, rfl⟩ <;> decide
  have hname : typeNodeName = ' ' :: ("TypeNode".toList ++ " ".toList) := by decide
  have hline : ' ' :: ("TypeNode".toList ++ " ".toList) <:+: ' ' :: (inLine names ++ y) ↔
      "TypeNode".toList ∈ (names.map Identifier.text).dropLast :=
    infix_inLine_iff (by decide) (by decide) hy.2.1 hy.2.2 (hname ▸ hy.1)
  rw [← hline, ← hname]
  constructor
  · intro h
    exact (infix_or_infix_of_last hx.2 h).resolve_left hx.1
  · intro h
    exact h.trans (List.suffix_append x _).isInfix

theorem free_lead (h : AroundListed x y) {behind ahead : List Char} :
    Target.typeNodeUnion.Free behind x ahead := by
  rcases h with ⟨rfl, -⟩ | ⟨rfl, -⟩
  · exact Target.free_nil
  · exact Target.free_append (x := " BaseNode".toList) (y := "; /*".toList)
      (Target.free_of_admits (d := ';') (w := "NamedTypeNode | ListTypeNode".toList) (by decide)
        (by decide) (by decide))
      (Target.free_of_begins (by decide) (by decide))

theorem free_typeNodeUnion (h : AroundListed x y) {behind : List Char}
    (hno : ¬ ["NamedTypeNode".toList, "ListTypeNode".toList] <:+: names.map Identifier.text) :
    Target.typeNodeUnion.Free behind (x ++ ((" ".toList ++ inLine names) ++ y)) [] := by
  have hy : y.head?.any isWord = false ∧ ¬ " | ".toList <+: y ∧
      ∀ c ∈ y, Target.typeNodeUnion.whole.begins c = false := by
    rcases h with ⟨rfl, rfl⟩ | ⟨rfl, rfl⟩ <;> decide
  refine Target.free_append h.free_lead (Target.free_append
    (Target.free_append (Target.free_of_begins (by decide) (by decide)) ?_)
    (Target.free_of_begins (by decide) hy.2.2))
  rw [List.append_nil]
  exact free_typeNodeUnion_inLine hno hy.1 hy.2.1

/-- `typeNodeUnion` brings a `TypeNode` between blanks if the two names follow each other. -/
theorem typeNode_infix_iff_of_apply (h : AroundListed x y) (hname : ∀ c ∈ name, isWord c = true)
    {w : List Char} (happly : (typeNodeUnion.apply (declared name ++
      (x ++ ((" ".toList ++ inLine names) ++ y)))).text = declared name ++ w) :
    typeNodeName <:+: w ↔ ListsTypeNode names := by
  by_cases hpair : ["NamedTypeNode".toList, "ListTypeNode".toList] <:+: names.map Identifier.text
  · have hlead : Target.typeNodeUnion.Free [] (declared name ++ (x ++ " ".toList))
        (inLine names ++ y) :=
      Target.free_append (free_typeNodeUnion_declared hname)
        (Target.free_append h.free_lead (Target.free_of_begins (by decide) (by decide)))
    have hword : y.head?.any isWord = false := by
      rcases h with ⟨-, rfl⟩ | ⟨-, rfl⟩ <;> decide
    obtain ⟨z, hz, hfound⟩ := exists_text_apply_typeNodeUnion hpair hlead
      (by rw [← List.append_assoc, List.getLast?_append]; rfl) hword
    simp only [List.append_assoc] at happly hz
    obtain rfl : w = x ++ (" ".toList ++ z) := List.append_cancel_left (happly.symm.trans hz)
    exact iff_of_true (hfound.trans (List.suffix_append x _).isInfix) (.inr hpair)
  · have hkept : typeNodeUnion.apply (declared name ++ (x ++ ((" ".toList ++ inLine names) ++ y))) =
        ⟨_, 0⟩ :=
      (apply_of_singleton (r := typeNodeUnion) rfl _).trans (Substitution.apply_of_free (by decide)
        (Target.free_append (free_typeNodeUnion_declared hname) (h.free_typeNodeUnion hpair)))
    rw [hkept] at happly
    obtain rfl : x ++ ((" ".toList ++ inLine names) ++ y) = w := List.append_cancel_left happly
    exact h.typeNode_infix_iff.trans (or_iff_left hpair).symm

end AroundListed

namespace Run

theorem turns_exportType_listed (hname : ∀ c ∈ name, isWord c = true) (names : List Identifier) :
    Turns [exportType] ("export type ".toList ++ (name ++ (" =".toList ++
        ((" ".toList ++ inLine names) ++ ";".toList))))
      (declared name ++ ((" ".toList ++ inLine names) ++ ";".toList)) := by
  rw [declared_append]
  exact turns_exportType (o := [.word, " =", .listed, ";"])
    (.next (σ := .word) hname (.next rfl (.next (Slot.listed_holds names) (.last rfl)))) (by decide)

/-- `singleLineUnion` asks for a bar, so it leaves a declaration with one alternative. -/
theorem turns_alone (hname : ∀ c ∈ name, isWord c = true) (a : Identifier) :
    Turns [optionalField, primitives, variance, multiLineUnion, singleLineUnion]
      (declared name ++ ((" ".toList ++ inLine [a]) ++ ";".toList))
      (declared name ++ ((" ".toList ++ inLine [a]) ++ ";".toList)) := by
  have hword : (Slot.chars fun c => isWord c || c == ' ').holds (" ".toList ++ inLine [a]) := by
    intro c hc
    rw [inLine_singleton] at hc
    rcases List.mem_append.mp hc with hc | hc
    · rw [List.mem_singleton.mp hc]
      rfl
    · simp [a.isWord_of_mem c hc]
  exact .of_idles (declared_listed_fits (σ := .word) hname hword) (by decide)

/-- It asks for a `Node` at the end of the name, too. -/
theorem turns_other (hname : ∀ c ∈ name, isWord c = true) (hnode : ¬ "Node".toList <:+ name)
    (names : List Identifier) :
    Turns [optionalField, primitives, variance, multiLineUnion, singleLineUnion]
      (declared name ++ ((" ".toList ++ inLine names) ++ ";".toList))
      (declared name ++ ((" ".toList ++ inLine names) ++ ";".toList)) := by
  exact .of_idles (declared_listed_fits (other_holds hname hnode) (Slot.listed_holds names)) (by decide)

/-- The alternatives of a union of nodes move into a comment. -/
theorem turns_listed (hname : ∀ c ∈ name, isWord c = true) (hnode : "Node".toList <:+ name)
    (a b : Identifier) (names : List Identifier) :
    Turns [optionalField, primitives, variance, multiLineUnion, singleLineUnion]
      (declared name ++ ((" ".toList ++ inLine (a :: b :: names)) ++ ";".toList))
      (declared name ++ (" BaseNode; /*".toList ++
        ((" ".toList ++ inLine (a :: b :: names)) ++ "; */".toList))) := by
  have hkept : Turns [optionalField, primitives, variance, multiLineUnion] _ _ :=
    .of_idles (declared_listed_fits (σ := .word) hname (Slot.listed_holds (a :: b :: names)))
      (by decide)
  refine hkept.trans (.of_apply (by decide) ?_)
  -- the rule begins at the end of the name
  obtain ⟨stem, hstem, hsplit⟩ :=
    exists_stem hnode fun h => absurd (hname '=' h) (by decide)
  have happly := text_apply_singleLineUnion hstem a b names
  rw [hsplit (v := " = ") (by decide), hsplit (v := " = BaseNode; /* ") (by decide)] at happly
  have hbefore : " = ".toList = " =".toList ++ " ".toList := by decide
  have hafter : " = BaseNode; /* ".toList = " =".toList ++ (" BaseNode; /*".toList ++ " ".toList) := by
    decide
  rw [hbefore, hafter] at happly
  rw [declared_append, declared_append]
  simpa only [List.append_assoc] using happly

theorem exists_around (hname : ∀ c ∈ name, isWord c = true) (a : Identifier) (names : List Identifier) :
    ∃ x y, AroundListed x y ∧ textFrom (all.take 6) ("export type ".toList ++ (name ++
        (" =".toList ++ ((" ".toList ++ inLine (a :: names)) ++ ";".toList)))) =
      declared name ++ (x ++ ((" ".toList ++ inLine (a :: names)) ++ y)) := by
  have hrules : all.take 6 =
      [exportType] ++ [optionalField, primitives, variance, multiLineUnion, singleLineUnion] := by
    decide
  have hfirst := turns_exportType_listed hname (a :: names)
  rw [hrules]
  cases names with
  | nil => exact ⟨[], _, .inl ⟨rfl, rfl⟩, (hfirst.trans (turns_alone hname a)).textFrom_eq⟩
  | cons b names =>
    by_cases hnode : "Node".toList <:+ name
    · exact ⟨_, _, .inr ⟨rfl, rfl⟩, (hfirst.trans (turns_listed hname hnode a b names)).textFrom_eq⟩
    · exact ⟨[], _, .inl ⟨rfl, rfl⟩, (hfirst.trans (turns_other hname hnode _)).textFrom_eq⟩

/-- `supersededTypeNode` finds a declaration on one line, and behind its `=` the names that the late
rules look for if they are among the alternatives. -/
theorem exists_textFrom_listed (hname : ∀ c ∈ name, isWord c = true) (a : Identifier)
    (names : List Identifier) :
    ∃ y, textFrom (all.take 7) ("export type ".toList ++ (name ++ (" =".toList ++
          ((" ".toList ++ inLine (a :: names)) ++ ";".toList)))) = declared name ++ y ∧
      (∀ c ∈ ['\n', ':', '\'', '$'], c ∉ y) ∧
      (operationName <:+: y ↔ ∃ b ∈ a :: names, "OperationTypeNode".toList <+: b.text) ∧
      (typeNodeName <:+: y ↔ ListsTypeNode (a :: names)) := by
  obtain ⟨u, v, haround, hearly⟩ := exists_around hname a names
  obtain ⟨y, hunion, hop⟩ := exists_apply_typeNodeUnion
    (y := u ++ ((" ".toList ++ inLine (a :: names)) ++ v)) (free_typeNodeUnion_declared hname)
  have hrules : all.take 7 = all.take 6 ++ [typeNodeUnion] := by decide
  refine ⟨y, ?_, fun c hc hmem => ?_, hop.trans haround.operation_infix_iff, ?_⟩
  · rw [hrules, textFrom_append, hearly]
    exact hunion
  · have hadded : ∀ c ∈ ['\n', ':', '\'', '$'], ∀ s ∈ typeNodeUnion.substitutions,
        c ∉ s.replacement.added := by
      decide
    have htext : c ∈ (typeNodeUnion.apply (declared name ++
        (u ++ ((" ".toList ++ inLine (a :: names)) ++ v)))).text := by
      rw [hunion]
      exact List.mem_append_right _ hmem
    exact (List.mem_append.mp (mem_apply_text (hadded c hc) htext)).elim
      (not_mem_declared hname c hc) (haround.not_mem c hc)
  · exact haround.typeNode_infix_iff_of_apply hname hunion

/-! ### Declarations over several lines -/

section Lines

variable {print : Identifier → List Char} (hprint : ∀ b, ∀ c ∈ print b, isWord c = true ∨ c = '\'')
  (row : Indent × Identifier) (rows : List (Indent × Identifier))
include hprint

/-- What stands below the first line. -/
theorem exists_below (closing : String)
    (hclosing : Sketch.mayHave [.lines, closing] "typedef ".toList = false) :
    ∃ below, barred print (row :: rows) ++ closing.toList = '\n' :: below ∧
      (∃ z, below = row.1.blanks ++ '|' :: z) ∧ ¬ "typedef ".toList <:+: below := by
  have hrest : ¬ "typedef ".toList <:+: barred print (row :: rows) ++ closing.toList :=
    Sketch.not_infix_of_fits (.next (Slot.lines_holds fun row _ => hprint row.2) (.last rfl)) hclosing
  have hbar : "| ".toList = '|' :: " ".toList := by decide
  have hbelow : barred print (row :: rows) ++ closing.toList = '\n' :: (row.1.blanks ++
      '|' :: ((" ".toList ++ print row.2) ++ (barred print rows ++ closing.toList))) := by
    rw [barred_cons, Indent.bar, hbar]
    simp
  exact ⟨_, hbelow, ⟨_, rfl⟩, fun h => hrest (by rw [hbelow]; exact List.infix_cons h)⟩

/-- A union of nodes becomes a `BaseNode`. -/
theorem turns_lines (hname : ∀ c ∈ name, isWord c = true) (hnode : "Node".toList <:+ name) :
    Turns (all.take 7) ("export type ".toList ++ (name ++ (" =".toList ++
        (barred print (row :: rows) ++ ";".toList))))
      (declared name ++ (" BaseNode; /* ".toList ++ (barred print (row :: rows) ++ "; */".toList))) := by
  have hlines : Slot.lines.holds (barred print (row :: rows)) :=
    Slot.lines_holds fun row _ => hprint row.2
  have hbase := turns_baseNode hname hnode hlines (opensLine_barred row rows) (by decide) (by decide)
    (by decide) (by decide)
  have hunion : " = BaseNode; /* ".toList = " =".toList ++ " BaseNode; /* ".toList := by decide
  rw [hunion, List.append_assoc " =".toList, ← declared_append] at hbase
  exact hbase.trans (.of_idles (declared_fits (σ := .word) (o := [" BaseNode; /* ", .lines, "; */"]) hname
    (.next rfl (.next hlines (.last rfl)))) (by decide))

/-- No other union is rewritten, apart from its first words. -/
theorem turns_other_lines (hname : ∀ c ∈ name, isWord c = true) (hnode : ¬ "Node".toList <:+ name) :
    Turns (all.take 7) ("export type ".toList ++ (name ++ (" =".toList ++
        (barred print (row :: rows) ++ ";".toList))))
      (declared name ++ (barred print (row :: rows) ++ ";".toList)) := by
  have hlines : Slot.lines.holds (barred print (row :: rows)) :=
    Slot.lines_holds fun row _ => hprint row.2
  have hfirst : Turns [exportType] _ _ :=
    turns_exportType (o := [.word, " =", .lines, ";"])
      (.next (σ := .word) hname (.next rfl (.next hlines (.last rfl)))) (by decide)
  rw [← declared_append] at hfirst
  exact hfirst.trans (.of_idles (declared_listed_fits (other_holds hname hnode) hlines) (by decide))

end Lines

/-! ### The late rules -/

/-- The rules between `supersededTypeNode` and `operationType`. -/
def middleRules : List Rule := [nullableToken, optionalValue, importType, kindLiteral, readOnlyArray]

theorem textFrom_late (text : List Char) : textFrom all text = (operationType.apply
    (textFrom middleRules (supersededTypeNode.apply (textFrom (all.take 7) text)).text)).text := by
  have hrules : all = all.take 7 ++ (supersededTypeNode :: (middleRules ++ [operationType])) := by
    decide
  refine (congrArg (textFrom · text) hrules).trans ?_
  rw [textFrom_append, textFrom_cons, textFrom_append]
  rfl

/-- They leave a line with none of the characters that they look for, unless it is an import. -/
theorem textFrom_middleRules {line : List Char} (hline : ∀ c ∈ ['\n', ':', '\'', '$'], c ∉ line)
    (himport : ¬ "import type ".toList <+: line) : textFrom middleRules line = line := by
  have hsketch : Sketch.Fits [.chars fun c => decide (c ∉ ['\n', ':', '\'', '$'])] line :=
    .last fun c hc => decide_eq_true fun h => hline c h hc
  have hkept : (importType.apply line).text = line := by
    rcases apply_importType_of_line (hline '\n' (by decide)) with ⟨h, -⟩ | ⟨-, h⟩
    · exact absurd h himport
    · rw [h]
  rw [middleRules, textFrom_cons, textFrom_cons, textFrom_cons, apply_of_idles hsketch (by decide),
    apply_of_idles hsketch (by decide), hkept]
  exact textFrom_of_idles hsketch (by decide)

/-- What is not found up to the `=` is looked for behind it. -/
theorem infix_declared_iff {w y : List Char} (hw : '=' ∉ w) (hname : ¬ w <:+: declared name) :
    w <:+: declared name ++ y ↔ w <:+: y := by
  have hlast : ∀ c ∈ (declared name).getLast?, c ∉ w := by
    have hequals : " =".toList.getLast? = some '=' := rfl
    unfold declared
    rw [List.getLast?_append, List.getLast?_append, hequals]
    intro c hc
    rw [← Option.some.inj hc]
    exact hw
  exact ⟨fun h => (infix_or_infix_of_last hlast h).resolve_left hname,
    fun h => h.trans (List.suffix_append _ _).isInfix⟩

theorem typedefWith_declared_iff {w y : List Char} (hw : '=' ∉ w) (hname : ¬ w <:+: declared name) :
    TypedefWith w (declared name ++ y) ↔ w <:+: y := by
  constructor
  · rintro ⟨g, z, h⟩
    refine (infix_declared_iff hw hname).mp ⟨"typedef ".toList ++ g, z, ?_⟩
    rw [h]
    simp only [List.append_assoc]
  · rintro ⟨g, z, rfl⟩
    have hopening : "typedef /* export type */ ".toList =
        "typedef ".toList ++ "/* export type */ ".toList := by
      decide
    refine ⟨"/* export type */ ".toList ++ (name ++ (" =".toList ++ g)), z, ?_⟩
    rw [declared_append, hopening]
    simp only [List.append_assoc]

end Run

end HaxeTypedefs
