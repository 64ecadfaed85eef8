/-
Unions of nodes, rewritten rule by rule.

A union gives way to a `BaseNode`, and its alternatives move into a comment.  The rules
behind have to be kept from that comment: the rule for `NamedTypeNode | ListTypeNode` by
its word edges, the two that look for a typedef by what the alternatives are not called,
or by the line feed before each of them.

* **`Run.turns_multiLineUnion`**, **`Run.turns_singleLineUnion`** — what a run makes of a union.
-/
import HaxeTypedefs.Proofs.DeclarationLine

namespace HaxeTypedefs

open Rule

/-! ### Alternatives on lines of their own -/

/-- White space before a line. -/
structure Indent where
  blanks : List Char
  ne_nil : blanks ≠ []
  blanks_ok : ∀ c ∈ blanks, c = ' ' ∨ c = '\t'

/-- What stands before an alternative, from the line feed on. -/
def Indent.bar (i : Indent) : List Char := "\n".toList ++ (i.blanks ++ "| ".toList)

theorem Indent.isBlank_of_mem (i : Indent) : ∀ c ∈ i.blanks, isBlank c = true := by
  intro c hc
  rcases i.blanks_ok c hc with rfl | rfl <;> decide

theorem Indent.mem_bar {i : Indent} {c : Char} (hc : c ∈ i.bar) : c ∈ ['\n', ' ', '\t', '|'] := by
  simp only [bar, List.mem_append] at hc
  rcases hc with hc | hc | hc
  · revert c
    decide
  · rcases i.blanks_ok c hc with rfl | rfl <;> decide
  · revert c
    decide

theorem Indent.isWord_of_mem_bar {i : Indent} : ∀ c ∈ i.bar, isWord c = false := by
  have hbar : ∀ d ∈ ['\n', ' ', '\t', '|'], isWord d = false := by decide
  exact fun c hc => hbar c (mem_bar hc)

/-- Alternatives in lines, each with its indentation. -/
def barred {α : Type} (print : α → List Char) (rows : List (Indent × α)) : List Char :=
  rows.flatMap fun row => row.1.bar ++ print row.2

section Rows

variable {α : Type} {print : α → List Char}

theorem barred_cons (row : Indent × α) (rows : List (Indent × α)) :
    barred print (row :: rows) = row.1.bar ++ (print row.2 ++ barred print rows) := by
  rw [barred, List.flatMap_cons, List.append_assoc]
  rfl

theorem mem_barred {c : Char} {rows : List (Indent × α)} (hc : c ∈ barred print rows) :
    c ∈ ['\n', ' ', '\t', '|'] ∨ ∃ row ∈ rows, c ∈ print row.2 := by
  obtain ⟨row, hrow, hc⟩ := List.mem_flatMap.mp hc
  exact (List.mem_append.mp hc).imp Indent.mem_bar fun hc => ⟨row, hrow, hc⟩

theorem infix_barred_of_mem {row : Indent × α} {rows : List (Indent × α)} (h : row ∈ rows) :
    print row.2 <:+: barred print rows := by
  obtain ⟨before, behind, rfl⟩ := List.append_of_mem h
  exact ⟨barred print before ++ row.1.bar, barred print behind, by simp [barred]⟩

theorem head?_barred (rows : List (Indent × α)) : ∀ c ∈ (barred print rows).head?, c = '\n' := by
  intro c hc
  cases rows with
  | nil => cases hc
  | cons row rows =>
    rw [barred_cons] at hc
    exact (Option.some.inj hc).symm

/-- What has no word characters may stand before a text. -/
theorem pair_infix_of_mark {c d : Char} {m y : List Char} (hc : isWord c = true)
    (hm : ∀ e ∈ m, isWord e = false) (h : [c, d] <:+: m ++ y) : [c, d] <:+: y := by
  have hnot : c ∉ m := by
    intro hmem
    rw [hm c hmem] at hc
    cases hc
  rcases pair_infix_append_iff.mp h with h | h | h
  · exact absurd (h.subset (by simp)) hnot
  · exact h
  · exact absurd (List.mem_of_getLast? h.1) hnot

/-- No word ends before a blank in these lines. -/
theorem not_pair_infix_barred {c : Char} (hc : isWord c = true) {rows : List (Indent × α)}
    (hprint : ∀ row ∈ rows, ' ' ∉ print row.2) : ¬ [c, ' '] <:+: barred print rows := by
  induction rows with
  | nil => simp [barred]
  | cons row rows ih =>
    intro h
    rw [barred_cons] at h
    rcases pair_infix_append_iff.mp (pair_infix_of_mark hc Indent.isWord_of_mem_bar h) with h | h | h
    · exact hprint row List.mem_cons_self (h.subset (by simp))
    · exact ih (fun row hrow => hprint row (List.mem_cons_of_mem _ hrow)) h
    · exact absurd (head?_barred rows _ h.2) (by decide)

end Rows

/-- Two blanks. -/
def Indent.two : Indent := ⟨"  ".toList, by decide, by decide⟩

theorem inLines_eq_barred (names : List Identifier) :
    inLines names = barred Identifier.text (names.map fun a => (.two, a)) := by
  rw [inLines, barred, List.flatMap_map]
  rfl

/-- A word ends before a blank. -/
def endsWord : List Char → Bool
  | c :: d :: w => isWord c && d == ' ' || endsWord (d :: w)
  | _ => false

theorem exists_pair_of_endsWord {w : List Char} (h : endsWord w = true) :
    ∃ c, isWord c = true ∧ [c, ' '] <:+: w := by
  induction w with
  | nil => cases h
  | cons c w ih =>
    cases w with
    | nil => cases h
    | cons d w =>
      rw [endsWord, Bool.or_eq_true, Bool.and_eq_true, beq_iff_eq] at h
      rcases h with ⟨hc, rfl⟩ | h
      · exact ⟨c, hc, [], w, rfl⟩
      · obtain ⟨e, he, hpair⟩ := ih h
        exact ⟨e, he, hpair.trans (List.suffix_cons c _).isInfix⟩

/-- The characters of alternatives on one line. -/
def isListed (c : Char) : Bool := isWord c || [' ', '|'].contains c

/-- Alternatives in lines. -/
def Slot.lines : Slot where
  holds x := (∀ c ∈ x, (isListed c || ['\n', '\t', '\''].contains c) = true) ∧
    ∀ c, isWord c = true → ¬ [c, ' '] <:+: x
  may _ _ v := (v.all fun c => isListed c || ['\n', '\t', '\''].contains c) && !endsWord v
  sound := by
    rintro x v y ⟨hall, hpair⟩
    rw [Bool.and_eq_true, List.all_eq_true, Bool.not_eq_true']
    refine ⟨fun c hc => hall c (by simp [hc]), ?_⟩
    by_contra h
    obtain ⟨c, hc, hpart⟩ := exists_pair_of_endsWord (eq_true_of_ne_false h)
    exact hpair c hc (hpart.trans ⟨x, y, rfl⟩)

theorem isListed_of_mem_text {c : Char} {a : Identifier} (hc : c ∈ a.text) : isListed c = true := by
  rw [isListed, a.isWord_of_mem c hc]
  rfl

theorem Slot.lines_holds {α : Type} {print : α → List Char} {rows : List (Indent × α)}
    (hprint : ∀ row ∈ rows, ∀ c ∈ print row.2, isWord c = true ∨ c = '\'') :
    lines.holds (barred print rows) := by
  refine ⟨fun c hc => ?_, fun c hc => not_pair_infix_barred hc fun row hrow hblank => ?_⟩
  · have hbar : ∀ d ∈ ['\n', ' ', '\t', '|'],
        (isListed d || ['\n', '\t', '\''].contains d) = true := by
      decide
    rcases mem_barred hc with hc | ⟨row, hrow, hc⟩
    · exact hbar c hc
    · rcases hprint row hrow c hc with hc | rfl
      · rw [isListed, hc]
        rfl
      · decide
  · rcases hprint row hrow _ hblank with h | h
    · exact absurd h (by decide)
    · exact absurd h (by decide)

namespace Run

variable {x rest : List Char}

/-- The text begins with an alternative on a line of its own. -/
def OpensLine (w : List Char) : Prop :=
  ∃ bl body, bl ≠ [] ∧ (∀ c ∈ bl, isBlank c = true) ∧ w = "\n".toList ++ (bl ++ ("|".toList ++ body))

theorem OpensLine.append {w : List Char} (h : OpensLine w) (v : List Char) : OpensLine (w ++ v) := by
  obtain ⟨bl, body, hne, hbl, rfl⟩ := h
  exact ⟨bl, body ++ v, hne, hbl, by simp⟩

theorem opensLine_barred {α : Type} {print : α → List Char} (row : Indent × α)
    (rows : List (Indent × α)) : OpensLine (barred print (row :: rows)) :=
  ⟨row.1.blanks, " ".toList ++ (print row.2 ++ barred print rows), row.1.ne_nil,
    row.1.isBlank_of_mem, by rw [barred_cons, Indent.bar]; simp⟩

theorem text_apply_multiLineUnion (hx : '=' ∉ x) {w : List Char} (hopens : OpensLine w)
    (hw : ';' ∉ w) :
    (multiLineUnion.apply (x ++ ("Node =".toList ++ (w ++ ";".toList)))).text =
      x ++ ("Node = BaseNode; /* ".toList ++ (w ++ "; */".toList)) := by
  have hm : Target.multiLineUnion.Chooses (.between x ("Node =".toList ++ (w ++ ";".toList) ++ []))
      ⟨"Node =".toList, w ++ ";".toList, []⟩ := by
    obtain ⟨bl, body, hne, hbl, rfl⟩ := hopens
    have hbody : ';' ∉ body := fun h => hw (by simp [h])
    exact Target.chooses_multiLineUnion_iff.mpr
      ⟨[], bl, body, [], by simp, by simp, hne, hbl, hbody, by simp⟩
  have happly := text_apply_of_match (r := multiLineUnion) rfl hm
    (by rw [Match.text, List.append_nil])
    (Target.free_of_opening (w := "Node ".toList) (d := '=') (z := []) rfl (by decide) hx)
    Target.free_nil
  rw [List.append_nil] at happly
  rw [happly]
  show x ++ ("Node = BaseNode; /* ".toList ++ (w ++ ";".toList) ++ " */".toList ++ []) = _
  simp

/-- The only place where a union on one line may begin is not one. -/
theorem text_apply_singleLineUnion_of_not_matches (hx : '=' ∉ x)
    (hm : ¬ Target.singleLineUnion.Matches (.between x ("Node = ".toList ++ rest)))
    (hrest : ¬ "Node = ".toList <:+: rest) :
    (singleLineUnion.apply (x ++ ("Node = ".toList ++ rest))).text = x ++ ("Node = ".toList ++ rest) := by
  have hname : Target.singleLineUnion.Free x ['N'] ("ode = ".toList ++ rest) :=
    Target.free_singleton hm
  have hfree : Target.singleLineUnion.Free [] (x ++ ("Node = ".toList ++ rest)) [] := by
    refine Target.free_append (Target.free_of_opening (w := "Node ".toList) (d := '=')
      (z := " ".toList) rfl (by decide) hx) ?_
    refine Target.free_append (x := ['N']) (y := "ode = ".toList ++ rest) ?_
      (Target.free_append (Target.free_of_begins (by decide) (by decide))
        (Target.free_of_lacks (w := "Node = ".toList) (by decide) (by rwa [List.append_nil])))
    rw [List.append_nil]
    exact hname
  rw [apply_of_singleton rfl, Substitution.apply_of_free (by decide) hfree]

/-- What a union has become is not taken for a union on one line. -/
theorem text_apply_singleLineUnion_of_base (hx : '=' ∉ x)
    (hrest : ¬ "Node = ".toList <:+: "ode = BaseNode; /* ".toList ++ rest) :
    (singleLineUnion.apply (x ++ ("Node = BaseNode; /* ".toList ++ rest))).text =
      x ++ ("Node = BaseNode; /* ".toList ++ rest) := by
  have hbehind : ¬ "Node = ".toList <:+: "BaseNode; /* ".toList ++ rest := fun h =>
    hrest (h.trans (List.suffix_append "ode = ".toList _).isInfix)
  have hno : ¬ Target.singleLineUnion.Matches
      (.between x ("Node = ".toList ++ ("BaseNode; /* ".toList ++ rest))) := by
    intro hmatch
    obtain ⟨m, hm, -⟩ := Target.exists_chooses (by decide) hmatch
    obtain ⟨v, bl, w, rest', h, hv, hword, hne, hbl, -⟩ := Target.chooses_singleLineUnion_iff.mp hm
    have hbase : "BaseNode".toList ++ ("; /* ".toList ++ rest) =
        v ++ (bl ++ ("|".toList ++ (w ++ (";".toList ++ rest')))) := by
      simpa using h
    -- behind `BaseNode` comes a semicolon, where a union has white space
    obtain ⟨-, hblank⟩ := span_unique hbase (by decide) hword rfl
      (head?_any_append hne (head?_blank_any_isWord hbl))
    cases bl with
    | nil => exact hne rfl
    | cons d bl =>
      have hhead : ';' :: (" /* ".toList ++ rest) = d :: (bl ++ _) := hblank
      obtain ⟨rfl, -⟩ := List.cons.inj hhead
      exact absurd (hbl ';' List.mem_cons_self) (by decide)
  exact text_apply_singleLineUnion_of_not_matches hx hno hbehind

/-- A typedef of an operation type is looked for within a line. -/
theorem text_apply_operationType_of_lines (hx : ¬ " OperationTypeNode".toList <:+: x)
    (hopens : OpensLine rest) (hrest : ¬ "typedef ".toList <:+: rest) :
    (operationType.apply (x ++ rest)).text = x ++ rest := by
  have hfree : Target.operationType.Free [] (x ++ rest) [] := by
    refine Target.free_append ?_ (Target.free_of_lacks (w := "typedef ".toList) (by decide) ?_)
    · obtain ⟨bl, body, -, -, rfl⟩ := hopens
      rw [List.append_nil]
      exact Target.free_of_admits (d := '\n') (w := " OperationTypeNode".toList) (by decide) (by decide) hx
    · rwa [List.append_nil]
  rw [apply_of_singleton rfl, Substitution.apply_of_free (by decide) hfree]

/-- What stands before the `Node` that ends the name of a union. -/
theorem exists_stem {name : List Char} (hnode : "Node".toList <:+ name) (hname : '=' ∉ name) :
    ∃ stem, '=' ∉ stem ∧ ∀ {w v : String}, w.toList = "Node".toList ++ v.toList → ∀ rest,
      stem ++ (w.toList ++ rest) =
        "typedef /* export type */ ".toList ++ (name ++ (v.toList ++ rest)) := by
  obtain ⟨stem, rfl⟩ := hnode
  have hmark : '=' ∉ "typedef /* export type */ ".toList := by decide
  rw [List.mem_append] at hname
  refine ⟨"typedef /* export type */ ".toList ++ stem, ?_, fun hw rest => ?_⟩
  · rw [List.mem_append]
    tauto
  · rw [hw]
    simp only [List.append_assoc]

/-- The rules up to `singleLineUnion` make a union over several lines a `BaseNode`, whatever stands
on the lines, if it goes with a slot that keeps these rules idle. -/
theorem turns_baseNode {σ : Slot} {name w : List Char} (hname : ∀ c ∈ name, isWord c = true)
    (hnode : "Node".toList <:+ name) (hσ : σ.holds w) (hopens : OpensLine w)
    (hexport : Sketch.mayHave [" ", .word, " =", σ, ";"] "export type".toList = false)
    (hidle : [optionalField, primitives, variance].all
      (Sketch.idles [.chars (· == '\n'), "typedef /* export type */ ", .word, " =", σ, ";"]) = true)
    (hend : Sketch.mayHave [σ] ";".toList = false)
    (hbase : Sketch.mayHave ["ode = BaseNode; /* ", σ, "; */"] "Node = ".toList = false) :
    Turns [exportType, optionalField, primitives, variance, multiLineUnion, singleLineUnion]
      ("export type ".toList ++ (name ++ (" =".toList ++ (w ++ ";".toList))))
      ("typedef /* export type */ ".toList ++ (name ++ (" = BaseNode; /* ".toList ++
        (w ++ "; */".toList)))) := by
  have hequals : '=' ∉ name := fun h => absurd (hname _ h) (by decide)
  obtain ⟨stem, hstem, hsplit⟩ := exists_stem hnode hequals
  have hfirst : Turns [exportType] _ _ :=
    turns_exportType (o := [.word, " =", σ, ";"])
      (.next (σ := .word) hname (.next rfl (.next hσ (.last rfl)))) hexport
  have hbefore : Turns [optionalField, primitives, variance] _ _ :=
    .of_idles (o := ["typedef /* export type */ ", .word, " =", σ, ";"])
      (.next rfl (.next (σ := .word) hname (.next rfl (.next hσ (.last rfl))))) hidle
  have hsemicolon : ';' ∉ w := Sketch.not_mem_of_fits (.last hσ) hend
  -- the two rules for unions begin at the end of the name
  have hunion := text_apply_multiLineUnion hstem hopens hsemicolon
  rw [hsplit (v := " =") (by decide), hsplit (v := " = BaseNode; /* ") (by decide)] at hunion
  have hkept := text_apply_singleLineUnion_of_base hstem
    (Sketch.not_infix_of_fits (.next rfl (.next hσ (.last rfl))) hbase)
  rw [hsplit (v := " = BaseNode; /* ") (by decide)] at hkept
  exact hfirst.trans (hbefore.trans ((Turns.of_apply (by decide) hunion).trans
    (Turns.of_kept (by decide) hkept)))

theorem turns_multiLineUnion (name : UnionName) (first : Identifier) (others : List Identifier) :
    Turns all ("export type ".toList ++ (name.name.text ++ (" =".toList ++
        (inLines (first :: others) ++ ";".toList))))
      ("typedef /* export type */ ".toList ++ (name.name.text ++ (" = BaseNode; /* ".toList ++
        (inLines (first :: others) ++ "; */".toList)))) := by
  have hname := Slot.typeName_holds name.toTypeName
  have hlines : Slot.lines.holds (inLines (first :: others)) := by
    rw [inLines_eq_barred]
    exact Slot.lines_holds fun row hrow c hc => .inl (row.2.isWord_of_mem c hc)
  have hopens : OpensLine (inLines (first :: others)) := by
    rw [inLines_eq_barred]
    exact opensLine_barred _ _
  have hbase := turns_baseNode name.name.isWord_of_mem name.node_suffix hlines hopens (by decide)
    (by decide) (by decide) (by decide)
  have hafter : Turns [typeNodeUnion, supersededTypeNode, nullableToken, optionalValue, importType,
      kindLiteral, readOnlyArray] _ _ :=
    .of_idles (o := ["typedef /* export type */ ", .typeName, " = BaseNode; /* ", .lines, "; */"])
      (.next rfl (.next hname (.next rfl (.next hlines (.last rfl))))) (by decide)
  -- the words that `operationType` looks for may stand on both sides of the line feed
  have hline : ¬ " OperationTypeNode".toList <:+:
      "typedef /* export type */ ".toList ++ (name.name.text ++ " = BaseNode; /* ".toList) :=
    Sketch.not_infix_of_fits (o := ["typedef /* export type */ ", .typeName, " = BaseNode; /* "])
      (.next rfl (.next hname (.last rfl))) (by decide)
  have hrest : ¬ "typedef ".toList <:+: inLines (first :: others) ++ "; */".toList :=
    Sketch.not_infix_of_fits (o := [.lines, "; */"]) (.next hlines (.last rfl)) (by decide)
  have hlast := text_apply_operationType_of_lines hline (hopens.append _) hrest
  simp only [List.append_assoc] at hlast
  exact hbase.trans (hafter.trans (.of_kept (by decide) hlast))

end Run

/-! ### Alternatives on one line -/

theorem inLine_singleton (a : Identifier) : inLine [a] = a.text := by
  rw [inLine, List.map_singleton, List.intercalate_singleton]

theorem inLine_cons_cons (a b : Identifier) (names : List Identifier) :
    inLine (a :: b :: names) = a.text ++ (" | ".toList ++ inLine (b :: names)) := by
  rw [inLine, List.map_cons, List.map_cons, List.intercalate_cons_cons, List.append_assoc]
  rfl

theorem isListed_of_mem_inLine {c : Char} {names : List Identifier} (hc : c ∈ inLine names) :
    isListed c = true := by
  induction names with
  | nil => cases hc
  | cons a names ih =>
    cases names with
    | nil =>
      rw [inLine_singleton] at hc
      exact isListed_of_mem_text hc
    | cons b names =>
      rw [inLine_cons_cons, List.mem_append, List.mem_append] at hc
      have hbar : ∀ d ∈ " | ".toList, isListed d = true := by decide
      rcases hc with hc | hc | hc
      · exact isListed_of_mem_text hc
      · exact hbar c hc
      · exact ih hc

/-- A list begins with its first name, and the name ends there. -/
theorem exists_inLine_append_eq (a : Identifier) (names : List Identifier) {y : List Char}
    (hword : y.head?.any isWord = false) :
    ∃ tail, inLine (a :: names) ++ y = a.text ++ tail ∧ tail.head?.any isWord = false := by
  cases names with
  | nil => exact ⟨y, by rw [inLine_singleton], hword⟩
  | cons b names => exact ⟨_, by rw [inLine_cons_cons, List.append_assoc], rfl⟩

/-- A word behind a blank is the start of the first word of the text, or stands behind that. -/
theorem prefix_or_infix_of_word {a w y z : List Char} (ha : ∀ c ∈ a, isWord c = true)
    (hy : y.head?.any isWord = false) (hne : w ≠ []) (hw : ∀ c ∈ w, isWord c = true)
    (hz : z.head?.any isWord = false) (h : ' ' :: (w ++ z) <:+: ' ' :: (a ++ y)) :
    w <+: a ∧ (z ≠ [] → w = a ∧ z <+: y) ∨ ' ' :: (w ++ z) <:+: y := by
  have hblank : ∀ a : List Char, (∀ c ∈ a, isWord c = true) → ' ' :: (w ++ z) <:+: a ++ y →
      ' ' :: (w ++ z) <:+: y := by
    intro a ha h
    induction a with
    | nil => exact h
    | cons c a ih =>
      rcases List.infix_cons_iff.mp h with hstart | h
      · obtain ⟨u, hu⟩ := hstart
        obtain ⟨rfl, -⟩ := List.cons.inj hu
        exact absurd (ha ' ' List.mem_cons_self) (by decide)
      · exact ih (fun d hd => ha d (List.mem_cons_of_mem _ hd)) h
  -- the blank is the one in front of the first word, or one behind it
  rcases List.infix_cons_iff.mp h with hstart | h
  · obtain ⟨u, hu⟩ := (List.cons_prefix_cons.mp hstart).2
    rw [List.append_assoc] at hu
    by_cases hnil : z = []
    · subst hnil
      refine .inl ⟨?_, fun h => absurd rfl h⟩
      rcases List.append_eq_append_iff.mp hu with ⟨v, rfl, -⟩ | ⟨v, rfl, hv⟩
      · exact List.prefix_append _ _
      · cases v with
        | nil => simp
        | cons c v =>
          rw [hv] at hy
          have hc := hw c (by simp)
          simp [hc] at hy
    · obtain ⟨rfl, hz⟩ := span_unique hu hw ha (head?_any_append hnil hz) hy
      exact .inl ⟨List.prefix_rfl, fun _ => ⟨rfl, u, hz⟩⟩
  · exact .inr (hblank a ha h)

/-- A word behind a blank does not begin at the bar between two alternatives. -/
theorem infix_of_infix_bar {w y z : List Char} (hne : w ≠ []) (hw : ∀ c ∈ w, isWord c = true)
    (hz : z.head?.any isWord = false) (h : ' ' :: (w ++ z) <:+: " | ".toList ++ y) :
    ' ' :: (w ++ z) <:+: ' ' :: y := by
  have hbar : ' ' :: (w ++ z) <:+: ' ' :: ([] ++ '|' :: ' ' :: y) := h
  rcases prefix_or_infix_of_word (by simp) rfl hne hw hz hbar with ⟨hstart, -⟩ | h
  · exact absurd (List.prefix_nil.mp hstart) hne
  · rcases List.infix_cons_iff.mp h with hstart | h
    · exact absurd (List.cons_prefix_cons.mp hstart).1 (by decide)
    · exact h

/-- A word behind a blank is the start of an alternative, and all of it if more is said of what
follows. -/
theorem exists_prefix_of_infix_inLine {names : List Identifier} {w y z : List Char}
    (hy : y.head?.any isWord = false) (hne : w ≠ []) (hw : ∀ c ∈ w, isWord c = true)
    (hz : z.head?.any isWord = false) (h : ' ' :: (w ++ z) <:+: ' ' :: (inLine names ++ y)) :
    (∃ a ∈ names, w <+: a.text ∧ (z ≠ [] → w = a.text)) ∨ ' ' :: (w ++ z) <:+: y := by
  induction names with
  | nil =>
    rcases prefix_or_infix_of_word (a := []) (by simp) hy hne hw hz h with ⟨hstart, -⟩ | h
    · exact absurd (List.prefix_nil.mp hstart) hne
    · exact .inr h
  | cons a names ih =>
    cases names with
    | nil =>
      rw [inLine_singleton] at h
      refine (prefix_or_infix_of_word a.isWord_of_mem hy hne hw hz h).imp_left fun h => ?_
      exact ⟨a, List.mem_cons_self, h.1, fun hne => (h.2 hne).1⟩
    | cons b names =>
      rw [inLine_cons_cons, List.append_assoc, List.append_assoc] at h
      rcases prefix_or_infix_of_word a.isWord_of_mem rfl hne hw hz h with h | h
      · exact .inl ⟨a, List.mem_cons_self, h.1, fun hne => (h.2 hne).1⟩
      · refine (ih (infix_of_infix_bar hne hw hz h)).imp_left ?_
        rintro ⟨a', ha', h⟩
        exact ⟨a', List.mem_cons_of_mem _ ha', h⟩

/-- Between two words there is more than a blank. -/
def Parted (w : List Char) : Prop :=
  ∀ c d, isWord c = true → isWord d = true → ¬ [c, ' ', d] <:+: w

theorem parted_of_not_mem {w : List Char} (h : ' ' ∉ w) : Parted w :=
  fun _ _ _ _ hpart => h (hpart.subset (by simp))

/-- Something that is no word, and more than a blank, may stand between two such texts. -/
theorem Parted.append_mark {x m y : List Char} (hx : Parted x) (hy : Parted y)
    (hm : ∀ c ∈ m, isWord c = false) (hne : m ≠ []) (hne' : m ≠ [' ']) :
    Parted (x ++ (m ++ y)) := by
  intro c d hc hd h
  have hnot : ∀ {e}, isWord e = true → e ∉ m := by
    intro e he hmem
    rw [hm e hmem] at he
    cases he
  -- in each case one of the two word characters would belong to `m`
  rcases List.infix_append_iff_ne_nil.mp h with h | h | ⟨u, v, hu, hv, huv, hux, hvm⟩
  · exact hx c d hc hd h
  · rcases List.infix_append_iff_ne_nil.mp h with h | h | ⟨u, v, hu, -, huv, hum, -⟩
    · exact hnot hc (h.subset (by simp))
    · exact hy c d hc hd h
    · obtain ⟨e, u, rfl⟩ := List.exists_cons_of_ne_nil hu
      obtain ⟨rfl, -⟩ := List.cons.inj huv
      exact hnot hc (hum.subset List.mem_cons_self)
  · obtain ⟨f, m, rfl⟩ := List.exists_cons_of_ne_nil hne
    match u, huv with
    | [_], huv =>
      obtain ⟨-, rfl⟩ := List.cons.inj huv
      obtain ⟨rfl, htail⟩ := List.cons_prefix_cons.mp hvm
      obtain ⟨g, m, rfl⟩ := List.exists_cons_of_ne_nil (show m ≠ [] by rintro rfl; exact hne' rfl)
      obtain ⟨rfl, -⟩ := List.cons_prefix_cons.mp htail
      exact hnot hd (by simp)
    | [_, _], huv =>
      obtain ⟨-, huv⟩ := List.cons.inj huv
      obtain ⟨-, rfl⟩ := List.cons.inj huv
      obtain ⟨rfl, -⟩ := List.cons_prefix_cons.mp hvm
      exact hnot hd (by simp)
    | _ :: _ :: _ :: u, huv => simp [hv] at huv

theorem parted_inLine (names : List Identifier) : Parted (inLine names) := by
  induction names with
  | nil => exact parted_of_not_mem (by simp [inLine])
  | cons a names ih =>
    have ha : Parted a.text := parted_of_not_mem (a.not_mem_text (by decide))
    cases names with
    | nil => rwa [inLine_singleton]
    | cons b names =>
      rw [inLine_cons_cons]
      exact ha.append_mark ih (by decide) (by decide) (by decide)

/-- Alternatives on one line, with the blank before them: no two words with just a blank between them. -/
def Slot.listed : Slot := (chars isListed).barring false false "t t"

theorem Slot.listed_holds (names : List Identifier) : listed.holds (" ".toList ++ inLine names) := by
  refine ⟨fun c hc => ?_, ?_⟩
  · rcases List.mem_append.mp hc with hc | hc
    · rw [List.mem_singleton.mp hc]
      rfl
    · exact isListed_of_mem_inLine hc
  · rw [Bool.eq_false_iff, ne_eq, occurs_iff_isInfix]
    intro h
    rcases List.infix_cons_iff.mp h with h | h
    · exact absurd (List.cons_prefix_cons.mp h).1 (by decide)
    · exact parted_inLine names _ _ (by decide) (by decide) h

/-- Alternatives on one line that are not taken for a superseded declaration. -/
def Slot.line : Slot :=
  (((chars isListed).barring false false "t t").barring false false " TypeNode ").barring
    false false " OperationTypeNode"

theorem Slot.line_holds (alternatives : Alternatives) :
    line.holds (" ".toList ++ inLine alternatives.names) := by
  have hword : ∀ {w z : List Char}, w ≠ [] → (∀ c ∈ w, isWord c = true) →
      z.head?.any isWord = false → (∀ a ∈ alternatives.names, w <+: a.text → z ≠ [] ∧ w ≠ a.text) →
      occurs false false (' ' :: (w ++ z)) (' ' :: inLine alternatives.names) = false := by
    intro w z hne hw hz hno
    rw [Bool.eq_false_iff, ne_eq, occurs_iff_isInfix]
    intro h
    rw [← List.append_nil (inLine alternatives.names)] at h
    rcases exists_prefix_of_infix_inLine (y := []) rfl hne hw hz h with ⟨a, ha, hstart, heq⟩ | h
    · obtain ⟨hz', hne'⟩ := hno a ha hstart
      exact hne' (heq hz')
    · cases List.infix_nil.mp h
  have htypeNode := hword (w := "TypeNode".toList) (z := " ".toList) (by decide) (by decide) rfl
    fun a ha _ => ⟨by decide, (alternatives.ne_typeNode a ha).symm⟩
  have hoperation := hword (w := "OperationTypeNode".toList) (z := []) (by decide) (by decide) rfl
    fun a ha h => absurd h (alternatives.not_operationTypeNode a ha)
  exact ⟨⟨Slot.listed_holds alternatives.names, htypeNode⟩, hoperation⟩

/-- No match of the rule for `NamedTypeNode | ListTypeNode` begins inside a word, and one begins at
the start of a word only if it is the first of the two names. -/
theorem free_typeNodeUnion_word {behind ahead : List Char} {a : Identifier}
    (hahead : ahead.head?.any isWord = false)
    (hno : a.text = "NamedTypeNode".toList → ∀ rest, ahead = " | ListTypeNode".toList ++ rest →
      rest.head?.any isWord = true) : Target.typeNodeUnion.Free behind a.text ahead := by
  intro u c v h hmatch
  obtain ⟨rest, htext, hedge, hrest⟩ := Target.matches_typeNodeUnion_iff.mp hmatch
  -- a match begins at the edge of a word, so nothing of the word stands before it
  cases hu : u.getLast? with
  | none =>
    obtain rfl := List.getLast?_eq_none_iff.mp hu
    have hword : a.text ++ ahead = "NamedTypeNode".toList ++ (" | ListTypeNode".toList ++ rest) := by
      rw [h]
      exact htext
    obtain ⟨hname, hbar⟩ := span_unique hword a.isWord_of_mem (by decide) hahead rfl
    rw [hno hname rest hbar] at hrest
    cases hrest
  | some d =>
    have hd : d ∈ a.text := by
      rw [h]
      exact List.mem_append_left _ (List.mem_of_getLast? hu)
    rw [List.getLast?_append, hu] at hedge
    rw [show (Option.or (some d) behind.getLast?).any isWord = isWord d from rfl,
      a.isWord_of_mem d hd] at hedge
    cases hedge

/-- No match begins up to the next name, unless the two are those that the rule is made for. -/
theorem free_typeNodeUnion_bar {a b : Identifier} {names : List Identifier} {behind y : List Char}
    (hno : a.text = "NamedTypeNode".toList → b.text ≠ "ListTypeNode".toList)
    (hword : y.head?.any isWord = false) :
    Target.typeNodeUnion.Free behind (a.text ++ " | ".toList) (inLine (b :: names) ++ y) := by
  refine Target.free_append (free_typeNodeUnion_word rfl fun ha rest h => ?_)
    (Target.free_of_begins (by decide) (by decide))
  -- otherwise the next name begins with `ListTypeNode`, and is longer
  by_contra hrest
  have hnext : " | ".toList ++ (inLine (b :: names) ++ y) =
      " | ".toList ++ ("ListTypeNode".toList ++ rest) := h
  obtain ⟨tail, htail, htailword⟩ := exists_inLine_append_eq b names hword
  have hb := List.append_cancel_left hnext
  rw [htail] at hb
  obtain ⟨hname, -⟩ := span_unique hb b.isWord_of_mem (by decide) htailword (by simpa using hrest)
  exact hno ha hname

theorem free_typeNodeUnion_inLine {names : List Identifier} {behind y : List Char}
    (hno : ¬ ["NamedTypeNode".toList, "ListTypeNode".toList] <:+: names.map Identifier.text)
    (hword : y.head?.any isWord = false) (hbar : ¬ " | ".toList <+: y) :
    Target.typeNodeUnion.Free behind (inLine names) y := by
  induction names generalizing behind with
  | nil => exact Target.free_nil
  | cons a names ih =>
    cases names with
    | nil =>
      rw [inLine_singleton]
      refine free_typeNodeUnion_word hword fun _ rest h => absurd ⟨"ListTypeNode".toList ++ rest, ?_⟩ hbar
      rw [h, ← List.append_assoc]
      rfl
    | cons b names =>
      have hab : a.text = "NamedTypeNode".toList → b.text ≠ "ListTypeNode".toList := by
        intro ha hb
        refine hno ⟨[], names.map Identifier.text, ?_⟩
        rw [List.map_cons, List.map_cons, ha, hb]
        rfl
      rw [inLine_cons_cons, ← List.append_assoc]
      exact Target.free_append (free_typeNodeUnion_bar hab hword) (ih fun h => hno (List.infix_cons h))

namespace Run

variable {x : List Char}

theorem text_apply_singleLineUnion (hx : '=' ∉ x) (a b : Identifier) (names : List Identifier) :
    (singleLineUnion.apply (x ++ ("Node = ".toList ++
      (inLine (a :: b :: names) ++ ";".toList)))).text =
        x ++ ("Node = BaseNode; /* ".toList ++ (inLine (a :: b :: names) ++ "; */".toList)) := by
  have hnot : ∀ c, isListed c = false → c ∉ " ".toList ++ inLine (b :: names) := by
    intro c hc h
    rcases List.mem_append.mp h with h | h
    · rw [List.mem_singleton.mp h] at hc
      cases hc
    · rw [isListed_of_mem_inLine h] at hc
      cases hc
  have hm : Target.singleLineUnion.Chooses
      (.between x ("Node = ".toList ++ (inLine (a :: b :: names) ++ ";".toList) ++ []))
      ⟨"Node = ".toList, inLine (a :: b :: names) ++ ";".toList, []⟩ := by
    refine Target.chooses_singleLineUnion_iff.mpr ⟨a.text, " ".toList,
      " ".toList ++ inLine (b :: names), [], ?_, a.text_ne_nil, a.isWord_of_mem, by decide, by decide,
      hnot _ (by decide), hnot _ (by decide), ?_⟩
    · rw [inLine_cons_cons]
      simp
    · rw [inLine_cons_cons]
      simp
  have happly := text_apply_of_match (r := singleLineUnion) rfl hm
    (by rw [Match.text, List.append_nil])
    (Target.free_of_opening (w := "Node ".toList) (d := '=') (z := " ".toList) rfl (by decide) hx)
    Target.free_nil
  rw [List.append_nil] at happly
  rw [happly]
  show x ++ ("Node = BaseNode; /* ".toList ++ (inLine (a :: b :: names) ++ ";".toList) ++
    " */".toList ++ []) = _
  simp

/-- The two names of `typeNodeUnion` do not follow each other. -/
theorem text_apply_typeNodeUnion_of_base (hx : ¬ "NamedTypeNode | ListTypeNode".toList <:+: x)
    (alternatives : Alternatives) :
    (typeNodeUnion.apply (x ++ ("; /* ".toList ++ (inLine alternatives.names ++ "; */".toList)))).text =
      x ++ ("; /* ".toList ++ (inLine alternatives.names ++ "; */".toList)) := by
  have hfree : Target.typeNodeUnion.Free []
      (x ++ ("; /* ".toList ++ (inLine alternatives.names ++ "; */".toList))) [] := by
    refine Target.free_append ?_ (Target.free_append
      (Target.free_of_begins (by decide) (by decide)) (Target.free_append ?_
        (Target.free_of_begins (by decide) (by decide))))
    · rw [List.append_nil]
      exact Target.free_of_admits (w := "NamedTypeNode | ListTypeNode".toList) (d := ';') (by decide)
        (by decide) hx
    · exact free_typeNodeUnion_inLine alternatives.not_typeNodeUnion (by decide) (by decide)
  rw [apply_of_singleton rfl, Substitution.apply_of_free (by decide) hfree]

theorem turns_singleLineUnion (name : UnionName) (alternatives : Alternatives) :
    Turns all ("export type ".toList ++ (name.name.text ++ (" = ".toList ++
        (inLine alternatives.names ++ ";".toList))))
      ("typedef /* export type */ ".toList ++ (name.name.text ++ (" = BaseNode; /* ".toList ++
        (inLine alternatives.names ++ "; */".toList)))) := by
  have hname := Slot.typeName_holds name.toTypeName
  have hline := Slot.line_holds alternatives
  obtain ⟨stem, hstem, hsplit⟩ :=
    exists_stem name.node_suffix (name.name.not_mem_text (by decide))
  -- in the sketches the blank before the alternatives belongs to them
  have hopen : ∀ {w v : String}, w.toList = v.toList ++ " ".toList → ∀ rest,
      w.toList ++ (inLine alternatives.names ++ rest) =
        v.toList ++ ((" ".toList ++ inLine alternatives.names) ++ rest) := by
    intro w v hw rest
    rw [hw]
    simp only [List.append_assoc]
  have hfirst : Turns [exportType] _ _ :=
    turns_exportType (o := [.typeName, " =", .line, ";"])
      (.next hname (.next (w := " =".toList) rfl (.next hline (.last (w := ";".toList) rfl))))
      (by decide)
  rw [← hopen (w := " = ") (by decide)] at hfirst
  have hbefore : Turns [optionalField, primitives, variance, multiLineUnion] _ _ :=
    .of_idles (o := ["typedef /* export type */ ", .typeName, " =", .line, ";"])
      (.next rfl (.next hname (.next rfl (.next hline (.last rfl))))) (by decide)
  rw [← hopen (w := " = ") (by decide)] at hbefore
  obtain ⟨a, b, names, hnames⟩ : ∃ a b names, alternatives.names = a :: b :: names := by
    have hlen := alternatives.two_le_length
    match h : alternatives.names with
    | [] | [_] => rw [h] at hlen; simp at hlen
    | a :: b :: names => exact ⟨a, b, names, rfl⟩
  have hunion := text_apply_singleLineUnion hstem a b names
  rw [← hnames] at hunion
  rw [hsplit (v := " = ") (by decide), hsplit (v := " = BaseNode; /* ") (by decide)] at hunion
  have hkept := text_apply_typeNodeUnion_of_base (Sketch.not_infix_of_fits
    (o := ["typedef /* export type */ ", .typeName, " = BaseNode"])
    (.next rfl (.next hname (.last rfl))) (by decide)) alternatives
  simp only [List.append_assoc] at hkept
  have hbase : " = BaseNode; /* ".toList = " = BaseNode".toList ++ "; /* ".toList := by decide
  rw [← List.append_assoc " = BaseNode".toList, ← hbase] at hkept
  have hafter : Turns [supersededTypeNode, nullableToken, optionalValue, importType, kindLiteral,
      readOnlyArray, operationType] _ _ :=
    .of_idles (o := ["typedef /* export type */ ", .typeName, " = BaseNode; /*", .line, "; */"])
      (.next rfl (.next hname (.next rfl (.next hline (.last rfl))))) (by decide)
  rw [← hopen (w := " = BaseNode; /* ") (by decide)] at hafter
  exact hfirst.trans (hbefore.trans ((Turns.of_apply (by decide) hunion).trans
    ((Turns.of_kept (by decide) hkept).trans hafter)))

end Run

end HaxeTypedefs
