/-
What is left of a superseded declaration.

The declarations of `TypeNode` and of `OperationTypeNode` are put in comments, because the
module around the text has its own.  The comment goes to the end of a line, and so it takes
all of a declaration that stands on one line, but of a union over several lines the first one
only.  A `TypeNode` with an operation type among its alternatives is taken for a declaration
of the other kind, too.

* **`Run.allComment_oneLine_iff`** — what is left of a `TypeNode` on one line;
* **`Run.supersedes_iff`** — which layouts leave comments only;
* **`Run.not_allComment_lines`** — a line that is left over.
-/
import HaxeTypedefs.Proofs.ListedUnion

namespace HaxeTypedefs

open Rule

/-! ### Declarations -/

/-- A string literal. -/
def Identifier.quoted (a : Identifier) : List Char := "'".toList ++ (a.text ++ "'".toList)

theorem Identifier.isWord_or_of_mem_quoted (a : Identifier) :
    ∀ c ∈ a.quoted, isWord c = true ∨ c = '\'' := by
  intro c hc
  rcases List.mem_append.mp hc with hc | hc
  · exact .inr (List.mem_singleton.mp hc)
  · exact (List.mem_append.mp hc).imp (a.isWord_of_mem c) List.mem_singleton.mp

/-- The text is comments and then the enumeration of the operation types, and white space behind. -/
def EnumBelowComments (text : List Char) : Prop :=
  ∃ x y, text = x ++ (operationTypes.render.toList ++ y) ∧ AllComment x ∧
    Region.code.after x = .code ∧ ∀ c ∈ y, isBlank c = true

/-- Behind the enumeration there is at most white space. -/
theorem EnumBelowComments.isBlank_of_getLast {text : List Char} (h : EnumBelowComments text) :
    ∀ c ∈ text.getLast?, isBlank c = true := by
  obtain ⟨x, y, rfl, -, -, hy⟩ := h
  intro c hc
  have henum : operationTypes.render.toList.getLast? = some '\n' := by
    rw [toList_render_operationTypes]
    decide +kernel
  rw [List.getLast?_append, List.getLast?_append, henum] at hc
  cases hlast : y.getLast? with
  | none =>
    rw [hlast] at hc
    rw [← Option.some.inj hc]
    decide
  | some d =>
    rw [hlast] at hc
    rw [← Option.some.inj hc]
    exact hy d (List.mem_of_getLast? hlast)

/-! ### Comments and code -/

theorem allComment_line {line : List Char} (hn : '\n' ∉ line) (hopen : "//".toList <+: line) :
    AllComment line := by
  obtain ⟨w, rfl⟩ := hopen
  have hw : '\n' ∉ w := fun h => hn (List.mem_append_right _ h)
  have hlive : Region.code.live ("//".toList ++ w) = [' '] := by
    show ' ' :: Region.lineComment.live w = [' ']
    rw [Region.live_lastLine hw]
  intro c hc
  rw [hlive, List.mem_singleton] at hc
  rw [hc]
  decide

/-- What stands on the lines below a line comment is read as code. -/
theorem live_below_line {line : List Char} (hn : '\n' ∉ line) (hopen : "//".toList <+: line)
    (text : List Char) :
    Region.code.live (line ++ '\n' :: text) = ' ' :: '\n' :: Region.code.live text ∧
      Region.code.after (line ++ '\n' :: text) = Region.code.after text := by
  obtain ⟨w, rfl⟩ := hopen
  have hw : '\n' ∉ w := fun h => hn (List.mem_append_right _ h)
  constructor
  · show ' ' :: Region.lineComment.live (w ++ '\n' :: text) = _
    rw [Region.live_line hw]
  · show Region.lineComment.after (w ++ '\n' :: text) = _
    rw [Region.after_line hw]

/-- A line comment hides nothing of what stands on the lines below it. -/
theorem not_allComment_below_line {line text : List Char} (hn : '\n' ∉ line)
    (hopen : "//".toList <+: line) {x y : List Char} {c : Char} (htext : text = x ++ c :: y)
    (hx : '/' ∉ x) (hc : isBlank c = false) (hslash : c ≠ '/') :
    ¬ AllComment (line ++ '\n' :: text) := by
  intro h
  have hlive : c ∈ Region.code.live text := by
    have hnone : '/' ∉ x ++ [c] := by simp [hx, hslash.symm]
    rw [htext, List.append_cons, Region.live_append_of_not_mem hnone]
    simp
  have hblank := h c (by rw [(live_below_line hn hopen _).1]; simp [hlive])
  rw [hc] at hblank
  cases hblank

/-! ### Declarations on one line -/

namespace Run

/-- A line comment stays one, unless it has a typedef of the operation types. -/
theorem allComment_operationType_iff {line : List Char} (hn : '\n' ∉ line)
    (hopen : "// ".toList <+: line) : AllComment (operationType.apply line).text ↔
      ∀ x y, line = x ++ y → ¬ TypedefWith operationName y := by
  have hslashes : "// ".toList = ['/', '/', ' '] := by decide
  have htypedef : "typedef ".toList = 't' :: "ypedef ".toList := by decide
  rcases apply_operationType_of_line hn with ⟨x, y, rfl, hy, -, happly⟩ | ⟨hno, happly⟩
  · refine iff_of_false ?_ fun h => h x y rfl hy
    -- the typedef begins behind the two slashes
    have hfirst : "//".toList <+: x := by
      obtain ⟨v, hv⟩ := hopen
      obtain ⟨g, w, rfl⟩ := hy
      rw [hslashes, htypedef] at hv
      match x, hv with
      | [], h => exact absurd (List.cons.inj h).1 (by decide)
      | [_], h => exact absurd (List.cons.inj (List.cons.inj h).2).1 (by decide)
      | _ :: _ :: x, h =>
        obtain ⟨rfl, htail⟩ := List.cons.inj h
        obtain ⟨rfl, -⟩ := List.cons.inj htail
        exact ⟨x, rfl⟩
    have hinline : '\n' ∉ x ++ ("//  ".toList ++ (y ++ " ".toList)) := by
      have hfixed : '\n' ∉ "//  ".toList ∧ '\n' ∉ " ".toList := by decide
      simp only [List.mem_append, not_or] at hn ⊢
      tauto
    have hblock : operationTypes.render.toList =
        [] ++ '@' :: operationTypes.render.toList.tail := by
      rw [toList_render_operationTypes]
      decide +kernel
    have htext : (operationType.apply (x ++ y)).text =
        x ++ ("//  ".toList ++ (y ++ " ".toList)) ++ '\n' :: operationTypes.render.toList := by
      have hfeed : " \n".toList = " ".toList ++ ['\n'] := by decide
      rw [happly, hfeed]
      simp
    rw [htext]
    exact not_allComment_below_line hinline (hfirst.trans (List.prefix_append _ _)) hblock
      List.not_mem_nil (by decide) (by decide)
  · rw [happly]
    exact iff_of_true (allComment_line hn (List.IsPrefix.trans (by decide) hopen)) hno

section TypeNode

variable {y : List Char}

/-- What the last rule finds of a declaration of `TypeNode` on one line is a comment. -/
theorem textFrom_typeNode (hy : ∀ c ∈ ['\n', ':', '\'', '$'], c ∉ y) :
    textFrom middleRules (supersededTypeNode.apply (declared "TypeNode".toList ++ y)).text =
        "// ".toList ++ (declared "TypeNode".toList ++ y) ∧
      '\n' ∉ "// ".toList ++ (declared "TypeNode".toList ++ y) := by
  have hcomment : ∀ c ∈ ['\n', ':', '\'', '$'],
      c ∉ "// ".toList ++ (declared "TypeNode".toList ++ y) := by
    have hfixed : ∀ c ∈ ['\n', ':', '\'', '$'],
        c ∉ "// ".toList ++ declared "TypeNode".toList := by
      decide
    intro c hc hmem
    rw [← List.append_assoc] at hmem
    exact (List.mem_append.mp hmem).elim (hfixed c hc) (hy c hc)
  have hn := hcomment '\n' (by decide)
  have hwith : TypedefWith " TypeNode ".toList (declared "TypeNode".toList ++ y) := by
    have hparts : declared "TypeNode".toList = "typedef ".toList ++
        ("/* export type */".toList ++ (" TypeNode ".toList ++ "=".toList)) := by
      decide
    exact ⟨"/* export type */".toList, "=".toList ++ y, by
      rw [hparts]; simp only [List.append_assoc]⟩
  have himport : ∀ w, ¬ "import type ".toList <+: "// ".toList ++ w := by
    rintro w ⟨u, hu⟩
    exact absurd (List.cons.inj hu).1 (by decide)
  refine ⟨?_, hn⟩
  rcases apply_supersededTypeNode_of_line fun h => hn (List.mem_append_right _ h) with
    ⟨-, h⟩ | ⟨hno, -⟩
  · rw [h]
    exact textFrom_middleRules hcomment (himport _)
  · exact absurd hwith hno

/-- A typedef of the operation types in the comment can only be the one behind the slashes. -/
theorem typedefWith_typeNode_iff :
    (∀ x z, "// ".toList ++ (declared "TypeNode".toList ++ y) = x ++ z →
      ¬ TypedefWith operationName z) ↔ ¬ operationName <:+: y := by
  have hdeclared : TypedefWith operationName (declared "TypeNode".toList ++ y) ↔ operationName <:+: y :=
    typedefWith_declared_iff (by decide) (by decide)
  rw [← hdeclared]
  constructor
  · intro hno
    exact hno _ _ rfl
  · rintro hno x z hxz ⟨g, w, rfl⟩
    have hfound : operationName <:+: ("// ".toList ++ declared "TypeNode".toList) ++ y := by
      rw [List.append_assoc, hxz]
      exact ⟨x ++ ("typedef ".toList ++ g), w, by simp⟩
    exact hno (hdeclared.mpr ((infix_or_infix_of_last (by decide) hfound).resolve_left (by decide)))

end TypeNode

theorem allComment_oneLine_iff (a : Identifier) (names : List Identifier) :
    AllComment (of (Listing.declaration "TypeNode" Identifier.text (.oneLine a names))).text ↔
      ∀ b ∈ a :: names, ¬ "OperationTypeNode".toList <+: b.text := by
  have hname : ∀ c ∈ "TypeNode".toList, isWord c = true := by decide
  obtain ⟨y, hearly, hy, hop, -⟩ := exists_textFrom_listed hname a names
  have hdeclaration : textFrom (all.take 7)
      (Listing.declaration "TypeNode" Identifier.text (.oneLine a names)) = _ := hearly
  obtain ⟨hcomment, hn⟩ := textFrom_typeNode hy
  rw [text_of, textFrom_late, hdeclaration, hcomment,
    allComment_operationType_iff hn (List.prefix_append _ _), typedefWith_typeNode_iff, hop]
  push Not
  exact Iff.rfl

end Run

/-! ### Declarations over several lines -/

namespace Rule

variable {r : Rule} {s : Substitution} {line rest w : List Char}

/-- A rule that takes each line by itself leaves the lines that lack what it needs. -/
theorem text_apply_line (hr : r.substitutions = [s]) (h : r.Avoids ['\n'])
    (hw : w ∈ s.target.whole.needs) (hrest : ¬ w <:+: rest) :
    (r.apply (line ++ '\n' :: rest)).text = (r.apply line).text ++ '\n' :: rest := by
  have hs : s.target.Solid := solid_of_mem (r := r) (by rw [hr]; exact List.mem_singleton_self s)
  have hkept : r.apply rest = ⟨rest, 0⟩ := by
    rw [apply_of_singleton hr]
    exact Substitution.apply_of_free hs (Target.free_of_lacks hw (by rwa [List.append_nil]))
  rw [parts_of_avoids hr h line rest, hkept]

/-- A line that is a typedef of the operation types from its start on. -/
theorem text_apply_operationType_of_typedef (hn : '\n' ∉ line) (h : TypedefWith operationName line) :
    (operationType.apply line).text =
      "//  ".toList ++ (line ++ " \n".toList) ++ operationTypes.render.toList := by
  rcases apply_operationType_of_line hn with ⟨x, y, rfl, -, hfirst, happly⟩ | ⟨hno, -⟩
  · obtain rfl : x = [] := List.prefix_nil.mp (hfirst [] _ rfl h)
    rw [happly]
    simp
  · exact absurd h (hno [] line rfl)

end Rule

namespace Run

/-- The first line of a union of nodes over several lines, when `supersededTypeNode` finds it. -/
def firstLine (name : List Char) : List Char := declared name ++ " BaseNode; /* ".toList

section Lines

variable {name : List Char} {print : Identifier → List Char}

/-- Of a union over several lines the two rules for superseded declarations take the first line only,
and the rules between them leave all lines. -/
theorem exists_text_lines (hname : ∀ c ∈ name, isWord c = true) (hnode : "Node".toList <:+ name)
    (hprint : ∀ b, ∀ c ∈ print b, isWord c = true ∨ c = '\'') (row : Indent × Identifier)
    (rows : List (Indent × Identifier)) {line : String}
    (hline : (supersededTypeNode.apply (firstLine name)).text = line.toList)
    (hidle : middleRules.all (Sketch.idles [line, .lines, "; */"]) = true) :
    ∃ below, (∃ z, below = row.1.blanks ++ '|' :: z) ∧ ('\n' :: below).getLast? = some '/' ∧
      textFrom all ("export type ".toList ++ (name ++ (" =".toList ++
          (barred print (row :: rows) ++ ";".toList)))) =
        (operationType.apply line.toList).text ++ '\n' :: below := by
  obtain ⟨below, hbelow, hz, hbehind⟩ := exists_below hprint row rows "; */" (by decide)
  have hlines : Slot.lines.holds (barred print (row :: rows)) :=
    Slot.lines_holds fun row _ => hprint row.2
  have hclose : (barred print (row :: rows) ++ "; */".toList).getLast? = some '/' := by
    rw [List.getLast?_append]
    rfl
  have hearly := (turns_lines hprint row rows hname hnode).textFrom_eq
  have hmiddle : textFrom middleRules _ = _ :=
    textFrom_of_idles (.next (w := line.toList) rfl (.next hlines (.last rfl))) hidle
  rw [hbelow] at hclose hearly hmiddle
  refine ⟨below, hz, hclose, ?_⟩
  rw [textFrom_late, hearly, ← List.append_assoc, ← firstLine,
    text_apply_line (r := supersededTypeNode) rfl (by decide) (w := "typedef ".toList) (by decide) hbehind,
    hline, hmiddle,
    text_apply_line (r := operationType) rfl (by decide) (w := "typedef ".toList) (by decide) hbehind]

end Lines

variable (row : Indent × Identifier) (rows : List (Indent × Identifier))

theorem not_allComment_typeNode_lines :
    ¬ AllComment (of (Listing.declaration "TypeNode" Identifier.text (.lines row rows))).text := by
  have hfirst : (supersededTypeNode.apply (firstLine "TypeNode".toList)).text =
      "// typedef /* export type */ TypeNode = BaseNode; /* ".toList := by
    decide +kernel
  have hlast : operationType.apply "// typedef /* export type */ TypeNode = BaseNode; /* ".toList =
      ⟨_, 0⟩ :=
    apply_of_idles (o := ["// typedef /* export type */ TypeNode = BaseNode; /* "]) (.last rfl)
      (by decide)
  have hname : ∀ c ∈ "TypeNode".toList, isWord c = true := by decide
  obtain ⟨below, ⟨z, hz⟩, -, htext⟩ := exists_text_lines hname (by decide)
    (fun b c hc => .inl (b.isWord_of_mem c hc)) row rows hfirst (by decide)
  have hdeclaration :
      textFrom all (Listing.declaration "TypeNode" Identifier.text (.lines row rows)) = _ := htext
  have hslash : '/' ∉ row.1.blanks := fun h => absurd (row.1.isBlank_of_mem _ h) (by decide)
  rw [text_of, hdeclaration, hlast]
  exact not_allComment_below_line (by decide) (by decide) hz hslash (by decide) (by decide)

theorem not_enumBelowComments_lines : ¬ EnumBelowComments
    (of (Listing.declaration "OperationTypeNode" Identifier.quoted (.lines row rows))).text := by
  have hfirst : (supersededTypeNode.apply (firstLine "OperationTypeNode".toList)).text =
      "typedef /* export type */ OperationTypeNode = BaseNode; /* ".toList := by
    decide +kernel
  have hname : ∀ c ∈ "OperationTypeNode".toList, isWord c = true := by decide
  -- the comment is still closed behind the last line
  obtain ⟨below, -, hclose, htext⟩ := exists_text_lines hname (by decide)
    Identifier.isWord_or_of_mem_quoted row rows hfirst (by decide)
  have hdeclaration : textFrom all
      (Listing.declaration "OperationTypeNode" Identifier.quoted (.lines row rows)) = _ := htext
  intro h
  rw [text_of, hdeclaration] at h
  refine absurd (h.isBlank_of_getLast '/' ?_) (by decide)
  rw [List.getLast?_append, hclose]
  rfl

end Run

/-! ### String literals on one line -/

/-- Literals on one line. -/
def quotedLine (names : List Identifier) : List Char :=
  " | ".toList.intercalate (names.map Identifier.quoted)

theorem quotedLine_cons_cons (a b : Identifier) (names : List Identifier) :
    quotedLine (a :: b :: names) = a.quoted ++ (" | ".toList ++ quotedLine (b :: names)) := by
  rw [quotedLine, List.map_cons, List.map_cons, List.intercalate_cons_cons, List.append_assoc]
  rfl

/-- Literals on one line, with the blank before them. -/
def Slot.literals : Slot := lines.barring false false "\n"

theorem not_mem_quoted {c : Char} (a : Identifier) (hword : isWord c = false) (hc : c ≠ '\'') :
    c ∉ a.quoted := by
  intro h
  rcases a.isWord_or_of_mem_quoted c h with h | h
  · rw [hword] at h
    cases h
  · exact hc h

theorem mem_quotedLine {c : Char} {names : List Identifier} (hc : c ∈ quotedLine names) :
    isListed c = true ∨ c = '\'' := by
  have hbar : ∀ d ∈ " | ".toList, isListed d = true := by decide
  have hword : ∀ a : Identifier, c ∈ a.quoted → isListed c = true ∨ c = '\'' := by
    intro a h
    refine (a.isWord_or_of_mem_quoted c h).imp_left fun h => ?_
    rw [isListed, h]
    rfl
  induction names with
  | nil => cases hc
  | cons a names ih =>
    cases names with
    | nil =>
      rw [quotedLine, List.map_singleton, List.intercalate_singleton] at hc
      exact hword a hc
    | cons b names =>
      rw [quotedLine_cons_cons] at hc
      rcases List.mem_append.mp hc with hc | hc
      · exact hword a hc
      · exact (List.mem_append.mp hc).elim (fun hc => .inl (hbar c hc)) ih

/-- No word ends before a blank: a quote stands between. -/
theorem not_pair_infix_quotedLine {c : Char} (hc : isWord c = true) (names : List Identifier) :
    ¬ [c, ' '] <:+: quotedLine names := by
  have hquoted : ∀ a : Identifier, ¬ [c, ' '] <:+: a.quoted := fun a h =>
    not_mem_quoted a (by decide) (by decide) (h.subset (by simp) : ' ' ∈ a.quoted)
  induction names with
  | nil => simp [quotedLine]
  | cons a names ih =>
    cases names with
    | nil =>
      rw [quotedLine, List.map_singleton, List.intercalate_singleton]
      exact hquoted a
    | cons b names =>
      intro h
      rw [quotedLine_cons_cons] at h
      rcases pair_infix_append_iff.mp h with h | h | h
      · exact hquoted a h
      · exact ih (pair_infix_of_mark hc (by decide) h)
      · have hquote : a.quoted.getLast? = some '\'' := by
          rw [Identifier.quoted, List.getLast?_append, List.getLast?_append]
          rfl
        rw [hquote] at h
        rw [← Option.some.inj h.1] at hc
        cases hc

theorem head?_quotedLine (a : Identifier) (names : List Identifier) :
    (quotedLine (a :: names)).head? = some '\'' := by
  cases names with
  | nil =>
    rw [quotedLine, List.map_singleton, List.intercalate_singleton]
    rfl
  | cons b names =>
    rw [quotedLine_cons_cons]
    rfl

theorem Slot.literals_holds (names : List Identifier) :
    literals.holds (" ".toList ++ quotedLine names) := by
  have hmem : ∀ c ∈ " ".toList ++ quotedLine names, isListed c = true ∨ c = '\'' := by
    intro c hc
    rcases List.mem_append.mp hc with hc | hc
    · rw [List.mem_singleton.mp hc]
      exact .inl rfl
    · exact mem_quotedLine hc
  refine ⟨⟨fun c hc => ?_, fun c hc h => ?_⟩, ?_⟩
  · rcases hmem c hc with h | rfl
    · rw [h]
      rfl
    · decide
  · exact not_pair_infix_quotedLine hc names (pair_infix_of_mark hc (by decide) h)
  · rw [Bool.eq_false_iff, ne_eq, occurs_iff_isInfix]
    intro h
    exact absurd (hmem '\n' (h.subset (by decide))) (by decide)

namespace Run

variable {x rest : List Char}

/-- A union of string literals is not taken for one of names. -/
theorem text_apply_singleLineUnion_of_literal (hx : '=' ∉ x) (hrest : '=' ∉ rest)
    (hword : rest.head?.any isWord = false) :
    (singleLineUnion.apply (x ++ ("Node = ".toList ++ rest))).text = x ++ ("Node = ".toList ++ rest) := by
  refine text_apply_singleLineUnion_of_not_matches hx (fun hmatch => ?_) fun h => ?_
  · obtain ⟨m, hm, -⟩ := Target.exists_chooses (by decide) hmatch
    obtain ⟨v, bl, w, behind, htext, hv, hvword, -⟩ := Target.chooses_singleLineUnion_iff.mp hm
    obtain ⟨c, v, rfl⟩ := List.exists_cons_of_ne_nil hv
    have hopening : "Node = ".toList ++ rest = "Node = ".toList ++ (c :: v ++ _) := htext
    rw [List.append_cancel_left hopening] at hword
    have hc : isWord c = false := hword
    rw [hvword c List.mem_cons_self] at hc
    cases hc
  · exact hrest (h.subset (by decide : '=' ∈ "Node = ".toList))

/-- Where there is nothing but the comment of the declaration, the enumeration follows. -/
theorem enumBelowComments_of_typedef {line : List Char} (hn : '\n' ∉ line)
    (h : TypedefWith operationName line) : EnumBelowComments (operationType.apply line).text := by
  have hline : '\n' ∉ "//  ".toList ++ (line ++ " ".toList) := by
    have hfixed : '\n' ∉ "//  ".toList ∧ '\n' ∉ " ".toList := by decide
    simp only [List.mem_append, not_or]
    exact ⟨hfixed.1, hn, hfixed.2⟩
  have hopen : "//".toList <+: "//  ".toList ++ (line ++ " ".toList) :=
    List.IsPrefix.trans (by decide) (List.prefix_append _ _)
  obtain ⟨hlive, hafter⟩ := live_below_line hline hopen []
  refine ⟨"//  ".toList ++ (line ++ " ".toList) ++ ['\n'], [], ?_, ?_, hafter, by simp⟩
  · have hfeed : " \n".toList = " ".toList ++ ['\n'] := by decide
    rw [text_apply_operationType_of_typedef hn h, hfeed]
    simp
  · intro c hc
    rw [hlive] at hc
    have hblanks : ∀ d ∈ [' ', '\n'], isBlank d = true := by decide
    exact hblanks c hc

/-- A union of string literals on one line, as the last rule finds it. -/
def operationTypedef (names : List Identifier) : List Char :=
  declared "OperationTypeNode".toList ++ ((" ".toList ++ quotedLine names) ++ ";".toList)

theorem operationTypedef_fits (names : List Identifier) : Sketch.Fits
    ["typedef /* export type */ ", "OperationTypeNode", " =", .literals, ";"]
      (operationTypedef names) :=
  declared_listed_fits rfl (Slot.literals_holds names)

theorem typedefWith_operationTypedef (names : List Identifier) :
    TypedefWith operationName (operationTypedef names) := by
  have hparts : declared "OperationTypeNode".toList =
      "typedef ".toList ++ ("/* export type */".toList ++ (operationName ++ " =".toList)) := by
    decide
  unfold operationTypedef
  generalize (" ".toList ++ quotedLine names) ++ ";".toList = w
  refine ⟨"/* export type */".toList, " =".toList ++ w, (congrArg (· ++ w) hparts).trans ?_⟩
  simp only [List.append_assoc]

/-- The rules before `operationType` keep a union of string literals on its line. -/
theorem turns_quotedLine (a : Identifier) (names : List Identifier) : Turns (all.take 13)
    (Listing.declaration "OperationTypeNode" Identifier.quoted (.oneLine a names))
    (operationTypedef (a :: names)) := by
  have hfits := operationTypedef_fits (a :: names)
  have hfirst : Turns [exportType] ("export type ".toList ++ ("OperationTypeNode".toList ++
      (" =".toList ++ ((" ".toList ++ quotedLine (a :: names)) ++ ";".toList)))) _ :=
    turns_exportType (o := ["OperationTypeNode", " =", .literals, ";"])
      (.next rfl (.next rfl (.next (Slot.literals_holds _) (.last rfl)))) (by decide)
  rw [← declared_append] at hfirst
  have hbefore : Turns [optionalField, primitives, variance, multiLineUnion] _ _ :=
    .of_idles hfits (by decide)
  have hafter : Turns [typeNodeUnion, supersededTypeNode, nullableToken, optionalValue, importType,
      kindLiteral, readOnlyArray] _ _ :=
    .of_idles hfits (by decide)
  have hequals : '=' ∉ quotedLine (a :: names) ++ ";".toList := by
    intro h
    rcases List.mem_append.mp h with h | h
    · exact absurd (mem_quotedLine h) (by decide)
    · exact absurd h (by decide)
  have hword : (quotedLine (a :: names) ++ ";".toList).head?.any isWord = false := by
    rw [List.head?_append, head?_quotedLine]
    rfl
  have hkept := text_apply_singleLineUnion_of_literal
    (x := "typedef /* export type */ OperationType".toList) (by decide) hequals hword
  have hsplit : ∀ w, "typedef /* export type */ OperationType".toList ++ ("Node = ".toList ++ w) =
      declared "OperationTypeNode".toList ++ (" ".toList ++ w) := by
    have hparts : "typedef /* export type */ OperationType".toList ++ "Node = ".toList =
        declared "OperationTypeNode".toList ++ " ".toList := by
      decide
    intro w
    rw [← List.append_assoc, hparts, List.append_assoc]
  rw [hsplit, ← List.append_assoc " ".toList] at hkept
  exact hfirst.trans (hbefore.trans ((Turns.of_kept (by decide) hkept).trans hafter))

theorem enumBelowComments_oneLine (a : Identifier) (names : List Identifier) : EnumBelowComments
    (of (Listing.declaration "OperationTypeNode" Identifier.quoted (.oneLine a names))).text := by
  have hrules : all = all.take 13 ++ [operationType] := by decide
  have hn : '\n' ∉ operationTypedef (a :: names) :=
    Sketch.not_mem_of_fits (operationTypedef_fits _) (by decide)
  rw [text_of, hrules, textFrom_append, (turns_quotedLine a names).textFrom_eq, textFrom_cons]
  exact enumBelowComments_of_typedef hn (typedefWith_operationTypedef _)

/-! ### Which layouts leave comments only -/

/-- A superseded declaration leaves nothing but comments, and the enumeration in the place of the
operation types, exactly if its alternatives stand on one line.  Those of `TypeNode` must not begin with
`OperationTypeNode`, too. -/
theorem supersedes_iff (l : Listing) :
    (AllComment (of (l.declaration "TypeNode" Identifier.text)).text ↔
      l.IsOneLine ∧ ∀ a ∈ l.alternatives, ¬ "OperationTypeNode".toList <+: a.text) ∧
    (EnumBelowComments (of (l.declaration "OperationTypeNode" Identifier.quoted)).text ↔
      l.IsOneLine) := by
  cases l with
  | oneLine a names =>
    refine ⟨?_, iff_of_true (enumBelowComments_oneLine a names) trivial⟩
    rw [allComment_oneLine_iff]
    exact ⟨fun h => ⟨trivial, h⟩, And.right⟩
  | lines row rows =>
    exact ⟨iff_of_false (not_allComment_typeNode_lines row rows) fun h => h.1,
      iff_of_false (not_enumBelowComments_lines row rows) id⟩

/-- The lines of a `TypeNode` are left over. -/
theorem not_allComment_lines : ¬ AllComment (of "export type TypeNode =\n  | A;".toList).text := by
  have htext : (of "export type TypeNode =\n  | A;".toList).text =
      "// typedef /* export type */ TypeNode = BaseNode; /* \n  | A; */".toList := by
    decide +kernel
  rw [htext]
  intro h
  have hlive : '|' ∈ Region.code.live
      "// typedef /* export type */ TypeNode = BaseNode; /* \n  | A; */".toList := by
    decide
  exact absurd (h '|' hlive) (by decide)

end Run

end HaxeTypedefs
