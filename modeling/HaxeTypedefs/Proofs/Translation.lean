/-
A run translates a source item by item.

Behind the line feed after `;`, `,` or an opening brace a run starts afresh, and blank
lines go with the item behind them, so a run over a source is the runs over its items put
together.

* **`Run.text_of_flow`** — what a run leaves of any list of items;
* **`Run.text_of_flow_eq_haxe_iff`** — it is their Haxe text exactly if no field is a trap;
* **`Run.text_of_flow_ne_haxe`** — a trap.
-/
import HaxeTypedefs.Proofs.UnionLine
import HaxeTypedefs.Proofs.FieldLine

namespace HaxeTypedefs

open Rule

namespace Run

variable {x y rest : List Char} {c : Char}

/-- A line that a run starts afresh behind. -/
structure Closes (x : List Char) (c : Char) : Prop where
  getLast?_eq : x.getLast? = some c
  mem : c ∈ [';', ',', '{']
  not_union : c = ';' ∨ '=' ∉ x ∨ '|' ∉ x

theorem textFrom_append_line (h : Closes x c) (rest : List Char) :
    textFrom all (x ++ '\n' :: rest) = textFrom all x ++ '\n' :: textFrom all rest :=
  textFrom_append_lineFeed (partAll_of_getLast? h.getLast?_eq h.mem h.not_union) rest

theorem Closes.lineFeeds (h : Closes x c) (k : ℕ) : Closes (List.replicate k '\n' ++ x) c := by
  have hnot : ∀ {d}, d ≠ '\n' → d ∉ x → d ∉ List.replicate k '\n' ++ x := by
    intro d hd hx
    rw [List.mem_append]
    rintro (hmem | hmem)
    · exact hd (List.eq_of_mem_replicate hmem)
    · exact hx hmem
  refine ⟨?_, h.mem, h.not_union.imp_right (Or.imp (hnot (by decide)) (hnot (by decide)))⟩
  rw [List.getLast?_append, h.getLast?_eq]
  rfl

theorem Turns.textFrom_append (h : Turns all x y) (hx : Closes x c) (k : ℕ) (rest : List Char) :
    textFrom all (List.replicate k '\n' ++ (x ++ '\n' :: rest)) =
      List.replicate k '\n' ++ (y ++ '\n' :: textFrom all rest) := by
  rw [← List.append_assoc, textFrom_append_line (hx.lineFeeds k), h k, List.append_assoc]

theorem getLast?_append_of_eq {w : List Char} (h : w.getLast? = some c) (x : List Char) :
    (x ++ w).getLast? = some c := by
  rw [List.getLast?_append, h]
  rfl

theorem closes_of_semicolon (h : x.getLast? = some ';') : Closes x ';' :=
  ⟨h, by decide, .inl rfl⟩

/-! ### The lines of an object type -/

theorem closes_header (name : TypeName) :
    Closes ("export type ".toList ++ (name.name.text ++ " = \x7b".toList)) '{' := by
  refine ⟨getLast?_append_of_eq (getLast?_append_of_eq rfl _) _, by decide, .inr (.inr ?_)⟩
  have hname : '|' ∉ name.name.text := name.name.not_mem_text (by decide)
  have hfixed : '|' ∉ "export type ".toList ∧ '|' ∉ " = \x7b".toList := by decide
  simp only [List.mem_append, not_or]
  exact ⟨hfixed.1, hname, hfixed.2⟩

theorem closes_field (f : Field) : Closes f.flow ',' := by
  have hlast : f.member.flow.getLast? = some ',' := by
    cases f.member with
    | typed name presence type =>
      exact getLast?_append_of_eq (getLast?_append_of_eq (getLast?_append_of_eq rfl _) _) _
    | kind literal => exact getLast?_append_of_eq (getLast?_append_of_eq rfl _) _
    | _ => rfl
  have hmember : '=' ∉ f.member.flow := by
    cases f.member with
    | typed name presence type =>
      have hname : '=' ∉ name.text := name.not_mem_text (by decide)
      have hpresence : '=' ∉ presence.flow := by cases presence <;> decide
      have htype : '=' ∉ type.flow ++ ",".toList :=
        Sketch.not_mem_of_fits (Sketch.fits_type (o := [","]) type (.last rfl)) (by decide)
      show '=' ∉ name.text ++ (presence.flow ++ (type.flow ++ ",".toList))
      rw [List.mem_append, List.mem_append]
      tauto
    | kind literal =>
      have hliteral : '=' ∉ literal.text := literal.not_mem_text (by decide)
      have hfixed : '=' ∉ "kind: '".toList ∧ '=' ∉ "',".toList := by decide
      show '=' ∉ "kind: '".toList ++ (literal.text ++ "',".toList)
      rw [List.mem_append, List.mem_append]
      tauto
    | _ => decide
  have hlead : '=' ∉ "  ".toList ++ f.sign := fun h => absurd (Slot.lead_holds f _ h) (by decide)
  refine ⟨getLast?_append_of_eq (getLast?_append_of_eq hlast _) _, by decide, .inr (.inl ?_)⟩
  rw [Field.flow, ← List.append_assoc, List.mem_append]
  tauto

theorem lineFeed_append (text : List Char) : "\n".toList ++ text = '\n' :: text := rfl

theorem textFrom_fields (fields : List Field) (rest : List Char) :
    textFrom all ((fields.flatMap fun f => f.flow ++ "\n".toList) ++ rest) =
      (fields.flatMap fun f => "  ".toList ++ (f.member.rewritten ++ "\n".toList)) ++
        textFrom all rest := by
  induction fields with
  | nil => simp only [List.flatMap_nil, List.nil_append]
  | cons f fields ih =>
    have hline := textFrom_append_line (closes_field f)
      ((fields.flatMap fun f => f.flow ++ "\n".toList) ++ rest)
    rw [textFrom_field, ih] at hline
    simpa only [List.flatMap_cons, List.append_assoc, List.cons_append, lineFeed_append] using hline

theorem textFrom_brace (rest : List Char) :
    textFrom all ("\x7d;\n".toList ++ rest) = "\x7d;\n".toList ++ textFrom all rest := by
  have hline := textFrom_append_line (x := "\x7d;".toList) (closes_of_semicolon rfl) rest
  rw [textFrom_of_idles (o := ["\x7d;"]) (.last rfl) (by decide)] at hline
  have hbrace : "\x7d;\n".toList = "\x7d;".toList ++ "\n".toList := by decide
  simpa only [hbrace, List.append_assoc, lineFeed_append] using hline

/-! ### Items -/

/-- A run rewrites an item apart from what follows it. -/
theorem textFrom_item (i : Item) (hblank : i ≠ .blank) (k : ℕ) (rest : List Char) :
    textFrom all (List.replicate k '\n' ++ (i.flow ++ rest)) =
      List.replicate k '\n' ++ (i.rewritten ++ textFrom all rest) := by
  have hsemicolon : ";\n".toList = ";".toList ++ "\n".toList := by decide
  have hclosed : "; */\n".toList = "; */".toList ++ "\n".toList := by decide
  cases i with
  | blank => exact absurd rfl hblank
  | importType name file =>
    have hline := (turns_importType name file).textFrom_append (closes_of_semicolon
      (getLast?_append_of_eq (getLast?_append_of_eq (getLast?_append_of_eq
        (getLast?_append_of_eq rfl _) _) _) _)) k rest
    have hquote : "';\n".toList = "';".toList ++ "\n".toList := by decide
    show textFrom all (List.replicate k '\n' ++ ("import type \x7b ".toList ++ (name.text ++
        (" \x7d from './".toList ++ (file.text ++ "';\n".toList))) ++ rest)) =
      List.replicate k '\n' ++ ("// import type \x7b ".toList ++ (name.text ++
        (" \x7d from './".toList ++ (file.text ++ "';\n".toList))) ++ textFrom all rest)
    simpa only [hquote, List.append_assoc, lineFeed_append] using hline
  | object name fields =>
    have hline := (turns_object name).textFrom_append (closes_header name) k
      ((fields.flatMap fun f => f.flow ++ "\n".toList) ++ ("\x7d;\n".toList ++ rest))
    rw [textFrom_fields, textFrom_brace] at hline
    have hopen : " = \x7b\n".toList = " = \x7b".toList ++ "\n".toList := by decide
    show textFrom all (List.replicate k '\n' ++ ("export type ".toList ++ (name.name.text ++
        (" = \x7b\n".toList ++ ((fields.flatMap fun f => f.flow ++ "\n".toList) ++
          "\x7d;\n".toList))) ++ rest)) =
      List.replicate k '\n' ++ ("typedef /* export type */ ".toList ++ (name.name.text ++
        (" = \x7b\n".toList ++ ((fields.flatMap fun f => "  ".toList ++
          (f.member.rewritten ++ "\n".toList)) ++ "\x7d;\n".toList))) ++ textFrom all rest)
    rw [hopen]
    simp only [List.append_assoc] at hline ⊢
    exact hline
  | multiLineUnion name first others =>
    have hline := (turns_multiLineUnion name first others).textFrom_append (closes_of_semicolon
      (getLast?_append_of_eq (getLast?_append_of_eq (getLast?_append_of_eq
        (getLast?_append_of_eq rfl _) _) _) _)) k rest
    show textFrom all (List.replicate k '\n' ++ ("export type ".toList ++ (name.name.text ++
        (" =".toList ++ (inLines (first :: others) ++ ";\n".toList))) ++ rest)) =
      List.replicate k '\n' ++ ("typedef /* export type */ ".toList ++ (name.name.text ++
        (" = BaseNode; /* ".toList ++ (inLines (first :: others) ++ "; */\n".toList))) ++
          textFrom all rest)
    simpa only [hsemicolon, hclosed, List.append_assoc, lineFeed_append] using hline
  | singleLineUnion name alternatives =>
    have hline := (turns_singleLineUnion name alternatives).textFrom_append (closes_of_semicolon
      (getLast?_append_of_eq (getLast?_append_of_eq (getLast?_append_of_eq
        (getLast?_append_of_eq rfl _) _) _) _)) k rest
    show textFrom all (List.replicate k '\n' ++ ("export type ".toList ++ (name.name.text ++
        (" = ".toList ++ (inLine alternatives.names ++ ";\n".toList))) ++ rest)) =
      List.replicate k '\n' ++ ("typedef /* export type */ ".toList ++ (name.name.text ++
        (" = BaseNode; /* ".toList ++ (inLine alternatives.names ++ "; */\n".toList))) ++
          textFrom all rest)
    simpa only [hsemicolon, hclosed, List.append_assoc, lineFeed_append] using hline

theorem textFrom_flow (items : List Item) (k : ℕ) :
    textFrom all (List.replicate k '\n' ++ items.flatMap Item.flow) =
      List.replicate k '\n' ++ items.flatMap Item.rewritten := by
  induction items generalizing k with
  | nil =>
    have hlines := Sketch.Fits.last (σ := .chars (· == '\n')) (w := List.replicate k '\n')
      fun c hc => by rw [List.eq_of_mem_replicate hc]; rfl
    rw [List.flatMap_nil, List.flatMap_nil, List.append_nil]
    exact textFrom_of_idles hlines (by decide)
  | cons i items ih =>
    by_cases hblank : i = .blank
    · -- a blank line goes with what follows it
      subst hblank
      have hnext := ih (k + 1)
      rw [List.replicate_succ'] at hnext
      simp only [List.append_assoc] at hnext
      exact hnext
    · have hrest := ih 0
      rw [List.replicate_zero, List.nil_append, List.nil_append] at hrest
      rw [List.flatMap_cons, List.flatMap_cons, textFrom_item i hblank, hrest]

/-- What a run leaves of a source. -/
theorem text_of_flow (items : List Item) :
    (of (items.flatMap Item.flow)).text = items.flatMap Item.rewritten := by
  rw [text_of]
  exact textFrom_flow items 0

/-- A run translates a source item by item into Haxe, exactly if the source has no trap. -/
theorem text_of_flow_eq_haxe_iff (items : List Item) :
    (of (items.flatMap Item.flow)).text = items.flatMap Item.haxe ↔
      ∀ i ∈ items, ∀ f ∈ i.fields, ¬ f.member.Trap := by
  rw [text_of_flow, eq_comm]
  exact flatMap_haxe_eq_iff items

/-- An object type with one optional field, which is called `typedef` and has a type that is named
for the operation types. -/
def trap : Item :=
  .object ⟨⟨'P', "art".toList, by decide, by decide⟩, by decide, by decide⟩
    [⟨true, .typed ⟨'t', "ypedef".toList, by decide, by decide⟩ .optional
      (.named ⟨'O', "perationTypeNode".toList, by decide, by decide⟩ (by decide))⟩]

/-- The field is taken for a typedef of the operation types: half of it becomes a comment, and an
enumeration comes to stand inside the object type. -/
theorem text_of_flow_ne_haxe :
    trap.flow = "export type Part = \x7b\n  +typedef?: OperationTypeNode,\n\x7d;\n".toList ∧
      trap.haxe =
        "typedef /* export type */ Part = \x7b\n  ?typedef /* opt */ : OperationTypeNode,\n\x7d;\n".toList ∧
      (of trap.flow).text = trap.haxeWith Member.misread ∧ (of trap.flow).text ≠ trap.haxe := by
  have htrap : ∀ f ∈ trap.fields, f.member.Trap := by decide
  have htext := text_of_flow [trap]
  rw [List.flatMap_singleton, List.flatMap_singleton] at htext
  have hmisread : trap.rewritten = trap.haxeWith Member.misread := by
    show _ ++ (_ ++ (_ ++ ((List.flatMap _ _) ++ _))) = _ ++ (_ ++ (_ ++ ((List.flatMap _ _) ++ _)))
    rw [List.flatMap_singleton, List.flatMap_singleton, Member.rewritten, if_pos (by decide)]
  refine ⟨by decide +kernel, by decide +kernel, htext.trans hmisread, fun heq => ?_⟩
  have hnone := trap.grows.2.mp (heq.symm.trans htext)
  exact hnone _ (List.mem_singleton_self _) (htrap _ (List.mem_singleton_self _))

end Run

end HaxeTypedefs
