/-
Field lines, rewritten rule by rule.

The first rules see the field with its mark and its type, one after the other: the mark
moves before the name, a primitive type gets its Haxe name, and the `+` goes.  What is left
is of interest only to the rules for one special field each, and to the last rule, which
takes an optional field for a typedef if it is called so.

* **`Run.textFrom_field`** — what a run makes of a field line.
-/
import HaxeTypedefs.Proofs.DeclarationLine

namespace HaxeTypedefs

open Rule

/-! ### Optional fields -/

namespace Slot

/-- What stands before the name of a field. -/
def lead : Slot := chars fun c => c == ' ' || c == '+'

theorem lead_holds (f : Field) : lead.holds ("  ".toList ++ f.sign) := by
  have hplus : ∀ c ∈ "  +".toList, (c == ' ' || c == '+') = true := by decide
  intro c hc
  refine hplus c ?_
  rw [Field.sign] at hc
  split at hc
  · exact hc
  · exact List.mem_of_mem_take (i := 2) hc

theorem oneOf_holds {ws : List String} {w : String} (h : w ∈ ws) : (oneOf ws).holds w.toList :=
  ⟨w, h, rfl⟩

end Slot

/-- The type as the rule for primitive types leaves it. -/
def FieldType.withColon (gap : List Char) : FieldType → List Char
  | .array element =>
    ":".toList ++ (gap ++ ("$ReadOnlyArray<".toList ++ (element.text ++ ">".toList)))
  | type => type.haxe gap

namespace Sketch

/-- The slots of a field type. -/
def ofType : Sketch := [.oneOf ["", "$ReadOnlyArray<"], .word, .oneOf ["", ">"]]

theorem fits_type (type : FieldType) {o : Sketch} {rest : List Char} (h : o.Fits rest) :
    Fits (ofType ++ o) (type.flow ++ rest) := by
  have hword : ∀ w : List Char, (∀ c ∈ w, isWord c = true) → Fits (ofType ++ o) (w ++ rest) :=
    fun w hw => .next (w := []) (Slot.oneOf_holds (w := "") (by decide))
      (.next hw (.next (w := []) (Slot.oneOf_holds (w := "") (by decide)) h))
  cases type with
  | boolean | string | number => exact hword _ (by decide)
  | named name other => exact hword _ name.isWord_of_mem
  | array element =>
    show Fits (ofType ++ o) ("$ReadOnlyArray<".toList ++ (element.text ++ ">".toList) ++ rest)
    rw [List.append_assoc, List.append_assoc]
    exact .next (Slot.oneOf_holds (by decide)) (.next element.isWord_of_mem
      (.next (Slot.oneOf_holds (by decide)) h))

/-- The slots of a name with what its mark has become around it. -/
def ofName : Sketch := [.oneOf ["", "?"], .word, .oneOf ["", " /* opt */ "]]

theorem fits_name (name : Identifier) (presence : Presence) {o : Sketch} {rest : List Char}
    (h : o.Fits rest) :
    Fits (ofName ++ o) (presence.opening ++ (name.text ++ (presence.closing ++ rest))) := by
  refine .next ?_ (.next name.isWord_of_mem (.next ?_ h))
  · cases presence with
    | required => exact Slot.oneOf_holds (w := "") (by decide)
    | _ => exact Slot.oneOf_holds (by decide)
  · cases presence with
    | required => exact Slot.oneOf_holds (w := "") (by decide)
    | _ => exact Slot.oneOf_holds (by decide)

theorem gap_holds (presence : Presence) : (Slot.oneOf ["", " "]).holds presence.gap := by
  cases presence with
  | nullable => exact Slot.oneOf_holds (w := "") (by decide)
  | _ => exact Slot.oneOf_holds (w := " ") (by decide)

/-- The slots of a type that is no array, with its colon. -/
def ofSingle : Sketch := [":", .oneOf ["", " "], Slot.word.either "Int /* number */"]

theorem fits_single {type : FieldType} (htype : ∀ element, type ≠ .array element)
    (presence : Presence) {o : Sketch} {rest : List Char} (h : o.Fits rest) :
    Fits (ofSingle ++ o) (type.haxe presence.gap ++ rest) := by
  have hword : ∀ gap w : List Char, (Slot.oneOf ["", " "]).holds gap →
      (Slot.word.either "Int /* number */").holds w →
        Fits (ofSingle ++ o) (":".toList ++ (gap ++ (w ++ rest))) :=
    fun gap w hgap hw => .next rfl (.next hgap (.next hw h))
  have hnone : (Slot.oneOf ["", " "]).holds [] := Slot.oneOf_holds (w := "") (by decide)
  have hname : ∀ w : List Char, (∀ c ∈ w, isWord c = true) →
      (Slot.word.either "Int /* number */").holds w := fun w hw => .inl hw
  cases type with
  | boolean => exact hword [] "Bool".toList hnone (hname _ (by decide))
  | string => exact hword [] "String".toList hnone (hname _ (by decide))
  | number => exact hword [] "Int /* number */".toList hnone (.inr rfl)
  | named name other =>
    show Fits _ (":".toList ++ (presence.gap ++ name.text) ++ rest)
    rw [List.append_assoc, List.append_assoc]
    exact hword _ _ (gap_holds presence) (hname _ name.isWord_of_mem)
  | array element => exact absurd rfl (htype element)

/-- The slots of an array type with its colon. -/
def ofArray (constructor : String) : Sketch :=
  [":", .oneOf ["", " "], constructor, .word, ">"]

theorem fits_array (constructor : String) (presence : Presence) (element : Identifier) {o : Sketch}
    {rest : List Char} (h : o.Fits rest) :
    Fits (ofArray constructor ++ o)
      (":".toList ++ (presence.gap ++ (constructor.toList ++ (element.text ++ (">".toList ++ rest))))) :=
  .next rfl (.next (gap_holds presence) (.next rfl (.next element.isWord_of_mem (.next rfl h))))

end Sketch

namespace Run

theorem textFrom_trans {rules rules' : List Rule} {x y z : List Char} (h : textFrom rules x = y)
    (h' : textFrom rules' y = z) : textFrom (rules ++ rules') x = z := by
  rw [textFrom_append, h, h']

theorem textFrom_of_apply {r : Rule} {x y : List Char} (h : (r.apply x).text = y) :
    textFrom [r] x = y :=
  h

/-- A field with a mark, in front of which no match can begin. -/
theorem text_apply_optionalField_of_mark {lead z y : List Char} (name : Identifier)
    (hlead : Slot.lead.holds lead) (hz : Target.OptionalMark z y) (hy : '?' ∉ y) :
    (optionalField.apply (lead ++ (name.text ++ ("?:".toList ++ z) ++ y))).text =
      lead ++ ("?".toList ++ (name.text ++ (" /* opt */ :".toList ++ y))) := by
  have hm : Target.optionalField.Chooses (.between lead (name.text ++ ("?:".toList ++ z) ++ y))
      ⟨[], name.text, "?:".toList ++ z⟩ :=
    Target.chooses_optionalField_iff.mpr ⟨name.text, z, y, by simp only [List.append_assoc],
      name.text_ne_nil, name.isWord_of_mem, hz, rfl⟩
  have hfree : Target.optionalField.Free [] lead (name.text ++ ("?:".toList ++ z) ++ y) := by
    refine Target.free_of_begins (by decide) fun c hc => ?_
    have hbegins : ∀ d ∈ [' ', '+'], Target.optionalField.whole.begins d = false := by decide
    refine hbegins c ?_
    simpa using hlead c hc
  have hrest : ¬ "?:".toList <:+: y := fun h => hy (h.subset (by decide))
  have happly := text_apply_of_match (r := optionalField) rfl hm
    (by rw [Match.text, List.nil_append]) hfree
    (Target.free_of_lacks (w := "?:".toList) (by decide) (by rwa [List.append_nil]))
  rw [happly]
  show lead ++ ("?".toList ++ name.text ++ " /* opt */ :".toList ++ y) = _
  simp only [List.append_assoc]

theorem text_apply_optionalField {lead type : List Char} (name : Identifier) (presence : Presence)
    (hlead : Slot.lead.holds lead) (htype : '?' ∉ type) :
    (optionalField.apply (lead ++ (name.text ++ (presence.flow ++ type)))).text =
      lead ++ (presence.opening ++ (name.text ++ (presence.closing ++
        (":".toList ++ (presence.gap ++ type))))) := by
  have hblank : '?' ∉ " ".toList ++ type := by
    rw [List.mem_append]
    rintro (h | h)
    · revert h
      decide
    · exact htype h
  cases presence with
  | required =>
    show (optionalField.apply (lead ++ (name.text ++ (": ".toList ++ type)))).text =
      lead ++ (name.text ++ (": ".toList ++ type))
    have hno : '?' ∉ lead ++ (name.text ++ (": ".toList ++ type)) := by
      have hlead' : '?' ∉ lead := fun h => absurd (hlead _ h) (by decide)
      have hname : '?' ∉ name.text := name.not_mem_text (by decide)
      have hcolon : '?' ∉ ": ".toList := by decide
      simp only [List.mem_append]
      tauto
    have hlacks : ¬ "?:".toList <:+: lead ++ (name.text ++ (": ".toList ++ type)) :=
      fun h => hno (h.subset (by decide))
    rw [apply_of_singleton rfl, Substitution.apply_of_free (by decide)
      (Target.free_of_lacks (w := "?:".toList) (by decide) (by rwa [List.append_nil]))]
  | optional =>
    have hz : Target.OptionalMark [] (" ".toList ++ type) := by
      refine .inr ⟨rfl, fun bl rest h _ => ?_⟩
      rw [h] at hblank
      exact absurd (by simp) hblank
    have happly := text_apply_optionalField_of_mark name hlead hz hblank
    simp only [List.append_assoc] at happly
    exact happly
  | nullable =>
    have hz : Target.OptionalMark " ?".toList type :=
      .inl ⟨" ".toList, by decide, by decide, by decide⟩
    have happly := text_apply_optionalField_of_mark name hlead hz htype
    simp only [List.append_assoc] at happly
    exact happly

/-! ### Primitive types -/

/-- A text with one colon, and a word behind it after some white space. -/
structure Annotated (before gap word behind : List Char) : Prop where
  not_mem_before : ':' ∉ before
  gap_blank : ∀ c ∈ gap, isBlank c = true
  word_isWord : ∀ c ∈ word, isWord c = true
  not_mem_behind : ':' ∉ behind
  behind_word : behind.head?.any isWord = false
  behind_blank : (word ++ behind).head?.any isBlank = false

variable {primitive haxe : String} {x gap w y : List Char}

theorem text_apply_primitiveType (h : Annotated x gap primitive.toList y)
    (hne : primitive.toList ≠ []) :
    ((⟨primitiveType primitive, .literal haxe⟩ : Substitution).apply
      (x ++ (":".toList ++ (gap ++ (primitive.toList ++ y))))).text = x ++ (haxe.toList ++ y) := by
  have hm : (primitiveType primitive).Chooses
      (.between x (":".toList ++ (gap ++ primitive.toList) ++ y))
      ⟨":".toList ++ (gap ++ primitive.toList), [], []⟩ :=
    (Target.chooses_primitiveType_iff hne h.word_isWord).mpr
      ⟨gap, y, by simp only [List.append_assoc], h.gap_blank, h.behind_word, rfl⟩
  have hrest : ¬ ":".toList <:+: y := fun hpart => h.not_mem_behind (hpart.subset (by decide))
  have happly := Substitution.apply_of_match
    (s := ⟨primitiveType primitive, .literal haxe⟩) (Target.solid_primitiveType primitive)
    (x := x) (y := y) (m := ⟨":".toList ++ (gap ++ primitive.toList), [], []⟩)
    (Target.free_of_opening (w := []) (d := ':') (z := []) rfl (by decide) h.not_mem_before)
    (by simpa only [Match.text, List.append_nil] using hm)
    (Target.free_of_lacks (w := ":".toList) List.mem_cons_self (by rwa [List.append_nil]))
  simp only [Match.text, List.append_nil, List.append_assoc] at happly
  rw [happly]
  rfl

theorem text_apply_primitiveType_of_ne (h : Annotated x gap w y) (hne : primitive.toList ≠ [])
    (hp : ∀ c ∈ primitive.toList, isWord c = true) (hw : w ≠ primitive.toList) :
    ((⟨primitiveType primitive, .literal haxe⟩ : Substitution).apply
      (x ++ (":".toList ++ (gap ++ (w ++ y))))).text = x ++ (":".toList ++ (gap ++ (w ++ y))) := by
  have hcolon : (primitiveType primitive).Free x ":".toList (gap ++ (w ++ y)) := by
    refine Target.free_singleton (d := ':') fun hmatch => ?_
    obtain ⟨m, hm, -⟩ := Target.exists_chooses (Target.solid_primitiveType primitive) hmatch
    obtain ⟨bl, rest, htext, hbl, hrest, -⟩ :=
      (Target.chooses_primitiveType_iff hne hp).mp hm
    have hcolon : ":".toList ++ (gap ++ (w ++ y)) = ":".toList ++ (bl ++ (primitive.toList ++ rest)) :=
      htext
    have hafter := List.append_cancel_left hcolon
    obtain ⟨-, hword⟩ := span_unique hafter h.gap_blank hbl h.behind_blank
      (head?_word_any_isBlank hne hp)
    exact hw (span_unique hword h.word_isWord hp h.behind_word hrest).1
  have hlacks : ¬ ":".toList <:+: gap ++ (w ++ y) := by
    intro hpart
    have hmem : ':' ∈ gap ++ (w ++ y) := hpart.subset (by decide)
    rcases List.mem_append.mp hmem with hmem | hmem
    · exact absurd (h.gap_blank _ hmem) (by decide)
    rcases List.mem_append.mp hmem with hmem | hmem
    · exact absurd (h.word_isWord _ hmem) (by decide)
    · exact h.not_mem_behind hmem
  have hfree : (primitiveType primitive).Free [] (x ++ (":".toList ++ (gap ++ (w ++ y)))) [] := by
    refine Target.free_append (Target.free_of_opening (w := []) (d := ':') (z := []) rfl (by decide)
      h.not_mem_before) (Target.free_append ?_
        (Target.free_of_lacks (w := ":".toList) List.mem_cons_self (by rwa [List.append_nil])))
    rwa [List.append_nil]
  rw [Substitution.apply_of_free (Target.solid_primitiveType primitive) hfree]

theorem text_apply_primitives_eq (text : List Char) :
    (primitives.apply text).text =
      ((⟨primitiveType "number", .literal ":Int /* number */"⟩ : Substitution).apply
        ((⟨primitiveType "string", .literal ":String"⟩ : Substitution).apply
          ((⟨primitiveType "boolean", .literal ":Bool"⟩ : Substitution).apply
            text).text).text).text := by
  rw [apply_eq_applyAll]
  rfl

/-- No other type is taken for a primitive one. -/
theorem text_apply_primitives_of_ne (h : Annotated x gap w y)
    (hw : w ∉ ["boolean".toList, "string".toList, "number".toList]) :
    (primitives.apply (x ++ (":".toList ++ (gap ++ (w ++ y))))).text =
      x ++ (":".toList ++ (gap ++ (w ++ y))) := by
  simp only [List.mem_cons, List.not_mem_nil, or_false, not_or] at hw
  obtain ⟨hboolean, hstring, hnumber⟩ := hw
  rw [text_apply_primitives_eq,
    text_apply_primitiveType_of_ne h (by decide) (by decide) hboolean,
    text_apply_primitiveType_of_ne h (by decide) (by decide) hstring,
    text_apply_primitiveType_of_ne h (by decide) (by decide) hnumber]

section FieldType

variable (hx : ':' ∉ x) (hgap : ∀ c ∈ gap, isBlank c = true)
include hx hgap

theorem annotated_of_word (hne : w ≠ []) (hw : ∀ c ∈ w, isWord c = true) :
    Annotated x gap w ",".toList :=
  ⟨hx, hgap, hw, by decide, rfl, head?_word_any_isBlank hne hw⟩

theorem text_apply_primitives_named {name : Identifier}
    (hname : name.text ∉ ["boolean".toList, "string".toList, "number".toList]) :
    (primitives.apply (x ++ (":".toList ++ (gap ++ (name.text ++ ",".toList))))).text =
      x ++ (":".toList ++ (gap ++ name.text) ++ ",".toList) := by
  rw [text_apply_primitives_of_ne (annotated_of_word hx hgap name.text_ne_nil name.isWord_of_mem) hname]
  simp only [List.append_assoc]

/-- An array type does not begin with a word. -/
theorem text_apply_primitives_array (element : Identifier) :
    (primitives.apply (x ++ (":".toList ++ (gap ++
        ("$ReadOnlyArray<".toList ++ (element.text ++ ">".toList) ++ ",".toList))))).text =
      x ++ (":".toList ++ (gap ++ ("$ReadOnlyArray<".toList ++ (element.text ++ ">".toList))) ++
        ",".toList) := by
  have hbehind : ':' ∉ "$ReadOnlyArray<".toList ++ (element.text ++ ">".toList) ++ ",".toList := by
    have helement : ':' ∉ element.text := element.not_mem_text (by decide)
    simp [helement]
  have hannotated : Annotated x gap []
      ("$ReadOnlyArray<".toList ++ (element.text ++ ">".toList) ++ ",".toList) :=
    ⟨hx, hgap, by simp, hbehind, rfl, rfl⟩
  have happly := text_apply_primitives_of_ne hannotated (by decide)
  rw [List.nil_append] at happly
  rw [happly]
  simp only [List.append_assoc]

theorem text_apply_primitives (type : FieldType) :
    (primitives.apply (x ++ (":".toList ++ (gap ++ (type.flow ++ ",".toList))))).text =
      x ++ (type.withColon gap ++ ",".toList) := by
  have hnone : ∀ c ∈ ([] : List Char), isBlank c = true := by simp
  cases type with
  | boolean =>
    -- what stands for the type is no primitive type of the substitutions that follow
    have hbool := annotated_of_word (w := "Bool".toList) hx hnone (by decide) (by decide)
    have hsplit : ":Bool".toList ++ ",".toList = ":".toList ++ ([] ++ ("Bool".toList ++ ",".toList)) :=
      rfl
    rw [text_apply_primitives_eq]
    show (Substitution.apply _ (Substitution.apply _ (Substitution.apply _ (x ++ (":".toList ++
      (gap ++ ("boolean".toList ++ ",".toList))))).text).text).text = x ++ (":Bool".toList ++ ",".toList)
    rw [text_apply_primitiveType (annotated_of_word hx hgap (by decide) (by decide)) (by decide), hsplit,
      text_apply_primitiveType_of_ne hbool (by decide) (by decide) (by decide),
      text_apply_primitiveType_of_ne hbool (by decide) (by decide) (by decide)]
  | string =>
    have hstring := annotated_of_word (w := "string".toList) hx hgap (by decide) (by decide)
    have hnamed := annotated_of_word (w := "String".toList) hx hnone (by decide) (by decide)
    have hsplit : ":String".toList ++ ",".toList =
        ":".toList ++ ([] ++ ("String".toList ++ ",".toList)) :=
      rfl
    rw [text_apply_primitives_eq]
    show (Substitution.apply _ (Substitution.apply _ (Substitution.apply _ (x ++ (":".toList ++
      (gap ++ ("string".toList ++ ",".toList))))).text).text).text =
        x ++ (":String".toList ++ ",".toList)
    rw [text_apply_primitiveType_of_ne hstring (by decide) (by decide) (by decide),
      text_apply_primitiveType hstring (by decide), hsplit,
      text_apply_primitiveType_of_ne hnamed (by decide) (by decide) (by decide)]
  | number =>
    have hnumber := annotated_of_word (w := "number".toList) hx hgap (by decide) (by decide)
    rw [text_apply_primitives_eq]
    show (Substitution.apply _ (Substitution.apply _ (Substitution.apply _ (x ++ (":".toList ++
      (gap ++ ("number".toList ++ ",".toList))))).text).text).text =
        x ++ (":Int /* number */".toList ++ ",".toList)
    rw [text_apply_primitiveType_of_ne hnumber (by decide) (by decide) (by decide),
      text_apply_primitiveType_of_ne hnumber (by decide) (by decide) (by decide),
      text_apply_primitiveType hnumber (by decide)]
  | named name other => exact text_apply_primitives_named hx hgap other
  | array element => exact text_apply_primitives_array hx hgap element

end FieldType

/-! ### The other rules -/

theorem text_apply_variance (f : Field) {body : List Char} (hbody : '+' ∉ body) :
    (variance.apply ("  ".toList ++ (f.sign ++ body))).text = "  ".toList ++ body := by
  have hlacks : ∀ {x}, '+' ∉ x → ¬ "+".toList <:+: x := fun h hpart => h (hpart.subset (by decide))
  rw [Field.sign]
  split
  · have hm : Target.variance.Chooses (.between [] ("  ".toList ++ "+".toList ++ body))
        ⟨[], "  ".toList, "+".toList⟩ :=
      Target.chooses_variance_iff.mpr
        ⟨"  ".toList, body, by rw [List.append_assoc], rfl, by decide, by decide, rfl⟩
    have happly := text_apply_of_match (r := variance) rfl hm rfl Target.free_nil
      (Target.free_of_lacks (w := "+".toList) (by decide) (by rw [List.append_nil]; exact hlacks hbody))
    simp only [List.append_assoc] at happly
    exact happly
  · have hno : '+' ∉ "  ".toList ++ body := by
      have hblank : '+' ∉ "  ".toList := by decide
      rw [List.mem_append]
      tauto
    rw [apply_of_singleton rfl, List.nil_append, Substitution.apply_of_free (by decide)
      (Target.free_of_lacks (w := "+".toList) (by decide) (by rw [List.append_nil]; exact hlacks hno))]

theorem text_apply_readOnlyArray (hx : '$' ∉ x) (hy : '$' ∉ y) :
    (readOnlyArray.apply (x ++ ("$ReadOnlyArray".toList ++ y))).text =
      x ++ ("/* $ReadOnlyArray */Array".toList ++ y) := by
  have hm : (Target.plain (.text "$ReadOnlyArray".toList)).Chooses
      (.between x ("$ReadOnlyArray".toList ++ y)) ⟨"$ReadOnlyArray".toList, [], []⟩ :=
    (Target.chooses_text_iff (by decide)).mpr ⟨y, rfl, rfl⟩
  have hlacks : ¬ "$ReadOnlyArray".toList <:+: y := fun h => hy (h.subset (by decide))
  exact text_apply_of_match (r := readOnlyArray) rfl hm
    (by rw [Match.text, List.append_nil, List.append_nil])
    (Target.free_of_opening (w := []) (d := '$') (z := "ReadOnlyArray".toList) rfl (by decide) hx)
    (Target.free_of_lacks (w := "$ReadOnlyArray".toList) (by decide) (by rwa [List.append_nil]))

/-! ### Fields with a type -/

/-- A field behind the rule for primitive types, and without its `+`. -/
def annotated (name : Identifier) (presence : Presence) (type : FieldType) : List Char :=
  presence.opening ++ (name.text ++ (presence.closing ++ (type.withColon presence.gap ++ ",".toList)))

theorem not_mem_marked {c : Char} (hword : isWord c = false) (hc : c ∉ "? /* opt */ ".toList)
    (name : Identifier) (presence : Presence) :
    c ∉ presence.opening ++ (name.text ++ presence.closing) := by
  have hopening : c ∉ presence.opening := by
    cases presence with
    | required => exact List.not_mem_nil
    | _ => exact fun h => hc (List.mem_append_left " /* opt */ ".toList h)
  have hclosing : c ∉ presence.closing := by
    cases presence with
    | required => exact List.not_mem_nil
    | _ => exact fun h => hc (List.mem_append_right "?".toList h)
  simp only [List.mem_append, not_or]
  exact ⟨hopening, name.not_mem_text hword, hclosing⟩

theorem textFrom_annotated (f : Field) (name : Identifier) (presence : Presence) (type : FieldType)
    (hplus : '+' ∉ annotated name presence type) :
    textFrom [exportType, optionalField, primitives, variance]
        ("  ".toList ++ (f.sign ++ (Member.typed name presence type).flow)) =
      "  ".toList ++ annotated name presence type := by
  have hlead := Slot.lead_holds f
  have hflow : "  ".toList ++ (f.sign ++ (Member.typed name presence type).flow) =
      "  ".toList ++ f.sign ++ (name.text ++ (presence.flow ++ (type.flow ++ ",".toList))) := by
    rw [List.append_assoc]
    rfl
  have hpresence : (Slot.oneOf [": ", "?: ", "?: ?"]).holds presence.flow := by
    cases presence <;> exact Slot.oneOf_holds (by decide)
  have hexport : textFrom [exportType] _ = _ := textFrom_of_idles
    (o := .lead :: .word :: .oneOf [": ", "?: ", "?: ?"] :: (Sketch.ofType ++ ([","] : Sketch)))
    (.next hlead (.next name.isWord_of_mem (.next hpresence (Sketch.fits_type type (.last rfl)))))
    (by decide)
  have hmark : '?' ∉ type.flow ++ ",".toList :=
    Sketch.not_mem_of_fits (Sketch.fits_type (o := [","]) type (.last rfl)) (by decide)
  have hoptional := text_apply_optionalField name presence hlead hmark
  have hcolon : ':' ∉ "  ".toList ++ f.sign ++ (presence.opening ++ (name.text ++ presence.closing)) := by
    have hlead : ':' ∉ "  ".toList ++ f.sign := fun h => absurd (hlead _ h) (by decide)
    exact fun h => (List.mem_append.mp h).elim hlead
      (not_mem_marked (by decide) (by decide) name presence)
  have hgap : ∀ c ∈ presence.gap, isBlank c = true := by
    cases presence <;> decide
  have hprimitive := text_apply_primitives hcolon hgap type
  have hvariance := text_apply_variance f hplus
  have hsplit : "  ".toList ++ f.sign ++ (presence.opening ++ (name.text ++ presence.closing)) ++
      (type.withColon presence.gap ++ ",".toList) =
        "  ".toList ++ (f.sign ++ annotated name presence type) := by
    simp only [annotated, List.append_assoc]
  rw [hsplit] at hprimitive
  have hregroup : "  ".toList ++ f.sign ++ (presence.opening ++ (name.text ++ (presence.closing ++
      (":".toList ++ (presence.gap ++ (type.flow ++ ",".toList)))))) =
        "  ".toList ++ f.sign ++ (presence.opening ++ (name.text ++ presence.closing)) ++
          (":".toList ++ (presence.gap ++ (type.flow ++ ",".toList))) := by
    simp only [List.append_assoc]
  rw [hregroup] at hoptional
  have hrun := textFrom_trans hexport (textFrom_trans (textFrom_of_apply hoptional)
    (textFrom_trans (textFrom_of_apply hprimitive) (textFrom_of_apply hvariance)))
  rw [hflow]
  exact hrun

theorem withColon_eq {type : FieldType} (htype : ∀ element, type ≠ .array element)
    (gap : List Char) : type.withColon gap = type.haxe gap := by
  cases type with
  | array element => exact absurd rfl (htype element)
  | _ => rfl

/-- The rules between `variance` and `operationType`. -/
def betweenRules : List Rule :=
  [multiLineUnion, singleLineUnion, typeNodeUnion, supersededTypeNode, nullableToken, optionalValue,
    importType, kindLiteral, readOnlyArray]

/-- What is left of a field with an array type, and the type gets its Haxe name. -/
theorem textFrom_annotated_array (name : Identifier) (presence : Presence) (element : Identifier) :
    '+' ∉ annotated name presence (.array element) ∧
      textFrom betweenRules ("  ".toList ++ annotated name presence (.array element)) =
        "  ".toList ++ (Member.typed name presence (.array element)).haxe := by
  have hfits := Sketch.fits_name (o := Sketch.ofArray "$ReadOnlyArray<" ++ ([","] : Sketch)) name presence
    (Sketch.fits_array "$ReadOnlyArray<" presence element (.last (w := ",".toList) rfl))
  have htext : annotated name presence (.array element) =
      presence.opening ++ (name.text ++ (presence.closing ++ (":".toList ++ (presence.gap ++
        ("$ReadOnlyArray<".toList ++ (element.text ++ (">".toList ++ ",".toList))))))) := by
    show presence.opening ++ (name.text ++ (presence.closing ++ (":".toList ++ (presence.gap ++
      ("$ReadOnlyArray<".toList ++ (element.text ++ ">".toList))) ++ ",".toList))) = _
    simp only [List.append_assoc]
  have hplus : '+' ∉ annotated name presence (.array element) := by
    rw [htext]
    exact Sketch.not_mem_of_fits hfits (by decide)
  have hidle : textFrom [multiLineUnion, singleLineUnion, typeNodeUnion, supersededTypeNode,
      nullableToken, optionalValue, importType, kindLiteral] _ = _ := textFrom_of_idles
    (o := "  " :: (Sketch.ofName ++ (Sketch.ofArray "$ReadOnlyArray<" ++ ([","] : Sketch))))
    (.next rfl hfits) (by decide +kernel)
  have hx : '$' ∉ "  ".toList ++ (presence.opening ++ (name.text ++ (presence.closing ++
      (":".toList ++ presence.gap)))) := by
    have hmarked : '$' ∉ presence.opening ++ (name.text ++ presence.closing) :=
      not_mem_marked (by decide) (by decide) name presence
    have hgap : '$' ∉ presence.gap := by cases presence <;> decide
    have hfixed : '$' ∉ "  ".toList ∧ '$' ∉ ":".toList := by decide
    simp only [List.mem_append, not_or] at hmarked ⊢
    exact ⟨hfixed.1, hmarked.1, hmarked.2.1, hmarked.2.2, hfixed.2, hgap⟩
  have hy : '$' ∉ "<".toList ++ (element.text ++ (">".toList ++ ",".toList)) := by
    have helement : '$' ∉ element.text := element.not_mem_text (by decide)
    have hfixed : '$' ∉ "<".toList ∧ '$' ∉ ">".toList ∧ '$' ∉ ",".toList := by decide
    simp only [List.mem_append, not_or]
    exact ⟨hfixed.1, helement, hfixed.2⟩
  have happly := text_apply_readOnlyArray hx hy
  have hflow : "$ReadOnlyArray<".toList = "$ReadOnlyArray".toList ++ "<".toList := by decide
  have hhaxe : "/* $ReadOnlyArray */Array<".toList =
      "/* $ReadOnlyArray */Array".toList ++ "<".toList := by decide
  rw [hflow] at hidle htext
  simp only [List.append_assoc] at happly hidle htext
  refine ⟨hplus, ?_⟩
  rw [htext]
  refine (textFrom_trans hidle (textFrom_of_apply happly)).trans ?_
  show _ = "  ".toList ++ (presence.opening ++ (name.text ++ (presence.closing ++ (":".toList ++
    (presence.gap ++ ("/* $ReadOnlyArray */Array<".toList ++ (element.text ++ ">".toList))) ++
      ",".toList))))
  rw [hhaxe]
  simp only [List.append_assoc]

/-- Past the rule for primitive types, a field is of interest to the rule for arrays only. -/
theorem textFrom_of_annotated (name : Identifier) (presence : Presence) (type : FieldType) :
    '+' ∉ annotated name presence type ∧
      textFrom betweenRules ("  ".toList ++ annotated name presence type) =
        "  ".toList ++ (Member.typed name presence type).haxe := by
  by_cases htype : ∃ element, type = .array element
  · obtain ⟨element, rfl⟩ := htype
    exact textFrom_annotated_array name presence element
  · have hsingle : ∀ element, type ≠ .array element := fun element h => htype ⟨element, h⟩
    have hfits := Sketch.fits_name (o := Sketch.ofSingle ++ ([","] : Sketch)) name presence
      (Sketch.fits_single hsingle presence (.last (w := ",".toList) rfl))
    have htext : annotated name presence type = (Member.typed name presence type).haxe := by
      rw [annotated, withColon_eq hsingle]
      rfl
    rw [htext]
    exact ⟨Sketch.not_mem_of_fits hfits (by decide),
      textFrom_of_idles (.next (w := "  ".toList) (σ := "  ") rfl hfits) (by decide +kernel)⟩

/-! ### Fields that are taken for a typedef -/

theorem text_apply_operationType_of_trap {stem rest : List Char} (hstem : ∀ c ∈ stem, isWord c = true)
    (hrest : ∀ c ∈ rest, isWord c = true) :
    (operationType.apply ("  ?".toList ++ (stem ++
      ("typedef /* opt */ : OperationTypeNode".toList ++ (rest ++ ",".toList))))).text =
        "  ?".toList ++ (stem ++ ("//  typedef /* opt */ : OperationTypeNode".toList ++
          (rest ++ (", \n".toList ++ operationTypes.render.toList)))) := by
  have hline : '\n' ∉ rest ++ ",".toList := by
    have hword : '\n' ∉ rest := fun h => absurd (hrest _ h) (by decide)
    have hcomma : '\n' ∉ ",".toList := by decide
    rw [List.mem_append]
    tauto
  have hsplit : "typedef /* opt */ : OperationTypeNode".toList =
      "typedef ".toList ++ ("/* opt */ :".toList ++ " OperationTypeNode".toList) := by decide
  have hm : Target.operationType.Chooses (.between ("  ?".toList ++ stem)
      ("typedef /* opt */ : OperationTypeNode".toList ++ (rest ++ ",".toList) ++ []))
      ⟨"typedef /* opt */ : OperationTypeNode".toList ++ (rest ++ ",".toList), [], []⟩ := by
    refine Target.chooses_operationType_iff.mpr
      ⟨"/* opt */ :".toList, rest ++ ",".toList, [], ?_, by decide, hline, rfl, ?_⟩
    · rw [hsplit]
      simp only [List.append_assoc, List.append_nil]
    · rw [hsplit]
      simp only [List.append_assoc]
  have hfree : Target.operationType.Free [] ("  ?".toList ++ stem)
      ("typedef /* opt */ : OperationTypeNode".toList ++ (rest ++ ",".toList) ++ []) := by
    refine Target.free_append (Target.free_of_begins (by decide) (by decide)) ?_
    have hblank : ' ' ∉ stem := fun h => absurd (hstem _ h) (by decide)
    exact Target.free_of_opening (w := "typedef".toList) (d := ' ') (z := []) rfl (by decide) hblank
  have happly := text_apply_of_match (r := operationType) rfl hm
    (by rw [Match.text, List.append_nil, List.append_nil]) hfree Target.free_nil
  have hrender : ∀ block : String, (Replacement.supersede block).render
      ⟨"typedef /* opt */ : OperationTypeNode".toList ++ (rest ++ ",".toList), [], []⟩ =
        "//  typedef /* opt */ : OperationTypeNode".toList ++
          (rest ++ (", \n".toList ++ block.toList)) := by
    intro block
    have hopen : "//  typedef /* opt */ : OperationTypeNode".toList =
        "//  ".toList ++ "typedef /* opt */ : OperationTypeNode".toList := by decide
    have hclose : ", \n".toList = ",".toList ++ " \n".toList := by decide
    rw [Replacement.render, Match.text, hopen, hclose]
    simp only [List.append_assoc, List.append_nil]
  rw [List.append_nil, List.append_nil, hrender, List.append_assoc, List.append_assoc] at happly
  exact happly

section Kept

variable {name : Identifier} {presence : Presence}

theorem text_apply_operationType_of_idles {o : Sketch} {text : List Char} (h : o.Fits text)
    (ho : o.idles operationType = true) : (operationType.apply text).text = text := by
  rw [apply_of_idles h ho]

theorem text_apply_operationType_primitive {w : String} (hw : w ∈ [":Bool", ":String", ":Int /* number */"]) :
    (operationType.apply ("  ".toList ++ (presence.opening ++ (name.text ++ (presence.closing ++
        (w.toList ++ ",".toList)))))).text =
      "  ".toList ++ (presence.opening ++ (name.text ++ (presence.closing ++
        (w.toList ++ ",".toList)))) := by
  refine text_apply_operationType_of_idles (o := "  " :: (Sketch.ofName ++
    ([.oneOf [":Bool", ":String", ":Int /* number */"], ","] : Sketch))) (.next rfl ?_) (by decide)
  exact Sketch.fits_name name presence (.next (Slot.oneOf_holds hw) (.last rfl))

theorem text_apply_operationType_array (element : Identifier) :
    (operationType.apply ("  ".toList ++ (Member.typed name presence (.array element)).haxe)).text =
      "  ".toList ++ (Member.typed name presence (.array element)).haxe := by
  have hfits := Sketch.fits_name
    (o := Sketch.ofArray "/* $ReadOnlyArray */Array<" ++ ([","] : Sketch)) name presence
    (Sketch.fits_array "/* $ReadOnlyArray */Array<" presence element (.last (w := ",".toList) rfl))
  have hline := text_apply_operationType_of_idles (.next (w := "  ".toList) (σ := "  ") rfl hfits)
    (by decide)
  show (operationType.apply ("  ".toList ++ (presence.opening ++ (name.text ++ (presence.closing ++
    (":".toList ++ (presence.gap ++ ("/* $ReadOnlyArray */Array<".toList ++
      (element.text ++ ">".toList))) ++ ",".toList)))))).text = "  ".toList ++ (presence.opening ++
    (name.text ++ (presence.closing ++ (":".toList ++ (presence.gap ++
      ("/* $ReadOnlyArray */Array<".toList ++ (element.text ++ ">".toList))) ++ ",".toList))))
  simp only [List.append_assoc]
  exact hline

/-- The blank before the type is what the rule needs, and only an optional field has one behind
`/* opt */ :`.  Its name must end in `typedef`, and its type begin with the name of the operation types. -/
theorem text_apply_operationType_named {type : Identifier} {other}
    (h : ¬ (Member.typed name presence (.named type other)).Trap) :
    (operationType.apply ("  ".toList ++ (Member.typed name presence (.named type other)).haxe)).text =
      "  ".toList ++ (Member.typed name presence (.named type other)).haxe := by
  have hname := name.isWord_of_mem
  have htype := type.isWord_of_mem
  cases presence with
  | required =>
    have hfits : Sketch.Fits ["  ", .word, ": ", .word, ","]
        ("  ".toList ++ (name.text ++ (": ".toList ++ (type.text ++ ",".toList)))) :=
      .next rfl (.next hname (.next rfl (.next htype (.last rfl))))
    exact text_apply_operationType_of_idles hfits (by decide)
  | nullable =>
    have hfits : Sketch.Fits ["  ?", .word, " /* opt */ :", .word, ","]
        ("  ?".toList ++ (name.text ++ (" /* opt */ :".toList ++ (type.text ++ ",".toList)))) :=
      .next rfl (.next hname (.next rfl (.next htype (.last rfl))))
    exact text_apply_operationType_of_idles hfits (by decide)
  | optional =>
    rw [Member.trap_iff, not_and_or] at h
    rcases h with h | h
    · have hfits : Sketch.Fits
          ["  ?", Slot.word.barring false true "typedef", " /* opt */ : ", .word, ","]
          ("  ?".toList ++ (name.text ++ (" /* opt */ : ".toList ++ (type.text ++ ",".toList)))) := by
        refine .next rfl (.next ⟨hname, ?_⟩ (.next rfl (.next htype (.last rfl))))
        rw [occurs, Bool.eq_false_iff, ne_eq, List.isSuffixOf_iff_suffix]
        exact h
      exact text_apply_operationType_of_idles hfits (by decide)
    · have hfits : Sketch.Fits
          ["  ?", .word, " /* opt */ : ", Slot.word.barring true false "OperationTypeNode", ","]
          ("  ?".toList ++ (name.text ++ (" /* opt */ : ".toList ++ (type.text ++ ",".toList)))) := by
        refine .next rfl (.next hname (.next rfl (.next ⟨htype, ?_⟩ (.last rfl))))
        rw [occurs, Bool.eq_false_iff, ne_eq, List.isPrefixOf_iff_prefix]
        exact h
      exact text_apply_operationType_of_idles hfits (by decide)

/-- Only a trap is taken for a typedef. -/
theorem text_apply_operationType_of_not_trap {type : FieldType}
    (h : ¬ (Member.typed name presence type).Trap) :
    (operationType.apply ("  ".toList ++ (Member.typed name presence type).haxe)).text =
      "  ".toList ++ (Member.typed name presence type).haxe := by
  cases type with
  | boolean => exact text_apply_operationType_primitive (w := ":Bool") (by decide)
  | string => exact text_apply_operationType_primitive (w := ":String") (by decide)
  | number => exact text_apply_operationType_primitive (w := ":Int /* number */") (by decide)
  | array element => exact text_apply_operationType_array element
  | named type other => exact text_apply_operationType_named h

end Kept

theorem text_apply_operationType_misread {m : Member} (h : m.Trap) :
    (operationType.apply ("  ".toList ++ m.haxe)).text = "  ".toList ++ m.misread := by
  obtain ⟨name, type, other, rfl, ⟨stem, hstem⟩, ⟨rest, hrest⟩⟩ := Member.exists_of_trap h
  have hname := name.isWord_of_mem
  have htype := type.isWord_of_mem
  rw [← hstem] at hname
  rw [← hrest] at htype
  have hhaxe : "  ".toList ++ (Member.typed name .optional (.named type other)).haxe =
      "  ?".toList ++ (stem ++ ("typedef /* opt */ : OperationTypeNode".toList ++
        (rest ++ ",".toList))) := by
    show "  ".toList ++ ("?".toList ++ (name.text ++ (" /* opt */ ".toList ++
      (":".toList ++ (" ".toList ++ type.text) ++ ",".toList)))) = _
    rw [← hstem, ← hrest]
    simp
  have hmisread : "  ".toList ++ (Member.typed name .optional (.named type other)).misread =
      "  ?".toList ++ (stem ++ ("//  typedef /* opt */ : OperationTypeNode".toList ++
        (rest ++ (", \n".toList ++ operationTypes.render.toList)))) := by
    show "  ".toList ++ ("?".toList ++
      (name.text.take (name.text.length - "typedef".toList.length) ++
        ("//  typedef".toList ++ (" /* opt */ ".toList ++ (":".toList ++ (" ".toList ++ type.text) ++
          (", \n".toList ++ operationTypes.render.toList)))))) = _
    generalize operationTypes.render.toList = block
    rw [← hstem, ← hrest, List.length_append, Nat.add_sub_cancel, List.take_left]
    simp
  rw [hhaxe, hmisread]
  exact text_apply_operationType_of_trap (fun c hc => hname c (List.mem_append_left _ hc))
    (fun c hc => htype c (List.mem_append_right _ hc))

theorem text_apply_operationType (name : Identifier) (presence : Presence) (type : FieldType) :
    (operationType.apply ("  ".toList ++ (Member.typed name presence type).haxe)).text =
      "  ".toList ++ (Member.typed name presence type).rewritten := by
  by_cases h : (Member.typed name presence type).Trap
  · rw [Member.rewritten, if_pos h]
    exact text_apply_operationType_misread h
  · rw [Member.rewritten, if_neg h]
    exact text_apply_operationType_of_not_trap h

/-! ### Field lines -/

theorem textFrom_typed (f : Field) (name : Identifier) (presence : Presence) (type : FieldType) :
    textFrom all ("  ".toList ++ (f.sign ++ (Member.typed name presence type).flow)) =
      "  ".toList ++ (Member.typed name presence type).rewritten := by
  obtain ⟨hplus, hmiddle⟩ := textFrom_of_annotated name presence type
  have hrun := textFrom_trans (textFrom_annotated f name presence type hplus)
    (textFrom_trans hmiddle (textFrom_of_apply (text_apply_operationType name presence type)))
  have hall : all = [exportType, optionalField, primitives, variance] ++
      (betweenRules ++ [operationType]) := rfl
  rw [hall]
  exact hrun

theorem text_apply_kindLiteral (literal : Identifier) :
    (kindLiteral.apply ("  ".toList ++ ("kind: '".toList ++ (literal.text ++ "',".toList)))).text =
      "  ".toList ++ ("kind: String, // '".toList ++ (literal.text ++ "'".toList)) := by
  have hm : Target.kindLiteral.Chooses
      (.between "  ".toList ("kind: '".toList ++ (literal.text ++ "',".toList) ++ []))
      ⟨"kind: ".toList, "'".toList ++ (literal.text ++ "'".toList), ",".toList⟩ :=
    Target.chooses_kindLiteral_iff.mpr ⟨literal.text, ",".toList, [], by simp, literal.text_ne_nil,
      literal.isWord_of_mem, .inl ⟨',', rfl, rfl⟩, rfl⟩
  have happly := text_apply_of_match (r := kindLiteral) rfl hm (by simp [Match.text])
    (Target.free_of_begins (by decide) (by decide)) Target.free_nil
  rw [List.append_nil, List.append_nil] at happly
  rw [happly]
  show "  ".toList ++ ("kind: String, // ".toList ++ ("'".toList ++ (literal.text ++ "'".toList)) ++
    []) = _
  simp

/-- What stands behind the colon of a literal is a quote, and so no primitive type. -/
theorem text_apply_primitives_kind (f : Field) (literal : Identifier) :
    (primitives.apply
        ("  ".toList ++ (f.sign ++ ("kind: '".toList ++ (literal.text ++ "',".toList))))).text =
      "  ".toList ++ (f.sign ++ ("kind: '".toList ++ (literal.text ++ "',".toList))) := by
  have hcolon : ':' ∉ "  ".toList ++ f.sign ++ "kind".toList := by
    have hlead : ':' ∉ "  ".toList ++ f.sign := fun h => absurd (Slot.lead_holds f _ h) (by decide)
    have hkind : ':' ∉ "kind".toList := by decide
    rw [List.mem_append]
    tauto
  have hquoted : ':' ∉ "'".toList ++ (literal.text ++ "',".toList) :=
    Sketch.not_mem_of_fits (o := ["'", .word, "',"])
      (.next rfl (.next literal.isWord_of_mem (.last rfl))) (by decide)
  have hannotated : Annotated ("  ".toList ++ f.sign ++ "kind".toList) " ".toList []
      ("'".toList ++ (literal.text ++ "',".toList)) :=
    ⟨hcolon, by decide, by simp, hquoted, rfl, rfl⟩
  have happly := text_apply_primitives_of_ne hannotated (by decide)
  have hkind : "  ".toList ++ f.sign ++ "kind".toList ++ (":".toList ++ (" ".toList ++ ([] ++
      ("'".toList ++ (literal.text ++ "',".toList))))) =
        "  ".toList ++ (f.sign ++ ("kind: '".toList ++ (literal.text ++ "',".toList))) := by
    simp
  rwa [hkind] at happly

theorem textFrom_kind (f : Field) (literal : Identifier) :
    textFrom all ("  ".toList ++ (f.sign ++ (Member.kind literal).flow)) =
      "  ".toList ++ (Member.kind literal).haxe := by
  have hword := literal.isWord_of_mem
  have hfirst : textFrom [exportType, optionalField] _ = _ := textFrom_of_idles
    (o := [.lead, "kind: '", .word, "',"])
    (.next (Slot.lead_holds f) (.next rfl (.next hword (.last rfl)))) (by decide)
  have hvariance := text_apply_variance f (Sketch.not_mem_of_fits (c := '+')
    (o := ["kind: '", .word, "',"]) (.next rfl (.next hword (.last rfl))) (by decide))
  have hmiddle : textFrom [multiLineUnion, singleLineUnion, typeNodeUnion, supersededTypeNode,
      nullableToken, optionalValue, importType] _ = _ := textFrom_of_idles
    (o := ["  ", "kind: '", .word, "',"])
    (.next rfl (.next rfl (.next hword (.last rfl)))) (by decide)
  have hlast : textFrom [readOnlyArray, operationType] _ = _ := textFrom_of_idles
    (o := ["  ", "kind: String, // '", .word, "'"])
    (.next rfl (.next rfl (.next hword (.last rfl)))) (by decide)
  rw [List.append_assoc] at hfirst
  have hrun := textFrom_trans hfirst (textFrom_trans
    (textFrom_of_apply (text_apply_primitives_kind f literal))
    (textFrom_trans (textFrom_of_apply hvariance) (textFrom_trans hmiddle
      (textFrom_trans (textFrom_of_apply (text_apply_kindLiteral literal)) hlast))))
  have hall : all = [exportType, optionalField] ++ ([primitives] ++ ([variance] ++
      ([multiLineUnion, singleLineUnion, typeNodeUnion, supersededTypeNode, nullableToken,
        optionalValue, importType] ++ ([kindLiteral] ++ [readOnlyArray, operationType])))) := rfl
  rw [hall]
  exact hrun

/-- The lines that always read the same. -/
theorem textFrom_fixed : ∀ sign ∈ ["+".toList, []], ∀ m ∈ [Member.value, .prev, .next],
    textFrom all ("  ".toList ++ (sign ++ m.flow)) = "  ".toList ++ m.haxe := by
  decide +kernel

/-- A run rewrites a field line into its Haxe line, unless the field is a trap. -/
theorem textFrom_field (f : Field) : textFrom all f.flow = "  ".toList ++ f.member.rewritten := by
  have hsign : f.sign ∈ ["+".toList, []] := by
    rw [Field.sign]
    cases f.covariant <;> decide
  have hplain : ∀ m : Member, ¬ m.Trap → m.rewritten = m.haxe := fun _ h => if_neg h
  rw [Field.flow]
  cases f.member with
  | typed name presence type => exact textFrom_typed f name presence type
  | kind literal =>
    rw [hplain (.kind literal) fun h => h]
    exact textFrom_kind f literal
  | value =>
    rw [hplain .value fun h => h]
    exact textFrom_fixed _ hsign _ (by simp)
  | prev =>
    rw [hplain .prev fun h => h]
    exact textFrom_fixed _ hsign _ (by simp)
  | next =>
    rw [hplain .next fun h => h]
    exact textFrom_fixed _ hsign _ (by simp)

end Run

end HaxeTypedefs
