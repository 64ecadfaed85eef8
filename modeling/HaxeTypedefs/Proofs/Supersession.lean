/-
What is taken for a superseded declaration.

Two rules put typedefs in comments because the module around the text has their types
already.  Both look for the name of the type anywhere in the line of a typedef, and so
they take other typedefs too: a union that lists `TypeNode` is commented out, and one
that lists `OperationTypeNode` brings an enumeration with it.  Over several lines a union
is safe, because a line with a single alternative is no typedef.

* **`Run.sparesOthers_iff`** — when the two rules replace nothing but what they are made for, of
  any text and of a union of names;
* **`Run.not_sparesOthers`** — a union that is lost.
-/
import HaxeTypedefs.Proofs.ListedUnion

namespace HaxeTypedefs

/-! ### Typedefs -/

/-- The name that a typedef declares: the word behind `typedef`, whatever comments stand between
the two. -/
def declaredName (text : List Char) : List Char :=
  ((Region.code.live (text.drop "typedef ".length)).dropWhile isBlank).takeWhile isWord

/-- Behind the first text the second one begins as a typedef, in the code and not inside of a
word. -/
def TypedefAt (before text : List Char) : Prop :=
  Region.code.after before = .code ∧ before.getLast?.any isWord = false ∧ "typedef ".toList <+: text

/-- The text is a typedef of this name, and has no typedef of another one. -/
def DeclaresOnly (name : String) (before text : List Char) : Prop :=
  TypedefAt before text ∧
    ∀ x y, text = x ++ y → TypedefAt (before ++ x) y → declaredName y = name.toList

/-- A line of a text, and what stands before it. -/
def LineOf (text before line : List Char) : Prop :=
  ∃ behind, text = before ++ (line ++ behind) ∧ '\n' ∉ line ∧
    (∀ c ∈ before.getLast?, c = '\n') ∧ ∀ c ∈ behind.head?, c = '\n'

/-- A declaration of a union under a name that none of the two rules is made for. -/
def Listing.declare (l : Listing) (name : TypeName) : List Char :=
  l.declaration (String.ofList name.name.text) Identifier.text

namespace Run

/-- The text that the rule is applied to. -/
def textBefore (r : Rule) (text : List Char) : List Char :=
  textFrom (Rule.all.takeWhile (· != r)) text

/-- The two rules replace nothing but the typedefs of the two names.  They take each line by itself
(`Rule.apply_eq_lines`), and the second one may leave the start of a line as it is. -/
structure SparesOthers (text : List Char) : Prop where
  supersededTypeNode : ∀ before line, LineOf (textBefore .supersededTypeNode text) before line →
    (Rule.supersededTypeNode.apply line).text ≠ line → DeclaresOnly "TypeNode" before line
  operationType : ∀ before line, LineOf (textBefore .operationType text) before line →
    (Rule.operationType.apply line).text ≠ line → ∃ x y, line = x ++ y ∧
      (Rule.operationType.apply line).text =
        x ++ ("//  ".toList ++ y ++ " \n".toList ++ operationTypes.render.toList) ∧
      DeclaresOnly "OperationTypeNode" (before ++ x) y

/-- Where a typedef has been put in a comment is seen from the text before and after. -/
theorem eq_of_commented {x y x' y' block : List Char} (hy : "typedef ".toList <+: y)
    (hy' : "typedef ".toList <+: y') (hline : x ++ y = x' ++ y')
    (h : x ++ ("//  ".toList ++ (y ++ block)) = x' ++ ("//  ".toList ++ (y' ++ block))) :
    x = x' ∧ y = y' := by
  -- the longer start would go on with a slash
  have hsame : ∀ {z y : List Char}, "typedef ".toList <+: z ++ y →
      "//  ".toList ++ (z ++ y ++ block) = z ++ ("//  ".toList ++ (y ++ block)) → z = [] := by
    rintro (_ | ⟨c, z⟩) y ⟨w, hw⟩ h
    · rfl
    · have hslash : '/' = c := (List.cons.inj h).1
      have ht : 't' = c := (List.cons.inj hw).1
      exact absurd (hslash.trans ht.symm) (by decide)
  rcases List.append_eq_append_iff.mp hline with ⟨z, rfl, rfl⟩ | ⟨z, rfl, rfl⟩
  · rw [List.append_assoc x z, List.append_cancel_left_eq] at h
    rw [hsame hy h, List.append_nil, List.nil_append]
    exact ⟨rfl, rfl⟩
  · rw [List.append_assoc x' z, List.append_cancel_left_eq] at h
    rw [hsame hy' h.symm, List.append_nil, List.nil_append]
    exact ⟨rfl, rfl⟩

theorem typedef_prefix_of_typedefWith {name y : List Char} (h : TypedefWith name y) :
    "typedef ".toList <+: y := by
  obtain ⟨g, w, rfl⟩ := h
  exact List.prefix_append _ _

theorem text_apply_supersededTypeNode_ne_iff {line : List Char} (hn : '\n' ∉ line) :
    (Rule.supersededTypeNode.apply line).text ≠ line ↔ TypedefWith " TypeNode ".toList line := by
  rcases Rule.apply_supersededTypeNode_of_line hn with ⟨hwith, happly⟩ | ⟨hno, happly⟩
  · rw [happly]
    exact iff_of_true (fun h => absurd (List.append_left_eq_self.mp h) (by decide)) hwith
  · rw [happly]
    exact iff_of_false (fun h => h rfl) hno

/-- What `operationType` puts in a comment on a line is the first typedef with the name behind it. -/
theorem forall_commented_iff {line : List Char} (hn : '\n' ∉ line) {P : List Char → List Char → Prop}
    (hP : ∀ x y, P x y → "typedef ".toList <+: y) :
    ((Rule.operationType.apply line).text ≠ line → ∃ x y, line = x ++ y ∧
        (Rule.operationType.apply line).text =
          x ++ ("//  ".toList ++ y ++ " \n".toList ++ operationTypes.render.toList) ∧ P x y) ↔
      ∀ x y, line = x ++ y → TypedefWith " OperationTypeNode".toList y →
        (∀ x' y', line = x' ++ y' → TypedefWith " OperationTypeNode".toList y' → x <+: x') →
          P x y := by
  rcases Rule.apply_operationType_of_line hn with ⟨x, y, rfl, hwith, hfirst, happly⟩ | ⟨hno, happly⟩
  · rw [happly]
    constructor
    · intro h x' y' hxy hwith' hfirst'
      -- no other typedef of the line is the first one
      obtain rfl : x = x' :=
        (hfirst x' y' hxy hwith').eq_of_length_le (hfirst' x y rfl hwith).length_le
      obtain rfl : y = y' := List.append_cancel_left hxy
      have hchanged : x ++ ("//  ".toList ++ y ++ " \n".toList ++ operationTypes.render.toList) ≠
          x ++ y := by
        intro heq
        have hlen := congrArg List.length heq
        have hslashes : "//  ".toList.length = 4 := rfl
        simp only [List.length_append, hslashes] at hlen
        omega
      obtain ⟨u, v, huv, htext, hdeclares⟩ := h hchanged
      simp only [List.append_assoc] at htext
      obtain ⟨rfl, rfl⟩ :=
        eq_of_commented (typedef_prefix_of_typedefWith hwith) (hP u v hdeclares) huv htext
      exact hdeclares
    · intro h _
      exact ⟨x, y, rfl, rfl, h x y rfl hwith hfirst⟩
  · rw [happly]
    exact iff_of_true (fun h => absurd rfl h) fun x y hxy hwith => absurd hwith (hno x y hxy)

theorem sparesOthers_iff_textBefore (text : List Char) : SparesOthers text ↔
    (∀ before line, LineOf (textBefore .supersededTypeNode text) before line →
      TypedefWith " TypeNode ".toList line → DeclaresOnly "TypeNode" before line) ∧
    ∀ before x y, LineOf (textBefore .operationType text) before (x ++ y) →
      TypedefWith " OperationTypeNode".toList y →
      (∀ x' y', x ++ y = x' ++ y' → TypedefWith " OperationTypeNode".toList y' → x <+: x') →
        DeclaresOnly "OperationTypeNode" (before ++ x) y := by
  have htypedef : ∀ before x y, DeclaresOnly "OperationTypeNode" (before ++ x) y →
      "typedef ".toList <+: y := fun _ _ _ h => h.1.2.2
  constructor
  · rintro ⟨htypeNode, hoperation⟩
    refine ⟨fun before line hline hwith => ?_, fun before x y hline hwith hfirst => ?_⟩
    · obtain ⟨-, -, hn, -⟩ := id hline
      exact htypeNode before line hline ((text_apply_supersededTypeNode_ne_iff hn).mpr hwith)
    · obtain ⟨-, -, hn, -⟩ := id hline
      exact (forall_commented_iff hn (htypedef before)).mp (hoperation before (x ++ y) hline) x y rfl
        hwith hfirst
  · rintro ⟨htypeNode, hoperation⟩
    refine ⟨fun before line hline hchanged => ?_, fun before line hline => ?_⟩
    · obtain ⟨-, -, hn, -⟩ := id hline
      exact htypeNode before line hline ((text_apply_supersededTypeNode_ne_iff hn).mp hchanged)
    · obtain ⟨-, -, hn, -⟩ := id hline
      refine (forall_commented_iff hn (htypedef before)).mpr ?_
      rintro x y rfl
      exact hoperation before x y hline

/-! ### Unions -/

theorem textBefore_supersededTypeNode (text : List Char) :
    textBefore .supersededTypeNode text = textFrom (Rule.all.take 7) text := by
  have hrules : Rule.all.takeWhile (· != .supersededTypeNode) = Rule.all.take 7 := by decide
  rw [textBefore, hrules]

theorem textBefore_operationType (text : List Char) : textBefore .operationType text =
    textFrom middleRules (Rule.supersededTypeNode.apply (textFrom (Rule.all.take 7) text)).text := by
  have hrules : Rule.all.takeWhile (· != .operationType) =
      Rule.all.take 7 ++ .supersededTypeNode :: middleRules := by
    decide
  rw [textBefore, hrules, textFrom_append, textFrom_cons]

/-- The two rules find nothing. -/
theorem sparesOthers_of_absent {text : List Char}
    (htypeNode : ¬ typeNodeName <:+: textBefore .supersededTypeNode text)
    (hoperation : ¬ HasOperation (textBefore .operationType text)) : SparesOthers text := by
  refine (sparesOthers_iff_textBefore text).mpr ⟨?_, ?_⟩
  · rintro before line ⟨behind, htext, -⟩ ⟨g, w, rfl⟩
    refine absurd ?_ htypeNode
    refine ⟨before ++ ("typedef ".toList ++ g), w ++ behind, ?_⟩
    show before ++ ("typedef ".toList ++ g) ++ " TypeNode ".toList ++ (w ++ behind) = _
    rw [htext]
    simp only [List.append_assoc]
  · rintro before x y ⟨behind, htext, hn, -⟩ ⟨g, w, rfl⟩ -
    have hg : '\n' ∉ g := by
      simp only [List.mem_append, not_or] at hn
      exact hn.2.2.1
    refine absurd ?_ hoperation
    refine ⟨g, hg, before ++ x, w ++ behind, ?_⟩
    rw [htext]
    simp only [List.append_assoc]

/-- A text without line feeds is one line. -/
theorem lineOf_self {text : List Char} (hn : '\n' ∉ text) : LineOf text [] text :=
  ⟨[], by simp, hn, by simp, by simp⟩

theorem declaredName_declared (i : Identifier) (y : List Char) :
    declaredName (declared i.text ++ y) = i.text := by
  have hdrop : (declared i.text ++ y).drop "typedef ".toList.length =
      "/*".toList ++ (" export type ".toList ++ ("*/".toList ++ ((" ".toList ++ (i.text ++
        " =".toList)) ++ y))) := by
    have hsplit : "typedef /* export type */ ".toList = "typedef ".toList ++ ("/*".toList ++
        (" export type ".toList ++ ("*/".toList ++ " ".toList))) := by
      decide
    rw [declared_append, hsplit, List.append_assoc, List.drop_left]
    simp only [List.append_assoc]
  have hslash : '/' ∉ " ".toList ++ (i.text ++ " =".toList) := by
    have hno : '/' ∉ i.text := i.not_mem_text (by decide)
    simp [hno]
  have hopen : ∀ w, Region.code.live ("/*".toList ++ w) = ' ' :: Region.blockComment.live w :=
    fun _ => rfl
  have hname : (i.text ++ (" =".toList ++ Region.code.live y)).head?.any isBlank = false := by
    rw [Bool.eq_false_iff]
    intro hblank
    have hword : isWord i.initial = true := i.isWord_of_mem _ List.mem_cons_self
    rw [isWord_eq_false_of_isBlank (c := i.initial) hblank] at hword
    cases hword
  have hblanks : "  ".toList = ' ' :: " ".toList := by decide
  show ((Region.code.live ((declared i.text ++ y).drop "typedef ".toList.length)).dropWhile
    isBlank).takeWhile isWord = i.text
  rw [hdrop, hopen, Region.live_block (by decide), Region.live_append_of_not_mem hslash,
    List.append_assoc, List.append_assoc, ← List.cons_append, ← hblanks,
    dropWhile_append_of_span (by decide) hname]
  exact takeWhile_append_of_span i.isWord_of_mem rfl

/-- The two names are not found up to the `=` of another one. -/
theorem not_infix_declared (name : TypeName) :
    ¬ typeNodeName <:+: declared name.name.text ∧ ¬ operationName <:+: declared name.name.text := by
  have hfits : Sketch.Fits ["typedef /* export type */ ", .typeName, " ="]
      (declared name.name.text) :=
    .next rfl (.next (Slot.typeName_holds name) (.last rfl))
  exact ⟨Sketch.not_infix_of_fits hfits (by decide), Sketch.not_infix_of_fits hfits (by decide)⟩

/-- A declaration of another name is not what the rules are made for. -/
theorem eq_of_declaresOnly {n : String} {i : Identifier} {y : List Char}
    (h : DeclaresOnly n [] (declared i.text ++ y)) : i.text = n.toList :=
  (declaredName_declared i y).symm.trans (h.2 [] _ rfl h.1)

section OneLine

variable {text y : List Char} (name : TypeName)
  (hearly : textFrom (Rule.all.take 7) text = declared name.name.text ++ y)
  (hy : ∀ c ∈ ['\n', ':', '\'', '$'], c ∉ y)
include hearly hy

/-- A declaration on one line comes to `operationType` as it is, if `supersededTypeNode` leaves it. -/
theorem textBefore_operationType_of_absent (hno : ¬ typeNodeName <:+: y) :
    textBefore .operationType text = declared name.name.text ++ y := by
  have hline : ∀ c ∈ ['\n', ':', '\'', '$'], c ∉ declared name.name.text ++ y := fun c hc hmem =>
    (List.mem_append.mp hmem).elim (not_mem_declared name.name.isWord_of_mem c hc) (hy c hc)
  have himport : ¬ "import type ".toList <+: declared name.name.text ++ y := by
    rintro ⟨u, hu⟩
    exact absurd (List.cons.inj hu).1 (by decide)
  rcases Rule.apply_supersededTypeNode_of_line (hline '\n' (by decide)) with ⟨hwith, -⟩ | ⟨-, happly⟩
  · exact absurd ((typedefWith_declared_iff (by decide) (not_infix_declared name).1).mp hwith) hno
  · rw [textBefore_operationType, hearly, happly, textFrom_middleRules hline himport]

/-- What the first rules leave of a declaration on one line is spared if neither of the two names is found
behind its `=`. -/
theorem sparesOthers_iff_of_declared :
    SparesOthers text ↔ ¬ typeNodeName <:+: y ∧ ¬ operationName <:+: y := by
  have hn : '\n' ∉ declared name.name.text ++ y := fun hmem => (List.mem_append.mp hmem).elim
    (not_mem_declared name.name.isWord_of_mem '\n' (by decide)) (hy '\n' (by decide))
  obtain ⟨htypeNode, hoperation⟩ := not_infix_declared name
  have hbefore := (textBefore_supersededTypeNode text).trans hearly
  constructor
  · intro h
    obtain ⟨hfirst, hsecond⟩ := (sparesOthers_iff_textBefore text).mp h
    have hno : ¬ typeNodeName <:+: y := fun hfound => by
      have hwith := (typedefWith_declared_iff (by decide) htypeNode).mpr hfound
      rw [hbefore] at hfirst
      exact name.ne_typeNode (eq_of_declaresOnly (hfirst [] _ (lineOf_self hn) hwith))
    refine ⟨hno, fun hfound => name.not_operationTypeNode ?_⟩
    have hwith := (typedefWith_declared_iff (by decide) hoperation).mpr hfound
    rw [textBefore_operationType_of_absent name hearly hy hno] at hsecond
    have hdeclares := hsecond [] [] _ (lineOf_self hn) hwith fun _ _ _ _ => List.nil_prefix
    rw [eq_of_declaresOnly hdeclares]
  · rintro ⟨hno, hnone⟩
    refine sparesOthers_of_absent ?_ ?_
    · rw [hbefore, infix_declared_iff (by decide) htypeNode]
      exact hno
    · rw [textBefore_operationType_of_absent name hearly hy hno]
      rintro ⟨g, -, h⟩
      rw [← List.append_assoc] at h
      exact hnone ((infix_declared_iff (by decide) hoperation).mp
        ((List.suffix_append _ _).isInfix.trans h))

end OneLine

/-- A union on one line is spared if none of its alternatives looks like one of the two names. -/
theorem sparesOthers_oneLine_iff (name : TypeName) (a : Identifier) (names : List Identifier) :
    SparesOthers ("export type ".toList ++ (name.name.text ++ (" =".toList ++
        ((" ".toList ++ inLine (a :: names)) ++ ";".toList)))) ↔
      ¬ ListsTypeNode (a :: names) ∧ ∀ b ∈ a :: names, ¬ "OperationTypeNode".toList <+: b.text := by
  obtain ⟨y, hearly, hy, hop, htype⟩ := exists_textFrom_listed name.name.isWord_of_mem a names
  rw [sparesOthers_iff_of_declared name hearly hy, htype, hop]
  push Not
  exact Iff.rfl

/-- Where no line but the first one is a typedef, the two names are looked for in the first one. -/
theorem sparesOthers_of_below {text late first below : List Char} {o : Sketch}
    (hearly : textFrom (Rule.all.take 7) text = late) (hfits : o.Fits late)
    (htypeNode : o.mayHave typeNodeName = false)
    (hidle : (Rule.supersededTypeNode :: middleRules).all o.idles = true)
    (hlate : late = first ++ '\n' :: below) (hfirst : ¬ operationName <:+: first)
    (hbelow : ¬ "typedef ".toList <:+: below) : SparesOthers text := by
  have hkept : textFrom (Rule.supersededTypeNode :: middleRules) late = late :=
    textFrom_of_idles hfits hidle
  rw [textFrom_cons] at hkept
  refine sparesOthers_of_absent ?_ ?_
  · rw [textBefore_supersededTypeNode, hearly]
    exact Sketch.not_infix_of_fits hfits htypeNode
  · rw [textBefore_operationType, hearly, hkept, hlate, hasOperation_append_lineFeed]
    rintro (⟨g, -, h⟩ | ⟨g, -, h⟩)
    · rw [← List.append_assoc] at h
      exact hfirst ((List.suffix_append _ _).isInfix.trans h)
    · exact hbelow ((List.prefix_append _ _).isInfix.trans h)

/-- The alternatives of a union over several lines are never taken for one of the two names. -/
theorem sparesOthers_lines (name : TypeName) (row : Indent × Identifier)
    (rows : List (Indent × Identifier)) :
    SparesOthers ("export type ".toList ++ (name.name.text ++ (" =".toList ++
      (barred Identifier.text (row :: rows) ++ ";".toList)))) := by
  have hprint : ∀ b : Identifier, ∀ c ∈ b.text, isWord c = true ∨ c = '\'' :=
    fun b c hc => .inl (b.isWord_of_mem c hc)
  have hname := Slot.typeName_holds name
  have hlines : Slot.lines.holds (barred Identifier.text (row :: rows)) :=
    Slot.lines_holds fun row _ => hprint row.2
  by_cases hnode : "Node".toList <:+ name.name.text
  · obtain ⟨below, hbelow, -, hbehind⟩ := exists_below hprint row rows "; */" (by decide)
    have hearly := (turns_lines hprint row rows name.name.isWord_of_mem hnode).textFrom_eq
    have hfits := declared_fits (o := [" BaseNode; /* ", .lines, "; */"]) hname
      (.next rfl (.next hlines (.last rfl)))
    have hfirst := declared_fits (o := [" BaseNode; /* "]) hname (.last rfl)
    exact sparesOthers_of_below hearly hfits (by decide) (by decide)
      (by rw [hbelow, List.append_assoc]) (Sketch.not_infix_of_fits hfirst (by decide)) hbehind
  · obtain ⟨below, hbelow, -, hbehind⟩ := exists_below hprint row rows ";" (by decide)
    have hearly := (turns_other_lines hprint row rows name.name.isWord_of_mem hnode).textFrom_eq
    exact sparesOthers_of_below hearly (declared_listed_fits hname hlines) (by decide) (by decide)
      (by rw [hbelow]) (not_infix_declared name).2 hbehind

theorem sparesOthers_declare_iff (name : TypeName) (l : Listing) : SparesOthers (l.declare name) ↔
    (l.IsOneLine → ¬ ListsTypeNode l.alternatives ∧
      ∀ a ∈ l.alternatives, ¬ "OperationTypeNode".toList <+: a.text) := by
  have hdeclare : l.declare name = "export type ".toList ++ (name.name.text ++ (" =".toList ++
      (l.text Identifier.text ++ ";".toList))) := by
    unfold Listing.declare Listing.declaration
    rw [String.toList_ofList (l := name.name.text)]
  rw [hdeclare]
  cases l with
  | oneLine a names =>
    refine Iff.trans ?_ (forall_prop_of_true trivial).symm
    exact sparesOthers_oneLine_iff name a names
  | lines row rows => exact iff_of_true (sparesOthers_lines name row rows) fun h => h.elim

/-! ### What the two rules are made for -/

/-- The two rules put a typedef of another name in a comment where the running text has their name behind
it in its line.  A union of names is spared if it is declared over several lines, and on one line unless
one of the two names is seen among its alternatives. -/
theorem sparesOthers_iff (text : List Char) (name : TypeName) (l : Listing) :
    (SparesOthers text ↔
      (∀ before line, LineOf (textBefore .supersededTypeNode text) before line →
        TypedefWith " TypeNode ".toList line → DeclaresOnly "TypeNode" before line) ∧
      ∀ before x y, LineOf (textBefore .operationType text) before (x ++ y) →
        TypedefWith " OperationTypeNode".toList y →
        (∀ x' y', x ++ y = x' ++ y' → TypedefWith " OperationTypeNode".toList y' → x <+: x') →
          DeclaresOnly "OperationTypeNode" (before ++ x) y) ∧
    (SparesOthers (l.declare name) ↔
      (l.IsOneLine → ¬ ListsTypeNode l.alternatives ∧
        ∀ a ∈ l.alternatives, ¬ "OperationTypeNode".toList <+: a.text)) :=
  ⟨sparesOthers_iff_textBefore text, sparesOthers_declare_iff name l⟩

/-- A union on one line that lists `TypeNode` is put in a comment. -/
theorem not_sparesOthers : ¬ SparesOthers "export type ANode = TypeNode | B;".toList := by
  intro h
  have htext : textBefore .supersededTypeNode "export type ANode = TypeNode | B;".toList =
      "typedef /* export type */ ANode = BaseNode; /* TypeNode | B; */".toList := by
    decide +kernel
  have hline : LineOf (textBefore .supersededTypeNode "export type ANode = TypeNode | B;".toList) []
      "typedef /* export type */ ANode = BaseNode; /* TypeNode | B; */".toList :=
    ⟨[], by rw [htext, List.append_nil, List.nil_append], by decide, by simp, by simp⟩
  have hchanged : (Rule.supersededTypeNode.apply
      "typedef /* export type */ ANode = BaseNode; /* TypeNode | B; */".toList).text ≠
        "typedef /* export type */ ANode = BaseNode; /* TypeNode | B; */".toList := by
    decide +kernel
  obtain ⟨hat, hname⟩ := h.supersededTypeNode _ _ hline hchanged
  have htypeNode := hname [] _ rfl hat
  have hother : declaredName "typedef /* export type */ ANode = BaseNode; /* TypeNode | B; */".toList =
      "ANode".toList := by
    decide
  exact absurd (htypeNode.symm.trans hother) (by decide)

end Run

end HaxeTypedefs
