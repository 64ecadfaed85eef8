/-
Unions over several lines, kept in a comment.

A union over several lines becomes a `BaseNode`, and all that stood on its lines stands in
the comment behind it.  Later rules read that comment like any other text: an array, two
names that make a `TypeNode`, or a name that ends in `typedef` before an operation type
have them change it, and what they put in closes the comment too early.

* **`Run.text_of_union_eq_iff`** — the comment has what stood on the lines if none of this is there;
* **`Run.text_of_arrayUnion_ne`** — an array in a union.
-/
import HaxeTypedefs.Proofs.Comment
import HaxeTypedefs.Proofs.Growth
import HaxeTypedefs.Proofs.Trace
import HaxeTypedefs.Proofs.UnionLine

namespace HaxeTypedefs

/-! ### Types on a line -/

/-- A type that stands on one line of a union. -/
inductive FlowType where
  | name (i : Identifier)
  | array (element : FlowType)
  | either (left right : FlowType)

namespace FlowType

/-- The type as it is written. -/
def text : FlowType → List Char
  | name i => i.text
  | array t => "$ReadOnlyArray".toList ++ ("<".toList ++ (t.text ++ ">".toList))
  | either t u => t.text ++ (" | ".toList ++ u.text)

/-- Some part of the type is an array. -/
def HasArray : FlowType → Prop
  | name _ => False
  | array _ => True
  | either t u => t.HasArray ∨ u.HasArray

/-- The names in the type, from left to right. -/
def names : FlowType → List Identifier
  | name i => [i]
  | array t => t.names
  | either t u => t.names ++ u.names

end FlowType

/-- A name that ends in `typedef`, and behind it one that begins with `OperationTypeNode`. -/
def LooksLikeTypedef (names : List Identifier) : Prop :=
  ∃ a b, [a, b].Sublist names ∧ "typedef".toList <:+ a.text ∧ "OperationTypeNode".toList <+: b.text

/-- The rules have nothing to replace in the type. -/
structure FlowType.Inert (t : FlowType) : Prop where
  no_array : ¬ t.HasArray
  not_typeNode : ¬ ["NamedTypeNode".toList, "ListTypeNode".toList] <:+: t.names.map Identifier.text
  not_typedef : ¬ LooksLikeTypedef t.names

/-- A union over several lines: its name, its lines, and white space before the semicolon. -/
structure FlowUnion where
  name : UnionName
  first : Indent × FlowType
  others : List (Indent × FlowType)
  gap : List Char
  gap_ok : ∀ c ∈ gap, isBlank c = true

namespace FlowUnion

def rows (u : FlowUnion) : List (Indent × FlowType) := u.first :: u.others

/-- What stands on the lines. -/
def captured (u : FlowUnion) : List Char := barred FlowType.text u.rows ++ u.gap

/-- The union as it is written. -/
def flow (u : FlowUnion) : List Char :=
  "export type ".toList ++ (u.name.name.text ++ (" =".toList ++ (u.captured ++ ";".toList)))

/-- The union as a `BaseNode`, with everything that stood on its lines in a comment. -/
def haxe (u : FlowUnion) : List Char :=
  "typedef /* export type */ ".toList ++ (u.name.name.text ++ (" = BaseNode; /* ".toList ++
    (u.captured ++ "; */".toList)))

end FlowUnion

namespace FlowType

theorem text_array (t : FlowType) :
    (array t).text = "$ReadOnlyArray".toList ++ ("<".toList ++ (t.text ++ ">".toList)) := rfl

theorem text_either (t u : FlowType) : (either t u).text = t.text ++ (" | ".toList ++ u.text) := rfl

theorem names_ne_nil (t : FlowType) : t.names ≠ [] := by
  induction t with
  | name i => exact List.cons_ne_nil _ _
  | array t ih => exact ih
  | either t u iht ihu => simp [names, iht]

theorem isWord_or_mem_of_mem_text {t : FlowType} {c : Char} (hc : c ∈ t.text) :
    isWord c = true ∨ c ∈ ['$', '<', '>', ' ', '|'] := by
  have hfixed : ∀ d ∈ "$ReadOnlyArray".toList ++ ("<".toList ++ (">".toList ++ " | ".toList)),
      isWord d = true ∨ d ∈ ['$', '<', '>', ' ', '|'] := by decide
  induction t with
  | name i => exact .inl (i.isWord_of_mem c hc)
  | array t ih =>
    simp only [text_array, List.mem_append] at hc
    rcases hc with hc | hc | hc | hc
    · exact hfixed c (by simp only [List.mem_append]; exact .inl hc)
    · exact hfixed c (by simp only [List.mem_append]; exact .inr (.inl hc))
    · exact ih hc
    · exact hfixed c (by simp only [List.mem_append]; exact .inr (.inr (.inl hc)))
  | either t u iht ihu =>
    simp only [text_either, List.mem_append] at hc
    rcases hc with hc | hc | hc
    · exact iht hc
    · exact hfixed c (by simp only [List.mem_append]; exact .inr (.inr (.inr hc)))
    · exact ihu hc

theorem parted_text (t : FlowType) : Parted t.text := by
  induction t with
  | name i => exact parted_of_not_mem (i.not_mem_text (by decide))
  | array t ih =>
    have hopening : Parted "$ReadOnlyArray".toList := parted_of_not_mem (by decide)
    have hright : Parted (t.text ++ (">".toList ++ [])) :=
      ih.append_mark (parted_of_not_mem (by simp)) (by decide) (by decide) (by decide)
    rw [List.append_nil] at hright
    rw [text_array]
    exact hopening.append_mark (m := "<".toList) hright (by decide) (by decide) (by decide)
  | either t u iht ihu =>
    rw [text_either]
    exact iht.append_mark ihu (by decide) (by decide) (by decide)

theorem infix_of_hasArray {t : FlowType} (h : t.HasArray) : "$ReadOnlyArray".toList <:+: t.text := by
  induction t with
  | name i => exact h.elim
  | array t ih =>
    rw [text_array]
    exact (List.prefix_append _ _).isInfix
  | either t u iht ihu =>
    rw [text_either]
    rcases h with h | h
    · exact (iht h).trans (List.prefix_append _ _).isInfix
    · exact (ihu h).trans ⟨t.text ++ " | ".toList, [], by simp⟩

end FlowType

theorem inLine_append {a b : List Identifier} (ha : a ≠ []) (hb : b ≠ []) :
    inLine (a ++ b) = inLine a ++ (" | ".toList ++ inLine b) := by
  induction a with
  | nil => exact absurd rfl ha
  | cons i a ih =>
    cases a with
    | nil =>
      obtain ⟨j, b, rfl⟩ := List.exists_cons_of_ne_nil hb
      rw [List.singleton_append, inLine_cons_cons, inLine_singleton]
    | cons j a =>
      rw [List.cons_append, List.cons_append, inLine_cons_cons, inLine_cons_cons, ← List.cons_append,
        ih (List.cons_ne_nil _ _), List.append_assoc, List.append_assoc]

/-- A type without arrays is a list of names. -/
theorem FlowType.text_eq_inLine {t : FlowType} (h : ¬ t.HasArray) : t.text = inLine t.names := by
  induction t with
  | name i => exact (inLine_singleton i).symm
  | array t ih => exact absurd trivial h
  | either t u iht ihu =>
    rw [HasArray, not_or] at h
    rw [text_either, names, inLine_append t.names_ne_nil u.names_ne_nil, iht h.1, ihu h.2]

/-! ### Names on a line -/

theorem free_text_iff {w text : List Char} (hw : w ≠ []) :
    (Target.plain (.text w)).Free [] text [] ↔ ¬ w <:+: text := by
  constructor
  · rintro hfree ⟨u, v, rfl⟩
    have hmatch : (Target.plain (.text w)).Matches (.between u (w ++ v ++ [])) :=
      ((Target.chooses_text_iff hw).mpr ⟨v, by rw [List.append_nil], rfl⟩).matches
    rw [List.append_assoc, Target.free_append_iff] at hfree
    exact Target.not_matches_of_free hfree.2 (by simp [hw]) hmatch
  · intro h
    exact Target.free_of_lacks (w := w) (by simp [Target.whole, Target.plain, Pattern.needs])
      (by rwa [List.append_nil])

/-- The two names of `typeNodeUnion` are found at the start of a list. -/
theorem matches_typeNodeUnion_inLine {a b : Identifier} {names : List Identifier} {behind y : List Char}
    (hbehind : behind.getLast?.any isWord = false) (hword : y.head?.any isWord = false)
    (ha : "NamedTypeNode".toList = a.text) (hb : "ListTypeNode".toList = b.text) :
    Target.typeNodeUnion.Matches (.between behind (inLine (a :: b :: names) ++ y)) := by
  obtain ⟨tail, htail, htailword⟩ := exists_inLine_append_eq b names hword
  refine Target.matches_typeNodeUnion_iff.mpr ⟨tail, ?_, hbehind, htailword⟩
  rw [inLine_cons_cons, List.append_assoc, List.append_assoc, htail, ← ha, ← hb,
    ← List.append_assoc, ← List.append_assoc]
  rfl

/-- The two names of `typeNodeUnion` are found where one follows the other. -/
theorem free_typeNodeUnion_inLine_iff {names : List Identifier} {behind y : List Char}
    (hbehind : behind.getLast?.any isWord = false) (hword : y.head?.any isWord = false)
    (hbar : ¬ " | ".toList <+: y) : Target.typeNodeUnion.Free behind (inLine names) y ↔
      ¬ ["NamedTypeNode".toList, "ListTypeNode".toList] <:+: names.map Identifier.text := by
  refine ⟨?_, fun h => free_typeNodeUnion_inLine h hword hbar⟩
  induction names generalizing behind with
  | nil => simp
  | cons a names ih =>
    cases names with
    | nil =>
      intro _ h
      have := h.length_le
      simp at this
    | cons b names =>
      intro hfree h
      rw [List.map_cons, List.map_cons] at h
      rcases List.infix_cons_iff.mp h with h | h
      · -- the two names are the first ones
        obtain ⟨ha, h⟩ := List.cons_prefix_cons.mp h
        obtain ⟨hb, -⟩ := List.cons_prefix_cons.mp h
        refine Target.not_matches_of_free hfree ?_ (matches_typeNodeUnion_inLine hbehind hword ha hb)
        rw [inLine_cons_cons]
        exact List.append_ne_nil_of_left_ne_nil a.text_ne_nil _
      · rw [inLine_cons_cons, ← List.append_assoc] at hfree
        refine ih ?_ (Target.free_append_iff.mp hfree).2 h
        rw [← List.append_assoc, List.getLast?_append_of_ne_nil _ (by decide)]
        rfl

/-- A typedef of an operation type is found in the text. -/
def HasOperation (text : List Char) : Prop :=
  ∃ g, '\n' ∉ g ∧ "typedef ".toList ++ (g ++ " OperationTypeNode".toList) <:+: text

theorem HasOperation.mono {x y : List Char} (h : HasOperation x) (hxy : x <:+: y) : HasOperation y := by
  obtain ⟨g, hg, h⟩ := h
  exact ⟨g, hg, h.trans hxy⟩

theorem free_operationType_iff {text : List Char} :
    Target.operationType.Free [] text [] ↔ ¬ HasOperation text := by
  constructor
  · rintro hfree ⟨g, hg, x, y, rfl⟩
    refine hfree x 't' ("ypedef ".toList ++ (g ++ (" OperationTypeNode".toList ++ y))) (by simp)
      ⟨_, Target.reads_operationType_iff.mpr ⟨g, [], y, by simp, hg, by simp, rfl⟩⟩
  · rintro hno x c y rfl ⟨r, hr⟩
    obtain ⟨g, w, rest, h, hg, -, -⟩ := Target.reads_operationType_iff.mp hr
    rw [List.append_nil] at h
    exact hno ⟨g, hg, x, w ++ rest, by rw [h]; simp⟩

/-- A typedef does not go on in the next line. -/
theorem hasOperation_append_lineFeed {x y : List Char} :
    HasOperation (x ++ '\n' :: y) ↔ HasOperation x ∨ HasOperation y := by
  constructor
  · rintro ⟨g, hg, h⟩
    have hn : '\n' ∉ "typedef ".toList ++ (g ++ " OperationTypeNode".toList) := by simp [hg]
    obtain ⟨u, v, huv⟩ := h
    rw [List.append_assoc] at huv
    rcases List.append_eq_append_iff.mp huv with ⟨z, rfl, hz⟩ | ⟨z, rfl, hz⟩
    · obtain ⟨z', rfl, -⟩ := Target.exists_of_append_eq_of_not_mem hz.symm hn
      exact .inl ⟨g, hg, u, z', by simp⟩
    · cases z with
      | nil => exact absurd (List.cons.inj hz).1 (by decide)
      | cons d z => exact .inr ⟨g, hg, z, v, by rw [(List.cons.inj hz).2, List.append_assoc]; rfl⟩
  · rintro (h | h)
    · exact h.mono (List.prefix_append _ _).isInfix
    · exact h.mono ⟨x ++ ['\n'], [], by simp⟩

/-- What stands between a name and the next one has no part in a typedef. -/
theorem hasOperation_mark_iff {m y : List Char} (hm : 't' ∉ m) :
    HasOperation (m ++ y) ↔ HasOperation y := by
  refine exists_congr fun g => and_congr_right fun _ => ?_
  refine ⟨fun h => ?_, fun h => h.trans (List.suffix_append _ _).isInfix⟩
  induction m with
  | nil => exact h
  | cons c m ih =>
    rw [List.mem_cons, not_or] at hm
    rcases List.infix_cons_iff.mp h with h | h
    · exact absurd (List.cons_prefix_cons.mp h).1 hm.1
    · exact ih hm.2 h

theorem not_hasOperation_of_not_mem {y : List Char} (hy : 't' ∉ y) : ¬ HasOperation y := by
  rintro ⟨g, -, h⟩
  exact hy (h.subset (List.mem_append_left _ (by decide)))

/-- A typedef begins at the end of a word, or behind it. -/
theorem suffix_or_hasOperation_of_word {a y : List Char} (ha : ∀ c ∈ a, isWord c = true)
    (hy : y.head?.any isWord = false) (h : HasOperation (a ++ y)) :
    "typedef".toList <:+ a ∧ " OperationTypeNode".toList <:+: y ∨ HasOperation y := by
  obtain ⟨g, hg, u, v, huv⟩ := h
  rw [List.append_assoc] at huv
  rcases List.append_eq_append_iff.mp huv with ⟨z, rfl, hz⟩ | ⟨z, rfl, hz⟩
  · left
    have hword : "typedef".toList ++ (" ".toList ++ (g ++ (" OperationTypeNode".toList ++ v))) = z ++ y := by
      rw [← hz]
      simp
    obtain ⟨rfl, hy⟩ := span_unique hword (by decide)
      (fun c hc => ha c (List.mem_append_right _ hc)) rfl hy
    exact ⟨List.suffix_append _ _, " ".toList ++ g, v, by rw [← hy]; simp⟩
  · exact .inr ⟨g, hg, z, v, by rw [hz, List.append_assoc]⟩

theorem exists_of_mem_inLine {names : List Identifier} {b : Identifier} (hb : b ∈ names) :
    ∃ x y, " ".toList ++ inLine names = x ++ (" ".toList ++ (b.text ++ y)) := by
  induction names with
  | nil => cases hb
  | cons a names ih =>
    rcases List.mem_cons.mp hb with rfl | hb
    · cases names with
      | nil => exact ⟨[], [], by rw [inLine_singleton]; simp⟩
      | cons c names => exact ⟨[], _, by rw [inLine_cons_cons]; rfl⟩
    · obtain ⟨c, names, rfl⟩ := List.exists_cons_of_ne_nil (List.ne_nil_of_mem hb)
      obtain ⟨x, y, h⟩ := ih hb
      refine ⟨" ".toList ++ (a.text ++ (" |".toList ++ x)), y, ?_⟩
      have hsplit : " | ".toList = " |".toList ++ " ".toList := by decide
      rw [inLine_cons_cons, hsplit, List.append_assoc _ " ".toList, h]
      simp

/-- A typedef that is found in a list of names begins at the end of one and goes on up to another one. -/
theorem looksLikeTypedef_of_hasOperation {names : List Identifier} {y : List Char}
    (hword : y.head?.any isWord = false) (ht : 't' ∉ y) (hO : 'O' ∉ y)
    (h : HasOperation (inLine names ++ y)) : LooksLikeTypedef names := by
  have hnone : ¬ " OperationTypeNode".toList <:+: y := fun h => hO (h.subset (by simp))
  have hnil := not_hasOperation_of_not_mem ht
  induction names with
  | nil => exact absurd h hnil
  | cons a names ih =>
    cases names with
    | nil =>
      rw [inLine_singleton] at h
      rcases suffix_or_hasOperation_of_word a.isWord_of_mem hword h with ⟨-, h⟩ | h
      · exact absurd h hnone
      · exact absurd h hnil
    | cons b names =>
      rw [inLine_cons_cons, List.append_assoc, List.append_assoc] at h
      rcases suffix_or_hasOperation_of_word a.isWord_of_mem rfl h with ⟨ha, h⟩ | h
      · -- the second name does not begin at the bar
        have hlist : ' ' :: ("OperationTypeNode".toList ++ []) <:+: ' ' :: (inLine (b :: names) ++ y) := by
          rcases List.infix_cons_iff.mp h with h | h
          · exact absurd (List.cons_prefix_cons.mp (List.cons_prefix_cons.mp h).2).1 (by decide)
          rcases List.infix_cons_iff.mp h with h | h
          · exact absurd (List.cons_prefix_cons.mp h).1 (by decide)
          · exact h
        rcases exists_prefix_of_infix_inLine hword (by decide) (by decide) rfl hlist with
          ⟨c, hc, hprefix, -⟩ | h
        · exact ⟨a, c, List.cons_sublist_cons.mpr (List.singleton_sublist.mpr hc), ha, hprefix⟩
        · exact absurd h hnone
      · obtain ⟨c, d, hcd, hc, hd⟩ := ih ((hasOperation_mark_iff (by decide)).mp h)
        exact ⟨c, d, hcd.cons _, hc, hd⟩

/-- From the end of the first name up to one of the others everything stands on one line. -/
theorem hasOperation_inLine_of_mem {a b : Identifier} {names : List Identifier}
    (ha : "typedef".toList <:+ a.text) (hb : "OperationTypeNode".toList <+: b.text)
    (hmem : b ∈ names) : HasOperation (inLine (a :: names)) := by
  obtain ⟨a', ha⟩ := ha
  obtain ⟨b', hb⟩ := hb
  obtain ⟨d, names, rfl⟩ := List.exists_cons_of_ne_nil (List.ne_nil_of_mem hmem)
  obtain ⟨u, v, huv⟩ := exists_of_mem_inLine hmem
  have hu : '\n' ∉ u := by
    intro hn
    have hn : '\n' ∈ " ".toList ++ inLine (d :: names) := by
      rw [huv]
      exact List.mem_append_left _ hn
    rcases List.mem_append.mp hn with hn | hn
    · exact absurd hn (by decide)
    · exact absurd (isListed_of_mem_inLine hn) (by decide)
  refine ⟨"|".toList ++ u, by simp [hu], a', b' ++ v, ?_⟩
  have hsplit : " | ".toList = " |".toList ++ " ".toList := by decide
  rw [inLine_cons_cons, hsplit, List.append_assoc _ " ".toList, huv, ← ha, ← hb]
  simp

theorem hasOperation_of_looksLikeTypedef {names : List Identifier} (h : LooksLikeTypedef names) :
    HasOperation (inLine names) := by
  obtain ⟨a, b, hab, ha, hb⟩ := h
  induction names with
  | nil => cases hab
  | cons c names ih =>
    cases hab with
    | cons _ hab =>
      obtain ⟨d, names, rfl⟩ :=
        List.exists_cons_of_ne_nil (List.ne_nil_of_mem (hab.subset List.mem_cons_self))
      rw [inLine_cons_cons, ← List.append_assoc]
      exact (ih hab).mono (List.suffix_append _ _).isInfix
    | cons_cons _ hab =>
      exact hasOperation_inLine_of_mem ha hb (List.singleton_sublist.mp hab)

/-- In a list of names a typedef of an operation type is made of two of them. -/
theorem hasOperation_inLine_iff {names : List Identifier} {y : List Char}
    (hword : y.head?.any isWord = false) (ht : 't' ∉ y) (hO : 'O' ∉ y) :
    HasOperation (inLine names ++ y) ↔ LooksLikeTypedef names :=
  ⟨looksLikeTypedef_of_hasOperation hword ht hO,
    fun h => (hasOperation_of_looksLikeTypedef h).mono (List.prefix_append _ _).isInfix⟩

/-! ### Names on lines -/

section Rows

variable {rows : List (Indent × FlowType)} {behind y : List Char}

theorem free_typeNodeUnion_barred_iff (hrows : ∀ r ∈ rows, ¬ r.2.HasArray)
    (hword : y.head?.any isWord = false) (hbar : ¬ " | ".toList <+: y) :
    Target.typeNodeUnion.Free behind (barred FlowType.text rows) y ↔ ∀ r ∈ rows,
      ¬ ["NamedTypeNode".toList, "ListTypeNode".toList] <:+: r.2.names.map Identifier.text := by
  induction rows generalizing behind with
  | nil => exact ⟨fun _ _ hr => absurd hr List.not_mem_nil, fun _ => Target.free_nil⟩
  | cons row rows ih =>
    obtain ⟨hrow, hrows⟩ := List.forall_mem_cons.mp hrows
    have hfirst : Target.typeNodeUnion.Free behind row.1.bar
        ((row.2.text ++ barred FlowType.text rows) ++ y) := by
      refine Target.free_of_begins (by decide) fun c hc => ?_
      have hbegins : ∀ d ∈ ['\n', ' ', '\t', '|'], Target.typeNodeUnion.whole.begins d = false := by
        decide
      exact hbegins c (Indent.mem_bar hc)
    have hbehind : (behind ++ row.1.bar).getLast?.any isWord = false := by
      rw [Indent.bar, ← List.append_assoc, ← List.append_assoc,
        List.getLast?_append_of_ne_nil _ (by decide)]
      rfl
    have hnext : (barred FlowType.text rows ++ y).head?.any isWord = false ∧
        ¬ " | ".toList <+: barred FlowType.text rows ++ y := by
      cases rows with
      | nil => exact ⟨hword, hbar⟩
      | cons row rows =>
        rw [barred_cons]
        exact ⟨rfl, fun h => absurd (List.cons_prefix_cons.mp h).1 (by decide)⟩
    rw [barred_cons, Target.free_append_iff, Target.free_append_iff, List.forall_mem_cons, ih hrows,
      FlowType.text_eq_inLine hrow, free_typeNodeUnion_inLine_iff hbehind hnext.1 hnext.2]
    exact and_iff_right (by rwa [FlowType.text_eq_inLine hrow] at hfirst)

theorem hasOperation_barred_iff (hrows : ∀ r ∈ rows, ¬ r.2.HasArray)
    (hword : y.head?.any isWord = false) (ht : 't' ∉ y) (hO : 'O' ∉ y) :
    HasOperation (barred FlowType.text rows ++ y) ↔ ∃ r ∈ rows, LooksLikeTypedef r.2.names := by
  induction rows with
  | nil => exact ⟨fun h => absurd h (not_hasOperation_of_not_mem ht), fun ⟨_, hr, _⟩ => nomatch hr⟩
  | cons row rows ih =>
    obtain ⟨hrow, hrows⟩ := List.forall_mem_cons.mp hrows
    have hbar : 't' ∉ row.1.bar := fun h => absurd (Indent.isWord_of_mem_bar _ h) (by decide)
    rw [List.exists_mem_cons_iff, ← ih hrows, barred_cons, List.append_assoc,
      hasOperation_mark_iff hbar, List.append_assoc, FlowType.text_eq_inLine hrow]
    cases rows with
    | nil =>
      have hnone : ¬ HasOperation (barred FlowType.text [] ++ y) := not_hasOperation_of_not_mem ht
      rw [or_iff_left hnone]
      exact hasOperation_inLine_iff hword ht hO
    | cons row' rows =>
      -- the next line
      have hline : HasOperation (inLine row.2.names) ↔ LooksLikeTypedef row.2.names := by
        rw [← List.append_nil (inLine row.2.names)]
        exact hasOperation_inLine_iff rfl List.not_mem_nil List.not_mem_nil
      have hfeed : ∀ {z : List Char}, HasOperation ('\n' :: z) ↔ HasOperation z := by
        intro z
        exact hasOperation_mark_iff (m := ['\n']) (by decide)
      obtain ⟨z, hz⟩ : ∃ z, barred FlowType.text (row' :: rows) ++ y = '\n' :: z :=
        ⟨_, by rw [barred_cons, Indent.bar]; rfl⟩
      rw [hz, hasOperation_append_lineFeed, hline, hfeed]

end Rows

/-! ### What a rule can see of the lines -/

/-- Lines of types: no two words with just a blank between them, and no word at the start of a
line. -/
def Slot.captured : Slot :=
  ((chars fun c => isWord c || isBlank c || ['$', '<', '>', '|'].contains c).barring
    false false "t t").barring false false "\nt"

section Rows

variable {rows : List (Indent × FlowType)} {gap : List Char}

theorem Parted.append_blanks {x : List Char} (hx : Parted x) (hgap : ∀ c ∈ gap, isBlank c = true) :
    Parted (x ++ gap) := by
  have hmark := hx.append_mark (m := gap ++ "  ".toList) (parted_of_not_mem List.not_mem_nil)
    (fun c hc => ?_) (by simp) (by cases gap <;> simp)
  · exact fun c d hc hd h => hmark c d hc hd (h.trans ⟨[], "  ".toList, by simp⟩)
  · rcases List.mem_append.mp hc with hc | hc
    · exact isWord_eq_false_of_isBlank (hgap c hc)
    · have hblanks : ∀ d ∈ "  ".toList, isWord d = false := by decide
      exact hblanks c hc

theorem Parted.append_barred {x : List Char} (hx : Parted x) (hgap : ∀ c ∈ gap, isBlank c = true) :
    Parted (x ++ (barred FlowType.text rows ++ gap)) := by
  induction rows generalizing x with
  | nil => exact hx.append_blanks hgap
  | cons row rows ih =>
    rw [barred_cons, List.append_assoc, List.append_assoc]
    exact hx.append_mark (ih row.2.parted_text) Indent.isWord_of_mem_bar (by simp [Indent.bar])
      (by simp [Indent.bar])

theorem not_pair_infix_append_barred {x : List Char} (hx : '\n' ∉ x)
    (hgap : ∀ c ∈ gap, isBlank c = true) :
    ¬ ['\n', 't'] <:+: x ++ (barred FlowType.text rows ++ gap) := by
  induction rows generalizing x with
  | nil =>
    have ht : 't' ∉ gap := fun h => absurd (hgap _ h) (by decide)
    intro h
    rcases pair_infix_append_iff.mp h with h | h | h
    · exact hx (h.subset (by simp))
    · exact ht (h.subset (by simp))
    · exact ht (List.mem_of_mem_head? h.2)
  | cons row rows ih =>
    have htext : '\n' ∉ row.2.text := by
      intro h
      rcases FlowType.isWord_or_mem_of_mem_text h with h | h
      · exact absurd h (by decide)
      · exact absurd h (by decide)
    rw [barred_cons, List.append_assoc, List.append_assoc]
    intro h
    rcases pair_infix_append_iff.mp h with h | h | h
    · exact hx (h.subset (by simp))
    · rcases pair_infix_append_iff.mp h with h | h | h
      · exact absurd (Indent.isWord_of_mem_bar _ (h.subset (by simp : 't' ∈ ['\n', 't']))) (by decide)
      · exact ih htext h
      · rw [Indent.bar, ← List.append_assoc, List.getLast?_append_of_ne_nil _ (by decide)] at h
        exact absurd h.1 (by decide)
    · exact hx (List.mem_of_getLast? h.1)

end Rows

theorem Slot.captured_holds (u : FlowUnion) : captured.holds u.captured := by
  refine ⟨⟨fun c hc => ?_, ?_⟩, ?_⟩
  · have hfixed : ∀ d ∈ ['\n', ' ', '\t', '|', '$', '<', '>'],
        (isWord d || isBlank d || ['$', '<', '>', '|'].contains d) = true := by
      decide
    rcases List.mem_append.mp hc with hc | hc
    · rcases mem_barred hc with hc | ⟨row, -, hc⟩
      · exact hfixed c (by simp only [List.mem_cons] at hc ⊢; tauto)
      · rcases FlowType.isWord_or_mem_of_mem_text hc with hc | hc
        · simp [hc]
        · exact hfixed c (by simp only [List.mem_cons] at hc ⊢; tauto)
    · simp [u.gap_ok c hc]
  · have hparted : Parted ([] ++ (barred FlowType.text u.rows ++ u.gap)) :=
      (parted_of_not_mem List.not_mem_nil).append_barred u.gap_ok
    rw [Bool.eq_false_iff, ne_eq, occurs_iff_isInfix]
    exact hparted 't' 't' (by decide) (by decide)
  · have hstart : ¬ ['\n', 't'] <:+: [] ++ (barred FlowType.text u.rows ++ u.gap) :=
      not_pair_infix_append_barred List.not_mem_nil u.gap_ok
    rw [Bool.eq_false_iff, ne_eq, occurs_iff_isInfix]
    exact hstart

namespace FlowUnion

variable (u : FlowUnion)

theorem opensLine_captured : Run.OpensLine u.captured :=
  (Run.opensLine_barred u.first u.others).append u.gap

/-- The first line of the Haxe text. -/
def header : List Char :=
  "typedef /* export type */ ".toList ++ (u.name.name.text ++ " = BaseNode; /* ".toList)

/-- What stands behind the lines in the Haxe text. -/
def closing : List Char := u.gap ++ "; */".toList

theorem haxe_eq : u.haxe = u.header ++ (barred FlowType.text u.rows ++ u.closing) := by
  show "typedef /* export type */ ".toList ++ (u.name.name.text ++ (" = BaseNode; /* ".toList ++
    ((barred FlowType.text u.rows ++ u.gap) ++ "; */".toList))) =
      ("typedef /* export type */ ".toList ++ (u.name.name.text ++ " = BaseNode; /* ".toList)) ++
        (barred FlowType.text u.rows ++ (u.gap ++ "; */".toList))
  simp only [List.append_assoc]

theorem exists_haxe_eq : ∃ z, u.haxe = u.header ++ '\n' :: z := by
  rw [haxe_eq, rows, barred_cons, Indent.bar]
  exact ⟨_, rfl⟩

theorem header_fits :
    Sketch.Fits ["typedef /* export type */ ", .typeName, " = BaseNode; /* "] u.header :=
  .next rfl (.next (Slot.typeName_holds u.name.toTypeName) (.last rfl))

theorem haxe_fits : Sketch.Fits
    ["typedef /* export type */ ", .typeName, " = BaseNode; /* ", .captured, "; */"] u.haxe :=
  .next rfl (.next (Slot.typeName_holds u.name.toTypeName) (.next rfl
    (.next (Slot.captured_holds u) (.last rfl))))

theorem not_mem_closing {c : Char} (hblank : isBlank c = false) (hc : c ∉ "; */".toList) :
    c ∉ u.closing := by
  intro h
  rcases List.mem_append.mp h with h | h
  · rw [u.gap_ok c h] at hblank
    cases hblank
  · exact hc h

theorem head?_closing : u.closing.head?.any isWord = false := by
  cases h : u.closing.head? with
  | none => rfl
  | some c =>
    show isWord c = false
    rw [Bool.eq_false_iff]
    intro hc
    have hfixed : ∀ d ∈ "; */".toList, isWord d = false := by decide
    refine not_mem_closing u ?_ (fun hmem => ?_) (List.mem_of_mem_head? h)
    · rw [Bool.eq_false_iff]
      intro hblank
      rw [isWord_eq_false_of_isBlank hblank] at hc
      cases hc
    · rw [hfixed c hmem] at hc
      cases hc

end FlowUnion

namespace Run

open Rule

/-! ### The late rules -/

/-- The rules behind `singleLineUnion` make no text without a colon shorter, and the last of them is the
only one that brings a colon. -/
theorem grows_apply_late {r : Rule} (hr : r ∈ all.drop 6) {text : List Char} (htext : ':' ∉ text) :
    Grows text (r.apply text).text ∧ (r ≠ operationType → ':' ∉ (r.apply text).text) := by
  by_cases hlengthens : r ∈ lengthening
  · have hadded : ∀ r ∈ lengthening, r ≠ operationType → ∀ s ∈ r.substitutions,
        ':' ∉ s.replacement.added := by
      decide
    exact ⟨grows_apply hlengthens text,
      fun hlast h => htext (mem_apply_text (hadded r hlengthens hlast) h)⟩
  · -- the other rules look for a colon
    have hidle : ∀ r ∈ all.drop 6, r ∉ lengthening → Sketch.idles [.chars (· != ':')] r = true := by
      decide
    have hchars : Sketch.Fits [.chars (· != ':')] text :=
      .last fun c hc => bne_iff_ne.mpr fun h => htext (h ▸ hc)
    rw [apply_of_idles hchars (hidle r hr hlengthens)]
    exact ⟨.inl rfl, fun _ => htext⟩

/-- The rules behind `singleLineUnion` leave a text without a colon if each of them leaves it. -/
theorem eq_textFrom_late_iff {text : List Char} (htext : ':' ∉ text) :
    text = textFrom (all.drop 6) text ↔ ∀ r ∈ all.drop 6, text = (r.apply text).text := by
  have hsplit : all.drop 6 = (all.drop 6).dropLast ++ [operationType] := by decide
  have hbefore : ∀ r ∈ (all.drop 6).dropLast, r ∈ all.drop 6 ∧ r ≠ operationType := by decide
  obtain ⟨hgrows, hcolon, heq⟩ := grows_textFrom (P := fun text => ':' ∉ text)
    (fun r hr text htext => ⟨(grows_apply_late (hbefore r hr).1 htext).1,
      (grows_apply_late (hbefore r hr).1 htext).2 (hbefore r hr).2⟩) htext
  obtain ⟨hlast, -⟩ := grows_apply_late (r := operationType) (by decide) hcolon
  rw [hsplit, textFrom_append, textFrom_cons, List.forall_mem_append, List.forall_mem_singleton, ← heq]
  refine (hgrows.trans hlast).2.trans (and_congr_right fun hsame => ?_)
  rw [← hsame]

/-! ### A union in its comment -/

variable (u : FlowUnion)

theorem textFrom_union : textFrom (all.take 6) u.flow = u.haxe :=
  (turns_baseNode u.name.name.isWord_of_mem u.name.node_suffix (Slot.captured_holds u)
    u.opensLine_captured (by decide) (by decide) (by decide) (by decide)).textFrom_eq

/-- The first line is none of a superseded declaration, and no other line begins with a typedef. -/
theorem apply_supersededTypeNode_haxe : supersededTypeNode.apply u.haxe = ⟨u.haxe, 0⟩ := by
  rw [apply_of_singleton (r := supersededTypeNode) rfl]
  refine Substitution.apply_of_absent (by decide) Target.traced_supersededTypeNode ?_
  rw [Pattern.absent_supersededLine_iff]
  rintro _ ⟨g, hg, rfl⟩ h
  rcases List.infix_cons_iff.mp h with h | h
  · have hfeed : "\ntypedef ".toList = '\n' :: "typedef ".toList := by decide
    rw [hfeed, List.cons_append] at h
    obtain ⟨v, hv⟩ := (List.cons_prefix_cons.mp h).2
    obtain ⟨z, hz⟩ := u.exists_haxe_eq
    have hn : '\n' ∉ "typedef ".toList ++ (g ++ " TypeNode ".toList) := by simp [hg]
    obtain ⟨w, hw, -⟩ := Target.exists_of_append_eq_of_not_mem (hz.symm.trans hv.symm) hn
    have hno : ¬ " TypeNode ".toList <:+: u.header := Sketch.not_infix_of_fits u.header_fits (by decide)
    exact hno ⟨"typedef ".toList ++ g, w, by rw [hw]; simp⟩
  · exact Sketch.not_infix_of_fits u.haxe_fits (by decide) ((List.prefix_append _ _).isInfix.trans h)

/-- The rules behind `singleLineUnion` leave the text if three of them have no match. -/
theorem haxe_eq_textFrom_iff : u.haxe = textFrom (all.drop 6) u.haxe ↔
    Target.typeNodeUnion.Free [] u.haxe [] ∧ ¬ "$ReadOnlyArray".toList <:+: u.haxe ∧
      ¬ HasOperation u.haxe := by
  have hunion : u.haxe = (typeNodeUnion.apply u.haxe).text ↔ Target.typeNodeUnion.Free [] u.haxe [] :=
    eq_apply_iff_free (r := typeNodeUnion) (by decide) rfl
  have harray : u.haxe = (readOnlyArray.apply u.haxe).text ↔ ¬ "$ReadOnlyArray".toList <:+: u.haxe :=
    (eq_apply_iff_free (r := readOnlyArray) (by decide) rfl).trans (free_text_iff (by decide))
  have hoperation : u.haxe = (operationType.apply u.haxe).text ↔ ¬ HasOperation u.haxe :=
    (eq_apply_iff_free (r := operationType) (by decide) rfl).trans free_operationType_iff
  have hidle : ∀ r ∈ [nullableToken, optionalValue, importType, kindLiteral],
      u.haxe = (r.apply u.haxe).text := by
    intro r hr
    have hidles : ∀ r ∈ [nullableToken, optionalValue, importType, kindLiteral], Sketch.idles
        ["typedef /* export type */ ", .typeName, " = BaseNode; /* ", .captured, "; */"] r = true := by
      decide
    rw [apply_of_idles u.haxe_fits (hidles r hr)]
  rw [eq_textFrom_late_iff (Sketch.not_mem_of_fits u.haxe_fits (by decide)), ← hunion, ← harray,
    ← hoperation]
  constructor
  · intro h
    exact ⟨h _ (by decide), h _ (by decide), h _ (by decide)⟩
  · rintro ⟨hu, ha, ho⟩ r hr
    have hrules : all.drop 6 = [typeNodeUnion, supersededTypeNode, nullableToken, optionalValue,
        importType, kindLiteral, readOnlyArray, operationType] := by
      decide
    simp only [hrules, List.mem_cons, List.not_mem_nil, or_false] at hr
    rcases hr with rfl | rfl | rfl | rfl | rfl | rfl | rfl | rfl
    · exact hu
    · exact (congrArg Outcome.text (apply_supersededTypeNode_haxe u)).symm
    · exact hidle _ (by decide)
    · exact hidle _ (by decide)
    · exact hidle _ (by decide)
    · exact hidle _ (by decide)
    · exact ha
    · exact ho

variable {u}

theorem free_typeNodeUnion_haxe_iff (hrows : ∀ r ∈ u.rows, ¬ r.2.HasArray) :
    Target.typeNodeUnion.Free [] u.haxe [] ↔ ∀ r ∈ u.rows,
      ¬ ["NamedTypeNode".toList, "ListTypeNode".toList] <:+: r.2.names.map Identifier.text := by
  have hheader : Target.typeNodeUnion.Free [] u.header
      ((barred FlowType.text u.rows ++ u.closing) ++ []) := by
    obtain ⟨z, hz⟩ : ∃ z, (barred FlowType.text u.rows ++ u.closing) ++ [] = '\n' :: z :=
      ⟨_, by rw [FlowUnion.rows, barred_cons, Indent.bar]; rfl⟩
    rw [hz]
    exact Target.free_of_admits (w := "NamedTypeNode | ListTypeNode".toList) (by decide) (by decide)
      (Sketch.not_infix_of_fits u.header_fits (by decide))
  have hclosing : Target.typeNodeUnion.Free ([] ++ u.header ++ barred FlowType.text u.rows)
      u.closing [] := by
    refine Target.free_of_lacks (w := "NamedTypeNode | ListTypeNode".toList) (by decide) fun h => ?_
    rw [List.append_nil] at h
    exact u.not_mem_closing (c := 'N') (by decide) (by decide) (h.subset (by decide))
  have hbar : ¬ " | ".toList <+: u.closing := fun h =>
    u.not_mem_closing (c := '|') (by decide) (by decide) (h.subset (by decide))
  rw [u.haxe_eq, Target.free_append_iff, Target.free_append_iff, and_iff_right hheader,
    and_iff_left hclosing, List.append_nil]
  exact free_typeNodeUnion_barred_iff hrows u.head?_closing hbar

theorem not_infix_haxe (hrows : ∀ r ∈ u.rows, ¬ r.2.HasArray) :
    ¬ "$ReadOnlyArray".toList <:+: u.haxe := by
  have hheader : '$' ∉ u.header := Sketch.not_mem_of_fits u.header_fits (by decide)
  have hclosing : '$' ∉ u.closing := u.not_mem_closing (by decide) (by decide)
  have hlines : '$' ∉ barred FlowType.text u.rows := by
    intro h
    rcases mem_barred h with h | ⟨row, hrow, h⟩
    · exact absurd h (by decide)
    · rw [FlowType.text_eq_inLine (hrows row hrow)] at h
      exact absurd (isListed_of_mem_inLine h) (by decide)
  intro h
  have hmem : '$' ∈ u.haxe := h.subset (by decide)
  rw [u.haxe_eq, List.mem_append, List.mem_append] at hmem
  exact hmem.elim hheader fun h => h.elim hlines hclosing

theorem hasOperation_haxe_iff (hrows : ∀ r ∈ u.rows, ¬ r.2.HasArray) :
    HasOperation u.haxe ↔ ∃ r ∈ u.rows, LooksLikeTypedef r.2.names := by
  have hheader : ¬ HasOperation u.header := by
    rintro ⟨g, -, h⟩
    have hno : ¬ " OperationTypeNode".toList <:+: u.header :=
      Sketch.not_infix_of_fits u.header_fits (by decide)
    exact hno (((List.suffix_append _ _).isInfix.trans (List.suffix_append _ _).isInfix).trans h)
  have hfeed : ∀ {z : List Char}, HasOperation ('\n' :: z) ↔ HasOperation z :=
    hasOperation_mark_iff (m := ['\n']) (by decide)
  have hlines := hasOperation_barred_iff hrows u.head?_closing
    (u.not_mem_closing (by decide) (by decide)) (u.not_mem_closing (by decide) (by decide))
  obtain ⟨z, hz⟩ : ∃ z, barred FlowType.text u.rows ++ u.closing = '\n' :: z :=
    ⟨_, by rw [FlowUnion.rows, barred_cons, Indent.bar]; rfl⟩
  rw [← hlines, u.haxe_eq, hz, hasOperation_append_lineFeed, or_iff_right hheader, hfeed]

theorem live_haxe (u : FlowUnion) : Region.code.live u.haxe =
    "typedef   ".toList ++ (u.name.name.text ++ " = BaseNode;  ".toList) := by
  have hopen : ∀ w, Region.code.live ("/*".toList ++ w) = ' ' :: Region.blockComment.live w :=
    fun _ => rfl
  have hname : '/' ∉ " ".toList ++ (u.name.name.text ++ " = BaseNode; ".toList) := by
    have hno : '/' ∉ u.name.name.text := u.name.name.not_mem_text (by decide)
    simp [hno]
  have hlines : '*' ∉ " ".toList ++ (u.captured ++ "; ".toList) := by
    have hno : '*' ∉ u.captured := Sketch.not_mem_of_fits (.last (Slot.captured_holds u)) (by decide)
    simp [hno]
  have hsplit : u.haxe = "typedef ".toList ++ ("/*".toList ++ (" export type ".toList ++
      ("*/".toList ++ ((" ".toList ++ (u.name.name.text ++ " = BaseNode; ".toList)) ++
        ("/*".toList ++ ((" ".toList ++ (u.captured ++ "; ".toList)) ++ ("*/".toList ++ []))))))) := by
    show "typedef /* export type */ ".toList ++ (u.name.name.text ++ (" = BaseNode; /* ".toList ++
      (u.captured ++ "; */".toList))) = _
    simp
  rw [hsplit, Region.live_append_of_not_mem (by decide), hopen, Region.live_block (by decide),
    Region.live_append_of_not_mem hname, hopen, Region.live_block hlines]
  simp [Region.live]

/-- A run keeps what stood on the lines of a union in its comment if the rules have nothing to
replace in any of the lines.  All that is live then is the typedef. -/
theorem text_of_union_eq_iff (u : FlowUnion) :
    ((of u.flow).text = u.haxe ↔ ∀ row ∈ u.rows, row.2.Inert) ∧
      Region.code.live u.haxe =
        "typedef   ".toList ++ (u.name.name.text ++ " = BaseNode;  ".toList) := by
  refine ⟨?_, live_haxe u⟩
  rw [text_of, textFrom_all, textFrom_union, eq_comm, haxe_eq_textFrom_iff]
  constructor
  · rintro ⟨hunion, harray, hoperation⟩
    have hrows : ∀ r ∈ u.rows, ¬ r.2.HasArray := by
      intro r hr h
      have hline : r.2.text <:+: u.haxe := by
        rw [u.haxe_eq]
        exact (infix_barred_of_mem hr).trans ⟨u.header, u.closing, by simp⟩
      exact harray ((FlowType.infix_of_hasArray h).trans hline)
    rw [free_typeNodeUnion_haxe_iff hrows] at hunion
    rw [hasOperation_haxe_iff hrows] at hoperation
    exact fun r hr => ⟨hrows r hr, hunion r hr, fun h => hoperation ⟨r, hr, h⟩⟩
  · intro hinert
    have hrows : ∀ r ∈ u.rows, ¬ r.2.HasArray := fun r hr => (hinert r hr).no_array
    rw [free_typeNodeUnion_haxe_iff hrows, hasOperation_haxe_iff hrows]
    refine ⟨fun r hr => (hinert r hr).not_typeNode, not_infix_haxe hrows, ?_⟩
    rintro ⟨r, hr, h⟩
    exact (hinert r hr).not_typedef h

/-- A union with an array. -/
def arrayUnion : FlowUnion where
  name := ⟨⟨⟨'F', "ooNode".toList, by decide, by decide⟩, by decide, by decide⟩, by decide⟩
  first := (.two, .array (.name ⟨'B', "ar".toList, by decide, by decide⟩))
  others := [(.two, .name ⟨'B', "az".toList, by decide, by decide⟩)]
  gap := []
  gap_ok := by decide

/-- The comment that the union has become ends in front of `Array`. -/
theorem text_of_arrayUnion_ne :
    arrayUnion.flow = "export type FooNode =\n  | $ReadOnlyArray<Bar>\n  | Baz;".toList ∧
      (of arrayUnion.flow).text ≠ arrayUnion.haxe ∧
      Region.code.live (of arrayUnion.flow).text =
        "typedef   FooNode = BaseNode;  Array<Bar>\n  | Baz; */".toList := by
  have hflow : arrayUnion.flow = "export type FooNode =\n  | $ReadOnlyArray<Bar>\n  | Baz;".toList := by
    decide +kernel
  have htext : (of arrayUnion.flow).text =
      "typedef /* export type */ FooNode = BaseNode; /* \n  | /* $ReadOnlyArray */Array<Bar>\n  | Baz; */".toList := by
    rw [hflow]
    decide +kernel
  rw [htext]
  refine ⟨hflow, ?_, ?_⟩ <;> decide +kernel

end Run

end HaxeTypedefs
