/-
Flow type declarations, and the Haxe text of each.

An item of a source is a blank line, an import, an object type or a union of nodes.
Every item is written in one way (`flow`), and stands for one Haxe text (`haxe`).
What an item must not be called is part of its data, so every list of items is a
source.

An optional field whose name ends in `typedef` is a trap: together with a type whose
name begins with `OperationTypeNode` it looks like the typedef that is replaced by an
enumeration.  `rewritten` is the text that is left of an item when fields are
misread so, and differs from `haxe` in them only.

* **`Item.grows`**, **`flatMap_haxe_eq_iff`** — where the two texts of an item agree.
-/
import HaxeTypedefs.Rule

namespace HaxeTypedefs

/-- A name: a letter or `_`, and then letters, digits and `_`. -/
structure Identifier where
  initial : Char
  others : List Char
  initial_ok : initial.isAlpha = true ∨ initial = '_'
  others_ok : ∀ c ∈ others, c.isAlphanum = true ∨ c = '_'

def Identifier.text (i : Identifier) : List Char := i.initial :: i.others

theorem Identifier.text_ne_nil (i : Identifier) : i.text ≠ [] := List.cons_ne_nil _ _

theorem isWord_of_isAlphanum {c : Char} (h : c.isAlphanum = true ∨ c = '_') : isWord c = true := by
  refine (isWord_iff_of_ascii ?_).mpr h
  rcases h with h | rfl
  · delta Char.isAlphanum Char.isAlpha Char.isUpper Char.isLower Char.isDigit at h
    simp only [Bool.or_eq_true, Bool.and_eq_true, decide_eq_true_eq, ge_iff_le,
      UInt32.le_iff_toNat_le] at h
    simp only [Char.reduceVal, UInt32.reduceToNat, Char.toNat_val] at h
    omega
  · decide

theorem Identifier.isWord_of_mem (i : Identifier) : ∀ c ∈ i.text, isWord c = true := by
  intro c hc
  rcases List.mem_cons.mp hc with rfl | hc
  · exact isWord_of_isAlphanum (i.initial_ok.imp_left fun h => by simp [Char.isAlphanum, h])
  · exact isWord_of_isAlphanum (i.others_ok c hc)

theorem Identifier.not_mem_text (i : Identifier) {c : Char} (hc : isWord c = false) : c ∉ i.text := by
  intro h
  rw [i.isWord_of_mem c h] at hc
  cases hc

/-! ### Fields -/

/-- The type of a field. -/
inductive FieldType where
  | boolean
  | string
  | number
  /-- a type with a name of its own -/
  | named (name : Identifier)
      (other : name.text ∉ ["boolean".toList, "string".toList, "number".toList])
  | array (element : Identifier)

def FieldType.flow : FieldType → List Char
  | boolean => "boolean".toList
  | string => "string".toList
  | number => "number".toList
  | named name _ => name.text
  | array element => "$ReadOnlyArray<".toList ++ (element.text ++ ">".toList)

/-- The type with the colon before it; what stands between them is kept, but not with a primitive
type. -/
def FieldType.haxe (gap : List Char) : FieldType → List Char
  | boolean => ":Bool".toList
  | string => ":String".toList
  | number => ":Int /* number */".toList
  | named name _ => ":".toList ++ (gap ++ name.text)
  | array element =>
    ":".toList ++ (gap ++ ("/* $ReadOnlyArray */Array<".toList ++ (element.text ++ ">".toList)))

/-- Whether a field may be left out, or may be null. -/
inductive Presence where
  | required
  | optional
  | nullable
  deriving DecidableEq, Repr

namespace Presence

/-- What stands between the name and the type. -/
def flow : Presence → List Char
  | required => ": ".toList
  | optional => "?: ".toList
  | nullable => "?: ?".toList

/-- What the Haxe field has before its name. -/
def opening : Presence → List Char
  | required => []
  | _ => "?".toList

/-- What the Haxe field has between its name and the colon. -/
def closing : Presence → List Char
  | required => []
  | _ => " /* opt */ ".toList

/-- What is left between the colon and the type. -/
def gap : Presence → List Char
  | nullable => []
  | _ => " ".toList

end Presence

/-- What a field line declares. -/
inductive Member where
  | typed (name : Identifier) (presence : Presence) (type : FieldType)
  | kind (literal : Identifier)
  | value
  | prev
  | next

namespace Member

def flow : Member → List Char
  | typed name presence type => name.text ++ (presence.flow ++ (type.flow ++ ",".toList))
  | kind literal => "kind: '".toList ++ (literal.text ++ "',".toList)
  | value => "value: string | void,".toList
  | prev => "prev: Token | null,".toList
  | next => "next: Token | null,".toList

def haxe : Member → List Char
  | typed name presence type =>
    presence.opening ++ (name.text ++ (presence.closing ++ (type.haxe presence.gap ++ ",".toList)))
  | kind literal => "kind: String, // '".toList ++ (literal.text ++ "'".toList)
  | value => "?value:Null<String>,".toList
  | prev => "?prev: Null<Token>,".toList
  | next => "?next: Null<Token>,".toList

/-- The field looks like a typedef of `OperationTypeNode` as soon as it is marked as optional. -/
def Trap : Member → Prop
  | typed name .optional (.named type _) =>
    "typedef".toList <:+ name.text ∧ "OperationTypeNode".toList <+: type.text
  | _ => False

instance : DecidablePred Trap
  | typed _ .optional (.named _ _) => inferInstanceAs (Decidable (_ ∧ _))
  | typed _ .optional .boolean | typed _ .optional .string | typed _ .optional .number
  | typed _ .optional (.array _) | typed _ .required _ | typed _ .nullable _
  | kind _ | value | prev | next => inferInstanceAs (Decidable False)

/-- What a trap becomes: its line from `typedef` on in a comment, and the enumeration below. -/
def misread (m : Member) : List Char :=
  match m with
  | typed name presence type =>
    presence.opening ++ (name.text.take (name.text.length - "typedef".toList.length) ++
      ("//  typedef".toList ++ (presence.closing ++ (type.haxe presence.gap ++
        (", \n".toList ++ operationTypes.render.toList)))))
  | m => m.haxe

def rewritten (m : Member) : List Char :=
  if m.Trap then m.misread else m.haxe

end Member

/-- A line of an object type, two spaces in. -/
structure Field where
  /-- has a `+` before it -/
  covariant : Bool
  member : Member

namespace Field

/-- The `+` of the field, if it has one. -/
def sign (f : Field) : List Char := if f.covariant then "+".toList else []

def flow (f : Field) : List Char := "  ".toList ++ (f.sign ++ f.member.flow)

end Field

/-! ### Items -/

/-- The name of a declared type: no rule is made for it. -/
structure TypeName where
  name : Identifier
  ne_typeNode : name.text ≠ "TypeNode".toList
  not_operationTypeNode : ¬ "OperationTypeNode".toList <+: name.text

/-- The name of a union of nodes. -/
structure UnionName extends TypeName where
  node_suffix : "Node".toList <:+ name.text

/-- The alternatives of a union on one line: no rule is made for them. -/
structure Alternatives where
  names : List Identifier
  two_le_length : 2 ≤ names.length
  ne_typeNode : ∀ a ∈ names, a.text ≠ "TypeNode".toList
  not_operationTypeNode : ∀ a ∈ names, ¬ "OperationTypeNode".toList <+: a.text
  not_typeNodeUnion :
    ¬ ["NamedTypeNode".toList, "ListTypeNode".toList] <:+: names.map Identifier.text

/-- Alternatives on lines of their own. -/
def inLines (names : List Identifier) : List Char :=
  names.flatMap fun a => "\n  | ".toList ++ a.text

/-- Alternatives on one line. -/
def inLine (names : List Identifier) : List Char :=
  " | ".toList.intercalate (names.map Identifier.text)

inductive Item where
  | blank
  | importType (name file : Identifier)
  | object (name : TypeName) (fields : List Field)
  | multiLineUnion (name : UnionName) (first : Identifier) (others : List Identifier)
  | singleLineUnion (name : UnionName) (alternatives : Alternatives)

namespace Item

/-- The item as it is written. -/
def flow : Item → List Char
  | blank => "\n".toList
  | importType name file =>
    "import type \x7b ".toList ++ (name.text ++ (" \x7d from './".toList ++ (file.text ++ "';\n".toList)))
  | object name fields =>
    "export type ".toList ++ (name.name.text ++ (" = \x7b\n".toList ++
      ((fields.flatMap fun f => f.flow ++ "\n".toList) ++ "\x7d;\n".toList)))
  | multiLineUnion name first others =>
    "export type ".toList ++ (name.name.text ++ (" =".toList ++
      (inLines (first :: others) ++ ";\n".toList)))
  | singleLineUnion name alternatives =>
    "export type ".toList ++ (name.name.text ++ (" = ".toList ++
      (inLine alternatives.names ++ ";\n".toList)))

/-- The Haxe text of the item, where the fields have these texts. -/
def haxeWith (member : Member → List Char) : Item → List Char
  | blank => "\n".toList
  | importType name file =>
    "// import type \x7b ".toList ++ (name.text ++ (" \x7d from './".toList ++ (file.text ++ "';\n".toList)))
  | object name fields =>
    "typedef /* export type */ ".toList ++ (name.name.text ++ (" = \x7b\n".toList ++
      ((fields.flatMap fun f => "  ".toList ++ (member f.member ++ "\n".toList)) ++ "\x7d;\n".toList)))
  | multiLineUnion name first others =>
    "typedef /* export type */ ".toList ++ (name.name.text ++ (" = BaseNode; /* ".toList ++
      (inLines (first :: others) ++ "; */\n".toList)))
  | singleLineUnion name alternatives =>
    "typedef /* export type */ ".toList ++ (name.name.text ++ (" = BaseNode; /* ".toList ++
      (inLine alternatives.names ++ "; */\n".toList)))

/-- The Haxe text that the item stands for. -/
def haxe : Item → List Char := haxeWith Member.haxe

/-- The text that is left of the item. -/
def rewritten : Item → List Char := haxeWith Member.rewritten

def fields : Item → List Field
  | object _ fields => fields
  | _ => []

end Item

/-! ### Where the two texts agree -/

/-- The second text is the first one, or a longer one. -/
def Grows (x y : List Char) : Prop := x = y ∨ x.length < y.length

theorem Grows.length_le {x y : List Char} (h : Grows x y) : x.length ≤ y.length := by
  rcases h with rfl | h
  · exact Nat.le_refl _
  · exact Nat.le_of_lt h

theorem Grows.append {x y x' y' : List Char} (h : Grows x y) (h' : Grows x' y') :
    Grows (x ++ x') (y ++ y') ∧ (x ++ x' = y ++ y' ↔ x = y ∧ x' = y') := by
  have hle := h.length_le
  have hle' := h'.length_le
  by_cases heq : x = y ∧ x' = y'
  · obtain ⟨rfl, rfl⟩ := heq
    exact ⟨.inl rfl, by simp⟩
  · have hlt : (x ++ x').length < (y ++ y').length := by
      simp only [List.length_append]
      rcases h with rfl | h
      · have := h'.resolve_left fun h => heq ⟨rfl, h⟩
        omega
      · omega
    refine ⟨.inr hlt, fun h => ?_, fun h => absurd h heq⟩
    rw [h] at hlt
    exact absurd hlt (Nat.lt_irrefl _)

theorem Grows.flatMap {α : Type} {f g : α → List Char} (h : ∀ a, Grows (f a) (g a)) (l : List α) :
    Grows (l.flatMap f) (l.flatMap g) ∧ (l.flatMap f = l.flatMap g ↔ ∀ a ∈ l, f a = g a) := by
  induction l with
  | nil => exact ⟨.inl rfl, by simp⟩
  | cons a l ih =>
    obtain ⟨hgrows, heq⟩ := (h a).append ih.1
    rw [List.flatMap_cons, List.flatMap_cons, List.forall_mem_cons, ← ih.2]
    exact ⟨hgrows, heq⟩

theorem Grows.append_iff {x y : List Char} (h : Grows x y) (before behind : List Char) :
    Grows (before ++ (x ++ behind)) (before ++ (y ++ behind)) ∧
      (before ++ (x ++ behind) = before ++ (y ++ behind) ↔ x = y) := by
  obtain ⟨hgrows, heq⟩ := h.append (.inl (rfl : behind = behind))
  obtain ⟨hgrows', heq'⟩ := Grows.append (.inl (rfl : before = before)) hgrows
  exact ⟨hgrows', by rw [heq', heq]; simp⟩

theorem Member.trap_iff {name type : Identifier} {other} :
    (typed name .optional (.named type other)).Trap ↔
      "typedef".toList <:+ name.text ∧ "OperationTypeNode".toList <+: type.text := by
  rw [Trap]

/-- A trap is an optional field whose type has a name. -/
theorem Member.exists_of_trap {m : Member} (h : m.Trap) : ∃ name type other,
    m = .typed name .optional (.named type other) ∧ "typedef".toList <:+ name.text ∧
      "OperationTypeNode".toList <+: type.text := by
  match m, h with
  | .typed name .optional (.named type other), h => exact ⟨name, type, other, rfl, trap_iff.mp h⟩

theorem Member.length_haxe_lt {m : Member} (h : m.Trap) : m.haxe.length < m.misread.length := by
  obtain ⟨name, type, other, rfl, hname, -⟩ := exists_of_trap h
  have hle := hname.length_le
  show ("?".toList ++ (name.text ++ (" /* opt */ ".toList ++
      (FieldType.haxe " ".toList (.named type other) ++ ",".toList)))).length <
    ("?".toList ++ (name.text.take (name.text.length - "typedef".toList.length) ++
      ("//  typedef".toList ++ (" /* opt */ ".toList ++
        (FieldType.haxe " ".toList (.named type other) ++
          (", \n".toList ++ operationTypes.render.toList)))))).length
  generalize operationTypes.render.toList = block
  have hlen : "//  typedef".toList.length = "typedef".toList.length + 4 := by decide
  have hcomma : ",".toList.length < ", \n".toList.length := by decide
  simp only [List.length_append, List.length_take, hlen]
  generalize "typedef".toList.length = n at hle ⊢
  omega

theorem Member.grows (m : Member) :
    Grows m.haxe m.rewritten ∧ (m.haxe = m.rewritten ↔ ¬ m.Trap) := by
  rw [rewritten]
  by_cases h : m.Trap
  · rw [if_pos h]
    have hlt := length_haxe_lt h
    refine ⟨.inr hlt, fun heq => ?_, fun hno => absurd h hno⟩
    rw [heq] at hlt
    exact absurd hlt (Nat.lt_irrefl _)
  · rw [if_neg h]
    exact ⟨.inl rfl, fun _ => h, fun _ => rfl⟩

theorem Item.grows (i : Item) :
    Grows i.haxe i.rewritten ∧ (i.haxe = i.rewritten ↔ ∀ f ∈ i.fields, ¬ f.member.Trap) := by
  cases i with
  | object name fields =>
    have hfield : ∀ f : Field, Grows ("  ".toList ++ (f.member.haxe ++ "\n".toList))
        ("  ".toList ++ (f.member.rewritten ++ "\n".toList)) :=
      fun f => (f.member.grows.1.append_iff _ _).1
    obtain ⟨hgrows, heq⟩ := Grows.flatMap hfield fields
    have hlines := hgrows.append_iff
      ("typedef /* export type */ ".toList ++ (name.name.text ++ " = \x7b\n".toList)) "\x7d;\n".toList
    simp only [List.append_assoc] at hlines
    refine ⟨hlines.1, hlines.2.trans (heq.trans ?_)⟩
    refine forall₂_congr fun f _ => ?_
    rw [← f.member.grows.2]
    exact (f.member.grows.1.append_iff _ _).2
  | _ => exact ⟨.inl rfl, by simp [fields]; rfl⟩

/-- The items are rewritten as they should be if and only if they have no trap. -/
theorem flatMap_haxe_eq_iff (items : List Item) :
    items.flatMap Item.haxe = items.flatMap Item.rewritten ↔
      ∀ i ∈ items, ∀ f ∈ i.fields, ¬ f.member.Trap := by
  rw [(Grows.flatMap (fun i => i.grows.1) items).2]
  exact forall₂_congr fun i _ => i.grows.2

end HaxeTypedefs
