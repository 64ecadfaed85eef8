/-
The fourteen rules that turn Flow type declarations into Haxe typedefs.

A rule is a list of substitutions, made one after the other.  Some rules look
for what an earlier rule leaves behind (`optionalValue` for the `:String` of
`primitives`), so the order of `Rule.all` belongs to their meaning.

* **`Rule.ofName?_name`** — a rule is known by its name.
* **`Rule.getElem?_all_number`** — the number of a rule is its place in the order, from one.
-/
import HaxeTypedefs.Substitution
import HaxeTypedefs.Haxe.Module

namespace HaxeTypedefs

inductive Rule where
  /-- makes `export type` a `typedef` and keeps it as a comment -/
  | exportType
  /-- makes `name?:`, with a `?` behind it or without, `?name :` -/
  | optionalField
  /-- makes `boolean`, `string` and `number` `Bool`, `String` and `Int` -/
  | primitives
  /-- removes a `+` that begins an indented line -/
  | variance
  /-- makes a union `Node =` with its alternatives on lines of their own a `BaseNode` -/
  | multiLineUnion
  /-- makes a union `Node = A | B;` on one line a `BaseNode` -/
  | singleLineUnion
  /-- makes `NamedTypeNode | ListTypeNode` a `TypeNode` -/
  | typeNodeUnion
  /-- makes a typedef with `TypeNode` on its line a comment -/
  | supersededTypeNode
  /-- makes indented `prev` and `next` fields `Null<Token>` -/
  | nullableToken
  /-- makes `value:String | void` an optional `Null<String>` -/
  | optionalValue
  /-- makes `import type` lines comments -/
  | importType
  /-- makes `kind: 'Literal'` a `kind: String` and the literal a comment -/
  | kindLiteral
  /-- makes `$ReadOnlyArray` an `Array` -/
  | readOnlyArray
  /-- makes a typedef of `OperationTypeNode` a comment, with an enum below it -/
  | operationType
  deriving DecidableEq, Repr

namespace Rule

/-- Every rule, in the order in which they are applied. -/
def all : List Rule :=
  [exportType, optionalField, primitives, variance, multiLineUnion, singleLineUnion,
   typeNodeUnion, supersededTypeNode, nullableToken, optionalValue, importType, kindLiteral,
   readOnlyArray, operationType]

theorem mem_all (r : Rule) : r ∈ all := by
  cases r <;> decide

def name : Rule → String
  | exportType => "export-type"
  | optionalField => "optional-field"
  | primitives => "primitives"
  | variance => "variance"
  | multiLineUnion => "multi-line-union"
  | singleLineUnion => "single-line-union"
  | typeNodeUnion => "type-node-union"
  | supersededTypeNode => "superseded-type-node"
  | nullableToken => "nullable-token"
  | optionalValue => "optional-value"
  | importType => "import-type"
  | kindLiteral => "kind-literal"
  | readOnlyArray => "read-only-array"
  | operationType => "operation-type"

def ofName? (n : String) : Option Rule :=
  all.find? fun r => r.name == n

theorem ofName?_name (r : Rule) : ofName? r.name = some r := by
  cases r <;> decide

/-- The place of the rule in the order, counted from one. -/
def number (r : Rule) : Nat :=
  all.idxOf r + 1

theorem getElem?_all_number (r : Rule) : all[r.number - 1]? = some r := by
  cases r <;> decide

/-! The patterns that several rules share. -/

/-- A word, as long as it goes: `\w+`. -/
def someWord : Pattern := .run .word 1 .most

/-- White space, if there is any: `\s*`. -/
def optionalBlanks : Pattern := .run .blank 0 .most

/-- White space: `\s+`. -/
def someBlanks : Pattern := .run .blank 1 .most

/-- The rest of the line: `.*`. -/
def restOfLine : Pattern := .run .inLine 0 .most

/-- As little of the line as possible: `.*?`. -/
def gapInLine : Pattern := .run .inLine 0 .fewest

/-- A type annotation with one of Flow's primitive types. -/
def primitiveType (primitive : String) : Target :=
  .plain (.inOrder [":", optionalBlanks, primitive, .wordEdge])

/-- The substitutions of the rule, in the order in which they are made. -/
def substitutions : Rule → List Substitution
  | exportType => [⟨.plain "export type", .literal "typedef /* export type */"⟩]
  | optionalField =>
    [⟨.marking .nothing someWord (.inOrder ["?:", .maybe (.inOrder [someBlanks, "?"])]),
      .template "?" " /* opt */ :"⟩]
  | primitives =>
    [⟨primitiveType "boolean", .literal ":Bool"⟩,
     ⟨primitiveType "string", .literal ":String"⟩,
     ⟨primitiveType "number", .literal ":Int /* number */"⟩]
  | variance => [⟨.marking .lineStart someBlanks "+", .template "" ""⟩]
  | multiLineUnion =>
    [⟨.marking "Node ="
        (.inOrder [optionalBlanks, "\n", someBlanks, "|", .run .any 0 .fewest, ";"]) .nothing,
      .template "Node = BaseNode; /* " " */"⟩]
  | singleLineUnion =>
    [⟨.marking "Node = " (.inOrder [someWord, someBlanks, "|", gapInLine, ";"]) .nothing,
      .template "Node = BaseNode; /* " " */"⟩]
  | typeNodeUnion =>
    [⟨.plain (.inOrder [.wordEdge, "NamedTypeNode | ListTypeNode", .wordEdge]),
      .literal "TypeNode /* NamedTypeNode | ListTypeNode */"⟩]
  | supersededTypeNode =>
    [⟨.marking .lineStart (.inOrder ["typedef ", gapInLine, " TypeNode ", restOfLine]) .nothing,
      .template "// " ""⟩]
  | nullableToken =>
    [⟨.marking (.inOrder [.lineStart, someBlanks]) (.either "prev" "next")
        (.inOrder [":", optionalBlanks, "Token | null"]),
      .template "  ?" ": Null<Token>"⟩]
  | optionalValue => [⟨.plain "value:String | void", .literal "?value:Null<String>"⟩]
  | importType =>
    [⟨.marking .lineStart (.inOrder ["import type ", restOfLine]) .nothing, .template "// " ""⟩]
  | kindLiteral =>
    [⟨.marking "kind: " (.inOrder ["'", someWord, "'"]) (.maybe (.one (.among [',', ';']))),
      .template "kind: String, // " ""⟩]
  | readOnlyArray => [⟨.plain "$ReadOnlyArray", .literal "/* $ReadOnlyArray */Array"⟩]
  | operationType =>
    [⟨.plain (.inOrder ["typedef ", gapInLine, " OperationTypeNode", restOfLine]),
      .supersede operationTypes.render⟩]

/-- Makes the substitutions of the rule, and counts the replacements of all of them. -/
def apply (r : Rule) (text : List Char) : Outcome :=
  r.substitutions.foldl
    (fun sofar s =>
      let next := s.apply sofar.text
      ⟨next.text, sofar.count + next.count⟩)
    ⟨text, 0⟩

end Rule

end HaxeTypedefs
