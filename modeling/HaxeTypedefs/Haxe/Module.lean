/-
The Haxe module around the converted definitions.

`assemble` puts the module together: package declaration, banner, the definitions
that the typedefs refer to, a class of the module's name, the body, and two line
feeds at the end.  The banner says where the body comes from.
-/
import HaxeTypedefs.Haxe.StringEnum

namespace HaxeTypedefs

/-- The name of the program that makes the module. -/
def generator : String := "flow2hx"

def packageHeader : String := "package graphql;\n"

/-- The kinds of lexical tokens. -/
def tokenKinds : StringEnum where
  name := "TokenKind"
  groups := [.ofPairs none
    [("SOF", "<SOF>"), ("EOF", "<EOF>"), ("BANG", "!"), ("DOLLAR", "$"), ("AMP", "&"),
     ("PAREN_L", "("), ("PAREN_R", ")"), ("SPREAD", "..."), ("COLON", ":"), ("EQUALS", "="),
     ("AT", "@"), ("BRACKET_L", "["), ("BRACKET_R", "]"), ("BRACE_L", "\x7b"), ("PIPE", "|"),
     ("BRACE_R", "\x7d"), ("NAME", "Name"), ("INT", "Int"), ("FLOAT", "Float"),
     ("STRING", "String"), ("BLOCK_STRING", "BlockString"), ("COMMENT", "Comment")]]

/-- The kinds of nodes of the syntax tree. -/
def nodeKinds : StringEnum where
  name := "Kind"
  groups := [
    .ofPairs (some "Name") [("NAME", "Name")],
    .ofPairs (some "Document")
      [("DOCUMENT", "Document"), ("OPERATION_DEFINITION", "OperationDefinition"),
       ("VARIABLE_DEFINITION", "VariableDefinition"), ("VARIABLE", "Variable"),
       ("SELECTION_SET", "SelectionSet"), ("FIELD", "Field"), ("ARGUMENT", "Argument")],
    .ofPairs (some "Fragments")
      [("FRAGMENT_SPREAD", "FragmentSpread"), ("INLINE_FRAGMENT", "InlineFragment"),
       ("FRAGMENT_DEFINITION", "FragmentDefinition")],
    .ofPairs (some "Values")
      [("INT", "IntValue"), ("FLOAT", "FloatValue"), ("STRING", "StringValue"),
       ("BOOLEAN", "BooleanValue"), ("NULL", "NullValue"), ("ENUM", "EnumValue"),
       ("LIST", "ListValue"), ("OBJECT", "ObjectValue"), ("OBJECT_FIELD", "ObjectField")],
    .ofPairs (some "Directives") [("DIRECTIVE", "Directive")],
    .ofPairs (some "Types")
      [("NAMED_TYPE", "NamedType"), ("LIST_TYPE", "ListType"), ("NON_NULL_TYPE", "NonNullType")],
    .ofPairs (some "Type System Definitions")
      [("SCHEMA_DEFINITION", "SchemaDefinition"),
       ("OPERATION_TYPE_DEFINITION", "OperationTypeDefinition")],
    .ofPairs (some "Type Definitions")
      [("SCALAR_TYPE_DEFINITION", "ScalarTypeDefinition"),
       ("OBJECT_TYPE_DEFINITION", "ObjectTypeDefinition"),
       ("FIELD_DEFINITION", "FieldDefinition"),
       ("INPUT_VALUE_DEFINITION", "InputValueDefinition"),
       ("INTERFACE_TYPE_DEFINITION", "InterfaceTypeDefinition"),
       ("UNION_TYPE_DEFINITION", "UnionTypeDefinition"),
       ("ENUM_TYPE_DEFINITION", "EnumTypeDefinition"),
       ("ENUM_VALUE_DEFINITION", "EnumValueDefinition"),
       ("INPUT_OBJECT_TYPE_DEFINITION", "InputObjectTypeDefinition")],
    .ofPairs (some "Type Extensions")
      [("SCALAR_TYPE_EXTENSION", "ScalarTypeExtension"),
       ("OBJECT_TYPE_EXTENSION", "ObjectTypeExtension"),
       ("INTERFACE_TYPE_EXTENSION", "InterfaceTypeExtension"),
       ("UNION_TYPE_EXTENSION", "UnionTypeExtension"),
       ("ENUM_TYPE_EXTENSION", "EnumTypeExtension"),
       ("INPUT_OBJECT_TYPE_EXTENSION", "InputObjectTypeExtension")],
    .ofPairs (some "Directive Definitions") [("DIRECTIVE_DEFINITION", "DirectiveDefinition")]]

/-- The kinds of operations.  The enum stands in for a typedef of the same name. -/
def operationTypes : StringEnum where
  name := "OperationTypeNode"
  groups := [⟨none,
    [⟨"QUERY", "query", none⟩, ⟨"MUTATION", "mutation", none⟩,
     ⟨"SUBSCRIPTION", "subscription", some "experimental non-spec"⟩]⟩]

/-- The enum as it is printed. -/
theorem render_operationTypes : operationTypes.render =
    "@:enum abstract OperationTypeNode(String) to String from String \x7b\n" ++
    "  var QUERY = 'query';\n" ++
    "  var MUTATION = 'mutation';\n" ++
    "  var SUBSCRIPTION = 'subscription'; // experimental non-spec\n" ++
    "\x7d\n" := by
  decide +kernel

theorem toList_render_operationTypes : operationTypes.render.toList =
    "@:enum abstract OperationTypeNode(String) to String from String \x7b\n".toList ++
      ("  var QUERY = 'query';\n".toList ++
      ("  var MUTATION = 'mutation';\n".toList ++
      ("  var SUBSCRIPTION = 'subscription'; // experimental non-spec\n".toList ++
      "\x7d\n".toList))) := by
  rw [render_operationTypes]
  simp only [String.toList_append, List.append_assoc]

/-- The types that the converted typedefs refer to. -/
def definitions : String :=
  "typedef TokenKindEnum = TokenKind;\n" ++
  "\n" ++
  "typedef Source = tink.parse.StringSlice;\n" ++
  "\n" ++
  "typedef BaseNode = \x7b\n" ++
  "  kind:String,\n" ++
  "  ?loc:Location\n" ++
  "\x7d\n" ++
  "\n" ++
  "// Type nodes: one shape for NamedType, ListType and NonNullType\n" ++
  "typedef TypeNode = \x7b > BaseNode,\n" ++
  "  // Optional, so consumers can null-check them:\n" ++
  "  ?name: NameNode, // NamedTypeNode only\n" ++
  "  ?type: TypeNode, // ListTypeNode and NonNullTypeNode only\n" ++
  "\x7d\n" ++
  "\n" ++
  "// TokenKind\n" ++ tokenKinds.render ++
  "\n" ++
  "// Kind\n" ++ nodeKinds.render

/-- A class without members, for the module to have a type of its own name. -/
def placeholder : String := "class ASTDefs \x7b \x7d\n"

def epilogue : String := "\n\n"

/-- Four lines that warn against editing, and a line that says where the body comes from. -/
def banner (provenance : String) : String :=
  String.join (List.replicate 4 ("/* GENERATED BY " ++ generator ++ " -- DO NOT EDIT!!! */\n")) ++
    "/* */\n" ++ "/* based on: " ++ provenance ++ " */\n" ++ "/* */\n"

/-- Everything in front of the body. -/
def preamble (provenance : String) : String :=
  packageHeader ++ "\n" ++ banner provenance ++ "\n" ++ definitions ++ "\n" ++ placeholder ++ "\n"

/-- The complete module. -/
def assemble (provenance body : String) : String :=
  preamble provenance ++ body ++ epilogue

end HaxeTypedefs
