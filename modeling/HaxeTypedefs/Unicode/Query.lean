/-
Sets of characters by the name of a property, or by its name and a value.

A single name can be that of a property that characters have or have not, of a
general category or of a script.

* **`PropertyQuery.answer`** — the characters in question, or which name is unknown.
-/
import HaxeTypedefs.Unicode.Age
import HaxeTypedefs.Unicode.Segmentation

namespace HaxeTypedefs

/-- What is asked for. -/
inductive PropertyQuery where
  | name (word : String)
  | value (property word : String)
  deriving DecidableEq, Repr

/-- Which name leads nowhere. -/
inductive UnknownName where
  | property
  | value
  deriving DecidableEq, Repr

/-- The properties that can be asked for by value: their names, and the values. -/
def valuedProperties : List (List String × (String → Option CharSet)) :=
  [(["gc", "General_Category"], categoryNamed?),
   (["sc", "Script"], scriptNamed?),
   (["scx", "Script_Extensions"], scriptExtensionNamed?),
   (["age"], ageNamed?),
   (["GCB", "Grapheme_Cluster_Break"], graphemeBreakNamed?),
   (["WB", "Word_Break"], wordBreakNamed?),
   (["SB", "Sentence_Break"], sentenceBreakNamed?)]

/-- The names of the other properties, for which there are no tables here. -/
def otherPropertyNames : List String :=
  ["cjkAccountingNumeric", "kAccountingNumeric", "cjkOtherNumeric", "kOtherNumeric",
   "cjkPrimaryNumeric", "kPrimaryNumeric", "nv", "Numeric_Value", "bmg", "Bidi_Mirroring_Glyph",
   "bpb", "Bidi_Paired_Bracket", "cf", "Case_Folding", "cjkCompatibilityVariant",
   "kCompatibilityVariant", "dm", "Decomposition_Mapping", "EqUIdeo",
   "Equivalent_Unified_Ideograph", "FC_NFKC", "FC_NFKC_Closure", "lc", "Lowercase_Mapping",
   "NFKC_CF", "NFKC_Casefold", "NFKC_SCF", "NFKC_Simple_Casefold", "scf", "Simple_Case_Folding",
   "sfc", "slc", "Simple_Lowercase_Mapping", "stc", "Simple_Titlecase_Mapping", "suc",
   "Simple_Uppercase_Mapping", "tc", "Titlecase_Mapping", "uc", "Uppercase_Mapping", "cjkIICore",
   "kIICore", "cjkIRG_GSource", "kIRG_GSource", "cjkIRG_HSource", "kIRG_HSource",
   "cjkIRG_JSource", "kIRG_JSource", "cjkIRG_KPSource", "kIRG_KPSource", "cjkIRG_KSource",
   "kIRG_KSource", "cjkIRG_MSource", "kIRG_MSource", "cjkIRG_SSource", "kIRG_SSource",
   "cjkIRG_TSource", "kIRG_TSource", "cjkIRG_UKSource", "kIRG_UKSource", "cjkIRG_USource",
   "kIRG_USource", "cjkIRG_VSource", "kIRG_VSource", "cjkRSUnicode", "kRSUnicode",
   "Unicode_Radical_Stroke", "URS", "isc", "ISO_Comment", "JSN", "Jamo_Short_Name", "kEH_Cat",
   "kEH_Desc", "kEH_HG", "kEH_IFAO", "kEH_JSesh", "kEH_NoMirror", "kEH_NoRotate", "kEH_UniK",
   "na", "Name", "na1", "Unicode_1_Name", "Name_Alias", "blk", "Block", "bc", "Bidi_Class", "bpt",
   "Bidi_Paired_Bracket_Type", "ccc", "Canonical_Combining_Class", "dt", "Decomposition_Type",
   "ea", "East_Asian_Width", "hst", "Hangul_Syllable_Type", "InCB", "Indic_Conjunct_Break",
   "InPC", "Indic_Positional_Category", "InSC", "Indic_Syllabic_Category", "jg", "Joining_Group",
   "jt", "Joining_Type", "lb", "Line_Break", "NFC_QC", "NFC_Quick_Check", "NFD_QC",
   "NFD_Quick_Check", "NFKC_QC", "NFKC_Quick_Check", "NFKD_QC", "NFKD_Quick_Check", "nt",
   "Numeric_Type", "vo", "Vertical_Orientation", "CE", "Composition_Exclusion", "Comp_Ex",
   "Full_Composition_Exclusion", "CWKCF", "Changes_When_NFKC_Casefolded", "XO_NFC",
   "Expands_On_NFC", "XO_NFD", "Expands_On_NFD", "XO_NFKC", "Expands_On_NFKC", "XO_NFKD",
   "Expands_On_NFKD"]

/-- There is a property of this name, which has values or is not given here. -/
def isPropertyName (name : String) : Bool :=
  isLooselyOneOf (valuedProperties.flatMap Prod.fst ++ otherPropertyNames) name

/-- These are names of categories, though properties have them as well. -/
def namesOfCategoriesFirst : List String := ["cf", "sc", "lc"]

/-- The characters of a category or a script. -/
def valueNamed (name : String) : Except UnknownName CharSet :=
  match categoryNamed? name with
  | some s => .ok s
  | none =>
    if isLooselyOneOf Category.surrogateNames name then .error .value
    else match scriptNamed? name with
      | some s => .ok s
      | none =>
        .error (if isLooselyOneOf emptyScriptNames name then .value else .property)

def PropertyQuery.answer : PropertyQuery → Except UnknownName CharSet
  | name word =>
    if isLooselyOneOf namesOfCategoriesFirst word then valueNamed word
    else match binaryPropertyNamed? word with
      | some s => .ok s
      | none => if isPropertyName word then .error .property else valueNamed word
  | value property word =>
    match valuedProperties.find? fun entry => isLooselyOneOf entry.1 property with
    | some (_, named?) => (named? word).elim (.error .value) .ok
    | none =>
      if isPropertyName property || (binaryPropertyNamed? property).isSome then .error .value
      else .error .property

end HaxeTypedefs
