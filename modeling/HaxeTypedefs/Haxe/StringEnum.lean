/-
String-backed enum abstracts: Haxe types whose values are a list of named strings.
-/

namespace HaxeTypedefs

/-- A named value, with a remark behind it if there is one. -/
structure EnumValue where
  name : String
  value : String
  remark : Option String
  deriving DecidableEq, Repr

/-- Values that belong together, with a comment line above them if there is one. -/
structure EnumGroup where
  heading : Option String
  values : List EnumValue
  deriving DecidableEq, Repr

structure StringEnum where
  name : String
  groups : List EnumGroup
  deriving DecidableEq, Repr

def EnumValue.render (v : EnumValue) : String :=
  "  var " ++ v.name ++ " = '" ++ v.value ++ "';" ++
    (match v.remark with
      | some remark => " // " ++ remark
      | none => "") ++ "\n"

def EnumGroup.render (g : EnumGroup) : String :=
  (match g.heading with
    | some heading => "  // " ++ heading ++ "\n"
    | none => "") ++ String.join (g.values.map EnumValue.render)

/-- The declaration, its groups a blank line apart. -/
def StringEnum.render (e : StringEnum) : String :=
  "@:enum abstract " ++ e.name ++ "(String) to String from String \x7b\n" ++
    "\n".intercalate (e.groups.map EnumGroup.render) ++ "\x7d\n"

/-- A group of values without remarks. -/
def EnumGroup.ofPairs (heading : Option String) (values : List (String × String)) : EnumGroup :=
  ⟨heading, values.map fun (name, value) => ⟨name, value, none⟩⟩

end HaxeTypedefs
