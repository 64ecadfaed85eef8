/-
Converting a Flow module of type definitions to a Haxe module.

`convert` runs the rules over a text and assembles the module around the result;
`convertSource` reads the text first.  A lenient conversion takes a rule that
replaces nothing as it is; a strict one fails and names every such rule.

* **`convert_lenient`** — a lenient conversion never fails.
-/
import HaxeTypedefs.Run
import HaxeTypedefs.Source.Fetch

namespace HaxeTypedefs

/-- What becomes of a conversion in which some rule has replaced nothing. -/
inductive Mode where
  | lenient
  | strict
  deriving DecidableEq, Repr

/-- Why there is no converted module. -/
inductive Failure where
  | fetch (error : FetchError)
  /-- in strict mode, the rules that have replaced nothing -/
  | unmatched (rules : List Rule)
  deriving DecidableEq, Repr

namespace Failure

/-- The rules by number and name. -/
def listRules (rules : List Rule) : String :=
  ", ".intercalate (rules.map fun rule => toString rule.number ++ " (" ++ rule.name ++ ")")

def message : Failure → String
  | fetch error => error.message
  | unmatched rules => "rewrite rules matched nothing: " ++ listRules rules

/-- The error behind the failure, if there is one. -/
def cause? : Failure → Option String
  | fetch error => error.cause?
  | unmatched _ => none

end Failure

/-- The module made from the text of a finished run, if the mode lets it pass. -/
def Run.finish (mode : Mode) (provenance : String) (r : Run) : Except Failure String :=
  if mode = .strict ∧ r.report.unmatched ≠ [] then .error (.unmatched r.report.unmatched)
  else .ok (assemble provenance (String.ofList r.text))

/-- Converts a text; the banner names its provenance. -/
def convert (mode : Mode) (text provenance : String) : Except Failure String :=
  (Run.of text.toList).finish mode provenance

/-- Reads a source and converts it, its URL being the provenance. -/
def convertSource (mode : Mode) (w : World) (s : Source) : Except Failure String :=
  match s.fetch w with
  | .ok text => convert mode text s.url
  | .error reason => .error (.fetch reason)

theorem convert_lenient (text provenance : String) :
    convert .lenient text provenance =
      .ok (assemble provenance (String.ofList (Run.of text.toList).text)) := by
  simp [convert, Run.finish]

end HaxeTypedefs
