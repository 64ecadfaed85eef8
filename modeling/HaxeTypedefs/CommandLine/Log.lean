/-
Log lines, and which of them are written.

A filter is a list of directives, each with the beginning of the targets it is
about and the least urgent level that it lets pass.  The directive with the
longest matching beginning decides; the one without a beginning counts as the
shortest, and of equally long ones the later decides.  A regular expression can
say in addition what has to be found in the message.

* **`LogFilter.ofSettings`** begins with the level that the arguments ask for and adds
  the directives of the environment to it.
-/
import HaxeTypedefs.Expression.Meaning
import HaxeTypedefs.Expression.Opening
import HaxeTypedefs.Expression.Search
import HaxeTypedefs.Expression.Size
import HaxeTypedefs.Text.Terminal

namespace HaxeTypedefs

/-- How urgent a log line is. -/
inductive Level where
  | error
  | warn
  | info
  | debug
  | trace
  deriving DecidableEq, Repr

namespace Level

/-- The most urgent level comes first. -/
def rank : Level → Nat
  | error => 1
  | warn => 2
  | info => 3
  | debug => 4
  | trace => 5

def name : Level → String
  | error => "ERROR"
  | warn => "WARN"
  | info => "INFO"
  | debug => "DEBUG"
  | trace => "TRACE"

end Level

/-- The least urgent level that passes, or `none` if nothing does. -/
abbrev Threshold := Option Level

/-- A threshold by its name, in capital or small letters. -/
def Threshold.ofName? (word : String) : Option Threshold :=
  let upper := word.map Char.toUpper
  if upper = "OFF" then some none
  else
    ([.error, .warn, .info, .debug, .trace].find? fun level => Level.name level == upper).map some

def Threshold.allows (t : Threshold) (level : Level) : Bool :=
  t.any fun least => level.rank ≤ least.rank

structure LogLine where
  level : Level
  /-- the part of the program that speaks -/
  target : String
  message : String
  deriving DecidableEq, Repr

/-- The text with this margin in front of every line but the first. -/
def indentRest (margin text : String) : String :=
  String.ofList (text.toList.flatMap fun c => if c = '\n' then '\n' :: margin.toList else [c])

/-- Level and target in brackets, the name of the level five characters wide. -/
def LogLine.render (l : LogLine) : String :=
  visibleText <|
    "[" ++ String.ofList (l.level.name.toList.rightpad 5 ' ') ++ " " ++ l.target ++ "] " ++
      indentRest "    " l.message ++ "\n"

structure Directive where
  /-- the beginning of the targets in question -/
  beginning : Option String
  threshold : Threshold
  deriving DecidableEq, Repr

namespace Directive

def length (d : Directive) : Nat :=
  (d.beginning.getD "").length

def isAbout (d : Directive) (target : String) : Bool :=
  (d.beginning.getD "").toList.isPrefixOf target.toList

/-- Reads one item of a list of directives: a level, a beginning with a level, or a beginning
alone, which lets everything pass.  The error is the part that cannot be read. -/
def read (item : String) : Except String Directive :=
  match item.splitOn "=" with
  | [word] =>
    match Threshold.ofName? word with
    | some threshold => .ok ⟨none, threshold⟩
    | none => .ok ⟨some word, some .trace⟩
  | [beginning, level] =>
    let level := trimBlanks level
    if level = "" then .ok ⟨some beginning, some .trace⟩
    else match Threshold.ofName? level with
      | some threshold => .ok ⟨some beginning, threshold⟩
      | none => .error level
  | _ => .error item

end Directive

structure LogFilter where
  directives : List Directive
  /-- what has to be found in a message -/
  message : Option Search
  deriving DecidableEq, Repr

/-- What the list of directives in the environment has that cannot be used. -/
inductive LogComplaint where
  | directive (part : String)
  /-- more than one slash -/
  | slashes (list : String)
  | expression (written : String) (flaw : Flaw)
  | tooLarge
  deriving DecidableEq, Repr

def LogComplaint.message : LogComplaint → String
  | directive part => "invalid logging spec '" ++ part ++ "'"
  | slashes list => "invalid logging spec '" ++ list ++ "' (too many '/'s)"
  | expression written flaw => "invalid regex filter - " ++ flaw.report written
  | tooLarge =>
    s!"invalid regex filter - Compiled regex exceeds size limit of {MachineSize.limit} bytes."

namespace LogFilter

/-- Adds a directive, in the place of one with the same beginning if there is one. -/
def add (f : LogFilter) (d : Directive) : LogFilter :=
  if f.directives.any fun e => e.beginning == d.beginning then
    { f with directives := f.directives.map fun e => if e.beginning == d.beginning then d else e }
  else { f with directives := f.directives ++ [d] }

/-- The directive that decides about a target. -/
def deciding? (f : LogFilter) (target : String) : Option Directive :=
  f.directives.foldl
    (fun best d =>
      if d.isAbout target && best.all fun b => b.length ≤ d.length then some d else best)
    none

/-- The line is written. -/
def allows (f : LogFilter) (line : LogLine) : Bool :=
  (f.deciding? line.target).any (fun d => d.threshold.allows line.level) &&
    f.message.all fun search => search.finds line.message

/-- The items of a list of directives. -/
def items (list : String) : List String :=
  ((list.splitOn ",").map trimBlanks).filter (· ≠ "")

/-- The threshold that the arguments ask for. -/
def ofVerbosity : Nat → Threshold
  | 0 => some .warn
  | 1 => some .info
  | _ => some .debug

/-- Adds the directives of a list, and tells which of them cannot be read. -/
def addList (f : LogFilter) (list : String) : LogFilter × List LogComplaint :=
  (items list).foldl
    (fun (filter, complaints) item =>
      match Directive.read item with
      | .ok d => (filter.add d, complaints)
      | .error part => (filter, complaints ++ [.directive part]))
    (f, [])

/-- The filter of a run.  The list from the environment may end in a slash and a regular
expression. -/
def ofSettings (verbosity : Nat) (list : Option String) : LogFilter × List LogComplaint :=
  let asked : LogFilter := ⟨[⟨none, ofVerbosity verbosity⟩], none⟩
  let list := list.getD ""
  match list.splitOn "/" with
  | [directives] => asked.addList directives
  | [directives, written] =>
    let (filter, complaints) := asked.addList directives
    match Expression.read written with
    | .ok e =>
      let e := e.inWords
      if e.isTooLarge then (filter, complaints ++ [.tooLarge])
      else ({ filter with message := some (.of e) }, complaints)
    | .error flaw => (filter, complaints ++ [.expression written flaw])
  | _ => (asked, [.slashes list])

end LogFilter

end HaxeTypedefs
