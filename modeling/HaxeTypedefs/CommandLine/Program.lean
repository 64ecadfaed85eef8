/-
The whole program as a function: arguments, environment and what there is to
read go in; an exit code and the texts for the two output streams come out.

The converted module is written as a whole or not at all.  Log lines and reports
of failures go to the second stream only.
-/
import HaxeTypedefs.CommandLine.Help
import HaxeTypedefs.CommandLine.Log

namespace HaxeTypedefs

/-- What a run of the program leaves behind. -/
structure Exit where
  code : Nat
  stdout : String
  stderr : String
  deriving DecidableEq, Repr

/-- A cause in the report of a failure; several causes are numbered from zero. -/
def reportedCause : Option Nat → String → String
  | none, text => "    " ++ indentRest "    " text ++ "\n"
  | some number, text =>
    String.ofList ((toString number).toList.leftpad 5 ' ') ++ ": " ++
      indentRest "       " text ++ "\n"

/-- The report of a failed conversion with the causes of the failure. -/
def failureReport (s : Source) (failure : Failure) : String :=
  let causes := match failure.cause? with
    | none => reportedCause none failure.message
    | some cause => reportedCause (some 0) failure.message ++ reportedCause (some 1) cause
  "Error: failed to translate " ++ s.description ++ "\n\nCaused by:\n" ++ causes

/-- The log line for a rule that has been applied. -/
def Step.logLine (step : Step) : LogLine :=
  ⟨.debug, generator ++ "::translate",
    "rule " ++ toString step.rule.number ++ " (" ++ step.rule.name ++ "): " ++
      toString step.count ++ " replacement(s)"⟩

/-- The log lines of a conversion: what is converted, what is read, and the steps of the run, as
far as it gets. -/
def conversionLog (w : World) (s : Source) : List LogLine :=
  let reading := generator ++ "::source"
  [⟨.info, generator, "translating " ++ s.description⟩,
   ⟨.info, reading, "reading " ++ s.url⟩] ++
  match s.fetch w with
  | .error _ => []
  | .ok text =>
    ⟨.info, reading, "read " ++ toString text.utf8ByteSize ++ " bytes"⟩ ::
      (Run.of text.toList).steps.map Step.logLine

/-- The log as written: complaints about the list of directives, then the lines that the filter
allows. -/
def writtenLog (verbosity : Nat) (directives : Option String) (lines : List LogLine) : String :=
  let (filter, complaints) := LogFilter.ofSettings verbosity directives
  let warnings := complaints.map fun c => "warning: " ++ c.message ++ ", ignoring it\n"
  String.join (warnings ++ (lines.filter filter.allows).map LogLine.render)

/-- The exit of a run that converts. -/
def Settings.exit (settings : Settings) (directives : Option String) (w : World) : Exit :=
  let log := writtenLog settings.verbosity directives (conversionLog w settings.source)
  match convertSource settings.mode w settings.source with
  | .ok converted => ⟨0, converted, log⟩
  | .error failure => ⟨1, "", log ++ failureReport settings.source failure⟩

/-- The exit of a misused command line. -/
def Misuse.exit (what : Misuse) : Exit :=
  ⟨2, "", "error: " ++ what.message ++ "\n"⟩

/-- How the program would read its source, if the command line makes it read one. -/
def neededAccess? (words : List String) (env : Environment) : Option Access :=
  match Arguments.read words with
  | .error _ => none
  | .ok arguments =>
    match arguments.settings env with
    | .error _ => none
    | .ok settings => some settings.source.access

/-- Runs the program. -/
def program (words : List String) (env : Environment) (w : World) : Exit :=
  match Arguments.read words with
  | .error .help => ⟨0, helpText env, ""⟩
  | .error .version => ⟨0, versionText, ""⟩
  | .error (.misuse what) => what.exit
  | .ok arguments =>
    match arguments.settings env with
    | .error what => what.exit
    | .ok settings => settings.exit env.log w

end HaxeTypedefs
