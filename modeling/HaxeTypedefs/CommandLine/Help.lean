/-
The texts that the program shows about itself.

The help is written for a terminal, with headings and the names of options in
bold type, and shown as plain text.  This is how it stays readable when the
value of a variable leaves a control sequence open: the next bold word ends it.
-/
import HaxeTypedefs.CommandLine.Arguments
import HaxeTypedefs.CommandLine.Log

namespace HaxeTypedefs

def versionText : String := generator ++ " 0.1.0\n"

/-- The variable of an option as the help shows it, with its value if it is set. -/
def shownVariable (env : Environment) (option : ValueOption) : String :=
  "[env: " ++ option.variableName ++ "=" ++ (env.value option).getD "" ++ "]"

/-- The text in bold type. -/
def bold (text : String) : String :=
  "\x1b[1m" ++ text ++ "\x1b[0m"

/-- The text as a heading. -/
def heading (text : String) : String :=
  "\x1b[1m\x1b[4m" ++ text ++ "\x1b[0m"

/-- The line of an option, further lines of its description below the first one. -/
def optionHelp (names gap description : String) : String :=
  names ++ gap ++ indentRest (String.ofList (List.replicate 25 ' ')) description ++ "\n"

/-- The help as it is written for a terminal. -/
def styledHelp (env : Environment) : String :=
  "Generates Haxe GraphQL AST typedefs from the Flow definitions of graphql-js\n" ++
  "\n" ++
  heading "Usage:" ++ " " ++ bold generator ++ " [OPTIONS]\n" ++
  "\n" ++
  heading "Options:" ++ "\n" ++
  optionHelp ("      " ++ bold "--source" ++ " <SOURCE>") "  "
    ("Which copy of ast.js to translate " ++ shownVariable env .source ++
      " [default: remote] [possible values: remote, local]") ++
  optionHelp ("      " ++ bold "--tag" ++ " <TAG>") "        "
    ("graphql-js release tag used with the remote source " ++ shownVariable env .tag ++
      " [default: " ++ defaultTag ++ "]") ++
  optionHelp ("      " ++ bold "--local" ++ " <LOCAL>") "    "
    ("URL or path of the local copy " ++ shownVariable env .location ++
      " [default: " ++ defaultLocation ++ "]") ++
  optionHelp ("      " ++ bold "--strict") "           "
    "Fail if any rewrite rule matched nothing" ++
  optionHelp ("  " ++ bold "-v" ++ ", " ++ bold "--verbose" ++ "...") "       "
    "More logging on stderr (-v info, -vv debug)" ++
  optionHelp ("  " ++ bold "-h" ++ ", " ++ bold "--help") "             " "Print help" ++
  optionHelp ("  " ++ bold "-V" ++ ", " ++ bold "--version") "          " "Print version"

def helpText (env : Environment) : String :=
  visibleText (styledHelp env)

end HaxeTypedefs
