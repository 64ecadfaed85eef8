/-
The arguments of the command line, and the variables of the environment that
stand in for them.

Arguments are read from left to right.  Asking for help or for the version, or
the first misuse, ends the reading at once, so what stands behind is not looked
at.  An argument wins over its variable, whose value is then not even checked.

* **`Arguments.read`** reads the words of the command line;
* **`Arguments.settings`** completes them from the environment.
-/
import HaxeTypedefs.Conversion

namespace HaxeTypedefs

/-- Which of the two copies is converted. -/
inductive SourceKind where
  | release
  | copy
  deriving DecidableEq, Repr

namespace SourceKind

def name : SourceKind → String
  | release => "remote"
  | copy => "local"

def ofName? (word : String) : Option SourceKind :=
  [release, copy].find? fun kind => kind.name == word

end SourceKind

/-- The options that take a value. -/
inductive ValueOption where
  | source
  | tag
  | location
  deriving DecidableEq, Repr

namespace ValueOption

def name : ValueOption → String
  | source => "source"
  | tag => "tag"
  | location => "local"

/-- The variable of the environment that can give the value. -/
def variableName : ValueOption → String
  | source => "FLOW2HX_SOURCE"
  | tag => "FLOW2HX_TAG"
  | location => "FLOW2HX_LOCAL"

def ofName? (word : String) : Option ValueOption :=
  [source, tag, location].find? fun option => option.name == word

end ValueOption

/-- What is wrong with a command line. -/
inductive Misuse where
  | unknownOption (word : String)
  | unexpectedArgument (word : String)
  | missingValue (option : String)
  | repeatedOption (option : String)
  | valueForFlag (option : String)
  | unknownSource (value : String)
  deriving DecidableEq, Repr

def Misuse.message : Misuse → String
  | unknownOption word => "unexpected argument '" ++ word ++ "' found"
  | unexpectedArgument word => "unexpected argument '" ++ word ++ "' found"
  | missingValue option => "a value is required for '--" ++ option ++ "' but none was supplied"
  | repeatedOption option => "the argument '--" ++ option ++ "' cannot be used multiple times"
  | valueForFlag option => "unexpected value for '--" ++ option ++ "' found; no more were expected"
  | unknownSource value => "invalid value '" ++ value ++ "' for '--source'"

/-- Why the arguments are not read to their end. -/
inductive Stop where
  | help
  | version
  | misuse (what : Misuse)
  deriving DecidableEq, Repr

/-- What the command line has given. -/
structure Arguments where
  source : Option SourceKind
  tag : Option String
  location : Option String
  strict : Bool
  /-- how often more logging has been asked for -/
  verbosity : Nat
  deriving DecidableEq, Repr

namespace Arguments

/-- What an empty command line gives. -/
def empty : Arguments := ⟨none, none, none, false, 0⟩

/-- Gives an option its value. -/
def set (a : Arguments) (option : ValueOption) (value : String) : Except Stop Arguments :=
  let repeated : Except Stop Arguments := .error (.misuse (.repeatedOption option.name))
  match option with
  | .source =>
    match SourceKind.ofName? value with
    | none => .error (.misuse (.unknownSource value))
    | some kind => if a.source.isSome then repeated else .ok { a with source := kind }
  | .tag => if a.tag.isSome then repeated else .ok { a with tag := value }
  | .location => if a.location.isSome then repeated else .ok { a with location := value }

/-- Reads a flag by its long name. -/
def readFlag (a : Arguments) (word : String) : Except Stop Arguments :=
  match word with
  | "strict" =>
    if a.strict then .error (.misuse (.repeatedOption word)) else .ok { a with strict := true }
  | "verbose" => .ok { a with verbosity := a.verbosity + 1 }
  | "help" => .error .help
  | "version" => .error .version
  | _ => .error (.misuse (.unknownOption ("--" ++ word)))

/-- The names of the flags, which take no value. -/
def flagNames : List String := ["strict", "verbose", "help", "version"]

/-- Reads flags of one letter each that share one hyphen. -/
def readLetters (a : Arguments) : List Char → Except Stop Arguments
  | [] => .ok a
  | 'v' :: letters => { a with verbosity := a.verbosity + 1 : Arguments }.readLetters letters
  | 'h' :: _ => .error .help
  | 'V' :: _ => .error .version
  | letter :: _ => .error (.misuse (.unknownOption ("-".push letter)))

/-- How a word of the command line is meant. -/
inductive Word where
  /-- a long option, `--name` or `--name=value` -/
  | long (name : String) (value : Option String)
  /-- letters behind one hyphen -/
  | letters (cs : List Char)
  /-- two hyphens alone, behind which there are no options -/
  | separator
  | plain
  deriving DecidableEq, Repr

/-- Splits at the first `=`. -/
def splitValue (cs : List Char) : String × Option String :=
  match cs.dropWhile (· != '=') with
  | _ :: value => (String.ofList (cs.takeWhile (· != '=')), some (String.ofList value))
  | [] => (String.ofList cs, none)

def Word.of (word : String) : Word :=
  match word.toList with
  | ['-', '-'] => .separator
  | '-' :: '-' :: cs => let (name, value) := splitValue cs; .long name value
  | ['-'] => .plain
  | '-' :: cs => .letters cs
  | _ => .plain

/-- Reads the words that follow; `awaiting` is an option whose value has not come yet.  Only a
word that is no option can be that value. -/
def readFrom (a : Arguments) (awaiting : Option ValueOption) :
    List String → Except Stop Arguments
  | [] =>
    match awaiting with
    | some option => .error (.misuse (.missingValue option.name))
    | none => .ok a
  | word :: words =>
    match awaiting, Word.of word with
    | some option, .plain => do (← a.set option word).readFrom none words
    | some option, _ => .error (.misuse (.missingValue option.name))
    | none, .plain => .error (.misuse (.unexpectedArgument word))
    | none, .letters cs => do (← a.readLetters cs).readFrom none words
    | none, .separator =>
      match words with
      | [] => .ok a
      | argument :: _ => .error (.misuse (.unexpectedArgument argument))
    | none, .long name value =>
      match ValueOption.ofName? name, value with
      | some option, some value => do (← a.set option value).readFrom none words
      | some option, none => a.readFrom (some option) words
      | none, some _ =>
        .error (.misuse (if name ∈ flagNames then .valueForFlag name else .unknownOption word))
      | none, none => do (← a.readFlag name).readFrom none words

/-- Reads a whole command line. -/
def read (words : List String) : Except Stop Arguments :=
  empty.readFrom none words

end Arguments

/-- The variables of the environment that the program looks at, if they are set. -/
structure Environment where
  source : Option String
  tag : Option String
  location : Option String
  /-- which log lines are wanted -/
  log : Option String
  deriving DecidableEq, Repr

/-- The value of an option's variable. -/
def Environment.value (env : Environment) : ValueOption → Option String
  | .source => env.source
  | .tag => env.tag
  | .location => env.location

/-- What the program is to do. -/
structure Settings where
  source : Source
  mode : Mode
  verbosity : Nat
  deriving DecidableEq, Repr

/-- The kind of source: by argument, by variable, or else a release. -/
def Arguments.sourceKind (a : Arguments) (env : Environment) : Except Misuse SourceKind :=
  match a.source, env.source with
  | some kind, _ => .ok kind
  | none, none => .ok .release
  | none, some value =>
    match SourceKind.ofName? value with
    | some kind => .ok kind
    | none => .error (.unknownSource value)

/-- The arguments, completed by the environment and by default values. -/
def Arguments.settings (a : Arguments) (env : Environment) : Except Misuse Settings :=
  let source : SourceKind → Source
    | .release => .release ((a.tag <|> env.tag).getD defaultTag)
    | .copy => .copy ((a.location <|> env.location).getD defaultLocation)
  (a.sourceKind env).map fun kind =>
    ⟨source kind, if a.strict then .strict else .lenient, a.verbosity⟩

end HaxeTypedefs
