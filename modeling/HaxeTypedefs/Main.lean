/-
The command line program.

It looks up the environment, reads the one file that the arguments ask for, and
writes what `program` answers.  There is no access to the web here: a source on
the web fails as one that does not answer.
-/
import HaxeTypedefs.CommandLine.Program

namespace HaxeTypedefs

/-- The reason of a failed system call, by the number of the error.  Some calls give the number
with its sign changed. -/
def ReadError.ofCode (code : UInt32) (details : String) : ReadError :=
  match min code (0 - code) with
  | 2 => .notFound
  | 20 => .notADirectory
  | 21 => .isADirectory
  | 36 => .nameTooLong
  | _ => .other (details ++ " (os error " ++ toString (min code (0 - code)) ++ ")")

def ReadError.ofError : IO.Error → ReadError
  | .alreadyExists _ code details
  | .resourceExhausted _ code details
  | .invalidArgument _ code details
  | .permissionDenied _ code details
  | .inappropriateType _ code details
  | .noSuchThing _ code details
  | .noFileOrDirectory _ code details
  | .interrupted _ code details
  | .otherError code details
  | .hardwareFault code details
  | .timeExpired code details => ofCode code details
  | error => .other (toString error)

/-- The environment of the process. -/
def Environment.current : IO Environment := do
  let value (option : ValueOption) : IO (Option String) := IO.getEnv option.variableName
  return ⟨← value .source, ← value .tag, ← value .location, ← IO.getEnv "RUST_LOG"⟩

/-- A world with the one file that is needed. -/
def World.holding (access : Option Access) : IO World := do
  let file : Except ReadError ByteArray ←
    match access with
    | some (.file path) =>
      try pure (.ok (← IO.FS.readBinFile path))
      catch error => pure (.error (.ofError error))
    | _ => pure (.error .notFound)
  return ⟨fun _ => file, fun _ => .error (.transport "network access is not available")⟩

end HaxeTypedefs

open HaxeTypedefs in
def main (words : List String) : IO UInt32 := do
  let env ← Environment.current
  let world ← World.holding (neededAccess? words env)
  let exit := program words env world
  (← IO.getStderr).putStr exit.stderr
  (← IO.getStdout).putStr exit.stdout
  return exit.code.toUInt32
