/-
Reading a source.

What there is to read is given by a `World`: the bytes of the files, and the texts
that the web answers with.  `Source.fetch` reads all of a source or fails.

* **`Source.fetch_eq_ok_iff`** — a file is read exactly if its bytes are the
  UTF-8 encoding of the text, which is then kept to the last character.
-/
import HaxeTypedefs.Source

namespace HaxeTypedefs

/-- Why a file cannot be read as text. -/
inductive ReadError where
  | notFound
  | notADirectory
  | isADirectory
  | nameTooLong
  /-- the path has a NUL character in it -/
  | nulInPath
  | notUtf8
  | other (reason : String)
  deriving DecidableEq, Repr

/-- The errors of the operating system come with their numbers. -/
def ReadError.message : ReadError → String
  | notFound => "No such file or directory (os error 2)"
  | notADirectory => "Not a directory (os error 20)"
  | isADirectory => "Is a directory (os error 21)"
  | nameTooLong => "File name too long (os error 36)"
  | nulInPath => "file name contained an unexpected NUL byte"
  | notUtf8 => "stream did not contain valid UTF-8"
  | other reason => reason

/-- Why the web has not answered with a text. -/
inductive DownloadError where
  /-- there was no answer at all -/
  | transport (reason : String)
  /-- the answer had a status other than 200 -/
  | status (code : Nat)
  /-- the body of the answer was not a text -/
  | body (reason : String)
  deriving DecidableEq, Repr

inductive FetchError where
  | web (url : String) (reason : DownloadError)
  | file (path : String) (reason : ReadError)
  deriving DecidableEq, Repr

namespace FetchError

def message : FetchError → String
  | web url (.transport reason) => "failed to fetch " ++ url ++ ": " ++ reason
  | web url (.status code) => "failed to fetch " ++ url ++ ": HTTP " ++ toString code
  | web url (.body reason) => "failed to read response body of " ++ url ++ ": " ++ reason
  | file path reason => "failed to read " ++ path ++ ": " ++ reason.message

/-- The error behind the error, if there is one. -/
def cause? : FetchError → Option String
  | web _ (.transport reason) => some reason
  | web _ (.status _) => none
  | web _ (.body reason) => some reason
  | file _ reason => some reason.message

end FetchError

/-- What there is to read. -/
structure World where
  /-- the bytes of the file at a path -/
  files : String → Except ReadError ByteArray
  /-- the text that a URL answers with -/
  web : String → Except DownloadError String

/-- The text whose UTF-8 encoding the bytes are. -/
def decodeText (bytes : ByteArray) : Except ReadError String :=
  match String.fromUTF8? bytes with
  | some text => .ok text
  | none => .error .notUtf8

/-- Reads the whole text of a file. -/
def World.readText (w : World) (path : String) : Except ReadError String :=
  match w.files path with
  | .ok bytes => decodeText bytes
  | .error reason => .error reason

/-- Reads the whole text of a source. -/
def Source.fetch (w : World) (s : Source) : Except FetchError String :=
  match s.access with
  | .web url => (w.web url).mapError (.web url)
  | .file path => (w.readText path).mapError (.file path)

/-- Only the UTF-8 encoding of a text is read, and read as that text. -/
theorem decodeText_eq_ok_iff {bytes : ByteArray} {text : String} :
    decodeText bytes = .ok text ↔ bytes = text.toByteArray := by
  unfold decodeText String.fromUTF8?
  by_cases hv : bytes.IsValidUTF8
  · simp only [hv, dite_true, Except.ok.injEq]
    exact ⟨fun h => h ▸ rfl, fun h => by subst h; rfl⟩
  · simp only [hv, dite_false, reduceCtorEq, false_iff]
    rintro rfl
    exact hv text.isValidUTF8

theorem World.readText_eq_ok_iff {w : World} {path text : String} :
    w.readText path = .ok text ↔ w.files path = .ok text.toByteArray := by
  unfold readText
  cases w.files path with
  | error reason => simp
  | ok bytes => simp [decodeText_eq_ok_iff]

theorem Source.fetch_eq_ok_iff {w : World} {s : Source} {path text : String}
    (h : s.access = .file path) :
    s.fetch w = .ok text ↔ w.files path = .ok text.toByteArray := by
  simp only [fetch, h, ← World.readText_eq_ok_iff]
  cases w.readText path with
  | error reason => exact ⟨nofun, nofun⟩
  | ok text => exact ⟨fun h => congrArg _ (Except.ok.inj h), fun h => congrArg _ (Except.ok.inj h)⟩

end HaxeTypedefs
