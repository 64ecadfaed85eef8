/-
Where the Flow definitions are read from.

A `Source` is the copy of a release of graphql-js or a copy of one's own.  Its
`url` goes into the banner as it stands; `Source.access` says how it is read.
-/

namespace HaxeTypedefs

/-- The release that is read if nothing else is asked for. -/
def defaultTag : String := "v0.13.2"

/-- The place of one's own copy if no other is given. -/
def defaultLocation : String := "http://127.0.0.1/ast.js"

inductive Source where
  /-- the file `src/language/ast.js` of graphql-js, at a tag -/
  | release (tag : String)
  /-- a copy at a URL or in a file -/
  | copy (location : String)
  deriving DecidableEq, Repr

/-- How a source is read. -/
inductive Access where
  | web (url : String)
  | file (path : String)
  deriving DecidableEq, Repr

/-- The text less this beginning, or the whole text if it begins otherwise. -/
def dropStart (beginning text : String) : String :=
  match beginning.toList.isPrefixOf? text.toList with
  | some rest => String.ofList rest
  | none => text

/-- A location on the web begins with `http://` or `https://`, in small letters. -/
def isWebLocation (location : String) : Bool :=
  "http://".toList.isPrefixOf location.toList || "https://".toList.isPrefixOf location.toList

namespace Source

def default : Source := release defaultTag

/-- The URL or the path of the source, as given. -/
def url : Source → String
  | release tag =>
    "https://raw.githubusercontent.com/graphql/graphql-js/" ++ tag ++ "/src/language/ast.js"
  | copy location => location

/-- The source in words. -/
def description : Source → String
  | release tag => "graphql-js " ++ tag
  | copy location => "local copy at " ++ location

/-- Releases are on the web.  A location that is not names a file, with `file://` in front or
without. -/
def access : Source → Access
  | release tag => .web (release tag).url
  | copy location =>
    if isWebLocation location then .web location else .file (dropStart "file://" location)

end Source

end HaxeTypedefs
