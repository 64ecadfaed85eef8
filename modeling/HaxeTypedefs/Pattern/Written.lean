/-
Patterns in the usual notation of regular expressions.

The marked part of a target is the first group.  Line starts need the flag `m`
in this notation and a dot that reads line feeds needs the flag `s`; a pattern
that uses them is written with the flags in front, and only then.
-/
import HaxeTypedefs.Pattern.Search

namespace HaxeTypedefs

/-- The characters that stand for themselves only behind a backslash. -/
def reservedChars : List Char :=
  ['\\', '.', '+', '*', '?', '(', ')', '|', '[', ']', '\x7b', '\x7d', '^', '$']

/-- A character that stands for itself. -/
def writtenChar (c : Char) : String :=
  if c = '\n' then "\\n"
  else if c ∈ reservedChars then "\\".push c
  else c.toString

def writtenText (w : List Char) : String :=
  String.join (w.map writtenChar)

/-- The class, where a dot reads line feeds too if `dotAll` holds. -/
def CharClass.written (dotAll : Bool) : CharClass → String
  | word => "\\w"
  | blank => "\\s"
  | inLine => if dotAll then "[^\\n]" else "."
  | any => if dotAll then "." else "[\\s\\S]"
  | among cs => "[" ++ writtenText cs ++ "]"

/-- The sign for the least number of characters of a run. -/
def writtenLeast : Nat → String
  | 0 => "*"
  | 1 => "+"
  | n => "\x7b" ++ toString n ++ ",\x7d"

namespace Pattern

def hasLineStart : Pattern → Bool
  | lineStart => true
  | maybe p => p.hasLineStart
  | either p q | seq p q => p.hasLineStart || q.hasLineStart
  | _ => false

/-- Some run or class of the pattern reads every character. -/
def readsAny : Pattern → Bool
  | one k | run k _ _ => k == .any
  | maybe p => p.readsAny
  | either p q | seq p q => p.readsAny || q.readsAny
  | _ => false

def isChoice : Pattern → Bool
  | either _ _ => true
  | _ => false

/-- The regular expression as a group, if it has to be one. -/
def grouped (need : Bool) (written : String) : String :=
  if need then "(" ++ written ++ ")" else written

/-- The pattern as a regular expression; alternatives inside a sequence are a group. -/
def written (dotAll : Bool) : Pattern → String
  | nothing => ""
  | text w => writtenText w
  | one k => k.written dotAll
  | run k least .most => k.written dotAll ++ writtenLeast least
  | run k least .fewest => k.written dotAll ++ writtenLeast least ++ "?"
  | maybe (one k) => k.written dotAll ++ "?"
  | maybe p => grouped true (p.written dotAll) ++ "?"
  | either p q => p.written dotAll ++ "|" ++ q.written dotAll
  | seq p q => grouped p.isChoice (p.written dotAll) ++ grouped q.isChoice (q.written dotAll)
  | lineStart => "^"
  | wordEdge => "\\b"

end Pattern

namespace Target

def parts (t : Target) : List Pattern := [t.lead, t.marked.getD .nothing, t.trail]

/-- The target as a regular expression with its flags, the marked part as a group. -/
def written (t : Target) : String :=
  let lineMode := t.parts.any Pattern.hasLineStart
  let dotAll := t.parts.any Pattern.readsAny
  let group := match t.marked with
    | some p => Pattern.grouped true (p.written dotAll)
    | none => ""
  (if lineMode then "(?m)" else "") ++ (if dotAll then "(?s)" else "") ++
    t.lead.written dotAll ++ group ++ t.trail.written dotAll

end Target

end HaxeTypedefs
