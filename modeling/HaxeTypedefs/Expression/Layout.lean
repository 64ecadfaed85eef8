/-
The layout of a written regular expression.

In a spaced layout white space does not count, nor does what stands from a number
sign to the end of its line.  Where such gaps are allowed, the readers ask the
layout for what is ahead of them.  A position is found from the number of
characters that are ahead.
-/
import HaxeTypedefs.Expression.Flaw
import HaxeTypedefs.Text.Blank

namespace HaxeTypedefs

/-- What is ahead of white space and comments; a comment can have begun before. -/
def dropGap : (inComment : Bool) → List Char → List Char
  | _, [] => []
  | true, c :: rest => dropGap (c != '\n') rest
  | false, c :: rest =>
    if isBlank c then dropGap false rest
    else if c = '#' then dropGap true rest
    else c :: rest

structure Layout where
  /-- how many characters the whole text has -/
  size : Nat
  spaced : Bool
  deriving DecidableEq, Repr

namespace Layout

/-- The position from which on just these characters are ahead. -/
def position (l : Layout) (ahead : List Char) : Nat :=
  l.size - ahead.length

/-- The characters that are ahead in the first list, but no longer in the second. -/
def span (l : Layout) (first last : List Char) : Span :=
  ⟨l.position first, l.position last⟩

/-- The next of the characters ahead alone. -/
def spanNext (l : Layout) (ahead : List Char) : Span :=
  l.span ahead (ahead.drop 1)

/-- A failure at the end of the text. -/
def flawAtEnd {α : Type} (l : Layout) (kind : FlawKind) : Except Flaw α :=
  flawAt kind (l.span [] [])

/-- What is ahead of a gap. -/
def next (l : Layout) (ahead : List Char) : List Char :=
  if l.spaced then dropGap false ahead else ahead

/-- The characters that meet a condition, at most so many, and what is ahead of them and of the
gaps behind each of them. -/
def run (l : Layout) (p : Char → Bool) : (most : Nat) → List Char → List Char × List Char
  | most + 1, c :: rest =>
    if p c then
      let (cs, ahead) := l.run p most (l.next rest)
      (c :: cs, ahead)
    else ([], c :: rest)
  | _, ahead => ([], ahead)

/-- All characters that meet a condition. -/
def runAll (l : Layout) (p : Char → Bool) (ahead : List Char) : List Char × List Char :=
  l.run p ahead.length ahead

end Layout

end HaxeTypedefs
