/-
Regular expressions as they are written.

A `Tree` has everything that the meaning of a written expression depends on, and
where it is written.  A level marks what counts when the nesting of an
expression is limited: a group, a repetition, several parts in a row, several
alternatives, and the same for sets between brackets.

* **`Tree.beyondLimit?`** — the first level in the order of the text that lies too deep.
-/
import HaxeTypedefs.Expression.Basic
import HaxeTypedefs.Expression.Flaw
import HaxeTypedefs.Text.CharSet
import HaxeTypedefs.Unicode.Query

namespace HaxeTypedefs

/-- A character that stands for itself. -/
structure WrittenChar where
  char : Char
  /-- written by two hexadecimal digits, which can be a byte as well -/
  isByte : Bool
  span : Span
  deriving DecidableEq, Repr

/-- The sets that a letter after a backslash stands for. -/
inductive LetterClass where
  | digit
  | blank
  | word
  deriving DecidableEq, Repr

/-- How two sets between brackets are combined. -/
inductive SetOperator where
  | intersection
  | difference
  | symmetricDifference
  deriving DecidableEq, Repr

def SetOperator.apply : SetOperator → CharSet → CharSet → CharSet
  | intersection => CharSet.inter
  | difference => CharSet.diff
  | symmetricDifference => CharSet.symmDiff

/-- A written set of characters. -/
inductive SetTree where
  | nothing
  | char (c : WrittenChar)
  | range (first last : WrittenChar)
  /-- a class with a name between colons -/
  | named (s : CharSet) (negated : Bool) (span : Span)
  | letter (k : LetterClass) (negated : Bool) (span : Span)
  | property (q : PropertyQuery) (negated : Bool) (span : Span)
  | union (s t : SetTree)
  | operation (o : SetOperator) (s t : SetTree)
  | level (span : Span) (s : SetTree)
  /-- brackets, which are a level too -/
  | brackets (negated : Bool) (span : Span) (s : SetTree)
  deriving DecidableEq, Repr

/-- A written condition on a place. -/
inductive WrittenPoint where
  | textStart
  | textEnd
  | caret
  | dollar
  | word (p : WordPoint)
  deriving DecidableEq, Repr

/-- A written expression. -/
inductive Tree where
  | empty
  | char (c : WrittenChar)
  | dot (span : Span)
  | set (s : SetTree)
  | point (p : WrittenPoint)
  /-- flags for what follows, those behind a hyphen to be cleared -/
  | flags (written : List Char)
  | seq (p q : Tree)
  | either (p q : Tree)
  | repeated (p : Tree) (least : Nat) (most : Option Nat) (lazy : Bool)
  /-- a group, with its number if it is captured, and the flags that it sets -/
  | group (number : Option Nat) (flags : List Char) (p : Tree)
  | level (span : Span) (p : Tree)
  deriving DecidableEq, Repr

/-- How many levels can lie within each other. -/
def levelLimit : Nat := 250

/-- The first level that lies too deep, with so many levels around the set. -/
def SetTree.beyondLimit? : (around : Nat) → SetTree → Option Span
  | around, union s t | around, operation _ s t =>
    (s.beyondLimit? around).or (t.beyondLimit? around)
  | around, level span s | around, brackets _ span s =>
    if around < levelLimit then s.beyondLimit? (around + 1) else some span
  | _, _ => none

namespace Tree

/-- The first level that lies too deep, with so many levels around the expression. -/
def beyondLimit? : (around : Nat) → Tree → Option Span
  | around, set s => s.beyondLimit? around
  | around, seq p q | around, either p q => (p.beyondLimit? around).or (q.beyondLimit? around)
  | around, repeated p _ _ _ | around, group _ _ p => p.beyondLimit? around
  | around, level span p =>
    if around < levelLimit then p.beyondLimit? (around + 1) else some span
  | _, _ => none

end Tree

end HaxeTypedefs
