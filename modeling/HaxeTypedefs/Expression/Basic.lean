/-
Regular expressions.

An `Expression` has one form where there could be several: characters that
follow each other are one text, parts in a row are not nested, and neither are
alternatives.  What all alternatives begin with stands in front of them once.
The functions that put expressions together keep this form, and the size of an
expression is that of this form.
-/
import HaxeTypedefs.Pattern.Basic
import HaxeTypedefs.Text.CharSet

namespace HaxeTypedefs

/-- A condition on the word characters around a place. -/
inductive WordPoint where
  | edge
  | noEdge
  | start
  | stop
  /-- no word character just before -/
  | noneBefore
  /-- no word character ahead -/
  | noneAhead
  deriving DecidableEq, Repr

/-- A condition on a place in a text. -/
inductive Point where
  | textStart
  | textEnd
  /-- the start of a line; lines can also end in a carriage return, alone or before a line feed -/
  | lineStart (returns : Bool)
  | lineEnd (returns : Bool)
  /-- only the word characters below U+0080 can count -/
  | word (ascii : Bool) (p : WordPoint)
  deriving DecidableEq, Repr

/-- The word characters below U+0080. -/
def isAsciiWord (c : Char) : Bool :=
  c.isAlphanum || c == '_'

namespace Place

def meetsWord (s : Place) (isWord : Char → Bool) : WordPoint → Bool
  | .edge => s.before.any isWord != s.ahead.head?.any isWord
  | .noEdge => s.before.any isWord == s.ahead.head?.any isWord
  | .start => !s.before.any isWord && s.ahead.head?.any isWord
  | .stop => s.before.any isWord && !s.ahead.head?.any isWord
  | .noneBefore => !s.before.any isWord
  | .noneAhead => !s.ahead.head?.any isWord

/-- The place is between a carriage return and a line feed. -/
def isWithinLineEnd (s : Place) : Bool :=
  s.before == some '\r' && s.ahead.head? == some '\n'

def meets (s : Place) : Point → Bool
  | .textStart => s.before.isNone
  | .textEnd => s.ahead.isEmpty
  | .lineStart false => s.atLineStart
  | .lineStart true => s.atLineStart || s.before == some '\r' && !s.isWithinLineEnd
  | .lineEnd false => s.ahead.head?.all (· == '\n')
  | .lineEnd true =>
    s.ahead.head?.all fun c => c == '\r' || c == '\n' && !s.isWithinLineEnd
  | .word ascii p => s.meetsWord (if ascii then isAsciiWord else isWord) p

end Place

inductive Expression where
  | empty
  /-- these characters, one after the other -/
  | text (cs : List Char)
  /-- a character of the set; outside of Unicode mode it is a set of bytes -/
  | one (s : CharSet) (unicode : Bool)
  | point (p : Point)
  | seq (p q : Expression)
  | either (p q : Expression)
  /-- the expression as often as the bounds allow; greedy if rather more often than less -/
  | repeated (p : Expression) (least : Nat) (most : Option Nat) (greedy : Bool)
  /-- the group with this number, whose place in the text is of interest as well -/
  | captured (number : Nat) (p : Expression)
  deriving DecidableEq, Repr

namespace Expression

/-- The least number of characters that the expression reads.  There is none if a part of it has
no character to choose from. -/
def shortest : Expression → Option Nat
  | empty | point _ => some 0
  | text cs => some cs.length
  | one s _ => if s.ranges = [] then none else some 1
  | seq p q => do return (← p.shortest) + (← q.shortest)
  | either p q => do return min (← p.shortest) (← q.shortest)
  | repeated p least _ _ => do return least * (← p.shortest)
  | captured _ p => p.shortest

/-- The expression never reads a character. -/
def readsNothing : Expression → Bool
  | empty | point _ => true
  | text cs => cs = []
  | one _ _ => false
  | seq p q | either p q => p.readsNothing && q.readsNothing
  | repeated p _ _ _ | captured _ p => p.readsNothing

/-- A character of the set. -/
def oneOf (s : CharSet) (unicode : Bool) : Expression :=
  match s.single? with
  | some n => text [Char.ofNat n]
  | none => one s (unicode && s.ranges ≠ [])

/-- An expression, then another one. -/
def followedBy : Expression → Expression → Expression
  | empty, r => r
  | seq p q, r => p.followedBy (q.followedBy r)
  | p, empty => p
  | text cs, text ds => text (cs ++ ds)
  | text cs, seq (text ds) r => seq (text (cs ++ ds)) r
  | p, r => seq p r

/-- What follows each other in the expression. -/
def parts : Expression → List Expression
  | empty => []
  | seq p q => p :: q.parts
  | p => [p]

def ofParts (ps : List Expression) : Expression :=
  ps.foldr followedBy empty

/-- What the expression is a choice of. -/
def alternatives : Expression → List Expression
  | either p q => p :: q.alternatives
  | p => [p]

def ofAlternatives : List Expression → Expression
  | [] => oneOf .nothing true
  | [p] => p
  | p :: ps => either p (ofAlternatives ps)

/-- The only character of a text. -/
def char? : Expression → Option Char
  | text [c] => some c
  | _ => none

/-- The characters to choose from, if that is all. -/
def set? : Expression → Option CharSet
  | one s _ => some s
  | _ => none

/-- One of the expressions.  A choice of single characters is a set, and so is a choice of sets. -/
def anyOf (ps : List Expression) : Expression :=
  match ps.flatMap alternatives with
  | [p] => p
  | ps =>
    match ps.mapM char?, ps.mapM set? with
    | some cs, _ => oneOf (.unions (cs.map .ofChar)) true
    | none, some sets => oneOf (.unions sets) true
    | none, none => ofAlternatives ps

/-- What two lists have in common at their beginnings. -/
def commonStart : List Expression → List Expression → List Expression
  | p :: ps, q :: qs => if p = q then p :: commonStart ps qs else []
  | _, _ => []

/-- The parts with which all alternatives begin, if each has several parts. -/
def sharedStart : List Expression → List Expression
  | [] => []
  | [_] => []
  | p :: ps =>
    if (p :: ps).all (1 < ·.parts.length) then
      ps.foldl (fun start p => commonStart start p.parts) p.parts
    else []

/-- One of the expressions, where what all begin with stands in front. -/
def choice (ps : List Expression) : Expression :=
  match ps with
  | [p] => p
  | ps =>
    let p := anyOf ps
    match sharedStart p.alternatives with
    | [] => p
    | start =>
      let rest := p.alternatives.map fun p => ofParts (p.parts.drop start.length)
      ofParts (start ++ [anyOf rest])

/-- The expression as often as the bounds allow.  What reads no character need not be read more
than once. -/
def times (p : Expression) (least : Nat) (most : Option Nat) (greedy : Bool) : Expression :=
  let (least, most) :=
    if p.readsNothing then (min 1 least, some (min 1 (most.getD 1))) else (least, most)
  match least, most with
  | 0, some 0 => empty
  | 1, some 1 => p
  | least, most => repeated p least most greedy

end Expression

end HaxeTypedefs
