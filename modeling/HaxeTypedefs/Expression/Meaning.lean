/-
What a written regular expression means.

Flags hold from where they are set to the end of their group, over the bars in
it as well.  Outside of Unicode mode an expression is about bytes, and one that
could be found within a character is refused.

* **`Tree.meaning`** — the expression that is written, or what is wrong with it.
* **`Expression.read`** — the same from the text.
-/
import HaxeTypedefs.Expression.Reader
import HaxeTypedefs.Text.Digit
import HaxeTypedefs.Unicode.CaseFolding

namespace HaxeTypedefs

/-- How what follows is meant. -/
structure ExpressionFlags where
  ignoreCase : Bool := false
  /-- a caret and a dollar sign stand for the ends of lines -/
  manyLines : Bool := false
  /-- a dot stands for the ends of lines too -/
  dotAll : Bool := false
  /-- lines can end in a carriage return -/
  returns : Bool := false
  /-- what is written as lazy is greedy, and the other way round -/
  swapLazy : Bool := false
  unicode : Bool := true
  deriving DecidableEq, Repr

namespace ExpressionFlags

def assign (f : ExpressionFlags) (value : Bool) : Char → ExpressionFlags
  | 'i' => { f with ignoreCase := value }
  | 'm' => { f with manyLines := value }
  | 's' => { f with dotAll := value }
  | 'R' => { f with returns := value }
  | 'U' => { f with swapLazy := value }
  | 'u' => { f with unicode := value }
  -- the layout is the business of the reader
  | _ => f

/-- The flags before a hyphen are set, those behind it are cleared. -/
def applyWritten (f : ExpressionFlags) (written : List Char) : ExpressionFlags :=
  let set := (written.takeWhile (· != '-')).foldl (assign · true) f
  (written.dropWhile (· != '-')).foldl (assign · false) set

/-- The set with what differs in case only, if case is to be ignored. -/
def cased (f : ExpressionFlags) (s : CharSet) : CharSet :=
  if f.ignoreCase then if f.unicode then s.ignoringCase else s.ignoringAsciiCase else s

/-- The complement of a set, where it is meant.  Outside of Unicode mode every complement has bytes
that are no characters. -/
def negated (f : ExpressionFlags) (negated : Bool) (span : Span) (s : CharSet) :
    Except Flaw CharSet :=
  if negated then if f.unicode then .ok s.compl else flawAt .notUtf8 span else .ok s

end ExpressionFlags

namespace LetterClass

def set : LetterClass → CharSet
  | digit => ⟨digitRanges⟩
  | blank => ⟨blankRanges⟩
  | word =>
    .unions [.range '0' '9', .range 'A' 'Z', .ofChar '_', .range 'a' 'z', ⟨wordRanges⟩]

/-- What the set has below U+0080. -/
def asciiSet (k : LetterClass) : CharSet :=
  k.set.inter (.range '\x00' '\x7f')

end LetterClass

/-- The flaw in a query that has no answer. -/
def UnknownName.flawKind : UnknownName → FlawKind
  | .property => .propertyUnknown
  | .value => .propertyValueUnknown

/-- The code point of a character between brackets. -/
def WrittenChar.point (c : WrittenChar) (f : ExpressionFlags) : Except Flaw Nat :=
  let n := c.char.toNat
  if f.unicode || n < 0x80 then .ok n
  else flawAt (if c.isByte then .notUtf8 else .unicodeNotAllowed) c.span

/-- The set that is written, where these flags are set. -/
def SetTree.meaning (f : ExpressionFlags) : SetTree → Except Flaw CharSet
  | nothing => .ok .nothing
  | char c => do
    return .ofPoint (← c.point f)
  | range first last => do
    return ⟨[(← first.point f, ← last.point f)]⟩
  | named s negated span => f.negated negated span (f.cased s)
  | letter k negated span => f.negated negated span (if f.unicode then k.set else k.asciiSet)
  | property q negated span => do
    if !f.unicode then flawAt .unicodeNotAllowed span
    let s ← q.answer.mapError fun unknown => ⟨unknown.flawKind, [span]⟩
    f.negated negated span (f.cased s)
  | union s t => do
    return (← s.meaning f).union (← t.meaning f)
  | operation o s t => do
    return o.apply (f.cased (← s.meaning f)) (f.cased (← t.meaning f))
  | level _ s => s.meaning f
  | brackets negated span s => do
    f.negated negated span (f.cased (← s.meaning f))

namespace Tree

/-- The condition on a place that is written. -/
def pointMeaning (f : ExpressionFlags) : WrittenPoint → Point
  | .textStart => .textStart
  | .textEnd => .textEnd
  | .caret => if f.manyLines then .lineStart f.returns else .textStart
  | .dollar => if f.manyLines then .lineEnd f.returns else .textEnd
  | .word p => .word (!f.unicode) p

/-- What a dot stands for. -/
def dotMeaning (f : ExpressionFlags) : CharSet :=
  if f.dotAll then .any
  else if f.returns then (CharSet.union (.ofChar '\n') (.ofChar '\r')).compl
  else (CharSet.ofChar '\n').compl

/-- The alternatives that are written, where these flags are set, and the flags that hold after
them. -/
def alternatives :
    ExpressionFlags → Tree → Except Flaw (List Expression × ExpressionFlags)
  | f, empty => .ok ([.empty], f)
  | f, char c =>
    if !f.unicode && c.isByte && 0x80 ≤ c.char.toNat then flawAt .notUtf8 c.span
    else .ok ([.oneOf (f.cased (.ofChar c.char)) f.unicode], f)
  | f, dot span =>
    if f.unicode then .ok ([.oneOf (dotMeaning f) true], f) else flawAt .notUtf8 span
  | f, set s => do
    return ([.oneOf (← s.meaning f) f.unicode], f)
  | f, point p => .ok ([.point (pointMeaning f p)], f)
  | f, flags written => .ok ([.empty], f.applyWritten written)
  | f, seq p q => do
    let (ps, f) ← p.alternatives f
    let (qs, f) ← q.alternatives f
    return ([(Expression.choice ps).followedBy (.choice qs)], f)
  | f, either p q => do
    let (ps, f) ← p.alternatives f
    let (qs, f) ← q.alternatives f
    return (ps ++ qs, f)
  | f, repeated p least most lazy => do
    let (ps, f) ← p.alternatives f
    return ([(Expression.choice ps).times least most (lazy == f.swapLazy)], f)
  | f, group number written p => do
    let (ps, _) ← p.alternatives (f.applyWritten written)
    let p := Expression.choice ps
    return ([number.elim p (.captured · p)], f)
  | f, level _ p => do
    let (ps, f) ← p.alternatives f
    return ([.choice ps], f)

/-- What is written, where these flags are set. -/
def meaning (f : ExpressionFlags) (t : Tree) : Except Flaw Expression := do
  let (ps, _) ← t.alternatives f
  return .choice ps

end Tree

/-- Reads a regular expression. -/
def Expression.read (written : String) : Except Flaw Expression := do
  (← Tree.read written).meaning {}

end HaxeTypedefs
