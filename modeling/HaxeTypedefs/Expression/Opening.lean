/-
What the texts that an expression reads begin with.

An opening is a word with which a text begins, or which is the whole text.  The
openings of an expression are listed in the order of preference as long as they
are few and short; what is too long is cut and is no whole text any more.

An expression whose openings are whole texts is a choice of these words, and as
such it is searched for.  Longer texts count for nothing in it if a shorter one
that they begin with is preferred.

* **`Expression.inWords`** — the expression, or the words that it is a choice of.
-/
import HaxeTypedefs.Expression.Basic

namespace HaxeTypedefs

/-- What a text begins with. -/
structure Opening where
  bytes : List UInt8
  /-- the text has ended -/
  whole : Bool
  deriving DecidableEq, Repr

namespace Opening

/-- So many bytes at most. -/
def keep (most : Nat) (o : Opening) : Opening :=
  if o.bytes.length ≤ most then o else ⟨o.bytes.take most, false⟩

/-- The text may go on. -/
def goingOn (o : Opening) : Opening :=
  { o with whole := false }

/-- The openings of a text and then another one, which has these. -/
def followedBy (ps : List Opening) (o : Opening) : List Opening :=
  if o.whole then ps.map fun p => ⟨o.bytes ++ p.bytes, p.whole⟩ else [o]

/-- Makes one opening of those with the same bytes that are next to each other. -/
def merged : List Opening → List Opening
  | o :: p :: rest =>
    if o.bytes = p.bytes then merged (⟨o.bytes, o.whole && p.whole⟩ :: rest)
    else o :: merged (p :: rest)
  | os => os
termination_by os => os.length

end Opening

/-- The openings of an expression, unless there are too many. -/
abbrev Openings := Option (List Opening)

namespace Openings

/-- No more openings are listed. -/
def limit : Nat := 250

/-- No opening has more bytes. -/
def byteLimit : Nat := 100

def ofBytes (bytes : List UInt8) : Openings :=
  some [Opening.keep byteLimit ⟨bytes, true⟩]

def goingOn (os : Openings) : Openings :=
  os.map (List.map Opening.goingOn)

/-- The openings of one expression or of another one.  If they are too many only four bytes of each
are kept. -/
def union (os ps : Openings) : Openings := do
  let os ← os
  let ps ← ps
  let (os, ps) :=
    if limit < os.length + ps.length then
      (Opening.merged (os.map (·.keep 4)), Opening.merged (ps.map (·.keep 4)))
    else (os, ps)
  if limit < os.length + ps.length then none else some (Opening.merged (os ++ ps))

/-- The openings of one expression and then another one.  If those of the second one are too many
the text goes on in any way. -/
def followedBy (os ps : Openings) : Openings := do
  let os ← os
  if os.all (!·.whole) then some os
  else match ps.filter fun ps => os.length * ps.length ≤ limit with
    | some ps =>
      some ((Opening.merged (os.flatMap (Opening.followedBy ps))).map (·.keep byteLimit))
    | none => if os.any (·.bytes = []) then none else goingOn (some os)

/-- The openings of so many texts in a row. -/
def inRow (count : Nat) (os : Openings) : Openings :=
  (List.replicate count os).foldl followedBy (ofBytes [])

/-- The openings of the characters of a set, if these are few. -/
def ofSet (s : CharSet) : Openings :=
  if s.ranges.foldl (fun n r => n + (r.2 + 1 - r.1)) 0 ≤ 10 then
    some (s.ranges.flatMap fun r =>
      (List.range' r.1 (r.2 + 1 - r.1)).map fun n =>
        ⟨String.utf8EncodeChar (Char.ofNat n), true⟩)
  else none

end Openings

/-- The openings of what an expression consists of. -/
inductive Outline where
  | row (parts : List Openings)
  | choice (alternatives : List Openings)

namespace Outline

def openings : Outline → Openings
  | row parts => parts.foldl Openings.followedBy (Openings.ofBytes [])
  | choice alternatives => alternatives.foldl Openings.union (some [])

def parts : Outline → List Openings
  | row parts => parts
  | o => [o.openings]

def alternatives : Outline → List Openings
  | choice alternatives => alternatives
  | o => [o.openings]

end Outline

namespace Expression

def outline : Expression → Outline
  | empty | point _ => .row []
  | text cs => .row [.ofBytes (cs.flatMap String.utf8EncodeChar)]
  | one s _ => .row [.ofSet s]
  | seq p q => .row (p.outline.openings :: q.outline.parts)
  | either p q => .choice (p.outline.openings :: q.outline.alternatives)
  | repeated p least most greedy =>
    let os := p.outline.openings
    if least = 0 then
      let os := if most = some 1 then os else os.goingOn
      .row [if greedy then os.union (.ofBytes []) else (Openings.ofBytes []).union os]
    else
      let row := os.inRow (min least 10)
      .row [if most = some least ∧ least ≤ 10 then row else row.goingOn]
  | captured _ p => .row [p.outline.openings]

/-- The openings of the texts that the expression reads. -/
def openings (e : Expression) : Openings :=
  e.outline.openings

/-- There is neither a condition on a place nor a group in the expression. -/
def isPlain : Expression → Bool
  | empty | text _ | one _ _ => true
  | point _ | captured _ _ => false
  | seq p q | either p q => p.isPlain && q.isPlain
  | repeated p _ _ _ => p.isPlain

end Expression

namespace Opening

/-- The openings without those that begin with an earlier one, which is preferred. -/
def preferred (os : List Opening) : List Opening :=
  os.foldl
    (fun kept o => if kept.any (·.bytes.isPrefixOf o.bytes) then kept else kept ++ [o]) []

/-- What all openings begin with. -/
def sharedBytes : List Opening → List UInt8
  | [] => []
  | o :: os =>
    os.foldl (fun start p => ((start.zip p.bytes).takeWhile fun (a, b) => a = b).map Prod.fst)
      o.bytes

/-- The byte is a frequent one in texts of all kinds. -/
def isFrequent (byte : UInt8) : Bool :=
  0x80 ≤ byte ||
    "\n\r (),-./0129:_abcdefghilmnoprstuvxy|".toList.any fun c => c.toNat = byte.toNat

/-- Makes the openings shorter as long as they are too many.  Each step has the number of bytes that
are kept and the number of openings that are not too many. -/
def shortened : (steps : List (Nat × Nat)) → List Opening → List Opening
  | [], os => os
  | (kept, enough) :: steps, os =>
    if os.length ≤ enough then os else shortened steps (preferred (os.map (·.keep kept)))

/-- A search for the openings finds whole texts.  It does not if it is better to look for what they
have in common or for a part of each. -/
def areSearchedWhole (os : List Opening) : Bool :=
  let kept := preferred os
  let shared := sharedBytes kept
  let isRareStart :=
    1 < os.length && 1 ≤ shared.length && shared.length ≤ 3 && !shared.head?.any isFrequent
  kept.all (·.whole) &&
    if isRareStart then kept.all (·.bytes.length = 1)
    else if 4 < shared.length || 1 < shared.length && 16 < kept.length then kept.length = 1
    else
      let shorter := shortened [(5, 10), (4, 10), (3, 64), (2, 64), (1, 10)] kept
      shorter = kept || shorter.any (·.bytes.length ≤ 2) || 64 < shorter.length

end Opening

namespace Expression

/-- The words that are searched for in place of the expression. -/
def words? (e : Expression) : Option (List String) := do
  let os ← e.openings
  if e.isPlain && os ≠ [] && os.all (·.bytes ≠ []) && Opening.areSearchedWhole os then
    (Opening.preferred os).mapM fun o => String.fromUTF8? ⟨o.bytes.toArray⟩
  else none

/-- The expression, as a choice of words if it is searched for so. -/
def inWords (e : Expression) : Expression :=
  match e.words? with
  | some words => ofAlternatives (words.map fun word => text word.toList)
  | none => e

end Expression

end HaxeTypedefs
