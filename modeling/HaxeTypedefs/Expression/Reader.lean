/-
Reading a written regular expression.

The tokens are taken one after the other.  What has been read so far is kept
in a `Building`: the groups and the brackets that are open, each with its
contents up to now.  The first token that does not fit is the flaw.

* **`Tree.read`** — what is written, or what is wrong with it.
-/
import HaxeTypedefs.Expression.Token

namespace HaxeTypedefs

/-- Parts joined from the left to the right. -/
def joinAll {α : Type} (join : α → α → α) : α → List α → α
  | p, [] => p
  | p, q :: rest => join p (joinAll join q rest)

/-- Parts as one: none, one alone, or several joined as a level with this span. -/
def joinParts {α : Type} (empty : α) (join : α → α → α) (level : Span → α → α) (span : Span) :
    List α → α
  | [] => empty
  | [p] => p
  | p :: rest => level span (joinAll join p rest)

/-- A group whose end has not been read. -/
structure OpenGroup where
  start : Nat
  /-- the number of the group, if it is captured -/
  number : Option Nat
  flags : List Char
  /-- where its contents begin -/
  inside : Nat
  /-- the alternatives that are complete, the last first -/
  branches : List Tree
  /-- where the alternative begins that is being read -/
  branchStart : Nat
  /-- what has been read of it, each part with its start, the last first -/
  parts : List (Tree × Nat)

namespace OpenGroup

/-- Nothing has been read of the group but its beginning. -/
def begun (span : Span) (number : Option Nat) (flags : List Char) : OpenGroup :=
  ⟨span.start, number, flags, span.stop, [], span.stop, []⟩

def push (g : OpenGroup) (t : Tree) (start : Nat) : OpenGroup :=
  { g with parts := (t, start) :: g.parts }

/-- The alternative that is being read, if it ends here. -/
def branch (g : OpenGroup) (stop : Nat) : Tree :=
  joinParts .empty .seq .level ⟨g.branchStart, stop⟩ (g.parts.reverse.map Prod.fst)

/-- The contents, if they end here. -/
def contents (g : OpenGroup) (stop : Nat) : Tree :=
  joinParts .empty .either .level ⟨g.inside, stop⟩ (g.branch stop :: g.branches).reverse

/-- A bar with this span has been read. -/
def nextBranch (g : OpenGroup) (bar : Span) : OpenGroup :=
  { g with
    branches := g.branch bar.start :: g.branches
    branchStart := bar.stop
    parts := [] }

end OpenGroup

/-- Brackets whose end has not been read. -/
structure OpenClass where
  span : Span
  negated : Bool
  /-- what stands before the last operator, with its span, and this operator -/
  left : Option ((SetTree × Span) × SetOperator)
  /-- where what follows begins -/
  inside : Nat
  /-- what has been read of that, each item with its span, the last first -/
  items : List (SetTree × Span)

namespace OpenClass

def push (k : OpenClass) (s : SetTree) (span : Span) : OpenClass :=
  { k with items := (s, span) :: k.items }

/-- What has been read behind the last operator, with its span. -/
def right (k : OpenClass) : SetTree × Span :=
  let span : Span :=
    ⟨(k.items.getLast?.map fun i => i.2.start).getD k.inside,
      (k.items.head?.map fun i => i.2.stop).getD k.inside⟩
  (joinParts .nothing .union .level span (k.items.reverse.map Prod.fst), span)

/-- What has been read without regard to a negation, with its span. -/
def contents (k : OpenClass) : SetTree × Span :=
  match k.left with
  | none => k.right
  | some ((s, before), o) =>
    let (t, after) := k.right
    let span : Span := ⟨before.start, after.stop⟩
    (.level span (.operation o s t), span)

/-- An operator with this span has been read. -/
def operator (k : OpenClass) (o : SetOperator) (span : Span) : OpenClass :=
  { k with left := some (k.contents, o), inside := span.stop, items := [] }

end OpenClass

/-- What has been read of an expression. -/
structure Building where
  /-- the innermost group -/
  group : OpenGroup
  /-- the groups around it, from the inside out -/
  outer : List OpenGroup
  classes : List OpenClass
  /-- how many groups are captured so far -/
  captured : Nat
  /-- the names of groups so far -/
  names : List (String × Span)

namespace Building

def start : Building :=
  ⟨.begun ⟨0, 0⟩ none [], [], [], 0, []⟩

def push (b : Building) (t : Tree) (start : Nat) : Building :=
  { b with group := b.group.push t start }

/-- What has been read with one token more. -/
def take (b : Building) (span : Span) : Token → Except Flaw Building
  | .part t => .ok (b.push t span.start)
  | .bar => .ok { b with group := b.group.nextBranch span }
  | .groupOpen captured name written =>
    let opened : Building :=
      { b with
        group := .begun span (if captured then some b.captured else none) written
        outer := b.group :: b.outer
        captured := if captured then b.captured + 1 else b.captured
        names := name.toList ++ b.names }
    match name with
    | none => .ok opened
    | some (word, place) =>
      match b.names.lookup word with
      | none => .ok opened
      | some earlier => .error ⟨.groupNameTaken, [earlier, place]⟩
  | .groupClose =>
    match b.outer with
    | [] => .error ⟨.groupUnopened, [span]⟩
    | g :: outer =>
      let closed := b.group
      let t : Tree := .group closed.number closed.flags (closed.contents span.start)
      .ok { b with
        group := g.push (.level ⟨closed.start, span.stop⟩ t) closed.start
        outer := outer }
  | .flags written => .ok (b.push (.flags written) span.start)
  | .repetition bounds lazy =>
    match b.group.parts with
    | [] | (.flags _, _) :: _ => .error ⟨.repetitionOfNothing, [⟨span.start, span.start⟩]⟩
    | (t, start) :: parts => do
      let (least, most) ← bounds
      let repeated : Tree := .level ⟨start, span.stop⟩ (.repeated t least most lazy)
      .ok { b with group := { b.group with parts := (repeated, start) :: parts } }
  | .classOpen negated first =>
    let items : List (SetTree × Span) := first.map fun c => (.char c, c.span)
    .ok { b with classes := ⟨span, negated, none, span.stop, items.reverse⟩ :: b.classes }
  | .classItem s place =>
    match b.classes with
    | [] => .ok b
    | k :: classes => .ok { b with classes := k.push s place :: classes }
  | .classOperator o =>
    match b.classes with
    | [] => .ok b
    | k :: classes => .ok { b with classes := k.operator o span :: classes }
  | .classClose =>
    match b.classes with
    | [] => .ok b
    | k :: classes =>
      let place : Span := ⟨k.span.start, span.stop⟩
      let s : SetTree := .brackets k.negated place k.contents.1
      match classes with
      | [] => .ok ({ b with classes := [] }.push (.set s) place.start)
      | outer :: classes => .ok { b with classes := outer.push s place :: classes }
  | .flawed f => .error f

/-- The tree, if everything that has been opened is closed, and the text has so many
characters. -/
def finish (b : Building) (size : Nat) : Except Flaw Tree :=
  match b.classes, b.outer with
  | k :: _, _ => .error ⟨.classUnclosed, [k.span]⟩
  | [], _ :: _ => .error ⟨.groupUnclosed, [⟨b.group.start, b.group.start + 1⟩]⟩
  | [], [] => .ok (b.group.contents size)

end Building

/-- Reads what is written. -/
def Tree.read (written : String) : Except Flaw Tree := do
  let b ← (Token.scan written).foldlM (fun b (token, span) => b.take span token) Building.start
  let t ← b.finish written.length
  match t.beyondLimit? 0 with
  | none => return t
  | some span => .error ⟨.nestedTooDeep, [span]⟩

end HaxeTypedefs
