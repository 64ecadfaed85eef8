/-
Searching for a regular expression.

An expression is laid out in steps, which are numbered and say which steps come
next.  A search goes through the text once.  At every place it knows the steps
that have been reached there, wherever the reading began; the expression is
found when its end is one of them.  It matters only that a text has a reading,
not which one is preferred.
-/
import HaxeTypedefs.Expression.Basic

namespace HaxeTypedefs

/-- One step of a search.  Other steps are given by their numbers. -/
inductive SearchStep where
  | found
  | char (c : Char) (next : Nat)
  /-- a character of the set with this number -/
  | one (set next : Nat)
  | point (p : Point) (next : Nat)
  | fork (first second : Nat)
  deriving DecidableEq, Repr

namespace SearchStep

/-- Numbered steps, and the number of the one to begin with. -/
abbrev Route := Nat × Array SearchStep

/-- Adds a step in front. -/
def before (step : Nat → SearchStep) : Route → Route
  | (next, steps) => (steps.size, steps.push (step next))

/-- Adds a part so many times in front. -/
def copies (part : Route → Route) : Nat → Route → Route
  | 0, route => route
  | n + 1, route => copies part n (part route)

/-- Adds a part at most so many times in front of the step with the number `stop`. -/
def copiesUpTo (part : Route → Route) (stop : Nat) : Nat → Route → Route
  | 0, route => route
  | n + 1, route => copiesUpTo part stop n (before (fork · stop) (part route))

/-- Adds a part once or more in front. -/
def loop (part : Route → Route) : Route → Route
  | (next, steps) =>
    -- the place of the fork that leads back to the part
    let again := steps.size
    let (start, steps) := part (again, steps.push .found)
    (start, steps.setIfInBounds again (fork start next))

end SearchStep

namespace Expression

/-- The sets of single characters in the expression. -/
def sets : Expression → List CharSet
  | empty | point _ | text _ => []
  | one s _ => [s]
  | seq p q | either p q => p.sets ++ q.sets
  | repeated p _ _ _ | captured _ p => p.sets

/-- Adds the steps of the expression in front. -/
def layOut (number : CharSet → Nat) : Expression → SearchStep.Route → SearchStep.Route
  | empty, route => route
  | text cs, route => cs.foldr (fun c => SearchStep.before (.char c)) route
  | one s _, route => SearchStep.before (.one (number s)) route
  | point p, route => SearchStep.before (.point p) route
  | seq p q, route => p.layOut number (q.layOut number route)
  | either p q, (next, steps) =>
    let (second, steps) := q.layOut number (next, steps)
    SearchStep.before (.fork · second) (p.layOut number (next, steps))
  | repeated p least (some most) _, (next, steps) =>
    SearchStep.copies (p.layOut number) least
      (SearchStep.copiesUpTo (p.layOut number) next (most - least) (next, steps))
  | repeated p 0 none _, (next, steps) =>
    SearchStep.before (.fork · next) (SearchStep.loop (p.layOut number) (next, steps))
  | repeated p (least + 1) none _, route =>
    SearchStep.copies (p.layOut number) least (SearchStep.loop (p.layOut number) route)
  | captured _ p, route => p.layOut number route

end Expression

/-- An expression that is ready to be searched for. -/
structure Search where
  /-- the sets of characters in it, in the order of their numbers -/
  sets : List CharSet
  steps : Array SearchStep
  /-- the number of the first step -/
  start : Nat
  deriving DecidableEq, Repr

namespace Search

def of (e : Expression) : Search :=
  let sets := e.sets.eraseDups
  let (start, steps) := e.layOut sets.idxOf (0, #[.found])
  ⟨sets, steps, start⟩

/-- Which of the sets have the character. -/
def members (s : Search) (c : Char) : Array Bool :=
  (s.sets.map (·.has c)).toArray

/-- What a search has reached at one place. -/
structure Reached where
  /-- the end of the expression is among it -/
  found : Bool
  /-- for every step, the number of the last place at which it was reached -/
  places : Array Nat
  /-- the steps here that read a character -/
  reading : List Nat

/-- Goes on from these steps to all that can be reached at the place, which has this number.
Every step is passed once, and two steps at most come next, which bounds the fuel. -/
def reach (s : Search) (here : Place) (number : Nat) :
    (fuel : Nat) → (ahead : List Nat) → Reached → Reached
  | fuel + 1, n :: ahead, r =>
    if r.places.getD n 0 = number then s.reach here number fuel ahead r
    else
      let r := { r with places := r.places.setIfInBounds n number }
      match s.steps[n]? with
      | some .found => { r with found := true }
      | some (.fork first second) => s.reach here number fuel (first :: second :: ahead) r
      | some (.point p next) =>
        s.reach here number fuel (if here.meets p then next :: ahead else ahead) r
      | some _ => s.reach here number fuel ahead { r with reading := n :: r.reading }
      | none => s.reach here number fuel ahead r
  | _, _, r => r

/-- What can be reached at a place, besides what lies behind these steps. -/
def arrive (s : Search) (begun : List Nat) (places : Array Nat) (number : Nat) (here : Place) :
    Reached :=
  s.reach here number (2 * s.steps.size + begun.length + 1) (s.start :: begun)
    ⟨false, places, []⟩

/-- The step behind this one, if it can read the character; the sets that have it are known. -/
def readBy (s : Search) (c : Char) (members : Array Bool) (n : Nat) : Option Nat :=
  match s.steps[n]? with
  | some (.char d next) => if c = d then some next else none
  | some (.one set next) => if members.getD set false then some next else none
  | _ => none

/-- The expression is found ahead, or what was begun before is read to its end there.  The places
of the text are numbered. -/
def foundAhead (s : Search) (begun : List Nat) (places : Array Nat) (number : Nat)
    (before : Option Char) : List Char → Bool
  | [] => (s.arrive begun places number ⟨before, []⟩).found
  | c :: ahead =>
    let r := s.arrive begun places number ⟨before, c :: ahead⟩
    r.found ||
      s.foundAhead (r.reading.filterMap (s.readBy c (s.members c))) r.places (number + 1) (some c)
        ahead

def finds (s : Search) (text : String) : Bool :=
  s.foundAhead [] (Array.replicate s.steps.size 0) 1 none text.toList

end Search

end HaxeTypedefs
