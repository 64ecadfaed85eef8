/-
Sets of characters as lists of ranges of code points.

The ranges of a set ascend and do not touch, so that a set has one list only.
A union is made by ordering all ranges and joining those that meet; everything
else comes from unions and from the gaps between ranges.

A range begins and ends with characters, though it may have surrogates inside.
A gap can have them at its ends, and then it begins or ends with the character
next to them.
-/

namespace HaxeTypedefs

/-- The last code point. -/
def lastPoint : Nat := 0x10FFFF

/-- The last character before the surrogates. -/
def beforeSurrogates : Nat := 0xD7FF

/-- The first character after the surrogates. -/
def afterSurrogates : Nat := 0xE000

/-- A range of code points by its first and its last one. -/
abbrev PointRange := Nat × Nat

namespace PointRange

def has (r : PointRange) (n : Nat) : Bool :=
  r.1 ≤ n && n ≤ r.2

/-- The first character from the beginning of the range on, and the last one up to its end.  For
a range of surrogates the first one comes after the last one. -/
def characters (r : PointRange) : PointRange :=
  (if beforeSurrogates < r.1 then max r.1 afterSurrogates else r.1,
   if r.2 < afterSurrogates then min r.2 beforeSurrogates else r.2)

/-- The range from the smaller to the larger of two code points. -/
def inOrder (r : PointRange) : PointRange :=
  (min r.1 r.2, max r.1 r.2)

end PointRange

structure CharSet where
  ranges : List PointRange
  deriving DecidableEq, Repr

namespace CharSet

def hasPoint (s : CharSet) (n : Nat) : Bool :=
  s.ranges.any (·.has n)

def has (s : CharSet) (c : Char) : Bool :=
  s.hasPoint c.toNat

/-- Joins ranges that overlap or touch, in a list that is ordered by their beginnings. -/
def joined : List PointRange → List PointRange
  | r :: s :: rest =>
    if s.1 ≤ r.2 + 1 then joined ((r.1, max r.2 s.2) :: rest) else r :: joined (s :: rest)
  | rest => rest
termination_by ranges => ranges.length

/-- The set of the code points in any of the ranges. -/
def ofRanges (ranges : List PointRange) : CharSet :=
  ⟨joined (ranges.mergeSort fun r s => r.1 ≤ s.1)⟩

def nothing : CharSet := ⟨[]⟩

def any : CharSet := ⟨[(0, lastPoint)]⟩

def ofPoint (n : Nat) : CharSet := ⟨[(n, n)]⟩

def ofChar (c : Char) : CharSet := ofPoint c.toNat

/-- The characters from the first to the second. -/
def range (first last : Char) : CharSet :=
  ⟨[(first.toNat, last.toNat)]⟩

def union (s t : CharSet) : CharSet :=
  ofRanges (s.ranges ++ t.ranges)

def unions (sets : List CharSet) : CharSet :=
  ofRanges (sets.flatMap ranges)

/-- What lies between the ranges, from this code point on. -/
def gaps : (start : Nat) → List PointRange → List PointRange
  | start, [] => if start ≤ lastPoint then [(start, lastPoint)] else []
  | start, r :: rest =>
    if start < r.1 then (start, r.1 - 1) :: gaps (r.2 + 1) rest else gaps (r.2 + 1) rest

/-- The code points that are not in the set, surrogates too. -/
def others (s : CharSet) : CharSet :=
  ⟨gaps 0 s.ranges⟩

/-- The complement of the set.  Two ranges that meet at the surrogates have no character between
them; their ends are taken for the gap then. -/
def compl (s : CharSet) : CharSet :=
  ⟨s.others.ranges.map fun gap => gap.characters.inOrder⟩

def inter (s t : CharSet) : CharSet :=
  (s.others.union t.others).others

/-- The characters of the first set that are not in the second. -/
def diff (s t : CharSet) : CharSet :=
  ⟨((s.inter t.others).ranges.map PointRange.characters).filter fun r => r.1 ≤ r.2⟩

/-- The characters that are in one of the sets only. -/
def symmDiff (s t : CharSet) : CharSet :=
  (s.union t).diff (s.inter t)

/-- The only code point of the set. -/
def single? (s : CharSet) : Option Nat :=
  match s.ranges with
  | [(first, last)] => if first = last then some first else none
  | _ => none

def isAscii (s : CharSet) : Bool :=
  s.ranges.all fun r => r.2 < 0x80

end CharSet

end HaxeTypedefs
