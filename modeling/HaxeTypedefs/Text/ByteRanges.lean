/-
Sets of characters as ranges of bytes.

The encodings of all characters between two are not all byte strings between
theirs.  A range of code points is cut so that they are: into characters of
equally many bytes, and then where the last bytes begin anew.  Each piece is
a range for every byte, which may be anything in it independently of the others.
A character of one byte has no other bytes, so its range is not cut again.

* **`encodedRanges`** — the pieces of a set, each as the ranges of its bytes.
-/
import HaxeTypedefs.Text.CharSet

namespace HaxeTypedefs

/-- The code points of a range in pieces whose encodings are equally long, without the surrogates,
which have none. -/
def ofEqualLength (r : PointRange) : List PointRange :=
  [(0, 0x7F), (0x80, 0x7FF), (0x800, 0xD7FF), (0xE000, 0xFFFF), (0x10000, lastPoint)].filterMap
    fun s =>
      let first := max r.1 s.1
      let last := min r.2 s.2
      if first ≤ last then some (first, last) else none

/-- Cuts a range at multiples of a block, of blocks of 64 blocks and so on, unless it lies in one
block: what is before the first multiple, what is after the last one, and what is between them. -/
def cutAtBlocks : (levels block : Nat) → PointRange → List PointRange
  | 0, _, r => [r]
  | levels + 1, block, (first, last) =>
    if first / block = last / block then [(first, last)]
    else
      let firstBlock := (first + block - 1) / block * block
      let endBlock := (last + 1) / block * block
      let before := if first < firstBlock then [(first, firstBlock - 1)] else []
      let after := if endBlock ≤ last then [(endBlock, last)] else []
      let between :=
        if firstBlock < endBlock then
          cutAtBlocks levels (64 * block) (firstBlock, endBlock - 1)
        else []
      before ++ between ++ after

/-- The ranges of the bytes of a piece. -/
def bytesBetween (r : PointRange) : List PointRange :=
  let bytes (n : Nat) : List Nat := (String.utf8EncodeChar (Char.ofNat n)).map UInt8.toNat
  (bytes r.1).zip (bytes r.2)

def encodedRanges (s : CharSet) : List (List PointRange) :=
  let cut (r : PointRange) : List PointRange := if r.2 < 0x80 then [r] else cutAtBlocks 3 64 r
  ((s.ranges.flatMap ofEqualLength).flatMap cut).map bytesBetween

end HaxeTypedefs
