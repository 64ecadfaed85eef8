/-
White space: the characters with the Unicode property White_Space.

Zero-width spaces, the byte order mark and the information separators
U+001C to U+001F do not have the property.

* **`isBlank_iff`** — there are twenty-five of them.
-/
import HaxeTypedefs.Text.Ranges

namespace HaxeTypedefs

/-- The code points with the property White_Space. -/
def blankRanges : List (Nat × Nat) :=
  [(0x0009, 0x000D), (0x0020, 0x0020), (0x0085, 0x0085), (0x00A0, 0x00A0), (0x1680, 0x1680),
   (0x2000, 0x200A), (0x2028, 0x2029), (0x202F, 0x202F), (0x205F, 0x205F), (0x3000, 0x3000)]

/-- The same as a search tree. -/
def blankTree : Ranges := .ofList 3 blankRanges

/-- The character is white space. -/
def isBlank (c : Char) : Bool :=
  blankTree.has c.toNat

/-- The text without the white space at its two ends. -/
def trimBlanks (text : String) : String :=
  String.ofList ((text.toList.dropWhile isBlank).reverse.dropWhile isBlank).reverse

/-- The same code points one by one. -/
def blankPoints : List Nat :=
  [0x0009, 0x000A, 0x000B, 0x000C, 0x000D, 0x0020, 0x0085, 0x00A0, 0x1680, 0x2000, 0x2001, 0x2002,
   0x2003, 0x2004, 0x2005, 0x2006, 0x2007, 0x2008, 0x2009, 0x200A, 0x2028, 0x2029, 0x202F, 0x205F,
   0x3000]

theorem isBlank_iff {c : Char} : isBlank c = true ↔ c.toNat ∈ blankPoints := by
  rw [isBlank, blankTree, Ranges.has_ofList_iff (by decide)]
  simp only [blankRanges, blankPoints, List.mem_cons, List.not_mem_nil, or_false,
    exists_eq_or_imp, exists_eq_left]
  omega

end HaxeTypedefs
