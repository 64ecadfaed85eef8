/-
Sets of characters written as text.

`41-5A AA 100-12E/2` stands for the code points from U+0041 to U+005A, U+00AA,
and every second one from U+0100 to U+012E.  White space stands between ranges.

* **`CharSet.ofText`** — the set that is written.
-/
import HaxeTypedefs.Text.CharSet
import HaxeTypedefs.Text.Hex

namespace HaxeTypedefs

/-- The parts of a text between spaces and line feeds. -/
def tableWords (text : List Char) : List (List Char) :=
  let (word, words) := text.foldr
    (fun c (word, words) =>
      if c = ' ' ∨ c = '\n' then ([], word :: words) else (c :: word, words))
    ([], [])
  (word :: words).filter (· ≠ [])

/-- The code points that a word stands for. -/
def PointRange.ofWord (word : List Char) : List PointRange :=
  let first := hexValue (word.takeWhile isHexDigit)
  match word.dropWhile isHexDigit with
  | '-' :: rest =>
    let last := hexValue (rest.takeWhile isHexDigit)
    match rest.dropWhile isHexDigit with
    | [] => [(first, last)]
    | _ => (List.range ((last - first) / 2 + 1)).map fun k => (first + 2 * k, first + 2 * k)
  | _ => [(first, first)]

/-- The set that a text stands for. -/
def CharSet.ofText (text : String) : CharSet :=
  .ofRanges ((tableWords text.toList).flatMap PointRange.ofWord)

end HaxeTypedefs
