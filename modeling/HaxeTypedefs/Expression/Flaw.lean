/-
What can be wrong with a written regular expression.

* **`Flaw.report`** — the written expression with the places in question marked
  underneath, and what is wrong.  Of several lines each has its number, and a
  place that goes over an end of line is given in numbers instead.
-/

namespace HaxeTypedefs

inductive FlawKind where
  | backreference
  | lookAround
  | escapeUnfinished
  | escapeUnknown
  | edgeUnknown
  | edgeUnclosed
  | edgeUnfinished
  | hexEmpty
  | hexDigit
  | hexCharacter
  | propertyUnwritten
  | propertyUnknown
  | propertyValueUnknown
  | unicodeNotAllowed
  | notUtf8
  | classUnclosed
  | classEscape
  | classRangeBound
  | classRangeOrder
  | groupUnclosed
  | groupUnopened
  | groupNameEmpty
  | groupNameCharacter
  | groupNameUnclosed
  | groupNameTaken
  | flagUnknown
  | flagTwice
  | flagNegatedTwice
  | flagNegationDangling
  | flagMissing
  | repetitionOfNothing
  | repetitionUnclosed
  | repetitionCount
  | repetitionOrder
  | tooLargeNumber
  | nestedTooDeep
  deriving DecidableEq, Repr

def FlawKind.message : FlawKind → String
  | backreference => "backreferences are not supported"
  | lookAround => "look-around, including look-ahead and look-behind, is not supported"
  | escapeUnfinished => "incomplete escape sequence, reached end of pattern prematurely"
  | escapeUnknown => "unrecognized escape sequence"
  | edgeUnknown =>
    "unrecognized special word boundary assertion, valid choices are: start, end, start-half or " ++
      "end-half"
  | edgeUnclosed =>
    "special word boundary assertion is either unclosed or contains an invalid character"
  | edgeUnfinished =>
    "found either the beginning of a special word boundary or a bounded repetition on a \\b " ++
      "with an opening brace, but no closing brace"
  | hexEmpty => "hexadecimal literal empty"
  | hexDigit => "invalid hexadecimal digit"
  | hexCharacter => "hexadecimal literal is not a Unicode scalar value"
  | propertyUnwritten => "invalid Unicode character class"
  | propertyUnknown => "Unicode property not found"
  | propertyValueUnknown => "Unicode property value not found"
  | unicodeNotAllowed => "Unicode not allowed here"
  | notUtf8 => "pattern can match invalid UTF-8"
  | classUnclosed => "unclosed character class"
  | classEscape => "invalid escape sequence found in character class"
  | classRangeBound => "invalid range boundary, must be a literal"
  | classRangeOrder => "invalid character class range, the start must be <= the end"
  | groupUnclosed => "unclosed group"
  | groupUnopened => "unopened group"
  | groupNameEmpty => "empty capture group name"
  | groupNameCharacter => "invalid capture group character"
  | groupNameUnclosed => "unclosed capture group name"
  | groupNameTaken => "duplicate capture group name"
  | flagUnknown => "unrecognized flag"
  | flagTwice => "duplicate flag"
  | flagNegatedTwice => "flag negation operator repeated"
  | flagNegationDangling => "dangling flag negation operator"
  | flagMissing => "expected flag but got end of regex"
  | repetitionOfNothing => "repetition operator missing expression"
  | repetitionUnclosed => "unclosed counted repetition"
  | repetitionCount => "repetition quantifier expects a valid decimal"
  | repetitionOrder => "invalid repetition count range, the start must be <= the end"
  | tooLargeNumber => "decimal literal invalid"
  | nestedTooDeep => "exceed the maximum number of nested parentheses/brackets (250)"

/-- The characters from one position of a text up to another. -/
structure Span where
  start : Nat
  stop : Nat
  deriving DecidableEq, Repr

structure Flaw where
  kind : FlawKind
  /-- the places in question, in the order of the text -/
  spans : List Span
  deriving DecidableEq, Repr

/-- A failure with one place in question. -/
def flawAt {α : Type} (kind : FlawKind) (span : Span) : Except Flaw α :=
  .error ⟨kind, [span]⟩

/-- A text as its lines, without the ends of lines.  Nothing counts as a line after the last of
them. -/
def linesOf (text : String) : List String :=
  let parts := text.splitOn "\n"
  -- a carriage return before a line feed belongs to the end of line
  let line (part : String) : String := (part.dropSuffix "\r").toString
  parts.dropLast.map line ++ (parts.drop (parts.length - 1)).filter (· ≠ "")

/-- The number of the line with this position, counted from one. -/
def lineAt (text : String) (position : Nat) : Nat :=
  (text.toList.take position).count '\n' + 1

/-- The number of this position in its line, counted from one. -/
def columnAt (text : String) (position : Nat) : Nat :=
  ((text.toList.take position).reverse.takeWhile (· ≠ '\n')).length + 1

namespace Flaw

/-- Carets under each of the spans, at least one for each, from this column on. -/
def marks : (column : Nat) → List Span → List Char
  | _, [] => []
  | column, span :: spans =>
    let gap := span.start - column
    let width := max 1 (span.stop - span.start)
    List.replicate gap ' ' ++ List.replicate width '^' ++ marks (column + gap + width) spans

/-- The line of text with the spans in it marked underneath, all after this margin. -/
def markedLine (margin line : String) (spans : List Span) : String :=
  let blank := String.ofList (List.replicate margin.length ' ')
  margin ++ line ++ "\n" ++
    if spans = [] then "" else blank ++ String.ofList (marks 0 spans) ++ "\n"

/-- The span as columns of its line, if it lies in the line with this number. -/
def spanInLine? (written : String) (line : Nat) (span : Span) : Option Span :=
  if lineAt written span.start = line ∧ lineAt written span.stop = line then
    some ⟨columnAt written span.start - 1, columnAt written span.stop - 1⟩
  else none

/-- Where a span begins and ends, if it goes over an end of line. -/
def acrossLines? (written : String) (span : Span) : Option String :=
  let first := lineAt written span.start
  let last := lineAt written span.stop
  if first = last then none
  else some <|
    s!"on line {first} (column {columnAt written span.start}) " ++
      s!"through line {last} (column {columnAt written span.stop - 1})\n"

def report (f : Flaw) (written : String) : String :=
  let shown : String :=
    if written.contains '\n' then
      let ruler := String.ofList (List.replicate 79 '~') ++ "\n"
      let width := (toString (lineAt written written.length)).length
      let line (entry : String × Nat) : String :=
        let number := entry.2 + 1
        let digits := String.ofList ((toString number).toList.leftpad width ' ')
        markedLine (digits ++ ": ") entry.1 (f.spans.filterMap (spanInLine? written number))
      ruler ++ String.join ((linesOf written).zipIdx.map line) ++ ruler ++
        String.join (f.spans.filterMap (acrossLines? written))
    else markedLine "    " written f.spans
  "regex parse error:\n" ++ shown ++ "error: " ++ f.kind.message

end Flaw

end HaxeTypedefs
