/-
What a backslash begins in a written regular expression.

It can be a character, by itself, by a letter or by its code point, a set, by a
letter or by a property, or a condition on a place.

* **`Escape.read`** — what is read after a backslash, and what is ahead of it.
-/
import HaxeTypedefs.Expression.Layout
import HaxeTypedefs.Expression.Tree
import HaxeTypedefs.Text.Hex

namespace HaxeTypedefs

namespace Escape

/-- A part of an expression, and what is ahead of it. -/
abbrev PartReading := Except Flaw (Tree × List Char)

/-- The character of a code point, whose digits stand in this span. -/
def charOfHex (digits : List Char) (span : Span) : Except Flaw Char :=
  let n := hexValue digits
  if n.isValidChar then .ok (Char.ofNat n) else flawAt .hexCharacter span

/-- Reads a code point in hexadecimal digits, so many of them or any number in braces.  Two digits
alone can be a byte. -/
def readHex (l : Layout) (count : Nat) (start text : List Char) : PartReading :=
  match l.next text with
  | [] => l.flawAtEnd .escapeUnfinished
  | '\x7b' :: rest =>
    let brace := '\x7b' :: rest
    let (digits, ahead) := l.runAll isHexDigit (l.next rest)
    match ahead with
    | [] => flawAt .escapeUnfinished (l.span brace [])
    | '\x7d' :: ahead' => do
      if digits = [] then flawAt .hexEmpty (l.span brace (l.next ahead'))
      let c ← charOfHex digits (l.span rest ahead)
      return (.char ⟨c, false, l.span start (l.next ahead')⟩, l.next ahead')
    | _ => flawAt .hexDigit (l.spanNext ahead)
  | text =>
    let (digits, ahead) := l.run isHexDigit count text
    if digits.length = count then do
      let c ← charOfHex digits (l.span text ahead)
      return (.char ⟨c, count = 2, l.span start ahead⟩, ahead)
    else if ahead = [] then l.flawAtEnd .escapeUnfinished
    else flawAt .hexDigit (l.spanNext ahead)

/-- What stands before the first place where `mark` is written, and what stands after it. -/
def splitAt? (mark : List Char) : List Char → Option (List Char × List Char)
  | [] => none
  | c :: rest =>
    if mark.isPrefixOf (c :: rest) then some ([], (c :: rest).drop mark.length)
    else (splitAt? mark rest).map fun (before, after) => (c :: before, after)

/-- The query in braces, and whether it asks for the characters without the property. -/
def queryOf (written : List Char) : PropertyQuery × Bool :=
  let value (parts : List Char × List Char) : PropertyQuery :=
    .value (String.ofList parts.1) (String.ofList parts.2)
  match splitAt? ['!', '='] written, splitAt? [':'] written, splitAt? ['='] written with
  | some parts, _, _ => (value parts, true)
  | none, some parts, _ | none, none, some parts => (value parts, false)
  | none, none, none => (.name (String.ofList written), false)

/-- Reads a property, one letter or what stands in braces. -/
def readProperty (l : Layout) (negated : Bool) (start text : List Char) : PartReading :=
  match l.next text with
  | [] => l.flawAtEnd .escapeUnfinished
  | '\x7b' :: rest =>
    match l.runAll (· != '\x7d') (l.next rest) with
    | (_, []) => l.flawAtEnd .escapeUnfinished
    | (written, _ :: ahead) =>
      let (query, unequal) := queryOf written
      .ok (.set (.property query (negated != unequal) (l.span start ahead)), ahead)
  | '\\' :: rest => flawAt .propertyUnwritten (l.spanNext ('\\' :: rest))
  | c :: rest =>
    let ahead := l.next rest
    .ok (.set (.property (.name c.toString) negated (l.span start ahead)), ahead)

/-- What stands in braces after `\b`, if it begins with a letter or a hyphen. -/
def readEdge (l : Layout) (start text : List Char) : PartReading :=
  let word (p : WordPoint) : Tree := .point (.word p)
  let isNameChar (c : Char) : Bool := c.isAlpha || c == '-'
  match text with
  | '\x7b' :: rest =>
    match l.next rest with
    | [] => flawAt .edgeUnfinished (l.span start [])
    | c :: rest' =>
      if isNameChar c then
        let (name, ahead) := l.runAll isNameChar (c :: rest')
        match ahead with
        | '\x7d' :: ahead' =>
          match String.ofList name with
          | "start" => .ok (word .start, ahead')
          | "end" => .ok (word .stop, ahead')
          | "start-half" => .ok (word .noneBefore, ahead')
          | "end-half" => .ok (word .noneAhead, ahead')
          | _ => flawAt .edgeUnknown (l.span (c :: rest') ahead)
        | _ => flawAt .edgeUnclosed (l.span text ahead)
      else .ok (word .edge, text)
  | _ => .ok (word .edge, text)

/-- Reads on after a backslash, from which `start` begins. -/
def read (l : Layout) (start : List Char) : List Char → PartReading
  | [] => flawAt .escapeUnfinished (l.span start [])
  | c :: ahead =>
    let span := l.span start ahead
    let literal (c : Char) : PartReading := .ok (.char ⟨c, false, span⟩, ahead)
    let letter (k : LetterClass) (negated : Bool) : PartReading :=
      .ok (.set (.letter k negated span), ahead)
    let point (p : WrittenPoint) : PartReading := .ok (.point p, ahead)
    match c with
    | 'x' => readHex l 2 start ahead
    | 'u' => readHex l 4 start ahead
    | 'U' => readHex l 8 start ahead
    | 'p' => readProperty l false start ahead
    | 'P' => readProperty l true start ahead
    | 'd' => letter .digit false
    | 'D' => letter .digit true
    | 's' => letter .blank false
    | 'S' => letter .blank true
    | 'w' => letter .word false
    | 'W' => letter .word true
    | 'a' => literal '\x07'
    | 'f' => literal '\x0c'
    | 't' => literal '\t'
    | 'n' => literal '\n'
    | 'r' => literal '\r'
    | 'v' => literal '\x0b'
    | 'A' => point .textStart
    | 'z' => point .textEnd
    | 'b' => readEdge l start ahead
    | 'B' => point (.word .noEdge)
    | '<' => point (.word .start)
    | '>' => point (.word .stop)
    | c =>
      if c.isDigit then flawAt .backreference span
      else if c.isAlpha || 0x80 ≤ c.toNat then flawAt .escapeUnknown span
      else literal c

end Escape

end HaxeTypedefs
