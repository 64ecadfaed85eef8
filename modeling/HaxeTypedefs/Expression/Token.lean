/-
The tokens of a written regular expression.

Inside brackets other tokens count than outside, and in a spaced layout gaps are
passed over, so the scan keeps the number of brackets that are open and the
layout.  It ends at the first flaw, which is then the last token; whether tokens
may follow each other as they do is not decided here.

* **`Token.scan`** — the tokens of a text with their spans.
-/
import HaxeTypedefs.Expression.Escape
import HaxeTypedefs.Expression.GroupName

namespace HaxeTypedefs

inductive Token where
  /-- a part that stands for itself -/
  | part (t : Tree)
  | bar
  /-- the name of a group and where it is written, and the flags that it sets -/
  | groupOpen (captured : Bool) (name : Option (String × Span)) (flags : List Char)
  | groupClose
  | flags (written : List Char)
  /-- bounds that cannot be read are a flaw only after something to repeat -/
  | repetition (bounds : Except Flaw (Nat × Option Nat)) (lazy : Bool)
  /-- an opening bracket with the characters right behind it that stand for themselves -/
  | classOpen (negated : Bool) (first : List WrittenChar)
  | classItem (s : SetTree) (span : Span)
  | classOperator (o : SetOperator)
  | classClose
  | flawed (f : Flaw)

namespace Token

/-- A token, and what is ahead of it. -/
abbrev Reading := Except Flaw (Token × List Char)

/-- The bounds of a repetition, whether it is lazy, and what is ahead of it. -/
abbrev BoundsReading := Except Flaw ((Nat × Option Nat) × Bool × List Char)

/-- A number, with white space around it. -/
def readCount (l : Layout) (text : List Char) : Except Flaw Nat × List Char :=
  let first := text.dropWhile isBlank
  let (digits, ahead) := l.runAll Char.isDigit first
  let n := digits.foldl (fun n c => 10 * n + (c.toNat - '0'.toNat)) 0
  let count : Except Flaw Nat :=
    if digits = [] then flawAt .repetitionCount (l.span first first)
    else if UInt32.size ≤ n then flawAt .tooLargeNumber (l.span first ahead)
    else .ok n
  (count, ahead.dropWhile isBlank)

/-- A question mark behind a repetition makes it lazy: rather less often than more. -/
def readLazy : List Char → Bool × List Char
  | '?' :: ahead => (true, ahead)
  | ahead => (false, ahead)

/-- Reads bounds after an opening brace, from which `start` begins. -/
def readBounds (l : Layout) (start text : List Char) : BoundsReading :=
  let unclosed {α : Type} (ahead : List Char) : Except Flaw α :=
    flawAt .repetitionUnclosed (l.span start ahead)
  let close (least : Nat) (most : Option Nat) : List Char → BoundsReading
    | '\x7d' :: rest =>
      let (lazy, ahead) := readLazy (l.next rest)
      if most.all (least ≤ ·) then .ok ((least, most), lazy, ahead)
      else flawAt .repetitionOrder (l.span start ahead)
    | ahead => unclosed ahead
  let text := l.next text
  if text = [] then unclosed []
  else match readCount l text with
    | (_, []) => unclosed []
    | (least, ',' :: rest) =>
      match l.next rest with
      | [] => unclosed []
      | '\x7d' :: rest => do close (← least) none ('\x7d' :: rest)
      | rest => do
        let least ← least
        let (most, ahead) := readCount l rest
        close least (some (← most)) ahead
    | (least, ahead) => do
      let least ← least
      close least (some least) ahead

/-- Reads the flags up to a colon or a closing parenthesis, with those that have been
read before it. -/
def readFlags (l : Layout) (before : List (Char × Span)) :
    List Char → Except Flaw (List Char × List Char)
  | [] => l.flawAtEnd .flagMissing
  | c :: ahead =>
    let span := l.span (c :: ahead) ahead
    if c = ':' || c = ')' then
      match before.getLast? with
      | some ('-', hyphen) => flawAt .flagNegationDangling hyphen
      | _ => .ok (before.map Prod.fst, c :: ahead)
    else if ['-', 'i', 'm', 's', 'U', 'u', 'R', 'x'].contains c then
      match before.lookup c with
      | some earlier => .error ⟨if c = '-' then .flagNegatedTwice else .flagTwice, [earlier, span]⟩
      | none => readFlags l (before ++ [(c, span)]) ahead
    else flawAt .flagUnknown span

/-- Reads the name of a group up to a closing angle bracket. -/
def readName (l : Layout) (text : List Char) : Reading :=
  let name := text.takeWhile (isGroupNameChar false)
  let ahead := text.drop name.length
  let firstFits := text.head?.all fun c => c == '>' || isGroupNameChar true c
  match firstFits, ahead with
  | false, _ => flawAt .groupNameCharacter (l.spanNext text)
  | true, [] => l.flawAtEnd .groupNameUnclosed
  | true, '>' :: ahead' =>
    if name = [] then flawAt .groupNameEmpty (l.span text text)
    else .ok (groupOpen true (some (String.ofList name, l.span text ahead)) [], ahead')
  | true, _ => flawAt .groupNameCharacter (l.spanNext ahead)

/-- Reads on after an opening parenthesis, from which `start` begins. -/
def readGroup (l : Layout) (start text : List Char) : Reading :=
  match l.next text with
  | '?' :: '=' :: ahead | '?' :: '!' :: ahead | '?' :: '<' :: '=' :: ahead
  | '?' :: '<' :: '!' :: ahead => flawAt .lookAround (l.span start ahead)
  | '?' :: 'P' :: '<' :: ahead | '?' :: '<' :: ahead => readName l ahead
  | ['?'] => flawAt .groupUnclosed (l.span start text)
  | '?' :: ahead => do
    match ← readFlags l [] ahead with
    | (written, ':' :: ahead) => return (groupOpen false none written, ahead)
    | ([], _) => flawAt .repetitionOfNothing (l.span ('?' :: ahead) ('?' :: ahead))
    | (written, ahead) => return (flags written, ahead.drop 1)
  | ahead => .ok (groupOpen true none [], ahead)

/-- Hyphens that stand for themselves. -/
def readHyphens (l : Layout) : (most : Nat) → List Char → List WrittenChar × List Char
  | most + 1, '-' :: rest =>
    let (cs, ahead) := readHyphens l most (l.next rest)
    (⟨'-', false, l.span ('-' :: rest) rest⟩ :: cs, ahead)
  | _, ahead => ([], ahead)

/-- Reads on after an opening bracket, from which `start` begins. -/
def readClassOpen (l : Layout) (start text : List Char) : Reading :=
  let (negated, inside) := match l.next text with
    | '^' :: inside => (true, l.next inside)
    | inside => (false, inside)
  let opened (first : List WrittenChar) (unclosed : Span) (ahead : List Char) : Reading :=
    if ahead = [] then flawAt .classUnclosed unclosed else .ok (classOpen negated first, ahead)
  match readHyphens l inside.length inside with
  | ([], ']' :: rest) =>
    opened [⟨']', false, l.span (']' :: rest) rest⟩] (l.span start []) (l.next rest)
  | ([], ahead) => opened [] (l.span start []) ahead
  | (hyphens, ahead) => opened hyphens (l.span start start) ahead

/-- The classes that can stand between brackets by name. -/
def namedClass? : String → Option CharSet
  | "alnum" => some (.unions [.range '0' '9', .range 'A' 'Z', .range 'a' 'z'])
  | "alpha" => some (.union (.range 'A' 'Z') (.range 'a' 'z'))
  | "ascii" => some (.range '\x00' '\x7f')
  | "blank" => some (.union (.ofChar '\t') (.ofChar ' '))
  | "cntrl" => some (.union (.range '\x00' '\x1f') (.ofChar '\x7f'))
  | "digit" => some (.range '0' '9')
  | "graph" => some (.range '!' '~')
  | "lower" => some (.range 'a' 'z')
  | "print" => some (.range ' ' '~')
  | "punct" =>
    some (.unions [.range '!' '/', .range ':' '@', .range '[' '\x60', .range '\x7b' '~'])
  | "space" => some (.union (.range '\t' '\r') (.ofChar ' '))
  | "upper" => some (.range 'A' 'Z')
  | "word" =>
    some (.unions [.range '0' '9', .ofChar '_', .range 'A' 'Z', .range 'a' 'z'])
  | "xdigit" => some (.unions [.range '0' '9', .range 'A' 'F', .range 'a' 'f'])
  | _ => none

/-- Reads on after an opening bracket within brackets, if a class called by name follows. -/
def readNamedClass? (l : Layout) (start : List Char) : List Char → Option (Token × List Char)
  | ':' :: text =>
    let (negated, inside) := match text with
      | '^' :: inside => (true, inside)
      | inside => (false, inside)
    match inside.dropWhile (· != ':') with
    | ':' :: ']' :: ahead => do
      let s ← namedClass? (String.ofList (inside.takeWhile (· != ':')))
      let span := l.span start ahead
      return (classItem (.named s negated span) span, ahead)
    | _ => none
  | _ => none

/-- One end of a range, or what stands alone between brackets, with its span. -/
def readClassAtom (l : Layout) : List Char → Except Flaw ((Tree × Span) × List Char)
  | '\\' :: rest => do
    let (t, ahead) ← Escape.read l ('\\' :: rest) rest
    return ((t, l.span ('\\' :: rest) ahead), ahead)
  | c :: rest =>
    let span := l.span (c :: rest) rest
    .ok ((.char ⟨c, false, span⟩, span), rest)
  | [] => l.flawAtEnd .classUnclosed

/-- What stands at one end of a range. -/
def rangeBound : Tree × Span → Except Flaw WrittenChar
  | (.char c, _) => .ok c
  | (_, span) => flawAt .classRangeBound span

/-- What stands alone between brackets. -/
def classItemOf : Tree × Span → Except Flaw Token
  | (.char c, span) => .ok (classItem (.char c) span)
  | (.set s, span) => .ok (classItem s span)
  | (_, span) => flawAt .classEscape span

/-- The next character that counts behind a hyphen.  Of a comment only its number sign is passed
over. -/
def pastHyphen (l : Layout) (ahead : List Char) : Option Char :=
  if l.spaced then
    match ahead.dropWhile isBlank with
    | '#' :: rest => (rest.dropWhile isBlank).head?
    | rest => rest.head?
  else ahead.head?

/-- Reads a character, a range or a set between brackets. -/
def readClassItem (l : Layout) (text : List Char) : Reading := do
  let (first, ahead) ← readClassAtom l text
  -- without anything ahead the open bracket is the flaw
  let unfinished : Reading := .ok (classItem .nothing first.2, [])
  match l.next ahead with
  | [] => unfinished
  | '-' :: rest =>
    if pastHyphen l rest = some ']' ∨ pastHyphen l rest = some '-' then
      return (← classItemOf first, '-' :: rest)
    else match l.next rest with
      | [] => unfinished
      | d :: rest => do
        let (last, ahead) ← readClassAtom l (d :: rest)
        let span : Span := ⟨first.2.start, last.2.stop⟩
        let low ← rangeBound first
        let high ← rangeBound last
        if low.char ≤ high.char then return (classItem (.range low high) span, ahead)
        else flawAt .classRangeOrder span
  | ahead => return (← classItemOf first, ahead)

/-- A token outside of brackets that is this character alone. -/
def single? (span : Span) : Char → Option Token
  | '\\' | '(' | '[' | '*' | '+' | '?' | '\x7b' => none
  | '.' => some (part (.dot span))
  | '^' => some (part (.point .caret))
  | '$' => some (part (.point .dollar))
  | '|' => some bar
  | ')' => some groupClose
  | c => some (part (.char ⟨c, false, span⟩))

/-- Reads any other token outside of brackets. -/
def readOutside (l : Layout) (c : Char) (ahead : List Char) : Reading :=
  let start := c :: ahead
  let repetition (least : Nat) (most : Option Nat) : Reading :=
    let (lazy, ahead) := readLazy ahead
    .ok (.repetition (.ok (least, most)) lazy, ahead)
  match c with
  | '(' => readGroup l start ahead
  | '[' => readClassOpen l start ahead
  | '*' => repetition 0 none
  | '+' => repetition 1 none
  | '?' => repetition 0 (some 1)
  | '\x7b' =>
    match readBounds l start ahead with
    | .ok (bounds, lazy, ahead) => .ok (.repetition (.ok bounds) lazy, ahead)
    | .error f => .ok (.repetition (.error f) false, ahead)
  | _ => do
    let (t, ahead) ← Escape.read l start ahead
    return (.part t, ahead)

/-- Reads a token between brackets. -/
def readInside (l : Layout) (c : Char) (ahead : List Char) : Reading :=
  match c, ahead with
  | '[', _ => (readNamedClass? l (c :: ahead) ahead).elim (readClassOpen l (c :: ahead) ahead) .ok
  | ']', _ => .ok (classClose, ahead)
  | '&', '&' :: ahead => .ok (classOperator .intersection, ahead)
  | '-', '-' :: ahead => .ok (classOperator .difference, ahead)
  | '~', '~' :: ahead => .ok (classOperator .symmetricDifference, ahead)
  | _, _ => readClassItem l (c :: ahead)

/-- Whether flags set spacing, if they say anything about it. -/
def spacing? (flags : List Char) : Option Bool :=
  if flags.contains 'x' then some (!(flags.takeWhile (· != 'x')).contains '-') else none

/-- What the scan has to know of the tokens before. -/
structure ScanState where
  layout : Layout
  /-- the brackets that are open -/
  brackets : Nat
  /-- whether the layout is spaced around each open group, from the inside out -/
  outer : List Bool

namespace ScanState

def withSpacing (s : ScanState) (spaced : Bool) : ScanState :=
  { s with layout := { s.layout with spaced } }

/-- The state after a token. -/
def after (s : ScanState) : Token → ScanState
  | .classOpen _ _ => { s with brackets := s.brackets + 1 }
  | .classClose => { s with brackets := s.brackets - 1 }
  | .flags written => s.withSpacing ((spacing? written).getD s.layout.spaced)
  | .groupOpen _ _ written =>
    { s with outer := s.layout.spaced :: s.outer }.withSpacing
      ((spacing? written).getD s.layout.spaced)
  | .groupClose =>
    match s.outer with
    | [] => s
    | spaced :: outer => { s with outer }.withSpacing spaced
  | _ => s

end ScanState

/-- The tokens of a text, once `skip` characters have been passed over.  The text begins at this
position. -/
def scanFrom (s : ScanState) (skip position : Nat) : List Char → List (Token × Span)
  | [] => []
  | c :: rest =>
    match skip with
    | skip + 1 => scanFrom s skip (position + 1) rest
    | 0 =>
      match s.layout.next (c :: rest) with
      | [] => []
      | d :: text =>
        let first := if s.layout.spaced then s.layout.position (d :: text) else position
        let span : Span := ⟨first, first + 1⟩
        match if s.brackets = 0 then single? span d else none with
        | some token =>
          (token, span) :: scanFrom (s.after token) (first - position) (position + 1) rest
        | none =>
          match (if s.brackets = 0 then readOutside else readInside) s.layout d text with
          | .error f => [(flawed f, span)]
          | .ok (token, ahead) =>
            let stop := s.layout.position ahead
            (token, ⟨first, stop⟩) ::
              scanFrom (s.after token) (stop - (position + 1)) (position + 1) rest

def scan (written : String) : List (Token × Span) :=
  scanFrom ⟨⟨written.length, false⟩, 0, []⟩ 0 0 written.toList

end Token

end HaxeTypedefs
