/-
Text as a plain terminal shows it: without control characters and without the
sequences of characters by which a terminal is controlled.

A sequence begins with an escape character, and the next character says how far
it goes.  White space inside a sequence is shown all the same; what comes right
after it is shown too, and the sequence goes on only at the next character that
is not.
-/

namespace HaxeTypedefs

/-- How far a control sequence has been read. -/
inductive Sequence where
  /-- the escape character -/
  | escape
  /-- an escape character with something between it and the final character -/
  | designation
  /-- parameters, up to a final character: a colour for example -/
  | control
  /-- the beginning of a string for the device -/
  | device
  /-- the parameters of such a string -/
  | deviceParameters
  /-- what stands between the parameters and the name of the string -/
  | deviceIntermediates
  /-- a string that a string terminator ends -/
  | string
  /-- a command that a bell ends -/
  | command
  deriving DecidableEq, Repr

namespace Sequence

/-- What is left to read of the sequence after this character; `none` if it is the final one. -/
def next (s : Sequence) (c : Char) : Option Sequence :=
  let isIn (first last : Char) : Bool := first ≤ c && c ≤ last
  match s with
  | escape =>
    if isIn ' ' '/' then some designation
    else if c = '[' then some control
    else if c = ']' then some command
    else if c = 'P' then some device
    else if c = 'X' || c = '^' || c = '_' then some string
    else if isIn '0' '~' then none
    else some escape
  | designation => if isIn '0' '~' then none else some designation
  | control => if isIn '@' '~' then none else some control
  | device =>
    if isIn ' ' '/' then some deviceIntermediates
    else if isIn '0' '?' then some deviceParameters
    else if isIn '@' '~' then some string
    else some device
  | deviceParameters =>
    if isIn ' ' '/' then some deviceIntermediates
    else if isIn '<' '~' then some string
    else some deviceParameters
  | deviceIntermediates => if isIn '0' '~' then some string else some deviceIntermediates
  | string =>
    -- the terminator is the single byte 0x9C, wherever it stands
    if (String.utf8EncodeChar c).contains 0x9c then none else some string
  | command => if c = '\x07' then none else some command

/-- White space is shown in the middle of such a sequence. -/
def isTransparent (s : Sequence) : Bool :=
  s = escape || s = designation || s = control

end Sequence

/-- White space that every terminal obeys. -/
def isFormatEffector (c : Char) : Bool :=
  c = '\t' || c = '\n' || c = '\x0c' || c = '\r'

/-- Outside of sequences the character is shown. -/
def isVisible (c : Char) : Bool :=
  isFormatEffector c || ' ' ≤ c && c != '\x7f'

/-- Where a terminal is in its text. -/
inductive TerminalState where
  | plain
  | within (s : Sequence)
  /-- showing text, and about to go on with the sequence -/
  | beside (s : Sequence)
  deriving DecidableEq, Repr

namespace TerminalState

/-- The state after reading a character that is not shown. -/
def skip (s : Option Sequence) (c : Char) : TerminalState :=
  if c = '\x1b' then within .escape
  else if c = '\x18' || c = '\x1a' then plain
  else match s.bind fun s => s.next c with
    | none => plain
    | some s => within s

/-- The character is shown, and the state after reading it. -/
def read (state : TerminalState) (c : Char) : Bool × TerminalState :=
  match state with
  | plain => if isVisible c then (true, plain) else (false, skip none c)
  | within s =>
    if isFormatEffector c && s.isTransparent then (true, beside s) else (false, skip (some s) c)
  | beside s =>
    if isVisible c then (true, if c.toNat < 0x80 then beside s else plain)
    else (false, skip (some s) c)

/-- What is shown of the characters. -/
def visible : TerminalState → List Char → List Char
  | _, [] => []
  | state, c :: rest =>
    let (isShown, after) := state.read c
    if isShown then c :: after.visible rest else after.visible rest

end TerminalState

/-- What a terminal shows of the text. -/
def visibleText (text : String) : String :=
  String.ofList (TerminalState.plain.visible text.toList)

end HaxeTypedefs
