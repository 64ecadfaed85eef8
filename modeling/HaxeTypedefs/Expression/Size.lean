/-
The size of a regular expression, and the greatest size that is allowed.

The size is that of a machine for the expression, which reads the bytes of a
text forwards or backwards and has as many copies of a part as it may be
repeated.

* **`Expression.isTooLarge`** — one of the two machines is too large.
-/
import HaxeTypedefs.Expression.Basic
import HaxeTypedefs.Expression.SetMachine
import HaxeTypedefs.Expression.WordTree

namespace HaxeTypedefs

namespace Expression

/-- All that is read begins at the start of the text. -/
def isAtStart : Expression → Bool
  | point p => p = .textStart
  | seq p q => p.isAtStart || p.readsNothing && q.isAtStart
  | either p q => p.isAtStart && q.isAtStart
  | repeated p least _ _ => least ≠ 0 && p.isAtStart
  | captured _ p => p.isAtStart
  | _ => false

/-- All that is read ends at the end of the text. -/
def isAtEnd : Expression → Bool
  | point p => p = .textEnd
  | seq p q => q.isAtEnd || q.readsNothing && p.isAtEnd
  | either p q => p.isAtEnd && q.isAtEnd
  | repeated p least _ _ => least ≠ 0 && p.isAtEnd
  | captured _ p => p.isAtEnd
  | _ => false

/-- The characters of a text, if it is one. -/
def word? : Expression → Option String
  | text cs => some (.ofList cs)
  | _ => none

/-- The fork of alternatives and their common end are made when there is a second one; each
alternative is a branch of the fork. -/
def forkSize (earlier : Nat) : MachineSize :=
  ⟨if earlier = 1 then 2 else 0, 4⟩

/-- Adds so many copies of a part; for none there is a state that reads nothing. -/
def addCopies (part : MachineSize → MachineSize) (count : Nat) (m : MachineSize) : MachineSize :=
  if count = 0 then m + .state else m.copies part count

/-- Adds the part of a machine that reads the expression, if so many alternatives come before it. -/
def addTo (d : Direction) : (earlier : Nat) → Expression → MachineSize → MachineSize
  | _, empty, m | _, point _, m => m + .state
  | _, text cs, m => m + ⟨(String.ofList cs).utf8ByteSize, 0⟩
  | _, one s _, m => m.addSet d s
  | _, seq p q, m =>
    match d with
    | .forwards => q.addTo d 0 (p.addTo d 0 m)
    | .backwards => p.addTo d 0 (q.addTo d 0 m)
  | earlier, either p q, m =>
    match if earlier = 0 then (either p q).alternatives.mapM word? else none with
    | some words => m + wordTreeSize d words
    | none =>
      let m := p.addTo d 0 m + forkSize earlier
      match q with
      | either _ _ => q.addTo d (earlier + 1) m
      | _ => q.addTo d 0 m + forkSize (earlier + 1)
  | _, repeated p 0 none _, m =>
    if p.shortest.any (0 < ·) then p.addTo d 0 (m + .ofBranches 2)
    else p.addTo d 0 m + .ofBranches 2 + .ofBranches 2 + .state
  | _, repeated p least none _, m => m.copies (p.addTo d 0) least + .ofBranches 2
  | _, repeated p least (some most) _, m =>
    if least = most then addCopies (p.addTo d 0) least m
    else if least = 0 ∧ most = 1 then p.addTo d 0 (m + .ofBranches 2) + .state
    else
      (addCopies (p.addTo d 0) least m + .state).copies (fun m => p.addTo d 0 (m + .ofBranches 2))
        (most - least)
  | _, captured _ p, m =>
    match d with
    | .forwards => p.addTo d 0 (m + .state) + .state
    | .backwards => p.addTo d 0 m

/-- What comes before the expression in a machine: unless it can be read at one place only, a loop
over any bytes. -/
def frontSize (anchored : Bool) : MachineSize :=
  if anchored then .state else .ofBranches 2 + .state + .ofRanges 1

/-- The size of a machine for the expression. -/
def machineSize (d : Direction) (e : Expression) : MachineSize :=
  match d with
  | .forwards => (captured 0 e).addTo d 0 (frontSize e.isAtStart) + .state
  | .backwards => e.addTo d 0 (frontSize e.isAtEnd) + .state

def isTooLarge (e : Expression) : Bool :=
  (e.machineSize .forwards).isTooLarge || (e.machineSize .backwards).isTooLarge

end Expression

end HaxeTypedefs
