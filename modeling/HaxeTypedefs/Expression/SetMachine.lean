/-
The size of a machine for one character of a set.

For a set below U+0080 one state has all ranges.  For any other set the bytes are
read one by one: forwards, a state has all ranges that can come next; backwards,
there is a state for every range.  A table tells which states have been made for
the set, so that they are not made again.  It has a limited number of places, and
the place of a state depends on the numbers of others.  For this reason the size
is not the same wherever the set stands.
-/
import HaxeTypedefs.Expression.MachineSize
import HaxeTypedefs.Text.ByteRanges
import Std.Data.HashMap

namespace HaxeTypedefs

/-- A word of 64 bits for a list of numbers; the words for different lists lie far apart. -/
def spread (numbers : List Nat) : UInt64 :=
  numbers.foldl (fun h n => (h ^^^ n.toUInt64) * 1099511628211) 14695981039346656037

/-- The numbers of states by what they are made of.  Of several states with the same place the
last one has it. -/
structure StateTable where
  /-- how many places there are -/
  size : Nat
  places : Std.HashMap Nat (List Nat × Nat)

namespace StateTable

def ofSize (size : Nat) : StateTable :=
  ⟨size, ∅⟩

def place (t : StateTable) (key : List Nat) : Nat :=
  (spread key % t.size.toUInt64).toNat

def find? (t : StateTable) (key : List Nat) : Option Nat :=
  match t.places[t.place key]? with
  | some (other, n) => if other = key then some n else none
  | none => none

def insert (t : StateTable) (key : List Nat) (n : Nat) : StateTable :=
  { t with places := t.places.insert (t.place key) (key, n) }

end StateTable

/-- A machine for a set as far as it has been made. -/
structure SetMachine where
  size : MachineSize
  made : StateTable

namespace SetMachine

/-- The state that is made of these numbers, and the machine that has it. -/
def state (key : List Nat) (size : MachineSize) (m : SetMachine) : Nat × SetMachine :=
  match m.made.find? key with
  | some n => (n, m)
  | none =>
    let n := m.size.states
    (n, ⟨m.size + size, m.made.insert key n⟩)

/-- The state from which these encodings are read forwards, up to a state with the number `stop`.
No encoding has more than `most` bytes. -/
def forwards (stop : Nat) : (most : Nat) → List (List PointRange) → SetMachine → Nat × SetMachine
  | 0, _, m => (stop, m)
  | most + 1, encoded, m =>
    let (key, m) := (encoded.splitBy fun a b => a.head? = b.head?).foldl
      (fun (key, m) branch =>
        let rest := branch.map List.tail
        let (next, m) := if rest.all (· = []) then (stop, m) else forwards stop most rest m
        match branch.head?.bind List.head? with
        | some r => (key ++ [r.1, r.2, next], m)
        | none => (key, m))
      (([], m) : List Nat × SetMachine)
    m.state key (.ofRanges (key.length / 3))

/-- Adds the states by which an encoding is read backwards, in front of one with the number
`stop`. -/
def backwards (stop : Nat) (m : SetMachine) (encoding : List PointRange) : SetMachine :=
  (encoding.foldl (fun (next, m) r => m.state [next, r.1, r.2] .state) (stop, m)).2

end SetMachine

/-- Adds a machine for one character of the set. -/
def MachineSize.addSet (d : Direction) (s : CharSet) (m : MachineSize) : MachineSize :=
  if s.isAscii then m + .state + .ofRanges s.ranges.length
  else
    let encoded := encodedRanges s
    match d with
    | .forwards => (SetMachine.forwards m.states 4 encoded ⟨m + .state, .ofSize 10000⟩).2.size
    | .backwards =>
      let start := m + .ofBranches encoded.length
      (encoded.foldl (SetMachine.backwards start.states) ⟨start + .state, .ofSize 1000⟩).size

end HaxeTypedefs
