/-
The size of a machine that reads the bytes of texts.

A machine has states.  Each takes 32 bytes; one with a choice of ranges of bytes
or of states that can come next takes more.  The states are numbered in the order
in which they are made.
-/

namespace HaxeTypedefs

/-- Which way a machine reads. -/
inductive Direction where
  | forwards
  | backwards
  deriving DecidableEq, Repr

structure MachineSize where
  states : Nat
  /-- the bytes for choices -/
  choices : Nat
  deriving DecidableEq, Repr

namespace MachineSize

instance : Add MachineSize where
  add m n := ⟨m.states + n.states, m.choices + n.choices⟩

def bytes (m : MachineSize) : Nat :=
  32 * m.states + m.choices

/-- One state without a choice. -/
def state : MachineSize :=
  ⟨1, 0⟩

/-- One state with a choice of so many ranges of bytes. -/
def ofRanges (count : Nat) : MachineSize :=
  ⟨1, 8 * count⟩

/-- One state with a choice of so many states. -/
def ofBranches (count : Nat) : MachineSize :=
  ⟨1, 4 * count⟩

/-- No machine may be larger. -/
def limit : Nat := 10485760

def isTooLarge (m : MachineSize) : Bool :=
  limit < m.bytes

/-- Adds a part so many times, until the machine is too large. -/
def copies (part : MachineSize → MachineSize) : Nat → MachineSize → MachineSize
  | 0, m => m
  | n + 1, m => if m.isTooLarge then m else copies part n (part m)

end MachineSize

end HaxeTypedefs
