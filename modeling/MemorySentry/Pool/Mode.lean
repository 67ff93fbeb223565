/-!
# How a check is meant

The instrumentation says with each check what it knows about the pointer and what the program is
about to do with it.
-/

namespace MemorySentry

/-- What is known about the origin of a pointer. -/
inductive Provenance where
  /-- Every object that the pointer may point to is in the pool. -/
  | complete
  /-- The pointer may point to memory that was never registered. -/
  | incomplete
deriving DecidableEq

/-- What the program does with the memory. -/
inductive Access where
  | read
  | write
deriving DecidableEq

/-- How a check is meant. -/
structure CheckMode where
  /-- What is known about the pointer. -/
  provenance : Provenance
  /-- What the program does with the memory. -/
  access : Access
deriving DecidableEq

namespace CheckMode

/-- The mode that a mode word stands for: its lowest bit means complete provenance, the next one a
write, and no other bit means anything. -/
def ofBits (bits : Nat) : CheckMode where
  provenance := if bits.testBit 0 then .complete else .incomplete
  access := if bits.testBit 1 then .write else .read

/-- The mode word of a mode. -/
def bits (m : CheckMode) : Nat :=
  (match m.provenance with
    | .complete => 1
    | .incomplete => 0) +
  (match m.access with
    | .write => 2
    | .read => 0)

end CheckMode

end MemorySentry
