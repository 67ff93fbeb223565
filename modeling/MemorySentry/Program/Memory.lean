import MemorySentry.Monitor.Check

/-!
# The memory of a program

The bytes that a program can read. Memory that nobody wrote to is zero.
-/

namespace MemorySentry

/-- The bytes of a program. -/
abbrev Memory := Address → UInt8

namespace Memory

/-- Memory that nobody wrote to. -/
def blank : Memory := fun _ => 0

/-- Writes bytes from an address on. -/
def write (m : Memory) (a : Address) (bytes : List UInt8) : Memory :=
  fun x => (bytes[(x - a).toNat]?).getD (m x)

/-- The number that consecutive bytes mean, the least significant byte first. -/
def littleEndian (m : Memory) (a : Address) : (count : Nat) → Nat
  | 0 => 0
  | count + 1 => (m a).toNat + 256 * littleEndian m (a + 1) count

/-- The pointer that is stored at an address. -/
def pointerAt (m : Memory) (a : Address) : Address :=
  UInt64.ofNat (m.littleEndian a 8)

/-- The bytes of a number, the least significant byte first. -/
def bytesOf (n : Nat) : (count : Nat) → List UInt8
  | 0 => []
  | count + 1 => UInt8.ofNat n :: bytesOf (n / 256) count

/-- Stores pointers one after another. -/
def storePointers (m : Memory) (a : Address) (pointers : List Address) : Memory :=
  m.write a (pointers.flatMap fun p => bytesOf p.toNat 8)

/-- The length of the string at an address. All bytes from there on are looked at until one is
zero. -/
def stringLength? (m : Memory) (a : Address) : Option ByteCount :=
  Monitor.stringLength? m a UInt64.size

end Memory

end MemorySentry
