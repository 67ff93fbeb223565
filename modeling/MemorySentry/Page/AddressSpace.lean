import MemorySentry.Page.Request

/-!
# A simple address space

An operating system that places mappings from the top of the free addresses downward and never takes
one back. It stands in for a real one where there is none. Where its free addresses lie is its own
choice, which can be made such that mappings stay away from the addresses that a program names.
-/

namespace MemorySentry

/-- Consecutive addresses. -/
structure AddressRange where
  /-- The first address. -/
  start : Nat
  /-- The number of bytes. -/
  bytes : Nat
deriving DecidableEq

namespace AddressRange

/-- Whether an address is in a range. -/
def contains (r : AddressRange) (a : Nat) : Bool :=
  r.start ≤ a && a < r.start + r.bytes

/-- The last addresses of a range, if it has as many, and the range without them. -/
def takeLast (r : AddressRange) (bytes : Nat) : Option (Nat × AddressRange) :=
  if bytes ≤ r.bytes then some (r.start + (r.bytes - bytes), ⟨r.start, r.bytes - bytes⟩) else none

end AddressRange

/-- The mappings of a process. -/
structure AddressSpace where
  /-- All mappings, the oldest first. -/
  mappings : List AddressRange := []
  /-- Where short mappings are placed as long as there is room. -/
  short : AddressRange := ⟨0, 0⟩
  /-- Where all others are placed, in the order in which the ranges are tried. -/
  free : List AddressRange := [⟨0x560000000000, 0x290000000000⟩]
  /-- The greatest number of bytes of fresh memory that is given out at once. -/
  memory : Nat := 31 <<< 30
  /-- What it tells of the number of bytes of a page. -/
  toldPageSize : Int64 := 4096

namespace AddressSpace

/-- The number of bytes of a page. -/
def pageSize (s : AddressSpace) : UInt64 :=
  Page.size s.toldPageSize

/-- The number of addresses that a process can use. -/
def reach (s : AddressSpace) : Nat :=
  1 <<< 47 - s.pageSize.toNat

/-- The number of an error in the arguments. -/
def invalidArgument : Errno := 22

/-- The number of an error in an address. -/
def badAddress : Errno := 14

/-- A number of bytes rounded up to whole pages. -/
def wholePages (s : AddressSpace) (bytes : Nat) : Nat :=
  Word.divUp bytes s.pageSize.toNat * s.pageSize.toNat

/-- Whether an address is mapped. -/
def isMapped (s : AddressSpace) (a : Nat) : Bool :=
  s.mappings.any fun m => m.contains a

/-- The greatest number of bytes of a short mapping, which finds room between what the program was
loaded with. -/
def shortBytes (s : AddressSpace) : Nat :=
  2 * s.pageSize.toNat

/-- The last addresses of the first range that has as many, and the ranges without them. -/
def takeFirst (bytes : Nat) : List AddressRange → Option (Nat × List AddressRange)
  | [] => none
  | r :: rest =>
    match r.takeLast bytes with
    | some (start, r) => some (start, r :: rest)
    | none => (takeFirst bytes rest).map fun (start, rest) => (start, r :: rest)

/-- Finds addresses for whole pages. -/
def take (s : AddressSpace) (bytes : Nat) : Option (Nat × AddressSpace) :=
  match if bytes ≤ s.shortBytes then s.short.takeLast bytes else none with
  | some (start, short) => some (start, { s with short })
  | none => (takeFirst bytes s.free).map fun (start, free) => (start, { s with free })

/-- Places a mapping of whole pages. -/
def place (s : AddressSpace) (bytes : Nat) : Except Errno Address × AddressSpace :=
  match s.take bytes with
  | none => (.error .outOfMemory, s)
  | some (start, s) =>
    (.ok (UInt64.ofNat start), { s with mappings := s.mappings ++ [⟨start, bytes⟩] })

/-- Maps fresh memory. -/
def map (bytes : ByteCount) (s : AddressSpace) : Except Errno Address × AddressSpace :=
  let bytes := s.wholePages bytes.toNat
  if bytes = 0 then (.error invalidArgument, s)
  else if s.memory < bytes then (.error .outOfMemory, s)
  else s.place bytes

/-- Maps the pages at an address a second time. It takes no fresh memory, so the second view may be
as long as there are addresses for it. -/
def remap (r : Page.Request) (s : AddressSpace) : Except Errno Address × AddressSpace :=
  let bytes := s.wholePages r.bytes.toNat
  if r.start % s.pageSize ≠ 0 ∨ bytes = 0 ∨ s.reach < bytes then (.error invalidArgument, s)
  else if !s.isMapped r.start.toNat then (.error badAddress, s)
  else s.place bytes

/-- Changes the protection of pages, all of which have to be mapped. -/
def protect (r : Page.Request) (s : AddressSpace) : Except Errno Unit :=
  let first := r.start.toNat
  let stop := first + s.wholePages r.bytes.toNat
  if r.bytes = 0 then .ok ()
  else if (s.mappings.filter fun m => m.start < stop ∧ first < m.start + m.bytes).foldl
      (fun covered m => if m.start ≤ covered then max covered (m.start + m.bytes) else covered)
      first < stop then .error .outOfMemory
  else .ok ()

/-- Whether an address is at a distance from all named ones. -/
def isApart (named : List Nat) (distance a : Nat) : Bool :=
  named.all fun n => n + distance ≤ a ∨ a + distance ≤ n

/-- The first one of some addresses that is at a distance from all named ones, or the last one. The
addresses go down from the given one in steps of twice the distance. -/
def apartAmong (named : List Nat) (distance : Nat) : (count : Nat) → Nat → Nat
  | 0, a => a
  | count + 1, a =>
    if isApart named distance a then a else apartAmong named distance count (a - 2 * distance)

/-- An address not above the given one that is at a distance from all named ones. A named address is
near to one candidate at most, so one candidate more than there are names is enough. -/
def apartFrom (named : List Nat) (distance a : Nat) : Nat :=
  apartAmong named distance named.length a

/-- A number of bytes that leaves room for mappings, in whole pages. Small numbers among the named
ones, and words that are small when they are negative, may be lengths or offsets, and it is greater
than all of them together. -/
def clearance (named : List Nat) : Nat :=
  let lengths := (named.map fun n => min n (UInt64.size - n)).filter fun n => n ≤ 1 <<< 34
  min (1 <<< 36) ((lengths.foldl (· + ·) 0 / 1 <<< 28 + 1) <<< 28)

/-- The end of the range for short mappings, away from named addresses. -/
def topFrom (named : List Nat) : Nat :=
  apartFrom named (4 * clearance named) 0x7fe000000000

/-- Where the code of a program starts. -/
def codeStart : Nat := 0x555555554000

/-- Where the range for mappings above the code starts. -/
def highStart : Nat := 0x560000000000

/-- The address space of a program with one mapping below its code. New mappings are placed away
from named addresses: short ones at the top, the others below them as long as there is room above
the code, then on both sides of that mapping. -/
def around (m : AddressRange) (named : List Nat) : AddressSpace where
  mappings := [m]
  short := ⟨topFrom named - clearance named, clearance named⟩
  free :=
    [⟨highStart, topFrom named - 2 * clearance named - highStart⟩,
      ⟨m.start + m.bytes, codeStart - (m.start + m.bytes)⟩,
      ⟨1 <<< 16, m.start - 1 <<< 16⟩]

end AddressSpace

end MemorySentry
