import MemorySentry.Object.Basic

/-!
# Kinds of violations

Every violation has a kind, with a number and a symbol that log readers match on, and most have a
weakness, an entry of the Common Weakness Enumeration.
-/

namespace MemorySentry

/-- The weaknesses that violations are attributed to. -/
inductive Weakness where
  | bufferOverflow
  | stackOverflow
  | heapOverflow
  | doubleFree
  | useAfterFree
  | nullDereference
  | freeOutsideHeap
  | freeInsideObject
deriving DecidableEq

namespace Weakness

/-- All weaknesses. -/
def all : List Weakness :=
  [.bufferOverflow, .stackOverflow, .heapOverflow, .doubleFree, .useAfterFree, .nullDereference,
    .freeOutsideHeap, .freeInsideObject]

/-- The number of the weakness in the enumeration. -/
def id : Weakness → Nat
  | .bufferOverflow => 120
  | .stackOverflow => 121
  | .heapOverflow => 122
  | .doubleFree => 415
  | .useAfterFree => 416
  | .nullDereference => 476
  | .freeOutsideHeap => 590
  | .freeInsideObject => 761

/-- The weakness with a number. -/
def ofId? (n : Nat) : Option Weakness :=
  all.find? fun w => w.id == n

/-- The weakness of an overflow, by where the overflowed object lives. -/
def ofOverflow : ObjectKind → Weakness
  | .heap | .custom => .heapOverflow
  | .stack | .byValue => .stackOverflow
  | .global | .external => .bufferOverflow

end Weakness

/-- What a violation consists in. -/
inductive ViolationKind where
  /-- An access into freed memory through a pointer that may point anywhere. -/
  | suspectAccess
  | danglingPointer
  | doubleFree
  /-- A free of a pointer that is not the base of its object. -/
  | invalidFree
  /-- A free of memory that is not on the heap. -/
  | freeOutsideHeap
  | outOfBounds
  /-- An access outside an object whose bounds the check was given. -/
  | accessOutOfBounds
  | misaligned
  | writeOutOfBounds
  /-- A use of the null pointer. -/
  | uninitialized
  /-- A library function was given a string without an end. -/
  | libraryMisuse
  /-- A call of a function that is not among the possible ones. -/
  | invalidCall
deriving DecidableEq

namespace ViolationKind

/-- All kinds, in the order of their codes. -/
def all : List ViolationKind :=
  [.suspectAccess, .danglingPointer, .doubleFree, .invalidFree, .freeOutsideHeap, .outOfBounds,
    .accessOutOfBounds, .misaligned, .writeOutOfBounds, .uninitialized, .libraryMisuse,
    .invalidCall]

/-- The number of the kind in logs. -/
def code : ViolationKind → Nat
  | .suspectAccess => 0
  | .danglingPointer => 1
  | .doubleFree => 2
  | .invalidFree => 3
  | .freeOutsideHeap => 4
  | .outOfBounds => 5
  | .accessOutOfBounds => 6
  | .misaligned => 7
  | .writeOutOfBounds => 8
  | .uninitialized => 9
  | .libraryMisuse => 10
  | .invalidCall => 11

/-- The kind with a number. -/
def ofCode? (n : Nat) : Option ViolationKind :=
  all[n]?

/-- The symbol of the kind in logs and records. -/
def symbol : ViolationKind → String
  | .suspectAccess => "WARN_LOAD_STORE"
  | .danglingPointer => "FAULT_DANGLING_PTR"
  | .doubleFree => "FAULT_DOUBLE_FREE"
  | .invalidFree => "FAULT_INVALID_FREE"
  | .freeOutsideHeap => "FAULT_NOTHEAP_FREE"
  | .outOfBounds => "FAULT_OUT_OF_BOUNDS"
  | .accessOutOfBounds => "FAULT_LOAD_STORE"
  | .misaligned => "FAULT_ALIGN"
  | .writeOutOfBounds => "FAULT_WRITE_OUT_OF_BOUNDS"
  | .uninitialized => "FAULT_UNINIT"
  | .libraryMisuse => "FAULT_CSTDLIB"
  | .invalidCall => "FAULT_CALL"

/-- The kind with a symbol. -/
def ofSymbol? (s : String) : Option ViolationKind :=
  all.find? fun k => k.symbol == s

/-- The kind in words, for alerts. -/
def description : ViolationKind → String
  | .suspectAccess => "Potential Load/Store Error"
  | .danglingPointer => "Use After Free Error"
  | .doubleFree => "Double Free Error"
  | .invalidFree => "Invalid Free Error"
  | .freeOutsideHeap => "Freeing Non-Heap Object Error"
  | .outOfBounds => "Out of Bounds Error"
  | .accessOutOfBounds => "Load/Store Error"
  | .misaligned => "Alignment Error"
  | .writeOutOfBounds => "Writing Out of Bounds Error"
  | .uninitialized => "Uninitialized/NULL Pointer Error"
  | .libraryMisuse => "C Library Undefined Behavior"
  | .invalidCall => "Invalid Call Target Error"

/-- Warnings are logged but do not count against the error budget; all other kinds are faults. -/
def isWarning : ViolationKind → Bool
  | .suspectAccess => true
  | _ => false

/-- The weakness of the kind, unless the check knows a better one. -/
def weakness : ViolationKind → Option Weakness
  | .suspectAccess | .danglingPointer => some .useAfterFree
  | .doubleFree => some .doubleFree
  | .invalidFree => some .freeInsideObject
  | .freeOutsideHeap => some .freeOutsideHeap
  | .outOfBounds | .accessOutOfBounds | .misaligned | .writeOutOfBounds | .libraryMisuse =>
    some .bufferOverflow
  | .uninitialized => some .nullDereference
  | .invalidCall => none

end ViolationKind

end MemorySentry
