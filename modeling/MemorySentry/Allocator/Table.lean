import MemorySentry.Allocator.Family
import MemorySentry.Object.Basic

/-!
# Known allocation functions

The families of allocation functions that are known, in the order in which they were announced. The
first family that recognises a call decides, so that a later family never changes how a call is
understood that an earlier one recognises.
-/

namespace MemorySentry

/-- The known families of allocation functions. -/
structure AllocatorTable where
  /-- The families in the order of their announcement. -/
  families : List Allocator := []
  /-- The number of families at the front that are standard. -/
  standardCount : Nat := 0

namespace AllocatorTable

/-- The allocation functions of the C library and of C++, the latter in the manglings of both widths
of sizes. -/
def standardFamilies : List Allocator :=
  [⟨"malloc", "free", .given 1, 1⟩, ⟨"calloc", "free", .product 1 2, 1⟩,
    ⟨"realloc", "free", .resized 1 2, 1⟩, ⟨"strdup", "free", .measured, 1⟩,
    ⟨"strndup", "free", .measured, 1⟩, ⟨"_Znwm", "_ZdlPv", .given 1, 1⟩,
    ⟨"_Znam", "_ZdaPv", .given 1, 1⟩, ⟨"_Znwj", "_ZdlPv", .given 1, 1⟩,
    ⟨"_Znaj", "_ZdaPv", .given 1, 1⟩]

/-- The table without families. -/
def empty : AllocatorTable := {}

/-- The table of the standard families. -/
def standard : AllocatorTable where
  families := standardFamilies
  standardCount := standardFamilies.length

/-- Announces one more family. -/
def announce (t : AllocatorTable) (f : Allocator) : AllocatorTable :=
  { t with families := t.families ++ [f] }

/-- The family through which a call allocates, and the kind of the object: standard families give
objects on the heap and all others custom ones. -/
def allocating? (t : AllocatorTable) (c : Call) : Option (Allocator × ObjectKind) :=
  ((t.families.zipIdx).find? fun e => e.1.allocates c).map fun e =>
    (e.1, if e.2 < t.standardCount then .heap else .custom)

/-- The family through which a call frees. -/
def freeing? (t : AllocatorTable) (c : Call) : Option Allocator :=
  t.families.find? fun f => f.frees c

end AllocatorTable

end MemorySentry
