import MemorySentry.Word

/-!
# Families of allocation functions

A program allocates and frees memory by calling functions that belong together. An `Allocator` says
how to recognise the calls of one such family, and in which arguments the size and the pointers are.
Arguments are counted from one; a position at which a call has no argument says nothing.
-/

namespace MemorySentry

/-- A call that the program made. -/
structure Call where
  /-- The name of the called function. -/
  callee : String
  /-- The arguments. -/
  args : List UInt64
  /-- The value that the function returned. -/
  returned : UInt64
deriving DecidableEq

/-- The argument at a position, counted from one. -/
def Call.arg? (c : Call) (position : Nat) : Option UInt64 :=
  match position with
  | 0 => none
  | i + 1 => c.args[i]?

/-- How a family of allocation functions makes its size known. -/
inductive SizeRule where
  /-- The size is an argument. -/
  | given (size : Nat)
  /-- The size is the product of two arguments. -/
  | product (count size : Nat)
  /-- The size is that of the string returned, with its terminator. -/
  | measured
  /-- An object is resized: one argument points to it and another is the new size. -/
  | resized (old size : Nat)
deriving DecidableEq

/-- A family of allocation functions. -/
structure Allocator where
  /-- The name of the allocating function. -/
  allocName : String
  /-- The name of the freeing function. -/
  freeName : String
  /-- Where the size comes from. -/
  rule : SizeRule
  /-- The position of the pointer that is freed. -/
  freedPosition : Nat := 1
deriving DecidableEq

namespace Allocator

/-- Whether a call allocates through the family. A string function without arguments is only probed
for and allocates nothing. -/
def allocates (f : Allocator) (c : Call) : Bool :=
  c.callee == f.allocName && (f.rule != .measured || !c.args.isEmpty)

/-- Whether a call frees through the family. -/
def frees (f : Allocator) (c : Call) : Bool :=
  c.callee == f.freeName

/-- The address whose string has to be measured to know the size of what a call allocated. -/
def measures? (f : Allocator) (c : Call) : Option Address :=
  match f.rule with
  | .measured => if c.returned = 0 then none else some c.returned
  | _ => none

/-- The size of what a call allocated, if it is known and fits a word. The last argument gives the
length of the string at an address. -/
def size? (f : Allocator) (c : Call) (measure : Address → Option ByteCount) :
    Option ByteCount :=
  match f.rule with
  | .given size | .resized _ size => c.arg? size
  | .product count size => do Word.mul? (← c.arg? count) (← c.arg? size)
  | .measured => do Word.add? (← measure (← f.measures? c)) 1

/-- The object that a call resized. -/
def resized? (f : Allocator) (c : Call) : Option Address :=
  match f.rule with
  | .resized old _ => c.arg? old
  | _ => none

/-- The address that a call frees. -/
def freed? (f : Allocator) (c : Call) : Option Address :=
  c.arg? f.freedPosition

end Allocator

end MemorySentry
