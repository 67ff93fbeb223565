import MemorySentry.Violation.Basic

/-!
# Checks without a pool

Some checks bring along all they need: the bounds of the object that a pointer was derived from, or
the functions that a call may go to.
-/

namespace MemorySentry.DirectCheck

/-- Checks that a pointer derived from an object of `size` bytes at `base` still points into it. -/
def address (base pointer : Address) (size : ByteCount) : Except Violation Address :=
  let outside : Violation := { kind := .outOfBounds, pointer }
  match Span.ofLength base size with
  | .error _ => .error outside
  | .ok s => if s.contains pointer then .ok pointer else .error (outside.outside s)

/-- Checks that an access of `length` bytes stays in an object of `size` bytes at `base`. -/
def access (base pointer : Address) (size length : ByteCount) : Except Violation Unit :=
  let outside : Violation := { kind := .accessOutOfBounds, pointer }
  match Span.ofLength base size with
  | .error _ => .error outside
  | .ok s =>
    if length = 0 ∨ s.containsBytes pointer length then .ok () else .error (outside.outside s)

/-- Checks that a call goes to one of the functions that it may go to. -/
def callTarget (target : Address) (targets : List Address) : Except Violation Unit :=
  if target ∈ targets then .ok () else .error { kind := .invalidCall, pointer := target }

end MemorySentry.DirectCheck
