import MemorySentry.Word

/-!
# Spans of addresses

A `Span` is a nonempty half-open range of addresses. That it is nonempty is part of the type, so
every span has a first and a last byte. The byte past its end must still be an address: a span
never ends past the largest word.
-/

namespace MemorySentry

/-- The addresses from `start` up to, and without, `stop`. -/
structure Span where
  /-- The first address. -/
  start : Address
  /-- The address after the last one. -/
  stop : Address
  /-- A span holds at least one address. -/
  start_lt_stop : start < stop
deriving DecidableEq

namespace Span

/-- Why two words name no span. -/
inductive Error where
  /-- The bounds enclose no address. -/
  | empty (start stop : Address)
  /-- The end lies outside the address space. -/
  | overflow (start : Address) (length : ByteCount)
deriving DecidableEq

/-- The wording of a refused span. -/
def Error.message : Error → String
  | .empty start stop =>
    "empty or inverted range [" ++ Word.hex start.toNat ++ ", " ++ Word.hex stop.toNat ++ ")"
  | .overflow start length =>
    "range at " ++ Word.hex start.toNat ++ " with length " ++ toString length.toNat ++
      " overflows the address space"

/-- The span between two bounds. -/
def ofBounds (start stop : Address) : Except Error Span :=
  if h : start < stop then .ok ⟨start, stop, h⟩ else .error (.empty start stop)

/-- The span of `length` bytes from `start`. -/
def ofLength (start : Address) (length : ByteCount) : Except Error Span :=
  match Word.add? start length with
  | some stop => ofBounds start stop
  | none => .error (.overflow start length)

/-- The number of bytes of a span. -/
def length (s : Span) : ByteCount :=
  s.stop - s.start

/-- The address of the last byte. -/
def lastByte (s : Span) : Address :=
  s.stop - 1

/-- Whether an address lies in the span. -/
def contains (s : Span) (a : Address) : Bool :=
  s.start ≤ a && a < s.stop

/-- Whether `length` bytes from `a` all lie in the span. No bytes at all lie in it when `a` is one
of its addresses or the address after them. -/
def containsBytes (s : Span) (a : Address) (length : ByteCount) : Bool :=
  s.start ≤ a &&
    match Word.add? a length with
    | some stop => stop ≤ s.stop
    | none => false

/-- Whether two spans share an address. -/
def overlaps (s t : Span) : Bool :=
  s.start < t.stop && t.start < s.stop

/-- The least span that covers both. -/
def hull (s t : Span) : Span where
  start := if s.start ≤ t.start then s.start else t.start
  stop := if s.stop ≤ t.stop then t.stop else s.stop
  start_lt_stop := by
    have hs := s.start_lt_stop
    have ht := t.start_lt_stop
    grind

/-- Where an address lies, seen from a span. -/
inductive Side where
  /-- Before the first byte. -/
  | below
  /-- Inside the span. -/
  | within
  /-- After the last byte. -/
  | above
deriving DecidableEq

/-- The side of a span on which an address lies. -/
def side (s : Span) (a : Address) : Side :=
  if a < s.start then .below else if s.stop ≤ a then .above else .within

/-- The span as an interval in hexadecimal. -/
def render (s : Span) : String :=
  "[" ++ Word.hex s.start.toNat ++ ", " ++ Word.hex s.stop.toNat ++ ")"

/-- An address is within a span exactly if the span contains it. -/
theorem side_eq_within_iff {s : Span} {a : Address} : s.side a = .within ↔ s.contains a = true := by
  unfold side contains
  grind

/-- A span contains its start, since no span is empty. -/
theorem contains_start (s : Span) : s.contains s.start = true := by
  have := s.start_lt_stop
  unfold contains
  grind

/-- Overlapping goes both ways. -/
theorem overlaps_comm (s t : Span) : s.overlaps t = t.overlaps s := by
  unfold overlaps
  exact Bool.and_comm _ _

end Span

end MemorySentry
