import MemorySentry.SpanMap.Basic

/-!
# Sorted lists of spans

The same operations as on a `SpanMap`, on a plain list of spans in ascending order. A list has no
shape that an operation could depend on; it is what the answers of a `SpanMap` are measured against.
-/

namespace MemorySentry

/-- Disjoint spans with a value each, in ascending order. -/
structure SpanList (α : Type) where
  /-- The spans with their values. -/
  entries : List (Span × α) := []

namespace SpanList

variable {α : Type}

/-- The list without spans. -/
def empty : SpanList α := {}

/-- The entry that covers an address. -/
def lookup (l : SpanList α) (a : Address) : Option (Span × α) :=
  l.entries.find? fun e => e.1.contains a

/-- The first entry that shares an address with `s`. -/
def firstOverlapping (l : SpanList α) (s : Span) : Option (Span × α) :=
  l.entries.find? fun e => e.1.overlaps s

/-- Puts an entry before the first one that starts after it. -/
def place (s : Span) (v : α) : List (Span × α) → List (Span × α)
  | [] => [(s, v)]
  | e :: rest => if s.start < e.1.start then (s, v) :: e :: rest else e :: place s v rest

/-- Stores a span unless it shares an address with a stored one. -/
def insert (l : SpanList α) (s : Span) (v : α) : Except SpanMap.Error Unit × SpanList α :=
  match l.firstOverlapping s with
  | some (existing, _) => (.error (.overlap s existing), l)
  | none => (.ok (), ⟨place s v l.entries⟩)

/-- Takes out exactly the span `s`. -/
def remove (l : SpanList α) (s : Span) : Except SpanMap.Error α × SpanList α :=
  match l.lookup s.start with
  | none => (.error (.notFound s.start), l)
  | some (existing, v) =>
    if existing = s then (.ok v, ⟨l.entries.filter fun e => e.1 ≠ s⟩)
    else (.error (.mismatch s existing), l)

/-- Takes out the span whose first byte is `base`. -/
def removeAt (l : SpanList α) (base : Address) :
    Except SpanMap.Error (Span × α) × SpanList α :=
  match l.lookup base with
  | none => (.error (.notFound base), l)
  | some (existing, v) =>
    if existing.start = base then
      (.ok (existing, v), ⟨l.entries.filter fun e => e.1.start ≠ base⟩)
    else (.error (.notBase base existing), l)

end SpanList

end MemorySentry
