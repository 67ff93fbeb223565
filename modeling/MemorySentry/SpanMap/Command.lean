import MemorySentry.SpanMap.Sorted

/-!
# Operations on span maps as data

A `Command` is one operation on a map with its arguments, and an `Answer` is what it returns. A run
is a list of commands, so that statements about all sequences of operations are statements about
lists, and a `SpanMap` and a `SpanList` can be given the same run.
-/

namespace MemorySentry.SpanMap

/-- An operation on a map of spans. -/
inductive Command (α : Type) where
  | insert (s : Span) (v : α)
  | remove (s : Span)
  | removeAt (base : Address)
  | lookup (a : Address)
  | firstOverlapping (s : Span)
  | clear
  | size
  | isEmpty
  | toList

/-- What an operation on a map of spans returns. -/
inductive Answer (α : Type) where
  /-- The operation was carried out and returns nothing. -/
  | done
  /-- The operation was refused. -/
  | refused (reason : Error)
  /-- The value of the span that was taken out. -/
  | value (v : α)
  /-- An entry, or none if no span qualifies. -/
  | entry (e : Option (Span × α))
  /-- A number of spans. -/
  | count (n : Nat)
  /-- The answer to a yes-or-no question. -/
  | truth (b : Bool)
  /-- All entries. -/
  | entries (es : List (Span × α))
deriving DecidableEq

variable {α : Type}

/-- Carries out one operation on a span map. -/
def perform (m : SpanMap α) : Command α → Answer α × SpanMap α
  | .insert s v =>
    match m.insert s v with
    | (.ok (), m) => (.done, m)
    | (.error e, m) => (.refused e, m)
  | .remove s =>
    match m.remove s with
    | (.ok v, m) => (.value v, m)
    | (.error e, m) => (.refused e, m)
  | .removeAt base =>
    match m.removeAt base with
    | (.ok e, m) => (.entry (some e), m)
    | (.error e, m) => (.refused e, m)
  | .lookup a =>
    let (e, m) := m.lookup a
    (.entry e, m)
  | .firstOverlapping s =>
    let (e, m) := m.firstOverlapping s
    (.entry e, m)
  | .clear => (.done, m.clear)
  | .size => (.count m.size, m)
  | .isEmpty => (.truth m.isEmpty, m)
  | .toList => (.entries m.toList, m)

/-- Carries out a run of operations and collects the answers. -/
def performAll (m : SpanMap α) : List (Command α) → List (Answer α) × SpanMap α
  | [] => ([], m)
  | c :: rest =>
    let (answer, m) := m.perform c
    let (answers, m) := performAll m rest
    (answer :: answers, m)

end MemorySentry.SpanMap

namespace MemorySentry.SpanList

open SpanMap (Command Answer)

variable {α : Type}

/-- Carries out one operation on a sorted list of spans. -/
def perform (l : SpanList α) : Command α → Answer α × SpanList α
  | .insert s v =>
    match l.insert s v with
    | (.ok (), l) => (.done, l)
    | (.error e, l) => (.refused e, l)
  | .remove s =>
    match l.remove s with
    | (.ok v, l) => (.value v, l)
    | (.error e, l) => (.refused e, l)
  | .removeAt base =>
    match l.removeAt base with
    | (.ok e, l) => (.entry (some e), l)
    | (.error e, l) => (.refused e, l)
  | .lookup a => (.entry (l.lookup a), l)
  | .firstOverlapping s => (.entry (l.firstOverlapping s), l)
  | .clear => (.done, empty)
  | .size => (.count l.entries.length, l)
  | .isEmpty => (.truth l.entries.isEmpty, l)
  | .toList => (.entries l.entries, l)

/-- Carries out a run of operations and collects the answers. -/
def performAll (l : SpanList α) : List (Command α) → List (Answer α) × SpanList α
  | [] => ([], l)
  | c :: rest =>
    let (answer, l) := l.perform c
    let (answers, l) := performAll l rest
    (answer :: answers, l)

end MemorySentry.SpanList
