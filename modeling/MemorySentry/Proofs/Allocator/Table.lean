import MemorySentry.Allocator.Table

/-!
# How a call is understood

A call is understood through the first of the known families that recognises it, and what it says
about the size is a number without bound, of which the program makes a word if it fits.

- `AllocatorTable.Chooses`: the family that decides about a call. Families that are announced later
  do not change it (`Chooses.announce`).
- `Allocator.ExactSize`: the size of what a call allocated, as a number. The program knows it
  exactly if it fits a word (`size?_eq_some_iff`).
-/

namespace MemorySentry

namespace Allocator

variable {f : Allocator} {c : Call} {measure : Address → Option ByteCount} {n : Nat}

/-- A family recognises a call by the name of its allocating function. A function that copies a
string allocates only if it is given one. -/
structure Recognises (f : Allocator) (c : Call) : Prop where
  /-- The function is called by its name. -/
  name : c.callee = f.allocName
  /-- If it copies a string, the call has arguments. -/
  args : f.rule = .measured → c.args ≠ []

/-- What a family recognises it is said to allocate, and nothing else. -/
theorem allocates_iff : f.allocates c = true ↔ f.Recognises c := by
  have hargs : (f.rule != .measured || !c.args.isEmpty) = true ↔
      (f.rule = .measured → c.args ≠ []) := by
    by_cases hrule : f.rule = .measured <;> simp [hrule]
  rw [allocates, Bool.and_eq_true, beq_iff_eq, hargs]
  exact ⟨fun ⟨hname, hargs⟩ => ⟨hname, hargs⟩, fun ⟨hname, hargs⟩ => ⟨hname, hargs⟩⟩

/-- The size of what a call allocated. There is none where an argument is missing that it is
computed from, or where a string cannot be measured. -/
inductive ExactSize (f : Allocator) (c : Call) (measure : Address → Option ByteCount) : Nat → Prop
  /-- The size is an argument. -/
  | given {position : Nat} {size : ByteCount} (hrule : f.rule = .given position)
      (hsize : c.arg? position = some size) : ExactSize f c measure size.toNat
  /-- The new size of a resized object is an argument. -/
  | resized {old position : Nat} {size : ByteCount} (hrule : f.rule = .resized old position)
      (hsize : c.arg? position = some size) : ExactSize f c measure size.toNat
  /-- The size is the product of two arguments. -/
  | product {countPosition sizePosition : Nat} {count size : ByteCount}
      (hrule : f.rule = .product countPosition sizePosition)
      (hcount : c.arg? countPosition = some count) (hsize : c.arg? sizePosition = some size) :
      ExactSize f c measure (count.toNat * size.toNat)
  /-- The size is the measured length of a string, and one byte for its terminator. -/
  | measured {length : ByteCount} (hrule : f.rule = .measured) (hreturned : c.returned ≠ 0)
      (hlength : measure c.returned = some length) : ExactSize f c measure (length.toNat + 1)

/-- A call has at most one size. -/
theorem ExactSize.unique {n' : Nat} (h : f.ExactSize c measure n) (h' : f.ExactSize c measure n') :
    n = n' := by
  -- the rule of the family is the same in both, and so is what the call says
  cases h <;> cases h' <;> simp_all

/-- The program knows the size of what a call allocated exactly if there is one that fits a word. -/
theorem size?_eq_some_iff {size : ByteCount} :
    f.size? c measure = some size ↔ f.ExactSize c measure size.toNat := by
  constructor
  · intro hknown
    cases hrule : f.rule with
    | given position =>
      rw [size?, hrule] at hknown
      exact .given hrule hknown
    | resized old position =>
      rw [size?, hrule] at hknown
      exact .resized hrule hknown
    -- a product is known only if it fits in a word, and then it is exact
    | product countPosition sizePosition =>
      simp only [size?, hrule, Option.bind_eq_bind, Option.bind_eq_some_iff] at hknown
      obtain ⟨count, hcount, element, helement, hproduct⟩ := hknown
      rw [Word.mul?_eq_some_iff.mp hproduct]
      exact .product hrule hcount helement
    | measured =>
      simp only [size?, hrule, measures?, Option.bind_eq_bind, Option.bind_eq_some_iff,
        Option.ite_none_left_eq_some, Option.some.injEq] at hknown
      obtain ⟨_, ⟨hreturned, rfl⟩, length, hlength, hsum⟩ := hknown
      rw [Word.add?_eq_some_iff.mp hsum]
      exact .measured hrule hreturned hlength
  · generalize hn : size.toNat = n
    intro hexact
    cases hexact with
    | given hrule hsize | resized hrule hsize =>
      rw [size?, hrule, UInt64.toNat_inj.mp hn]
      exact hsize
    | product hrule hcount hsize =>
      rw [size?, hrule]
      simp only [hcount, hsize, Option.bind_eq_bind, Option.bind_some]
      exact Word.mul?_eq_some_iff.mpr hn
    | measured hrule hreturned hlength =>
      rw [size?, measures?, hrule]
      simp only [hreturned, hlength, if_false, Option.bind_eq_bind, Option.bind_some]
      exact Word.add?_eq_some_iff.mpr hn

end Allocator

namespace AllocatorTable

variable {t : AllocatorTable} {c : Call} {f : Allocator} {kind : ObjectKind}

/-- The family that decides about a call is the first one that recognises it. What the call
allocates is on the heap if the family is one of the standard ones, which stand at the front. -/
inductive Chooses (t : AllocatorTable) (c : Call) : Allocator → ObjectKind → Prop
  | intro {before after : List Allocator} {f : Allocator}
      (hfamilies : t.families = before ++ f :: after)
      (hbefore : ∀ g ∈ before, ¬ g.Recognises c) (hfirst : f.Recognises c) :
      Chooses t c f (if before.length < t.standardCount then .heap else .custom)

/-- No family is chosen if none recognises the call. -/
theorem allocating?_eq_none (h : ∀ g ∈ t.families, ¬ g.Recognises c) : t.allocating? c = none := by
  rw [allocating?, Option.map_eq_none_iff, List.find?_eq_none]
  intro e he
  rw [Allocator.allocates_iff]
  exact h e.1 (List.fst_mem_of_mem_zipIdx he)

/-- The search goes past the families before the one that decides. -/
theorem Chooses.allocating?_eq (h : t.Chooses c f kind) : t.allocating? c = some (f, kind) := by
  obtain ⟨hfamilies, hbefore, hfirst⟩ := h
  rename_i before after
  have hskipped : (before.zipIdx.find? fun e => e.1.allocates c) = none := by
    rw [List.find?_eq_none]
    intro e he
    rw [Allocator.allocates_iff]
    exact hbefore e.1 (List.fst_mem_of_mem_zipIdx he)
  rw [allocating?, hfamilies, List.zipIdx_append, List.find?_append, hskipped, Option.none_or,
    List.zipIdx_cons, List.find?_cons, Allocator.allocates_iff.mpr hfirst, Nat.zero_add]
  rfl

/-- One family at most decides about a call, and about the kind of its object. -/
theorem Chooses.unique {f' : Allocator} {kind' : ObjectKind} (h : t.Chooses c f kind)
    (h' : t.Chooses c f' kind') : f = f' ∧ kind = kind' := by
  have heq := h.allocating?_eq.symm.trans h'.allocating?_eq
  exact Prod.mk.inj (Option.some.inj heq)

/-- What a call allocates does not merge with other objects. -/
theorem Chooses.not_merges (h : t.Chooses c f kind) : kind.merges = false := by
  obtain ⟨-, -, -⟩ := h
  split <;> rfl

/-- A call is understood through one of the families, or none recognises it. -/
theorem exists_chooses_or (t : AllocatorTable) (c : Call) :
    (∃ f kind, t.Chooses c f kind) ∨ ∀ g ∈ t.families, ¬ g.Recognises c := by
  cases hfind : t.families.find? fun g => g.allocates c with
  | none =>
    refine .inr fun g hg => ?_
    rw [← Allocator.allocates_iff]
    exact List.find?_eq_none.mp hfind g hg
  | some f =>
    obtain ⟨hfirst, before, after, hfamilies, hbefore⟩ := List.find?_eq_some_iff_append.mp hfind
    refine .inl ⟨f, _, .intro hfamilies (fun g hg => ?_) (Allocator.allocates_iff.mp hfirst)⟩
    rw [← Allocator.allocates_iff, Bool.not_eq_true]
    simpa using hbefore g hg

/-! ### Announcing families -/

/-- A family that is announced later does not change how a call is understood. -/
theorem Chooses.announce (h : t.Chooses c f kind) (g : Allocator) :
    (t.announce g).Chooses c f kind := by
  obtain ⟨hfamilies, hbefore, hfirst⟩ := h
  rename_i before after
  have hmore : (t.announce g).families = before ++ f :: (after ++ [g]) := by
    rw [AllocatorTable.announce, hfamilies, List.append_assoc, List.cons_append]
  exact .intro hmore hbefore hfirst

/-- A table that has come from the standard one by announcing families: the standard families stand
at the front, and the others follow in the order of their announcement. -/
structure Extends (t : AllocatorTable) (fs : List Allocator) : Prop where
  /-- The standard families come first. -/
  families : t.families = standardFamilies ++ fs
  /-- They are counted. -/
  standardCount : t.standardCount = standardFamilies.length

/-- The standard table has no more than the standard families. -/
theorem extends_standard : standard.Extends [] :=
  ⟨(List.append_nil _).symm, rfl⟩

/-- A family that is announced comes after those announced before. -/
theorem Extends.announce {fs : List Allocator} (h : t.Extends fs) (g : Allocator) :
    (t.announce g).Extends (fs ++ [g]) := by
  refine ⟨?_, h.standardCount⟩
  rw [AllocatorTable.announce, h.families, List.append_assoc]

end AllocatorTable

end MemorySentry
