import Mathlib.Logic.Function.Basic
import MemorySentry.Proofs.Trace.Operations

/-!
# Replays with other labels

Labels only serve to tell pools apart. A run in which different labels stay different does the same
as before, up to the labels that it reports (`run_mapLabel`).
-/

namespace MemorySentry

/-- Entries are found under their new keys, if different keys stay different. -/
theorem lookup_map_key {α α' β : Type} [DecidableEq α] [DecidableEq α'] {f : α → α'}
    (hf : Function.Injective f) (entries : List (α × β)) (k : α) :
    (entries.map (Prod.map f id)).lookup (f k) = entries.lookup k := by
  induction entries with
  | nil => rfl
  | cons e rest ih =>
    rw [List.map_cons, List.lookup_cons, List.lookup_cons, ih]
    simp only [Prod.map_fst, hf.beq_eq]
    rfl

namespace Trace

variable (f : Label → Label)

/-- An operation on a pool with another label. -/
def Operation.mapLabel : Operation → Operation
  | .createPool pool => .createPool (f pool)
  | .destroyPool pool => .destroyPool (f pool)
  | .register pool a size kind => .register (f pool) a size kind
  | .registerExternal a size => .registerExternal a size
  | .free pool a => .free (f pool) a
  | .endScope pool a => .endScope (f pool) a
  | .move pool new old size => .move (f pool) new old size
  | .checkAccess pool a length complete write => .checkAccess (f pool) a length complete write
  | .checkAlignment pool a elementSize => .checkAlignment (f pool) a elementSize
  | .checkArithmetic pool source dest complete => .checkArithmetic (f pool) source dest complete
  | .checkDerived base pointer size => .checkDerived base pointer size
  | .checkDerivedAccess base pointer size length => .checkDerivedAccess base pointer size length
  | .allocated pool callee args returned stringLength =>
    .allocated (f pool) callee args returned stringLength
  | .deallocated pool callee args => .deallocated (f pool) callee args

/-- The reason why a replay with other labels failed. -/
def ReplayError.mapLabel : ReplayError → ReplayError
  | .unknownPool index label => .unknownPool index (f label)
  | .duplicatePool index label => .duplicatePool index (f label)

/-- Other labels make no other commands. -/
theorem Operation.command_mapLabel (op : Operation) (index : Nat) (id : PoolId) :
    (op.mapLabel f).command index id = op.command index id := by
  cases op <;> rfl

/-- Other labels leave the name of an operation as it is. -/
theorem Operation.name_mapLabel (op : Operation) : (op.mapLabel f).name = op.name := by
  cases op <;> rfl

/-- A relabelled operation names the new label. -/
theorem Operation.label?_mapLabel (op : Operation) : (op.mapLabel f).label? = op.label?.map f := by
  cases op <;> rfl

variable {f} in
/-- Labels are bound alike under new names. -/
theorem Operation.labelsAfter_mapLabel (hf : Function.Injective f) (op : Operation)
    (pools : List (Label × PoolId)) (pool : PoolId) :
    (op.mapLabel f).labelsAfter (pools.map (Prod.map f id)) pool =
      (op.labelsAfter pools pool).map (Prod.map f id) := by
  cases op with
  | destroyPool label =>
    simp only [mapLabel, labelsAfter, List.filter_map]
    simp [Function.comp_def, hf.eq_iff]
  | _ => rfl

namespace Replay

/-- A replay with other labels. -/
def State.mapLabel (s : State) : State :=
  { s with pools := s.pools.map (Prod.map f id) }

/-- A run with other labels. -/
def Course.mapLabel (c : Course) : Course :=
  { c with
    entries := c.entries.map fun e => { e with pool := e.pool.map f }
    final := (c.final.map (State.mapLabel f)).mapError (ReplayError.mapLabel f) }

/-- The entry about a relabelled operation differs in the label only. -/
theorem entryOf_mapLabel (timestamp : String) (index : Nat) (op : Operation) (terminated : Bool)
    (r : Except Violation Unit) :
    entryOf timestamp index (op.mapLabel f) terminated r =
      let e := entryOf timestamp index op terminated r
      { e with pool := e.pool.map f } := by
  unfold entryOf
  simp only [op.name_mapLabel, op.label?_mapLabel]
  cases r <;> rfl

variable {f} (hf : Function.Injective f)

include hf

/-- A new label is bound to what the old one was bound to. -/
theorem State.pool_mapLabel (s : State) (index : Nat) (label : Label) :
    (s.mapLabel f).pool index (f label) =
      (s.pool index label).mapError (ReplayError.mapLabel f) := by
  simp only [State.pool, State.mapLabel, lookup_map_key hf]
  cases s.pools.lookup label <;> rfl

/-- A new label is resolved as the old one was. -/
theorem State.resolve_mapLabel (s : State) (index : Nat) (op : Operation) :
    (s.mapLabel f).resolve index (op.mapLabel f) =
      (s.resolve index op).mapError (ReplayError.mapLabel f) := by
  cases op with
  | createPool label =>
    simp only [Operation.mapLabel, State.resolve, State.mapLabel, lookup_map_key hf]
    split <;> rfl
  -- these have no label
  | registerExternal | checkDerived | checkDerivedAccess => rfl
  | _ => exact s.pool_mapLabel hf index _

/-- An operation with another label does the same. -/
theorem State.apply_mapLabel (s : State) (index : Nat) (op : Operation) :
    (s.mapLabel f).apply index (op.mapLabel f) =
      ((s.apply index op).map (Prod.map id (State.mapLabel f))).mapError
        (ReplayError.mapLabel f) := by
  rw [State.apply_eq, State.apply_eq, s.resolve_mapLabel hf]
  rcases s.resolve index op with e | id
  · rfl
  · have hperform : (s.mapLabel f).perform index id (op.mapLabel f) =
        (s.perform index id op).mapLabel f := by
      simp only [State.perform, State.mapLabel, op.command_mapLabel, op.labelsAfter_mapLabel hf]
    simp only [Except.mapError, Except.map, hperform, op.command_mapLabel, Prod.map]
    rfl

/-- A run with other labels does the same. -/
theorem run_mapLabel (clock : Nat → String) (s : State) (index : Nat) (ops : List Operation) :
    run clock (s.mapLabel f) index (ops.map (Operation.mapLabel f)) =
      (run clock s index ops).mapLabel f := by
  induction ops generalizing s index with
  | nil => rfl
  | cons op rest ih =>
    rw [List.map_cons, run, run, s.apply_mapLabel hf]
    rcases s.apply index op with e | ⟨r, s'⟩
    · rfl
    · simp only [Except.map, Except.mapError, Prod.map, id_eq, ih, entryOf_mapLabel]
      -- whether the run ends here is up to the monitor, which has no labels
      have hlog : (s'.mapLabel f).monitor = s'.monitor := rfl
      rw [hlog]
      split <;> rfl

end Replay

end Trace

end MemorySentry
