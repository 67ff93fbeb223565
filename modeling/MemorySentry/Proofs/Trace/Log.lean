import MemorySentry.Proofs.RunLog.Lines
import MemorySentry.Proofs.Text.Numerals
import MemorySentry.Proofs.Trace.Summary
import MemorySentry.Proofs.Violation.Records

/-!
# Logs of replays

Every entry that a replay writes is read back from its line without a complaint, whether the replay
succeeds or not. When it succeeds, the log and the summary tell the same of each operation
(`replay_log`).
-/

namespace MemorySentry.Trace

open RunLog (Emitter Entry)

namespace Replay

/-! ### Numbers -/

/-- An entry that can be numbered, and is sound then. -/
structure Fresh (e : Entry) : Prop where
  traceId : e.traceId = ""
  runId : e.runId = none
  violation : ∀ symbol, e.violation = some symbol →
    (ViolationKind.ofSymbol? symbol).isSome = true ∧ e.pointer.isSome = true
  details : ∀ v, e.details = some v →
    v ≠ .null ∧ v.normalize = v ∧ Json.Readable (Json.mostLevels - 1) v

/-- A number in decimal has as many digits as a width asks for, or more if it needs them. -/
theorem writes_padded {width : Nat} (hwidth : 0 < width) (n : Nat) :
    Text.Writes 10 width n (RunLog.padded width n).toList := by
  rw [RunLog.padded, String.toList_ofList]
  exact (Text.writes_toDigits (by decide) n).pad (by decide) hwidth

/-- The identifier of a numbered entry is the run, a mark and the number in four decimal digits or
more. -/
theorem traceId_eq_iff {runId s : String} {number : Nat} :
    Emitter.traceId runId number = s ↔
      ∃ cs, Text.Writes 10 4 number cs ∧ s = runId ++ "::" ++ String.ofList cs := by
  have hwrites : Text.Writes 10 4 number (RunLog.padded 4 number).toList :=
    writes_padded (by decide) number
  constructor
  · rintro rfl
    exact ⟨_, hwrites, by rw [Emitter.traceId, String.ofList_toList]⟩
  · rintro ⟨cs, hcs, rfl⟩
    rw [hcs.unique (by decide) hwrites, Emitter.traceId, String.ofList_toList]

/-- The identifier of a numbered entry has a mark. -/
theorem hasMark_traceId (runId : String) (number : Nat) :
    RunLog.hasMark (Emitter.traceId runId number).toList = true := by
  refine RunLog.hasMark_iff.mpr ⟨runId.toList, (RunLog.padded 4 number).toList, ?_⟩
  simp [Emitter.traceId]

namespace Fresh

variable {e : Entry} (h : Fresh e) (runId : String) (number : Nat)

include h

/-- An emitted entry has the next id and is not changed otherwise. -/
theorem emit_eq : (⟨runId, number⟩ : Emitter).emit e =
    ({ e with traceId := Emitter.traceId runId (number + 1), runId := some runId },
      ⟨runId, number + 1⟩) := by
  simp only [Emitter.emit, if_pos h.traceId, h.runId, Option.getD_none]

/-- A fresh entry is sound once it is numbered. -/
theorem sound : ((⟨runId, number⟩ : Emitter).emit e).1.Sound := by
  rw [h.emit_eq]
  exact ⟨hasMark_traceId runId (number + 1), h.violation, h.details⟩

end Fresh

/-- Fresh entries are numbered one after another. -/
theorem emitAll_eq (runId : String) (number : Nat) {entries : List Entry}
    (h : ∀ e ∈ entries, Fresh e) :
    emitAll ⟨runId, number⟩ entries =
      (entries.zipIdx number).map fun x => ((⟨runId, x.2⟩ : Emitter).emit x.1).1 := by
  induction entries generalizing number with
  | nil => rfl
  | cons e rest ih =>
    obtain ⟨he, hrest⟩ := List.forall_mem_cons.mp h
    rw [emitAll, he.emit_eq, List.zipIdx_cons, List.map_cons, he.emit_eq, ← ih (number + 1) hrest]

/-- Of the entries emitted in a run, each is numbered by its place. -/
theorem getElem?_emitAll (runId : String) {entries : List Entry} (h : ∀ e ∈ entries, Fresh e)
    (k : Nat) :
    (emitAll { runId } entries)[k]? = entries[k]?.map fun e =>
      { e with traceId := Emitter.traceId runId (k + 1), runId := some runId } := by
  rw [emitAll_eq runId 0 h, List.getElem?_map, List.getElem?_zipIdx, Option.map_map, Nat.zero_add]
  refine Option.map_congr fun e he => ?_
  rw [Function.comp_apply, (h e (List.mem_of_getElem? he)).emit_eq]

/-- The entry about an operation is fresh. -/
theorem fresh_entryOf (timestamp : String) (index : Nat) (op : Operation) (terminated : Bool)
    (r : Except Violation Unit) : Fresh (entryOf timestamp index op terminated r) := by
  cases r with
  | ok a => exact ⟨rfl, rfl, fun _ h => (by cases h), fun _ h => (by cases h)⟩
  | error v =>
    refine ⟨rfl, rfl, fun symbol h => ?_, fun _ h => (by cases h)⟩
    cases h
    exact ⟨by rw [ViolationKind.ofSymbol?_symbol]; rfl, rfl⟩

/-- The first entry of a log is fresh. -/
theorem fresh_startEntry (timestamp : String) {t : Trace} (h : t.operations.length < UInt64.size) :
    Fresh (startEntry timestamp t) := by
  refine ⟨rfl, rfl, fun _ h => (by cases h), fun v hv => ?_⟩
  cases hv
  have hkeys : ["name", "ops"].Pairwise (· < ·) := by decide
  exact ⟨Json.noConfusion, Json.normalize_object hkeys rfl, trivial, Json.readable_nat _ h, trivial⟩

/-- The last entry of a log is fresh. -/
theorem fresh_endEntry (timestamp : String) {s : Summary} (hexecuted : s.executed < UInt64.size)
    (hwarnings : s.warnings < UInt64.size) (hfaults : s.faults < UInt64.size) :
    Fresh (endEntry timestamp s) := by
  refine ⟨rfl, rfl, fun _ h => (by cases h), fun v hv => ?_⟩
  cases hv
  have hkeys : ["faults", "ops_executed", "terminated", "warnings"].Pairwise (· < ·) := by decide
  exact ⟨Json.noConfusion, Json.normalize_object hkeys rfl, Json.readable_nat _ hfaults,
    Json.readable_nat _ hexecuted, trivial, Json.readable_nat _ hwarnings, trivial⟩

/-- All entries about the operations of a course are fresh. -/
theorem Course.Tells.fresh {c : Course} {clock : Nat → String} {index : Nat} {ops : List Operation}
    (h : c.Tells clock index ops) {e : Entry} (he : e ∈ c.entries) : Fresh e := by
  obtain ⟨i, hi⟩ := List.mem_iff_getElem?.mp he
  obtain ⟨op, r, -, rfl, -⟩ := h.entry i e hi
  exact fresh_entryOf _ _ _ _ r

/-- No more operations are performed than there are. -/
theorem Course.Tells.length_entries_le {c : Course} {clock : Nat → String} {index : Nat}
    {ops : List Operation} (h : c.Tells clock index ops) : c.entries.length ≤ ops.length := by
  refine Nat.le_of_not_lt fun hlt => ?_
  obtain ⟨op, r, hop, -⟩ := h.entry ops.length _ (List.getElem?_eq_getElem hlt)
  rw [List.getElem?_eq_none (Nat.le_refl _)] at hop
  cases hop

end Replay

/-- No two violations are from the same operation, so there are no more than operations. -/
theorem Summary.Consistent.length_violations_le {s : Summary} {t : Trace} {stop : Bool}
    {budget : Nat} (h : s.Consistent t stop budget) : s.violations.length ≤ s.executed := by
  -- the indices are different numbers below the number of performed operations
  have hnodup : (s.violations.map FoundViolation.index).Nodup :=
    List.pairwise_map.mpr (h.increasing.imp fun hlt => hlt.ne)
  have hsubset : s.violations.map FoundViolation.index ⊆ List.range s.executed := fun i hi => by
    obtain ⟨f, hf, rfl⟩ := List.mem_map.mp hi
    exact List.mem_range.mpr (h.performed f hf)
  simpa using (hnodup.subperm hsubset).length_le

/-- What the entry of an operation says is what the summary says of it. Addresses are in
hexadecimal. -/
structure Summary.TellsOf (s : Summary) (i : Nat) (op : Operation) (e : Entry) : Prop where
  opIndex : e.opIndex.map UInt64.toNat = some i
  event : e.event = op.name
  pool : e.pool = op.label?
  pass_iff : e.outcome = some .pass ↔ ∀ f ∈ s.violations, f.index ≠ i
  terminated_iff : e.outcome = some .terminated ↔ s.terminatedAt = some i
  found : ∀ f ∈ s.violations, f.index = i →
    e.violation = some f.violation.kind.symbol ∧
      (∃ cs, Text.Writes 16 1 f.violation.pointer.toNat cs ∧
        e.pointer = some ("0x" ++ String.ofList cs)) ∧
      e.outcome = some (if f.violation.isWarning then .warn
        else if s.terminatedAt = some i then .terminated else .fault)

/-- A log has an entry for each operation that was performed, one before and one after them, and all
are numbered from one on. A number stands in four decimal digits, or in more if it needs them,
behind the run and a mark. -/
structure Summary.LoggedIn (s : Summary) (t : Trace) (runId : String) (entries : List Entry) :
    Prop where
  length : entries.length = s.executed + 2
  traceId : ∀ k e, entries[k]? = some e →
    ∃ cs, Text.Writes 10 4 (k + 1) cs ∧ e.traceId = runId ++ "::" ++ String.ofList cs
  operation : ∀ i < s.executed, ∃ op e, t.operations[i]? = some op ∧ entries[i + 1]? = some e ∧
    s.TellsOf i op e

/-- The violation that ended a run is a fault. -/
theorem Summary.Consistent.fault_of_terminatedAt {s : Summary} {t : Trace} {stop : Bool}
    {budget i : Nat} (h : s.Consistent t stop budget) (hat : s.terminatedAt = some i) :
    ∃ v, ⟨i, v⟩ ∈ s.violations ∧ v.isWarning = false := by
  obtain ⟨-, -, v, hlast, hfault⟩ := h.ended i hat
  exact ⟨v, List.mem_of_getLast? hlast, hfault⟩

/-- The index of an operation that fits a word is kept by it. -/
theorem toNat_opIndex {i : Nat} (hi : i < UInt64.size) :
    (some (UInt64.ofNat i)).map UInt64.toNat = some i :=
  congrArg some (UInt64.toNat_ofNat_of_lt' hi)

/-- An entry tells the same of its operation as the summary of the run. -/
theorem Summary.Consistent.tellsOf {s : Summary} {t : Trace} {stop : Bool} {budget : Nat}
    (h : s.Consistent t stop budget) {i : Nat} (hi : i < UInt64.size) (op : Operation)
    (timestamp : String) {r : Except Violation Unit}
    (hr : ∀ v, ⟨i, v⟩ ∈ s.violations ↔ r = .error v) :
    s.TellsOf i op (Replay.entryOf timestamp i op (decide (s.terminatedAt = some i)) r) := by
  have hfound : ∀ f ∈ s.violations, f.index = i → r = .error f.violation := fun f hf heq =>
    (hr f.violation).mp (heq ▸ hf)
  cases r with
  | ok a =>
    -- an operation that passed has no violation, and a replay is ended by a fault only
    have hnone : ∀ f ∈ s.violations, f.index ≠ i := fun f hf heq => by cases hfound f hf heq
    have hgoing : s.terminatedAt ≠ some i := fun hat => by
      obtain ⟨v, hv, -⟩ := h.fault_of_terminatedAt hat
      exact hnone _ hv rfl
    exact
      { opIndex := toNat_opIndex hi
        event := rfl
        pool := rfl
        pass_iff := iff_of_true rfl hnone
        terminated_iff := iff_of_false (fun hout => by cases hout) hgoing
        found := fun f hf heq => absurd heq (hnone f hf) }
  | error v =>
    have hsome : ¬∀ f ∈ s.violations, f.index ≠ i := fun hnone => hnone _ ((hr v).mpr rfl) rfl
    -- the operation that ended the replay has a fault, so its violation is not a warning
    have hfault : s.terminatedAt = some i → v.isWarning = false := fun hat => by
      obtain ⟨v', hv', hfault⟩ := h.fault_of_terminatedAt hat
      cases (hr v').mp hv'
      exact hfault
    have hout : Replay.outcome (decide (s.terminatedAt = some i)) (.error v) =
        if v.isWarning then .warn else if s.terminatedAt = some i then .terminated else .fault := by
      by_cases hat : s.terminatedAt = some i
      · simp [Replay.outcome, hat, hfault hat]
      · simp [Replay.outcome, hat]
    have hentry : (Replay.entryOf timestamp i op (decide (s.terminatedAt = some i))
        (.error v)).outcome = some (if v.isWarning then .warn
          else if s.terminatedAt = some i then .terminated else .fault) := congrArg some hout
    refine
      { opIndex := toNat_opIndex hi
        event := rfl
        pool := rfl
        pass_iff := iff_of_false ?_ hsome
        terminated_iff := ?_
        found := fun f hf heq => ?_ }
    · rw [hentry]
      cases v.isWarning <;> by_cases hat : s.terminatedAt = some i <;> simp [hat]
    · rw [hentry]
      by_cases hat : s.terminatedAt = some i
      · simp [hat, hfault hat]
      · cases v.isWarning <;> simp [hat]
    · cases hfound f hf heq
      obtain ⟨cs, hcs, hhex⟩ := Text.hex_eq_iff.mp (rfl : Word.hex f.violation.pointer.toNat = _)
      exact ⟨rfl, ⟨cs, hcs, congrArg some hhex⟩, hentry⟩

/-! ### Replays -/

section

variable {t : Trace} {clock : Nat → String}

/-- All entries of a log are fresh. -/
theorem fresh_of_mem_entriesOf (h : t.operations.length < UInt64.size) {e : Entry}
    (he : e ∈ t.entriesOf clock) : Replay.Fresh e := by
  rcases List.mem_cons.mp he with rfl | hrun
  · exact Replay.fresh_startEntry _ h
  · exact (t.tells_course clock).fresh hrun

/-- The entries of a replay are fresh before they are numbered. -/
theorem fresh_of_mem_concat (h : t.operations.length < UInt64.size) {final : Replay.State}
    (hfinal : (t.course clock).final = .ok final) (timestamp : String) {e : Entry}
    (he : e ∈ t.entriesOf clock ++
      [Replay.endEntry timestamp ((t.course clock).summary t final)]) : Replay.Fresh e := by
  rcases List.mem_append.mp he with he | he
  · exact fresh_of_mem_entriesOf h he
  · cases List.mem_singleton.mp he
    have hconsistent := consistent_summary_course hfinal
    -- none of the counts is more than the number of operations
    have hexecuted : (t.course clock).executed < UInt64.size := by
      have hrun := t.tells_course clock
      rw [hrun.executed, Nat.zero_add]
      exact Nat.lt_of_le_of_lt hrun.length_entries_le h
    have hcounted := hconsistent.counted
    have hviolations : ((t.course clock).summary t final).violations.length ≤
        (t.course clock).executed := hconsistent.length_violations_le
    exact Replay.fresh_endEntry _ hexecuted (by omega) (by omega)

end

/-- Every entry of a replay is sound, whether it succeeds or not. -/
theorem replay_sound (t : Trace) (runId : String) (clock : Nat → String)
    (h : t.operations.length < UInt64.size) : ∀ e ∈ (t.replay runId clock).1, e.Sound := by
  have hemit : ∀ entries, (∀ e ∈ entries, Replay.Fresh e) →
      ∀ e ∈ Replay.emitAll { runId } entries, e.Sound := fun entries hfresh e he => by
    rw [Replay.emitAll_eq runId 0 hfresh] at he
    obtain ⟨x, hx, rfl⟩ := List.mem_map.mp he
    exact (hfresh x.1 (List.fst_mem_of_mem_zipIdx hx)).sound runId x.2
  rcases t.replay_cases runId clock with ⟨e, -, hreplay⟩ | ⟨final, hfinal, hreplay⟩
  · rw [hreplay]
    exact hemit _ fun _ => fresh_of_mem_entriesOf h
  · rw [hreplay]
    exact hemit _ fun _ => fresh_of_mem_concat h hfinal _

/-- The numbered entries of a run and the summary tell the same. -/
theorem loggedIn_emitAll {t : Trace} {runId : String} {clock : Nat → String}
    (h : t.operations.length < UInt64.size) {final : Replay.State}
    (hfinal : (t.course clock).final = .ok final) (timestamp : String) :
    ((t.course clock).summary t final).LoggedIn t runId (Replay.emitAll { runId }
      (t.entriesOf clock ++ [Replay.endEntry timestamp ((t.course clock).summary t final)])) := by
  have hfresh : ∀ e ∈ t.entriesOf clock ++
      [Replay.endEntry timestamp ((t.course clock).summary t final)], Replay.Fresh e :=
    fun _ => fresh_of_mem_concat h hfinal timestamp
  have htells := t.tells_course clock
  have hexecuted : (t.course clock).executed = (t.course clock).entries.length :=
    htells.executed.trans (Nat.zero_add _)
  refine ⟨?_, fun k e he => ?_, fun i hi => ?_⟩
  · rw [Replay.emitAll_eq runId 0 hfresh, List.length_map, List.length_zipIdx, List.length_append,
      entriesOf, List.length_cons, ← hexecuted]
    rfl
  · rw [Replay.getElem?_emitAll runId hfresh] at he
    obtain ⟨_, -, rfl⟩ := Option.map_eq_some_iff.mp he
    exact Replay.traceId_eq_iff.mp rfl
  · -- the entry of an operation comes behind the first entry of the log
    have hi' : i < (t.course clock).entries.length := hexecuted ▸ hi
    obtain ⟨op, r, hop, hentry, hr⟩ := htells.entry i _ (List.getElem?_eq_getElem hi')
    have hsize : i < UInt64.size :=
      Nat.lt_trans (Nat.lt_of_lt_of_le hi' htells.length_entries_le) h
    simp only [Nat.zero_add] at hentry hr
    have hget : (t.entriesOf clock ++ [Replay.endEntry timestamp
        ((t.course clock).summary t final)])[i + 1]? = some (t.course clock).entries[i] := by
      rw [entriesOf, List.cons_append, List.getElem?_cons_succ, List.getElem?_append_left hi',
        List.getElem?_eq_getElem hi']
    have htell := (consistent_summary_course hfinal).tellsOf hsize op (clock (i + 1)) hr
    refine ⟨op, _, hop, by rw [Replay.getElem?_emitAll runId hfresh, hget, Option.map_some], ?_⟩
    rw [hentry]
    exact ⟨htell.opIndex, htell.event, htell.pool, htell.pass_iff, htell.terminated_iff,
      htell.found⟩

/-- The log of a replay is read back without a complaint, whether the replay succeeds or not. If it
succeeds, the log and the summary tell the same. -/
theorem replay_log (t : Trace) (runId : String) (clock : Nat → String)
    (h : t.operations.length < UInt64.size) :
    RunLog.ReadsBack (t.replay runId clock).1 ∧
      ∀ s, (t.replay runId clock).2 = .ok s → s.LoggedIn t runId (t.replay runId clock).1 := by
  refine ⟨RunLog.readsBack (replay_sound t runId clock h), fun s hs => ?_⟩
  rcases t.replay_cases runId clock with ⟨e, -, hreplay⟩ | ⟨final, hfinal, hreplay⟩
  · rw [hreplay] at hs
    cases hs
  · rw [hreplay] at hs ⊢
    cases hs
    exact loggedIn_emitAll h hfinal _

/-- A program that writes past the end of an object in a pool whose label has to be escaped. -/
def awkward : Trace where
  name := "“line\nbreak”"
  operations := [.createPool "a\"\x01\\é", .register "a\"\x01\\é" 0x1000 16 .heap,
    .checkAccess "a\"\x01\\é" 0x1000 32 true true]

/-- A replay with an overrun and awkward texts has a log that reads back and tells of one fault. -/
theorem replay_log_awkward :
    awkward.operations.length < UInt64.size ∧
      RunLog.ReadsBack (awkward.replay "run" fun _ => "").1 ∧
      ∃ s, (awkward.replay "run" fun _ => "").2 = .ok s ∧ s.faults = 1 ∧
        s.LoggedIn awkward "run" (awkward.replay "run" fun _ => "").1 := by
  have hsize : awkward.operations.length < UInt64.size := by decide
  obtain ⟨hlog, hlogged⟩ := replay_log awkward "run" (fun _ => "") hsize
  exact ⟨hsize, hlog, _, rfl, rfl, hlogged _ rfl⟩

end MemorySentry.Trace
