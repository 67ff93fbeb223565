import MemorySentry.Proofs.RunLog.Emission
import MemorySentry.Proofs.Text.Utf8

/-!
# The lines of a log

The lines of a log are those of its entries, each of them is read back as its entry, and nothing is
wrong with any (`readsBack`).
-/

namespace MemorySentry.RunLog

/-! ### Lines -/

/-- The first line of a text ends at its first line break. -/
theorem splitLines_append_cons {cs : List Char} (h : '\n' ∉ cs) (rest : List Char) :
    splitLines (cs ++ '\n' :: rest) = cs :: splitLines rest := by
  induction cs with
  | nil => rfl
  | cons c cs ih =>
    obtain ⟨hc, hcs⟩ := not_or.mp (fun h' => h (List.mem_cons.mpr h'))
    rw [List.cons_append, splitLines, ih hcs]
    exact fun heq => hc heq.symm

/-- A text of lines without line breaks of their own has these lines, and an empty one after the
last line break. -/
theorem splitLines_join {lines : List String} (h : ∀ l ∈ lines, '\n' ∉ l.toList) :
    splitLines (String.join (lines.map fun l => l ++ "\n")).toList =
      lines.map String.toList ++ [[]] := by
  induction lines with
  | nil => rfl
  | cons l rest ih =>
    obtain ⟨hl, hrest⟩ := List.forall_mem_cons.mp h
    have hsplit := splitLines_append_cons hl (String.join (rest.map fun l => l ++ "\n")).toList
    rw [ih hrest] at hsplit
    simpa using hsplit

/-- A log of lines without breaks splits into these lines and an empty rest. -/
theorem splitLines_textOf {entries : List Entry} (h : ∀ e ∈ entries, '\n' ∉ e.line.toList) :
    splitLines (textOf entries).toList = entries.map (fun e => e.line.toList) ++ [[]] := by
  have hlines := splitLines_join (List.forall_mem_map.mpr h)
  rwa [List.map_map, List.map_map] at hlines

/-- An object is written between braces. -/
theorem exists_write_object (fields : List (String × Json)) :
    ∃ cs, (Json.object fields).write = '\x7b' :: cs ++ ['\x7d'] := by
  have hrest : ∀ rest : List (String × Json), ∃ cs, Json.writeFields rest = cs ++ ['\x7d'] := by
    intro rest
    induction rest with
    | nil => exact ⟨[], rfl⟩
    | cons f rest ih =>
      obtain ⟨cs, hcs⟩ := ih
      rw [Json.writeFields, hcs]
      exact ⟨_, (List.append_assoc ..).symm⟩
  rcases fields with _ | ⟨⟨k, v⟩, rest⟩
  · exact ⟨[], rfl⟩
  · obtain ⟨cs, hcs⟩ := hrest rest
    rw [Json.write, hcs]
    exact ⟨_, (List.append_assoc ..).symm⟩

/-- There are no blanks around a line. -/
theorem trim_line (e : Entry) : Text.trim e.line.toList = e.line.toList := by
  obtain ⟨cs, hcs⟩ := exists_write_object e.fields
  have hopen : Text.isBlank '\x7b' = false := by decide
  have hclose : Text.isBlank '\x7d' = false := by decide
  rw [Entry.line, Json.render, String.toList_ofList, Entry.toJson_eq, hcs]
  simp [Text.trim, hopen, hclose]

/-- The line of an entry is not empty. -/
theorem line_ne_nil (e : Entry) : e.line.toList ≠ [] := by
  obtain ⟨cs, hcs⟩ := exists_write_object e.fields
  rw [Entry.line, Json.render, String.toList_ofList, Entry.toJson_eq, hcs]
  exact List.cons_ne_nil _ _

/-! ### Logs -/

/-- A line with its number, without the blanks around it, unless there is nothing else in it. -/
def withNumber (line : List Char) (number : Nat) : Option (Nat × String) :=
  match Text.trim line with
  | [] => none
  | cs => some (number, String.ofList cs)

/-- Lines are numbered from one, and empty ones are left out. -/
theorem numberedLines_eq (text : String) :
    numberedLines text =
      ((splitLines text.toList).zipIdx 1).filterMap fun x => withNumber x.1 x.2 :=
  rfl

/-- The line of an entry keeps its number. -/
theorem withNumber_line (e : Entry) (number : Nat) :
    withNumber e.line.toList number = some (number, e.line) := by
  rw [withNumber, trim_line]
  split
  · next heq => exact absurd heq (line_ne_nil e)
  · rw [String.ofList_toList]

/-- The lines of a log have the numbers of their entries, counted from one. -/
theorem numberedLines_textOf {entries : List Entry} (h : ∀ e ∈ entries, '\n' ∉ e.line.toList) :
    numberedLines (textOf entries) = (entries.zipIdx 1).map fun x => (x.2, x.1.line) := by
  have hlines : ((entries.map fun e => e.line.toList).zipIdx 1).filterMap
      (fun x => withNumber x.1 x.2) = (entries.zipIdx 1).map fun x => (x.2, x.1.line) := by
    have hline : (fun x => withNumber x.1 x.2) ∘ Prod.map (fun e : Entry => e.line.toList) id =
        fun x => some (x.2, x.1.line) := funext fun x => by
      simp only [Function.comp_apply, Prod.map_fst, Prod.map_snd, id_eq, withNumber_line]
    rw [List.zipIdx_map, List.filterMap_map, hline, List.filterMap_eq_map']
  -- the empty line after the last line break is not counted
  have hlast : ∀ number, [([], number)].filterMap (fun x => withNumber x.1 x.2) = [] :=
    fun _ => rfl
  rw [numberedLines_eq, splitLines_textOf h, List.zipIdx_append, List.filterMap_append, hlines,
    List.zipIdx_singleton, hlast, List.append_nil]

/-- What holds of a log that says everything about its entries. -/
structure ReadsBack (entries : List Entry) : Prop where
  /-- Each line ends with a line break, and there is nothing after the last one. -/
  split : splitLines (textOf entries).toList = entries.map (fun e => e.line.toList) ++ [[]]
  /-- The lines have the numbers of their entries, counted from one. -/
  numbered : numberedLines (textOf entries) = (entries.zipIdx 1).map fun x => (x.2, x.1.line)
  /-- Each line is read as its entry. -/
  entry : ∀ e ∈ entries, validate e.line = .ok e
  /-- Nothing is wrong with the lines in a file with the log. -/
  valid : (Text.Utf8.decode? (Text.Utf8.encode (textOf entries))).map validateText =
    some (entries.length, [])

/-- A log of sound entries is read back. -/
theorem readsBack {entries : List Entry} (h : ∀ e ∈ entries, e.Sound) : ReadsBack entries := by
  have hbreaks : ∀ e ∈ entries, '\n' ∉ e.line.toList := fun e he => by
    rw [Entry.line, Json.render, String.toList_ofList]
    exact Json.newline_not_mem_write (h e he).readable
  have hnumbered := numberedLines_textOf hbreaks
  refine ⟨splitLines_textOf hbreaks, hnumbered, fun e he => (h e he).validate_line, ?_⟩
  have hcomplaints : ∀ number, ∀ e ∈ entries, complaintsOfLine number e.line = [] :=
    fun number e he => by rw [complaintsOfLine, (h e he).validate_line]
  have hnone : (entries.zipIdx 1).flatMap (fun x => complaintsOfLine x.2 x.1.line) = [] :=
    List.flatMap_eq_nil_iff.mpr fun x hx => hcomplaints x.2 x.1 (List.fst_mem_of_mem_zipIdx hx)
  rw [Text.Utf8.decode?_encode, Option.map_some, validateText, hnumbered, List.length_map,
    List.length_zipIdx, List.flatMap_map, hnone]

end MemorySentry.RunLog
