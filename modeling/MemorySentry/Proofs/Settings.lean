import MemorySentry.Proofs.Results
import MemorySentry.Proofs.Text.Numerals
import MemorySentry.Settings

/-!
# What the variables of an environment say

Settings are made of an environment exactly if each of its variables makes sense; otherwise the
first one that makes none is named, with its value as it was given.

- `TruthText`, `BudgetText`, `RetentionText`, `FormatText`: the values that make sense, and what
  they say. Blanks around a value and the case of its letters do not matter.
- `Describes`: the settings that an environment describes. An absent variable leaves its default.
- `FirstMeaningless`: the variable that is at fault if there are no settings.
-/

namespace MemorySentry

namespace Settings

/-! ### Words and numbers -/

/-- The words for yes and for no. -/
def truthWords : Bool → List String
  | true => ["1", "true", "yes", "on", "enable", "enabled"]
  | false => ["0", "false", "no", "off", "disable", "disabled"]

/-- The words for a format. No word at all stands for text. -/
def formatWords : AlertFormat → List String
  | .text => ["text", "plain", ""]
  | .jsonl => ["jsonl", "json"]

/-- A value is one of some words, in letters of any case and with blanks around it. -/
def Says (raw : String) (words : List String) : Prop :=
  ∃ core, Text.Trimmed raw.toList core ∧ String.ofList (Text.lower core) ∈ words

/-- A value is a decimal number with blanks around it. -/
def Counts (raw : String) (n : Nat) : Prop :=
  ∃ core, Text.Trimmed raw.toList core ∧ Text.Numeral 10 core n

/-- The values that say yes or no. -/
def TruthText (raw : String) (b : Bool) : Prop :=
  Says raw (truthWords b)

/-- The values that set an error budget: positive numbers of at most 32 bits. -/
structure BudgetText (raw : String) (n : Nat) : Prop where
  counts : Counts raw n
  pos : 0 < n
  fits : n < UInt32.size

/-- The values that set what becomes of freed objects. A word that is also a number is a number. -/
inductive RetentionText (raw : String) : Retention → Prop
  /-- No object is to be kept. -/
  | none (h : Counts raw 0) : RetentionText raw .immediate
  /-- Some objects are to be kept. -/
  | some {n : Nat} (h : Counts raw n) (hpos : 0 < n) (hfits : n < UInt64.size) :
      RetentionText raw (.keep n)
  /-- The usual number of objects is to be kept. -/
  | on (hword : ∀ n < UInt64.size, ¬ Counts raw n) (h : TruthText raw true) :
      RetentionText raw .standard
  /-- Objects are not to be kept. -/
  | off (hword : ∀ n < UInt64.size, ¬ Counts raw n) (h : TruthText raw false) :
      RetentionText raw .immediate

/-- The values that set how alerts are written. -/
def FormatText (raw : String) (f : AlertFormat) : Prop :=
  Says raw (formatWords f)

variable {raw : String}

/-- A value is one of some words exactly if it is so once it is trimmed and in small letters. -/
theorem says_iff {words : List String} :
    Says raw words ↔ String.ofList (Text.lower (Text.trim raw.toList)) ∈ words := by
  simp [Says, Text.trimmed_iff]

/-- A value is a number exactly if it is one once it is trimmed. -/
theorem counts_iff {n : Nat} : Counts raw n ↔ Text.Numeral 10 (Text.trim raw.toList) n := by
  simp [Counts, Text.trimmed_iff]

/-- A value is one number at most. -/
theorem Counts.unique {n n' : Nat} (h : Counts raw n) (h' : Counts raw n') : n = n' :=
  (counts_iff.mp h).unique (by decide) (counts_iff.mp h')

/-- The values that are taken for yes or no are those that say so. -/
theorem truth?_eq_some_iff {b : Bool} : truth? raw = some b ↔ TruthText raw b := by
  rw [TruthText, says_iff, truth?]
  generalize String.ofList (Text.lower (Text.trim raw.toList)) = word
  cases b <;> split <;> simp_all [truthWords]

/-- The values that are taken for a format are those that name it. -/
theorem ofWord?_eq_some_iff {f : AlertFormat} :
    AlertFormat.ofWord? raw = some f ↔ FormatText raw f := by
  rw [FormatText, says_iff, AlertFormat.ofWord?]
  generalize String.ofList (Text.lower (Text.trim raw.toList)) = word
  cases f <;> split <;> simp_all [formatWords]

/-- The values that are taken for an error budget are the positive numbers of at most 32 bits. -/
theorem budget?_eq_some_iff {n : Nat} : budget? raw = some n ↔ BudgetText raw n := by
  rw [budget?, Option.filter_eq_some_iff, Text.numeralUpTo?_eq_some_iff (by decide), ← counts_iff,
    decide_eq_true_eq, Nat.le_sub_one_iff_lt (by decide)]
  exact ⟨fun ⟨⟨hcounts, hfits⟩, hpos⟩ => ⟨hcounts, hpos, hfits⟩,
    fun h => ⟨⟨h.counts, h.fits⟩, h.pos⟩⟩

/-- A value counts objects exactly if it is read as their number, which fits a word. -/
theorem count_eq_some_iff {n : Nat} :
    Text.numeralUpTo? 10 (UInt64.size - 1) (Text.trim raw.toList) = some n ↔
      Counts raw n ∧ n < UInt64.size := by
  rw [Text.numeralUpTo?_eq_some_iff (by decide), ← counts_iff, Nat.le_sub_one_iff_lt (by decide)]

/-- A value is not read as a number of objects exactly if it counts none that fits a word. -/
theorem count_eq_none_iff :
    Text.numeralUpTo? 10 (UInt64.size - 1) (Text.trim raw.toList) = none ↔
      ∀ n < UInt64.size, ¬ Counts raw n := by
  rw [Option.eq_none_iff_forall_ne_some]
  simp only [ne_eq, count_eq_some_iff]
  exact forall_congr' fun n =>
    ⟨fun h hfits hcounts => h ⟨hcounts, hfits⟩, fun h ⟨hc, hf⟩ => h hf hc⟩

/-- The values that are taken for a retention are those that say what is kept. -/
theorem retention?_eq_some_iff {r : Retention} :
    retention? raw = some r ↔ RetentionText raw r := by
  constructor
  · intro h
    rw [retention?] at h
    -- a number decides by itself, and only without one does the word count
    split at h
    · next hcount =>
      cases h
      exact .none (count_eq_some_iff.mp hcount).1
    · next n hpos hcount =>
      cases h
      obtain ⟨hcounts, hfits⟩ := count_eq_some_iff.mp hcount
      exact .some hcounts (Nat.pos_of_ne_zero hpos) hfits
    · next hcount =>
      have hword := count_eq_none_iff.mp hcount
      obtain ⟨on, hon, rfl⟩ := Option.map_eq_some_iff.mp h
      cases on with
      | true => exact .on hword (truth?_eq_some_iff.mp hon)
      | false => exact .off hword (truth?_eq_some_iff.mp hon)
  · intro h
    cases h with
    | none h =>
      rw [retention?, count_eq_some_iff.mpr ⟨h, by decide⟩]
      rfl
    | @some n h hpos hfits =>
      obtain ⟨n, rfl⟩ := Nat.exists_eq_succ_of_ne_zero hpos.ne'
      rw [retention?, count_eq_some_iff.mpr ⟨h, hfits⟩]
      rfl
    | on hword h =>
      rw [retention?, count_eq_none_iff.mpr hword, truth?_eq_some_iff.mpr h]
      rfl
    | off hword h =>
      rw [retention?, count_eq_none_iff.mpr hword, truth?_eq_some_iff.mpr h]
      rfl

/-! ### Variables -/

variable {lookup : String → Option String} {key : Key} {e : Error} {settings : Settings}

/-- What a variable says. One that is absent leaves its default. -/
inductive Reads {α : Type} (lookup : String → Option String) (key : Key) (Text : String → α → Prop)
    (default : α) : α → Prop
  /-- The variable is absent. -/
  | absent (h : lookup key.name = none) : Reads lookup key Text default default
  /-- The variable has a value. -/
  | present {raw : String} {a : α} (h : lookup key.name = some raw) (htext : Text raw a) :
      Reads lookup key Text default a

section

variable {α : Type} {Text : String → α → Prop} {read? : String → Option α} {default a : α}

/-- A variable is read exactly if it is absent, which gives the default, or has a value that makes
sense. -/
theorem readVariable_eq_ok_iff (hread : ∀ raw a, read? raw = some a ↔ Text raw a) :
    readVariable lookup key read? default = .ok a ↔ Reads lookup key Text default a := by
  constructor
  · intro h
    rw [readVariable] at h
    split at h
    · next hnone =>
      cases h
      exact .absent hnone
    · next raw hsome =>
      split at h
      · next a hvalue =>
        cases h
        exact .present hsome ((hread raw _).mp hvalue)
      · cases h
  · rintro (h | ⟨h, htext⟩)
    · simp only [readVariable, h]
    · simp only [readVariable, h, (hread _ _).mpr htext]

/-- A variable is refused exactly if it has a value that makes no sense. The error names the
variable and keeps the value as it was given. -/
theorem readVariable_eq_error_iff (hread : ∀ raw a, read? raw = some a ↔ Text raw a) :
    readVariable lookup key read? default = .error e ↔
      e.key = key ∧ lookup key.name = some e.value ∧ ∀ a, ¬ Text e.value a := by
  constructor
  · intro h
    rw [readVariable] at h
    split at h
    · cases h
    · next raw hsome =>
      split at h
      · cases h
      · next hnone =>
        cases h
        exact ⟨rfl, hsome, fun a htext => Option.eq_none_iff_forall_ne_some.mp hnone a
          ((hread raw a).mpr htext)⟩
  · rintro ⟨rfl, hsome, htext⟩
    have hnone : read? e.value = none := Option.eq_none_iff_forall_ne_some.mpr fun a hvalue =>
      htext a ((hread _ a).mp hvalue)
    simp only [readVariable, hsome, hnone]

/-- A variable that was read has a value that says something, if it has one. -/
theorem Reads.exists_text (h : Reads lookup key Text default a)
    (hraw : lookup key.name = some raw) :
    ∃ a, Text raw a := by
  cases h with
  | absent hnone => simp [hnone] at hraw
  | present hsome htext =>
    cases hsome.symm.trans hraw
    exact ⟨a, htext⟩

end

/-- A value sets what becomes of freed objects if it is a number that fits a word, or says yes or
no. -/
theorem exists_retentionText_iff :
    (∃ r, RetentionText raw r) ↔ (∃ n < UInt64.size, Counts raw n) ∨ ∃ b, TruthText raw b := by
  constructor
  · rintro ⟨r, h⟩
    cases h with
    | none h => exact .inl ⟨0, by decide, h⟩
    | some h _ hfits => exact .inl ⟨_, hfits, h⟩
    | on _ h | off _ h => exact .inr ⟨_, h⟩
  · intro h
    by_cases hcount : ∃ n < UInt64.size, Counts raw n
    · obtain ⟨n, hfits, h⟩ := hcount
      obtain rfl | hpos := Nat.eq_zero_or_pos n
      · exact ⟨_, .none h⟩
      · exact ⟨_, .some h hpos hfits⟩
    · obtain ⟨b, hb⟩ := h.resolve_left hcount
      have hword : ∀ n < UInt64.size, ¬ Counts raw n := fun n hfits h => hcount ⟨n, hfits, h⟩
      cases b with
      | true => exact ⟨_, .on hword hb⟩
      | false => exact ⟨_, .off hword hb⟩

/-- The values of a variable that make sense. A file may have any name. -/
def Meaningful (raw : String) : Key → Prop
  | .stopOnError => ∃ b, TruthText raw b
  | .errorBudget => ∃ n, BudgetText raw n
  | .retainFreed => (∃ n < UInt64.size, Counts raw n) ∨ ∃ b, TruthText raw b
  | .logFile => True
  | .logFormat => ∃ f, FormatText raw f

/-- The place of a variable in the order in which they are consulted. -/
def Key.place : Key → Nat
  | .stopOnError => 0
  | .errorBudget => 1
  | .retainFreed => 2
  | .logFile => 3
  | .logFormat => 4

/-- No two variables are asked for at the same place. -/
theorem Key.place_injective : Function.Injective Key.place := by
  intro key key' h
  cases key <;> cases key' <;> first | rfl | cases h

/-- The settings that an environment describes. -/
structure Describes (lookup : String → Option String) (s : Settings) : Prop where
  stopOnError : Reads lookup .stopOnError TruthText false s.stopOnError
  errorBudget : Reads lookup .errorBudget BudgetText 20 s.errorBudget
  retention : Reads lookup .retainFreed RetentionText .standard s.retention
  /-- The name of the file is taken as it is, and an empty one is as good as none. -/
  logPath : ∀ path, s.logPath = some path ↔ lookup Key.logFile.name = some path ∧ path ≠ ""
  format : Reads lookup .logFormat FormatText .text s.format

/-- The variables that are consulted before some place make sense. -/
def SensibleBefore (lookup : String → Option String) (place : Nat) : Prop :=
  ∀ key raw, key.place < place → lookup key.name = some raw → Meaningful raw key

/-- A variable that makes sense as well leads to the next place. -/
theorem SensibleBefore.succ (h : SensibleBefore lookup key.place)
    (hkey : ∀ raw, lookup key.name = some raw → Meaningful raw key) :
    SensibleBefore lookup (key.place + 1) := by
  intro key' raw hplace hraw
  obtain hlt | heq := Nat.lt_succ_iff_lt_or_eq.mp hplace
  · exact h key' raw hlt hraw
  · obtain rfl := Key.place_injective heq
    exact hkey raw hraw

/-- A variable makes no sense, and every one that is consulted before it does. -/
structure FirstMeaningless (lookup : String → Option String) (e : Error) : Prop where
  value : lookup e.key.name = some e.value
  meaningless : ¬ Meaningful e.value e.key
  before : SensibleBefore lookup e.key.place

/-- Only one variable is the first to make no sense. -/
theorem FirstMeaningless.unique {e' : Error} (h : FirstMeaningless lookup e)
    (h' : FirstMeaningless lookup e') : e = e' := by
  have hkey : e.key = e'.key := by
    by_contra hne
    obtain hlt | hlt := Nat.lt_or_gt_of_ne (Key.place_injective.ne hne)
    · exact h.meaningless (h'.before _ _ hlt h.value)
    · exact h'.meaningless (h.before _ _ hlt h'.value)
  have hvalue := h.value
  rw [hkey, h'.value, Option.some.injEq] at hvalue
  cases e
  cases e'
  simp_all

/-- There is a log file exactly if its variable is set to a name that is not empty. -/
theorem logPath_eq_some_iff {path : String} :
    ((lookup Key.logFile.name).filter fun path => path ≠ "") = some path ↔
      lookup Key.logFile.name = some path ∧ path ≠ "" := by
  rw [Option.filter_eq_some_iff, decide_eq_true_eq]

/-- There are settings exactly if they are described by the environment. -/
theorem ofLookup_eq_ok_iff : ofLookup lookup = .ok settings ↔ Describes lookup settings := by
  simp only [ofLookup, bind_eq_ok_iff, readVariable_eq_ok_iff fun _ _ => truth?_eq_some_iff,
    readVariable_eq_ok_iff fun _ _ => budget?_eq_some_iff,
    readVariable_eq_ok_iff fun _ _ => retention?_eq_some_iff,
    readVariable_eq_ok_iff fun _ _ => ofWord?_eq_some_iff]
  constructor
  · rintro ⟨stop, hstop, budget, hbudget, retention, hretention, format, hformat, hsettings⟩
    cases hsettings
    exact ⟨hstop, hbudget, hretention, fun _ => logPath_eq_some_iff, hformat⟩
  · rintro ⟨hstop, hbudget, hretention, hpath, hformat⟩
    refine ⟨_, hstop, _, hbudget, _, hretention, _, hformat, ?_⟩
    have hpath' : ((lookup Key.logFile.name).filter fun path => path ≠ "") = settings.logPath :=
      Option.ext fun path => logPath_eq_some_iff.trans (hpath path).symm
    rw [hpath']
    rfl

/-- In an environment that describes settings, every variable with a value makes sense. -/
theorem Describes.meaningful (h : Describes lookup settings) (hraw : lookup key.name = some raw) :
    Meaningful raw key := by
  cases key with
  | stopOnError => exact h.stopOnError.exists_text hraw
  | errorBudget => exact h.errorBudget.exists_text hraw
  | retainFreed => exact exists_retentionText_iff.mp (h.retention.exists_text hraw)
  | logFile => trivial
  | logFormat => exact h.format.exists_text hraw

/-- If there are no settings, the error names the first variable that makes no sense. -/
theorem firstMeaningless_of_error (h : ofLookup lookup = .error e) : FirstMeaningless lookup e := by
  simp only [ofLookup, bind_eq_error_iff, readVariable_eq_ok_iff fun _ _ => truth?_eq_some_iff,
    readVariable_eq_ok_iff fun _ _ => budget?_eq_some_iff,
    readVariable_eq_ok_iff fun _ _ => retention?_eq_some_iff,
    readVariable_eq_ok_iff fun _ _ => ofWord?_eq_some_iff,
    readVariable_eq_error_iff fun _ _ => truth?_eq_some_iff,
    readVariable_eq_error_iff fun _ _ => budget?_eq_some_iff,
    readVariable_eq_error_iff fun _ _ => retention?_eq_some_iff,
    readVariable_eq_error_iff fun _ _ => ofWord?_eq_some_iff] at h
  obtain ⟨key, value⟩ := e
  -- the variables are consulted one by one, and each that has been read makes sense
  have hstopPlace : SensibleBefore lookup Key.stopOnError.place :=
    fun _ _ h => absurd h (Nat.not_lt_zero _)
  obtain ⟨rfl, hvalue, hnone⟩ | ⟨stop, hstop, h⟩ := h
  · exact ⟨hvalue, fun ⟨b, hb⟩ => hnone b hb, hstopPlace⟩
  have hbudgetPlace : SensibleBefore lookup Key.errorBudget.place :=
    hstopPlace.succ fun _ => hstop.exists_text
  obtain ⟨rfl, hvalue, hnone⟩ | ⟨budget, hbudget, h⟩ := h
  · exact ⟨hvalue, fun ⟨n, hn⟩ => hnone n hn, hbudgetPlace⟩
  have hretainPlace : SensibleBefore lookup Key.retainFreed.place :=
    hbudgetPlace.succ fun _ => hbudget.exists_text
  obtain ⟨rfl, hvalue, hnone⟩ | ⟨retention, hretention, h⟩ := h
  · exact ⟨hvalue, fun h => (exists_retentionText_iff.mpr h).elim hnone, hretainPlace⟩
  have hfilePlace : SensibleBefore lookup Key.logFile.place :=
    hretainPlace.succ fun _ hraw => exists_retentionText_iff.mp (hretention.exists_text hraw)
  have hformatPlace : SensibleBefore lookup Key.logFormat.place :=
    hfilePlace.succ fun _ _ => trivial
  obtain ⟨rfl, hvalue, hnone⟩ | ⟨format, hformat, h⟩ := h
  · exact ⟨hvalue, fun ⟨f, hf⟩ => hnone f hf, hformatPlace⟩
  · cases h

/-- No settings come of an environment exactly if it has a variable that makes no sense, and the
error is about the first of these. -/
theorem ofLookup_eq_error_iff : ofLookup lookup = .error e ↔ FirstMeaningless lookup e := by
  refine ⟨firstMeaningless_of_error, fun h => ?_⟩
  cases hresult : ofLookup lookup with
  | error e' => rw [h.unique (firstMeaningless_of_error hresult)]
  | ok settings =>
    -- described settings read every variable
    have hmeaningful := (ofLookup_eq_ok_iff.mp hresult).meaningful h.value
    exact absurd hmeaningful h.meaningless

/-- Settings say how many faults are one too many, and how many freed objects are kept if any
are. -/
theorem Describes.bounds (h : Describes lookup settings) :
    (1 ≤ settings.errorBudget ∧ settings.errorBudget < UInt32.size) ∧
      (settings.retention = .immediate ∨ ∃ n, 1 ≤ n ∧ settings.retention = .keep n) := by
  obtain ⟨-, hbudget, hretention, -, -⟩ := h
  constructor
  · generalize settings.errorBudget = budget at hbudget
    cases hbudget with
    | absent => decide
    | present _ htext => exact ⟨htext.pos, htext.fits⟩
  · generalize settings.retention = retention at hretention
    cases hretention with
    | absent => exact .inr ⟨_, by decide, rfl⟩
    | present _ htext =>
      cases htext with
      | none | off => exact .inl rfl
      | some _ hpos => exact .inr ⟨_, hpos, rfl⟩
      | on => exact .inr ⟨_, by decide, rfl⟩

/-- An environment describes settings exactly if each of its five variables makes sense where it is
present, and otherwise the first one that makes none is named with its value as it was given. The
settings have a positive budget, keep no freed object or a positive number of them, leave the
default of each variable that is absent, and depend on no other variable. -/
theorem ofLookup_grammar (lookup : String → Option String) :
    ((∃ s, ofLookup lookup = .ok s) ↔
      ∀ key raw, lookup key.name = some raw → Meaningful raw key) ∧
    (∀ e, ofLookup lookup = .error e ↔ FirstMeaningless lookup e) ∧
    (∀ s, ofLookup lookup = .ok s ↔ Describes lookup s) ∧
    (∀ s, ofLookup lookup = .ok s → (1 ≤ s.errorBudget ∧ s.errorBudget < UInt32.size) ∧
      (s.retention = .immediate ∨ ∃ n, 1 ≤ n ∧ s.retention = .keep n)) ∧
    (∀ other : String → Option String, (∀ key : Key, other key.name = lookup key.name) →
      ofLookup other = ofLookup lookup) := by
  refine ⟨⟨?_, ?_⟩, fun e => ofLookup_eq_error_iff, fun s => ofLookup_eq_ok_iff,
    fun s h => (ofLookup_eq_ok_iff.mp h).bounds, fun other h => ?_⟩
  · rintro ⟨s, h⟩ key raw hraw
    exact (ofLookup_eq_ok_iff.mp h).meaningful hraw
  · -- if no variable is at fault, none can be the first
    intro h
    cases hresult : ofLookup lookup with
    | ok s => exact ⟨s, rfl⟩
    | error e =>
      have hfirst := firstMeaningless_of_error hresult
      exact absurd (h _ _ hfirst.value) hfirst.meaningless
  · simp only [ofLookup, readVariable, h]

/-- A number with a sign and zeros makes sense, and so does a word with a capital letter, and both
may have blanks around them. -/
theorem ofLookup_grammar_blanks :
    let environment : List (String × String) :=
      [("POOLGUARD_ERROR_BUDGET", "+007\n"), ("POOLGUARD_RETAIN_FREED", " Off")]
    ofLookup (List.lookup · environment) = .ok { errorBudget := 7, retention := .immediate } ∧
      RetentionText " Off" .immediate := by
  intro environment
  have hok : ofLookup (List.lookup · environment) =
      .ok { errorBudget := 7, retention := .immediate } := by decide
  obtain ⟨-, -, hdescribes, -, -⟩ := ofLookup_grammar (List.lookup · environment)
  refine ⟨hok, ?_⟩
  cases ((hdescribes _).mp hok).retention with
  | present h htext =>
    cases h
    exact htext

end Settings

end MemorySentry
