import MemorySentry.Proofs.Json.Texts
import MemorySentry.Violation.Json
import Mathlib.Data.Option.Basic

/-!
# The records of violations

A record has a field for everything that is known about a violation, and `null` for what is not
known. Its fields can be read off again, so different violations have different records
(`Violation.Record.render_injective`). A record has no line break
(`Violation.Record.newline_not_mem_render`).

A record says of an object whether it is live, and apart from that which free it had. Here these are
fields of their own (`Object.Record`), so that what is proved about records does not depend on what
objects there are.
-/

namespace MemorySentry

open Json (Whole)

/-! ### Words in records -/

/-- A kind of violation is found by its symbol. -/
theorem ViolationKind.ofSymbol?_symbol (kind : ViolationKind) :
    ofSymbol? kind.symbol = some kind := by
  cases kind <;> decide

/-- Different kinds of violations have different symbols. -/
theorem ViolationKind.symbol_injective : Function.Injective ViolationKind.symbol := by
  have hread : ofSymbol? ∘ symbol = some := funext ofSymbol?_symbol
  exact (hread ▸ Option.some_injective ViolationKind).of_comp

/-- Different weaknesses have different numbers. -/
theorem Weakness.id_injective : Function.Injective Weakness.id := by
  have hread : ofId? ∘ id = some := funext fun w => by cases w <;> decide
  exact (hread ▸ Option.some_injective Weakness).of_comp

/-- Different kinds of objects have different names in records. -/
theorem ObjectKind.jsonName_injective : Function.Injective ObjectKind.jsonName := by
  have hread : (fun name => all.find? fun k => k.jsonName == name) ∘ jsonName = some :=
    funext fun kind => by cases kind <;> decide
  exact (hread ▸ Option.some_injective ObjectKind).of_comp

/-! ### Values -/

namespace Json

/-- Different words have different values in records. -/
theorem word_injective : Function.Injective word := fun w w' h => by
  injection h with h
  injection h with h
  exact UInt64.toNat_inj.mp h

/-- Different numbers have different values in records. -/
theorem nat_injective : Function.Injective nat := fun n n' h => by
  injection h with h
  injection h

/-- Different texts have different values in records. -/
theorem string_injective : Function.Injective Json.string := fun s s' h => by
  injection h

section

variable {α : Type} {f : α → Json}

/-- A value that is never `null` can be told from a missing one. -/
theorem ofOption_injective (hf : Function.Injective f) (hnull : ∀ a, f a ≠ .null) :
    Function.Injective (ofOption f)
  | none, none, _ => rfl
  | none, some a, h => absurd h.symm (hnull a)
  | some a, none, h => absurd h (hnull a)
  | some _, some _, h => congrArg some (hf h)

/-- A value that may be missing has whole numbers if those that are there do. -/
theorem whole_ofOption (h : ∀ a, Whole (f a)) : ∀ a : Option α, Whole (ofOption f a)
  | none => trivial
  | some a => h a

end

/-- A word is a whole number. -/
theorem whole_word (w : UInt64) : Whole (word w) := trivial

/-- A natural number is a whole number. -/
theorem whole_nat (n : Nat) : Whole (nat n) := trivial

/-- A text has no numbers at all. -/
theorem whole_string (s : String) : Whole (.string s) := trivial

end Json

namespace Span

/-- The ends of a span can be read off its record. -/
theorem toJson_injective : Function.Injective toJson := fun s s' h => by
  simp only [toJson, Json.object.injEq, List.cons.injEq, Prod.mk.injEq, true_and, and_true] at h
  obtain ⟨hstart, hstop⟩ := h
  cases s
  cases s'
  cases Json.word_injective hstart
  cases Json.word_injective hstop
  rfl

/-- The numbers in the record of a span are whole. -/
theorem whole_toJson (s : Span) : Whole s.toJson :=
  ⟨trivial, trivial, trivial⟩

end Span

namespace Site

/-- The parts of a site can be read off its record. -/
theorem toJson_injective : Function.Injective toJson := fun s s' h => by
  simp only [toJson, Json.object.injEq, List.cons.injEq, Prod.mk.injEq, true_and, and_true] at h
  obtain ⟨htag, hpc, hsource, hline⟩ := h
  have hsource := Json.ofOption_injective Json.string_injective (fun _ => Json.noConfusion) hsource
  cases s
  cases s'
  cases UInt32.toNat_inj.mp (Json.nat_injective htag)
  cases Json.word_injective hpc
  cases hsource
  cases UInt32.toNat_inj.mp (Json.nat_injective hline)
  rfl

/-- The numbers in the record of a site are whole. -/
theorem whole_toJson (s : Site) : Whole s.toJson :=
  ⟨trivial, trivial, Json.whole_ofOption Json.whole_string _, trivial, trivial⟩

/-- A site that is not known can be told from every site that is. -/
theorem ofOption_toJson_injective : Function.Injective (Json.ofOption toJson) :=
  Json.ofOption_injective toJson_injective fun _ => Json.noConfusion

end Site

/-! ### Objects -/

/-- What the record of an object says, each part on its own. -/
structure Object.Record where
  span : Span
  kind : ObjectKind
  isLive : Bool
  allocId : Nat
  allocSite : Option Site
  freeId : Nat
  freeSite : Option Site
deriving DecidableEq

namespace Object

/-- The object with its history. -/
def Record.toJson (r : Record) : Json :=
  .object [("region", r.span.toJson), ("kind", .string r.kind.jsonName),
    ("state", .string (if r.isLive then "live" else "retired")), ("alloc_id", .nat r.allocId),
    ("alloc_site", .ofOption Site.toJson r.allocSite), ("free_id", .nat r.freeId),
    ("free_site", .ofOption Site.toJson r.freeSite)]

/-- What the record of an object says. -/
def record (o : Object) : Record where
  span := o.span
  kind := o.kind
  isLive := o.isLive
  allocId := o.allocId
  allocSite := o.allocSite
  freeId := o.freeId
  freeSite := o.freeSite

/-- What is written of an object is its record. -/
theorem toJson_eq (o : Object) : o.toJson = o.record.toJson := rfl

/-- The free of an object can be read off its record, since only a freed object has one. -/
theorem record_injective : Function.Injective record := fun o o' h => by
  obtain ⟨span, kind, allocId, allocSite, release⟩ := o
  obtain ⟨span', kind', allocId', allocSite', release'⟩ := o'
  simp only [record, Record.mk.injEq, isLive, freeId, freeSite] at h
  obtain ⟨rfl, rfl, hlive, rfl, rfl, hid, hsite⟩ := h
  have hrelease : release = release' := by
    rcases release with _ | ⟨id, site⟩ <;> rcases release' with _ | ⟨id', site'⟩
    · rfl
    · cases hlive
    · cases hlive
    · cases hid
      cases hsite
      rfl
  rw [hrelease]

namespace Record

/-- What a record says of an object can be read off its fields. -/
theorem toJson_injective : Function.Injective toJson := fun r r' h => by
  simp only [toJson, Json.object.injEq, List.cons.injEq, Prod.mk.injEq, true_and, and_true,
    Json.string.injEq] at h
  obtain ⟨hspan, hkind, hlive, halloc, hallocSite, hfree, hfreeSite⟩ := h
  have hlive : r.isLive = r'.isLive := by
    cases hr : r.isLive <;> cases hr' : r'.isLive <;> simp [hr, hr'] at hlive ⊢
  cases r
  cases r'
  cases Span.toJson_injective hspan
  cases ObjectKind.jsonName_injective hkind
  cases hlive
  cases Json.nat_injective halloc
  cases Site.ofOption_toJson_injective hallocSite
  cases Json.nat_injective hfree
  cases Site.ofOption_toJson_injective hfreeSite
  rfl

/-- The numbers in the record of an object are whole. -/
theorem whole_toJson (r : Record) : Whole r.toJson :=
  ⟨r.span.whole_toJson, trivial, trivial, trivial, Json.whole_ofOption Site.whole_toJson _, trivial,
    Json.whole_ofOption Site.whole_toJson _, trivial⟩

end Record

end Object

/-! ### Violations -/

/-- What the record of a violation says, each part on its own. -/
structure Violation.Record where
  kind : ViolationKind
  pointer : Address
  pc : Address
  weakness : Option Weakness
  site : Option Site
  span : Option Span
  alignment : Option ByteCount
  function : Option String
  history : Option Object.Record
deriving DecidableEq

namespace Violation

/-- The violation with all its fields. -/
def Record.toJson (r : Record) : Json :=
  .object [("kind", .string r.kind.symbol), ("fault_ptr", .word r.pointer), ("pc", .word r.pc),
    ("cwe", .ofOption (fun w => .nat w.id) r.weakness), ("site", .ofOption Site.toJson r.site),
    ("object", .ofOption Span.toJson r.span), ("alignment", .ofOption .word r.alignment),
    ("function", .ofOption .string r.function),
    ("history", .ofOption Object.Record.toJson r.history)]

/-- What the record of a violation says. -/
def record (v : Violation) : Record where
  kind := v.kind
  pointer := v.pointer
  pc := v.pc
  weakness := v.weakness
  site := v.site
  span := v.span
  alignment := v.alignment
  function := v.function
  history := v.history.map Object.record

/-- What is written of a violation is its record. -/
theorem toJson_eq (v : Violation) : v.toJson = v.record.toJson := by
  have hhistory : Json.ofOption Object.toJson v.history =
      Json.ofOption Object.Record.toJson (v.history.map Object.record) := by
    cases v.history <;> rfl
  rw [toJson, hhistory]
  rfl

/-- A record leaves nothing of a violation out. -/
theorem record_injective : Function.Injective record := fun v v' h => by
  obtain ⟨kind, pointer, pc, weakness, site, span, alignment, function, history⟩ := v
  simp only [record, Record.mk.injEq] at h
  obtain ⟨rfl, rfl, rfl, rfl, rfl, rfl, rfl, rfl, hhistory⟩ := h
  cases Option.map_injective Object.record_injective hhistory
  rfl

namespace Record

/-- What a record says of a violation can be read off its fields. -/
theorem toJson_injective : Function.Injective toJson := fun r r' h => by
  simp only [toJson, Json.object.injEq, List.cons.injEq, Prod.mk.injEq, true_and, and_true,
    Json.string.injEq] at h
  obtain ⟨hkind, hpointer, hpc, hweakness, hsite, hspan, halignment, hfunction, hhistory⟩ := h
  have hid : Function.Injective fun w : Weakness => Json.nat w.id :=
    Json.nat_injective.comp Weakness.id_injective
  cases r
  cases r'
  cases ViolationKind.symbol_injective hkind
  cases Json.word_injective hpointer
  cases Json.word_injective hpc
  cases Json.ofOption_injective hid (fun _ => Json.noConfusion) hweakness
  cases Site.ofOption_toJson_injective hsite
  cases Json.ofOption_injective Span.toJson_injective (fun _ => Json.noConfusion) hspan
  cases Json.ofOption_injective Json.word_injective (fun _ => Json.noConfusion) halignment
  cases Json.ofOption_injective Json.string_injective (fun _ => Json.noConfusion) hfunction
  cases Json.ofOption_injective Object.Record.toJson_injective (fun _ => Json.noConfusion) hhistory
  rfl

/-- The numbers in the record of a violation are whole. -/
theorem whole_toJson (r : Record) : Whole r.toJson :=
  ⟨trivial, trivial, trivial, Json.whole_ofOption (fun _ => Json.whole_nat _) _,
    Json.whole_ofOption Site.whole_toJson _, Json.whole_ofOption Span.whole_toJson _,
    Json.whole_ofOption Json.whole_word _, Json.whole_ofOption Json.whole_string _,
    Json.whole_ofOption Object.Record.whole_toJson _, trivial⟩

/-- A record is one line. -/
theorem newline_not_mem_render (r : Record) : '\n' ∉ r.toJson.render.toList := by
  rw [Json.render, String.toList_ofList]
  exact fun hmem => Bool.noConfusion (Json.not_isControl_write r.whole_toJson _ hmem)

/-- Different records have different texts. -/
theorem render_injective : Function.Injective fun r : Record => r.toJson.render := fun r r' h => by
  have hwrite : r.toJson.write = r'.toJson.write := String.ofList_inj.mp h
  exact toJson_injective (Json.write_inj r.whole_toJson r'.whole_toJson hwrite)

end Record

end Violation

end MemorySentry
