import MemorySentry.Object.Basic
import MemorySentry.Settings

/-!
# Traces

A trace is what a program did with its memory, written down as a list of operations, together with
the settings under which it is to be watched. Pools are referred to by labels.
-/

namespace MemorySentry

namespace Trace

/-- The name of a pool in a trace. -/
abbrev Label := String

/-- One thing that a program did. -/
inductive Operation where
  /-- Creates a pool and gives it a label. -/
  | createPool (pool : Label)
  /-- Destroys a pool; its label is free again. -/
  | destroyPool (pool : Label)
  | register (pool : Label) (a : Address) (size : ByteCount) (kind : ObjectKind)
  | registerExternal (a : Address) (size : ByteCount)
  | free (pool : Label) (a : Address)
  | endScope (pool : Label) (a : Address)
  | move (pool : Label) (new old : Address) (size : ByteCount)
  | checkAccess (pool : Label) (a : Address) (length : ByteCount) (complete write : Bool)
  | checkAlignment (pool : Label) (a : Address) (elementSize : ByteCount)
  | checkArithmetic (pool : Label) (source dest : Address) (complete : Bool)
  | checkDerived (base pointer : Address) (size : ByteCount)
  | checkDerivedAccess (base pointer : Address) (size length : ByteCount)
  /-- A call that may have allocated memory. The length is that of the string that it returned. -/
  | allocated (pool : Label) (callee : String) (args : List Address) (returned : Address)
      (stringLength : Option ByteCount)
  /-- A call that may have freed memory. -/
  | deallocated (pool : Label) (callee : String) (args : List Address)
deriving DecidableEq

/-- The word for an operation in traces and in logs. -/
def Operation.name : Operation → String
  | .createPool _ => "pool_init"
  | .destroyPool _ => "pool_destroy"
  | .register .. => "register"
  | .registerExternal .. => "register_external"
  | .free .. => "unregister"
  | .endScope .. => "unregister_stack"
  | .move .. => "reregister"
  | .checkAccess .. => "check"
  | .checkAlignment .. => "check_align"
  | .checkArithmetic .. => "check_arithmetic"
  | .checkDerived .. => "exact_check"
  | .checkDerivedAccess .. => "fast_ls_check"
  | .allocated .. => "alloc_call"
  | .deallocated .. => "free_call"

/-- The label of the pool that an operation is about, if it is about one. -/
def Operation.label? : Operation → Option Label
  | .createPool pool | .destroyPool pool | .register pool .. | .free pool _ | .endScope pool _
  | .move pool .. | .checkAccess pool .. | .checkAlignment pool .. | .checkArithmetic pool ..
  | .allocated pool .. | .deallocated pool .. => some pool
  | .registerExternal .. | .checkDerived .. | .checkDerivedAccess .. => none

/-- The settings in a trace. -/
structure Options where
  /-- The number of the fault that ends the run. -/
  errorBudget : Option Nat := none
  /-- Whether the first fault ends the run. -/
  stopOnError : Bool := false
  /-- Whether freed objects are kept in mind. -/
  retainFreed : Option Bool := none
deriving DecidableEq

/-- The settings under which a trace is watched; what the trace leaves open is standard. -/
def Options.settings (o : Options) : Settings :=
  let standard : Settings := {}
  { standard with
    stopOnError := o.stopOnError
    errorBudget := o.errorBudget.getD standard.errorBudget
    retention := if o.retainFreed = some false then .immediate else standard.retention }

end Trace

/-- What a program did with its memory. -/
structure Trace where
  /-- The name of the trace. -/
  name : String
  /-- The settings. -/
  options : Trace.Options := {}
  /-- The operations in their order. -/
  operations : List Trace.Operation
deriving DecidableEq

end MemorySentry
