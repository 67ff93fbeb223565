import MemorySentry.Program.Basic

/-!
# Entry points

The calls that instrumentation puts into a program. A call finds its pool through a descriptor; with
no descriptor, or one that holds no pool, it does nothing. What a call finds is reported by the
monitor, and it returns at most the pointer that the program goes on with.
-/

namespace MemorySentry.Program

/-- A string in the memory of a program, without its terminator; none for the null pointer. -/
abbrev CString := Option (List UInt8)

/-- A string as text. -/
def textOf (s : CString) : Option String :=
  s.map Text.Utf8.decodeLossy

/-- What a call says about its place in the program. -/
inductive Place where
  /-- Nothing. -/
  | unknown
  /-- A tag. -/
  | tagged (tag : UInt32)
  /-- A tag and a line of a source file, if that is known. -/
  | inSource (tag : UInt32) (source : CString) (line : UInt32)
deriving DecidableEq

/-- The site that a call describes. -/
def Place.site : Place → Option Site
  | .unknown => none
  | .tagged tag => some { tag }
  | .inSource tag source line => some { tag, source := textOf source, line }

/-- A call of an entry point. A pool is given by the number of its descriptor, or not at all.

Most entry points are functions in two forms, plain and `_debug`, which differ in the place alone.
The plain form says nothing of its place (`.unknown`), but for `pool_register`, which passes a tag
(`.tagged`); every `_debug` form passes a tag, a source file and a line (`.inSource`). -/
inductive EntryPoint where
  /-- Makes the monitor from settings of the program itself: `pool_init_runtime`. -/
  | configure (dangling terminate : Nat)
  /-- Sends later alerts to a file: `pool_init_logfile`. -/
  | setLogFile (name : CString)
  /-- The end of the program: `pool_fini_runtime`. -/
  | finish
  /-- Puts the number of a new pool into a descriptor: `pool_init`. -/
  | createPool (pool : Option Nat)
  /-- Destroys the pool that a descriptor names: `pool_destroy`. -/
  | destroyPool (pool : Option Nat)
  /-- Registers an object: on the heap with `pool_register`, on the stack with
  `pool_register_stack`, a global one with `pool_register_global`, the copy of an argument with
  `pool_register_byval`. No function registers objects of another kind. -/
  | register (pool : Option Nat) (a : Address) (size : ByteCount) (kind : ObjectKind)
      (place : Place)
  /-- Registers memory from outside for all pools: `pool_register_external`, in one form. -/
  | registerExternal (a : Address) (size : ByteCount)
  /-- Registers the arguments and the environment of the program: `poolargvregister`. -/
  | registerArguments (count : Int) (vector : Address)
  /-- Frees an object on the heap: `pool_unregister`. -/
  | free (pool : Option Nat) (a : Address) (place : Place)
  /-- Ends the scope of an object on the stack: `pool_unregister_stack`. Its place is not kept. -/
  | endScope (pool : Option Nat) (a : Address) (place : Place)
  /-- Reallocates an object on the heap: `pool_reregister`. -/
  | move (pool : Option Nat) (new old : Address) (size : ByteCount) (place : Place)
  /-- Checks a read or a write, as the bits of the mode say: `pool_check`. -/
  | checkAccess (pool : Option Nat) (a : Address) (length : ByteCount) (mode : Nat) (place : Place)
  /-- Checks that a pointer points to an element: `pool_check_align`. -/
  | checkAlignment (pool : Option Nat) (a : Address) (elementSize : ByteCount) (place : Place)
  /-- Checks pointer arithmetic and returns the result of it: `pool_boundscheck`. -/
  | checkArithmetic (pool : Option Nat) (source dest : Address) (mode : Nat) (place : Place)
  /-- Checks a derived pointer, without a pool, and returns it: `exactcheck2`. -/
  | checkDerived (base pointer : Address) (size : ByteCount) (place : Place)
  /-- Checks an access through a derived pointer, without a pool: `fastlscheck`. -/
  | checkDerivedAccess (base pointer : Address) (size length : ByteCount) (place : Place)
  /-- Checks the target of a call, of which all possible ones are known with `funccheck`
  (`.complete`), and only some with `funccheckui` (`.incomplete`). Neither has a `_debug` form. -/
  | checkCall (target : Address) (targets : List Address) (provenance : Provenance)
  /-- Checks that a string has an end: `pool_check_string`, in one form. -/
  | checkString (pool : Option Nat) (a : Address) (function : CString)
  /-- Maps an object a second time: `pool_shadow`. -/
  | shadow (a : Address) (size : ByteCount)
  /-- Revokes a second view: `pool_unshadow`. -/
  | unshadow (a : Address)
  /-- Tells of a call of an allocating function: `pool_alloc_site`. -/
  | allocated (pool : Option Nat) (callee : CString) (args : List UInt64) (returned : Address)
  /-- Tells of a call of a freeing function: `pool_free_site`. -/
  | deallocated (pool : Option Nat) (callee : CString) (args : List UInt64)

/-- The pool that a descriptor names. To find out takes the monitor. -/
def resolve (p : Program) (pool : Option Nat) : Option PoolId × Program :=
  let (_, p) := p.monitor
  match pool with
  | none => (none, p)
  | some i => (if p.descriptor i = 0 then none else some (p.descriptor i), p)

/-- Carries out an operation on the pool that a descriptor names. -/
def performIn (p : Program) (pool : Option Nat) (c : PoolId → Monitor.Command) : Program :=
  match p.resolve pool with
  | (some id, p) => (p.perform (c id)).2
  | (none, p) => p

/-- Registers memory that the program received from outside. -/
def registerOutside (p : Program) (a : Address) (size : ByteCount) : Program :=
  (p.perform (.registerExternal a size none)).2

/-- The number of bytes of a pointer. -/
def pointerSize : ByteCount := 8

/-- The number of bytes of the number of the last error. -/
def errnoSize : ByteCount := 4

/-- The number of bytes of a variable in the environment: its name, an equals sign, its value and
the terminator. -/
def variableSize (v : String × String) : Nat :=
  v.1.utf8ByteSize + 1 + v.2.utf8ByteSize + 1

/-- The variables of an environment with their addresses, one behind another. -/
def layOut (a : Address) : List (String × String) → List (String × Address × ByteCount)
  | [] => []
  | v :: rest =>
    let size := UInt64.ofNat (variableSize v)
    (v.1, a, size) :: layOut (a + size) rest

/-- The variables of the environment with their addresses. -/
def placedVariables (p : Program) : List (String × Address × ByteCount) :=
  layOut p.layout.environment p.environment

/-- Registers the strings that a vector points to. -/
def registerStrings (p : Program) (vector : Address) : (count : Nat) → Program
  | 0 => p
  | count + 1 =>
    let s := p.memory.pointerAt vector
    let p := match s, p.memory.stringLength? s with
      | 0, _ | _, none => p
      | s, some length => p.registerOutside s (length + 1)
    registerStrings p (vector + pointerSize) count

/-- Registers the arguments of the program and the vector that points to them. -/
def registerVector (p : Program) (vector : Address) (count : Nat) : Program :=
  (p.registerStrings vector count).registerOutside vector (UInt64.ofNat (count + 1) * pointerSize)

/-- Registers the environment and the vector that points to it. -/
def registerEnvironment (p : Program) : Program :=
  let p' := p.placedVariables.foldl (fun p v => p.registerOutside v.2.1 v.2.2) p
  p'.registerOutside p.layout.vector (UInt64.ofNat (p.environment.length + 1) * pointerSize)

/-- Registers the arguments, the environment and the number of the last error. -/
def registerArguments (p : Program) (count : Int) (vector : Address) : Program :=
  let p := if vector = 0 ∨ count < 0 then p else p.registerVector vector count.toNat
  p.registerEnvironment.registerOutside p.layout.lastError errnoSize

/-- Sends later alerts to a file. -/
def setLogFile (p : Program) (name : String) : Program :=
  let (m, p) := p.monitor
  match p.written.openFile name with
  | .ok written =>
    { p with written, monitor? := some { m with alerts := m.alerts.redirect (.file name) } }
  | .error e => p.complain ("cannot open log file " ++ name ++ ": " ++ e.message)

/-- Makes a monitor from settings of the program itself, which is given up if there is one already.
What making it leaves behind stays. -/
def configure (p : Program) (dangling terminate : Nat) : Program :=
  let (s, p) := p.settings
  let s := if dangling = 0 then { s with retention := .immediate } else s
  let s := if terminate = 0 then s else { s with stopOnError := true }
  let (m, p) := p.makeMonitor s
  { p with monitor? := some (p.monitor?.getD m) }

/-- Maps the pages of an object a second time. Gives the second address of the object, or the first
one if there is none. The program is aborted if a number does not fit in a word. -/
def shadow (p : Program) (a : Address) (size : ByteCount) : Option Address × Program :=
  let (m, p) := p.monitor
  let (r, m, addressSpace) := m.shadow AddressSpace.remap p.addressSpace a size
  let p := { p with monitor? := some m, addressSpace }
  match r with
  | .ok shadow => (some shadow, p)
  | .error (.unmet _) => (some a, p)
  | .error (.overflow _) => (none, p.abort)

/-- Revokes a second view. -/
def unshadow (p : Program) (a : Address) : Program :=
  let (m, p) := p.monitor
  let (r, m) := m.unshadow p.addressSpace.protect a
  let p := { p with monitor? := some m }
  match r with
  | .ok _ => p
  | .error (.unmet e) =>
    p.complain ("cannot protect shadow at " ++ Word.hex a.toNat ++ ": " ++ e.message)
  | .error (.overflow _) => p.abort

/-- Carries out a call in a program that runs. -/
def carryOut (p : Program) : EntryPoint → Option Address × Program
  | .configure dangling terminate => (none, p.configure dangling terminate)
  | .setLogFile name =>
    match textOf name with
    | some name => (none, p.setLogFile name)
    | none => (none, p)
  | .finish => (none, p)
  | .createPool none => (none, p)
  | .createPool (some i) =>
    match p.perform .createPool with
    | (.pool id, p) => (none, p.setDescriptor i id)
    | (_, p) => (none, p)
  | .destroyPool pool =>
    match pool, p.resolve pool with
    | some i, (some id, p) => (none, (p.perform (.destroyPool id)).2.setDescriptor i 0)
    | _, (_, p) => (none, p)
  | .register pool a size kind place =>
    (none, p.performIn pool fun id => .register id a size kind place.site)
  | .registerExternal a size => (none, p.registerOutside a size)
  | .registerArguments count vector => (some vector, p.registerArguments count vector)
  | .free pool a place => (none, p.performIn pool fun id => .free id a place.site)
  | .endScope pool a _ => (none, p.performIn pool fun id => .endScope id a)
  | .move pool new old size place =>
    (none, p.performIn pool fun id => .move id new old size place.site)
  | .checkAccess pool a length mode place =>
    (none, p.performIn pool fun id => .checkAccess id a length (.ofBits mode) place.site)
  | .checkAlignment pool a elementSize place =>
    (none, p.performIn pool fun id => .checkAlignment id a elementSize place.site)
  | .checkArithmetic pool source dest mode place =>
    (some dest,
      p.performIn pool fun id => .checkArithmetic id source dest (.ofBits mode) place.site)
  | .checkDerived base pointer size place =>
    (some pointer, (p.perform (.checkDerived base pointer size place.site)).2)
  | .checkDerivedAccess base pointer size length place =>
    (none, (p.perform (.checkDerivedAccess base pointer size length place.site)).2)
  | .checkCall target targets provenance =>
    (none, (p.perform (.checkCallTarget target targets provenance none)).2)
  | .checkString pool a function =>
    let name := (textOf function).getD "unknown"
    (none, p.performIn pool fun id => .checkString p.memory id a name none)
  | .shadow a size => p.shadow a size
  | .unshadow a => (none, p.unshadow a)
  | .allocated pool callee args returned =>
    match textOf callee with
    | none => (none, (p.resolve pool).2)
    | some callee =>
      (none, p.performIn pool fun id =>
        .allocated id ⟨callee, args, returned⟩ p.memory.stringLength? none)
  | .deallocated pool callee args =>
    match textOf callee with
    | none => (none, (p.resolve pool).2)
    | some callee => (none, p.performIn pool fun id => .deallocated id ⟨callee, args, 0⟩ none)

/-- Carries out a call. Gives the pointer that it returns, if it returns one. A program that was
aborted does nothing any more. -/
def call (p : Program) (e : EntryPoint) : Option Address × Program :=
  if p.aborted then (none, p) else p.carryOut e

/-- Carries out calls one after another. -/
def callAll (p : Program) : List EntryPoint → Program
  | [] => p
  | e :: rest => callAll (p.call e).2 rest

end MemorySentry.Program
