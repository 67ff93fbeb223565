import MemorySentry.Monitor.Basic

/-!
# Following allocations and frees

What the program allocates and frees is registered in its pools and taken out of them. Operations on
a pool that does not exist do nothing.
-/

namespace MemorySentry.Monitor

/-- Registers bytes as a live object of a pool. -/
def register (m : Monitor) (id : PoolId) (a : Address) (size : ByteCount) (kind : ObjectKind)
    (site : Option Site) : Option Registration × Monitor :=
  match m.pool? id with
  | none => (none, m)
  | some p =>
    match p.registerBytes m.numbers a size kind site with
    | (none, p, numbers) => (none, { m.setPool id p with numbers })
    | (some r, p, numbers) => (some r, { m.setPool id p with numbers }.countRegistration)

/-- Registers bytes that the program received from outside. -/
def registerExternal (m : Monitor) (a : Address) (size : ByteCount) (site : Option Site) :
    Option Registration × Monitor :=
  match m.external.registerBytes m.numbers a size .external site with
  | (none, external, numbers) => (none, { m with external, numbers })
  | (some r, external, numbers) => (some r, { m with external, numbers }.countRegistration)

/-- Frees the object of a pool that is based at an address. -/
def free (m : Monitor) (id : PoolId) (a : Address) (site : Option Site) :
    Except Violation (Option Object) × Monitor :=
  match m.pool? id with
  | none => (.ok none, m)
  | some p =>
    let (r, p, numbers) := p.free m.numbers a site
    match { m.setPool id p with numbers }.reported r site with
    | (.ok (some o), m) => (.ok (some o), m.countUnregistration)
    | (r, m) => (r, m)

/-- Drops the object of a pool that is based at an address at the end of its scope. -/
def endScope (m : Monitor) (id : PoolId) (a : Address) : Option Object × Monitor :=
  match m.pool? id with
  | none => (none, m)
  | some p =>
    match p.endScope a with
    | (none, p) => (none, m.setPool id p)
    | (some o, p) => (some o, (m.setPool id p).countUnregistration)

/-- Moves an object of a pool after a reallocation. -/
def move (m : Monitor) (id : PoolId) (new old : Address) (size : ByteCount) (kind : ObjectKind)
    (site : Option Site) : Except Violation (Option Registration) × Monitor :=
  match m.pool? id with
  | none => (.ok none, m)
  | some p =>
    let (r, p, numbers) := p.move m.numbers new old size kind site
    match { m.setPool id p with numbers }.reported r site with
    | (.ok (some r), m) => (.ok (some r), m.countRegistration)
    | (r, m) => (r, m)

/-- Registers what a call allocated, if it is known as an allocation and its size is. A call that
resizes an object moves it. -/
def allocated (m : Monitor) (id : PoolId) (c : Call) (measure : Address → Option ByteCount)
    (site : Option Site) : Except Violation (Option Registration) × Monitor :=
  match m.allocators.allocating? c with
  | none => (.ok none, m)
  | some (f, kind) =>
    match f.size? c measure with
    | none => (.ok none, m)
    | some size =>
      match f.resized? c with
      | some old => m.move id c.returned old size kind site
      | none =>
        let (r, m) := m.register id c.returned size kind site
        (.ok r, m)

/-- Frees what a call frees, if it is known as a free. -/
def deallocated (m : Monitor) (id : PoolId) (c : Call) (site : Option Site) :
    Except Violation (Option Object) × Monitor :=
  match (m.allocators.freeing? c).bind fun f => f.freed? c with
  | none => (.ok none, m)
  | some a => m.free id a site

end MemorySentry.Monitor
