import DependencyAtlas.Settings.Basic

/-!
The shared connection to the server. It is opened anew when it was closed or when the settings that it
was opened with have changed, and the old one is closed first.
-/

namespace DependencyAtlas.Scan

structure Connection where
  verify : Value
  timeout : Value
  closed : Bool

def Connection.serves (c : Connection) (verify timeout : Value) : Bool :=
  !c.closed && c.verify == verify && c.timeout == timeout

structure Pool where
  connections : List Connection
  held : Option Nat

namespace Pool

def empty : Pool :=
  ⟨[], none⟩

def connection? (p : Pool) (i : Nat) : Option Connection :=
  p.connections[i]?

def close (i : Nat) (p : Pool) : Pool :=
  { p with connections := p.connections.modify i fun c => { c with closed := true } }

def closeHeld (p : Pool) : Pool :=
  match p.held with
  | some i => p.close i
  | none => p

def shut (p : Pool) : Pool :=
  { p.closeHeld with held := none }

def serving? (p : Pool) (verify timeout : Value) : Option Nat :=
  p.held.filter fun i => (p.connection? i).any (·.serves verify timeout)

def openNew (verify timeout : Value) (p : Pool) : Pool where
  connections := p.connections ++ [⟨verify, timeout, false⟩]
  held := some p.connections.length

/-- A connection that serves under the given settings. A new one is opened if need be, unless
`refusal` says why none can be opened. -/
def acquire (refusal : Option Failure) (verify timeout : Value) : Act Pool Nat := do
  match (← get).serving? verify timeout with
  | some i => return i
  | none =>
    modify closeHeld
    match refusal with
    | some failure => throw failure
    | none =>
      let i := (← get).connections.length
      modify (openNew verify timeout)
      return i

def refusal? (disk : Files.Disk) (verify : Value) : Option Failure :=
  match verify with
  | .str path =>
    if path = "" || disk.exists? (.ofText path) then none else some (.file ⟨.notFound, none⟩)
  | _ => none

end Pool

end DependencyAtlas.Scan
