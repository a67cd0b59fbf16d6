import DependencyAtlas.Failure
import DependencyAtlas.Toml.Reader

namespace DependencyAtlas

structure Surroundings where
  environment : List (String × String)
  disk : Files.Disk

namespace Surroundings

open Files

def localFile : String :=
  ".depgraph-viewer.toml"

def projectFile : String :=
  "pyproject.toml"

def tableName : String :=
  "depgraph-viewer"

def variableText? (s : Surroundings) (name : String) : Option String :=
  (s.environment.lookup name).filter (· != "")

def home (s : Surroundings) : Option String :=
  s.environment.lookup "HOME"

def expand (s : Surroundings) (p : Path) : Except Failure Path :=
  match p.expandHome? s.home with
  | some p => .ok p
  | none => .error .noHome

def here (s : Surroundings) : Path :=
  ⟨"/", s.disk.here⟩

def fileContents (s : Surroundings) (p : Path) : Except Failure Fields :=
  if !s.disk.exists? p then .ok []
  else
    match s.disk.read p with
    | .error fault => .error (.settings p.text fault.message)
    | .ok text =>
      match Toml.parse text with
      | .ok fields => .ok fields
      | .error fault => .error (.settings p.text fault.message)

def tableIn (contents : Fields) : Except Failure Value :=
  match (contents.get? "tool").getD (.object []) with
  | .object tools => .ok ((Fields.get? tools tableName).getD (.object []))
  | v => .error (.misuse (.noMember v.kind "get"))

def tableInFiles (s : Surroundings) : List String → Except Failure Value
  | [] => .ok (.object [])
  | name :: rest => do
    let table ← tableIn (← s.fileContents (.ofText name))
    if table.truthy then return table else s.tableInFiles rest

def table (s : Surroundings) : Except Failure Value :=
  s.tableInFiles [localFile, projectFile]

def occursIn (part : List Char) : List Char → Bool
  | [] => part.isEmpty
  | c :: cs => part.isPrefixOf (c :: cs) || occursIn part cs

/-- A setting in a table. What is no table is searched for the name, but holds nothing under it. -/
def settingIn? (table : Value) (name : String) : Except Failure (Option Value) :=
  match table with
  | .object fields => .ok (Fields.get? fields name)
  | .list items =>
    if items.any (Value.same · (.str name)) then .error (.misuse (.noFields .list)) else .ok none
  | .str s =>
    if occursIn name.toList s.toList then .error (.misuse (.noFields .str)) else .ok none
  | v => .error (.misuse (.notContainer v.kind))

def setting? (s : Surroundings) (name : String) : Except Failure (Option Value) := do
  settingIn? (← s.table) name

end Surroundings

end DependencyAtlas
