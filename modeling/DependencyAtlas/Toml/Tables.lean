import DependencyAtlas.Toml.Fault
import DependencyAtlas.Value.Basic

namespace DependencyAtlas.Toml

/-- Opens the table at a key, makes missing tables on the way, and changes it. A list of tables stands
for its last one if `lists` is set. There is no result if something else is in the way. -/
def edit? (lists : Bool) (change : Fields → Option Fields) : Key → Fields → Option Fields
  | [], table => change table
  | name :: rest, table =>
    match Fields.get? table name with
    | none => do
      let inner ← edit? lists change rest []
      return table.put name (.object inner)
    | some (.object inner) => do
      let inner ← edit? lists change rest inner
      return table.put name (.object inner)
    | some (.list items) =>
      match lists, items.getLast? with
      | true, some (.object inner) => do
        let inner ← edit? lists change rest inner
        return table.put name (.list (items.dropLast ++ [.object inner]))
      | _, _ => none
    | some _ => none

def appendTable? (name : String) (table : Fields) : Option Fields :=
  match Fields.get? table name with
  | none => some (table.put name (.list [.object []]))
  | some (.list items) => some (table.put name (.list (items ++ [.object []])))
  | some _ => none

structure Marks where
  declared : List Key
  frozen : List Key

namespace Marks

def none : Marks :=
  ⟨[], []⟩

def isDeclared (m : Marks) (key : Key) : Bool :=
  m.declared.contains key

def isFrozen (m : Marks) (key : Key) : Bool :=
  m.frozen.any (·.isPrefixOf key)

def declare (m : Marks) (keys : List Key) : Marks :=
  { m with declared := keys ++ m.declared }

def freeze (m : Marks) (key : Key) : Marks :=
  { m with frozen := key :: m.frozen }

def forget (m : Marks) (key : Key) : Marks where
  declared := m.declared.filter (!key.isPrefixOf ·)
  frozen := m.frozen.filter (!key.isPrefixOf ·)

end Marks

structure Document where
  tables : Fields
  marks : Marks
  header : Key
  pending : List Key

namespace Document

def empty : Document :=
  ⟨[], .none, [], []⟩

def beginTable (d : Document) (key : Key) : Except Cause Document := do
  let marks := d.marks.declare d.pending
  if marks.isDeclared key || marks.isFrozen key then throw (.declaredTwice key)
  match edit? true some key d.tables with
  | some tables => return ⟨tables, marks.declare [key], key, []⟩
  | none => throw .overwrite

def beginItem (d : Document) (key : Key) : Except Cause Document := do
  let marks := d.marks.declare d.pending
  if marks.isFrozen key then throw (.immutable key)
  match edit? true (appendTable? (key.getLast?.getD "")) key.dropLast d.tables with
  | some tables => return ⟨tables, (marks.forget key).declare [key], key, []⟩
  | none => throw .overwrite

def between (header key : Key) : List Key :=
  (List.range (key.length - 1)).map fun n => header ++ key.take (n + 1)

def isContainer : Value → Bool
  | .list _ | .object _ => true
  | _ => false

def addNew? (name : String) (v : Value) (table : Fields) : Option Fields :=
  if (Fields.get? table name).isSome then none else some (table.put name v)

def add (d : Document) (key : Key) (v : Value) : Except Cause Document := do
  let way := between d.header key
  match way.find? d.marks.isDeclared with
  | some key => throw (.redefined key)
  | none =>
    let parent := d.header ++ key.dropLast
    if d.marks.isFrozen parent then throw (.immutable parent)
    match edit? true (addNew? (key.getLast?.getD "") v) parent d.tables with
    | none => throw .overwrite
    | some tables =>
      let marks := if isContainer v then d.marks.freeze (d.header ++ key) else d.marks
      return { d with tables, marks, pending := d.pending ++ way }

end Document

def addInline (table : Fields) (marks : Marks) (key : Key) (v : Value) : Except Cause Fields := do
  let name := key.getLast?.getD ""
  if marks.isFrozen key then throw (.immutable key)
  match edit? false some key.dropLast table with
  | none => throw .overwrite
  | some _ =>
    match edit? false (Document.addNew? name v) key.dropLast table with
    | none => throw (.duplicate name)
    | some table => return table

end DependencyAtlas.Toml
