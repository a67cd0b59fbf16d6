import DependencyAtlas.Files.Path
import DependencyAtlas.Text.Quoted

/-!
A store of files: folders and texts under absolute locations. The top folder is always there, and a
location is written from it downwards.
-/

namespace DependencyAtlas.Files

inductive Item where
  | folder
  | file (text : String)
  deriving Repr, DecidableEq

abbrev Location := List String

structure Disk where
  items : List (Location × Item)
  here : Location

inductive Cause where
  | notFound
  | taken
  | notFolder
  | isFolder
  deriving Repr, DecidableEq

structure Fault where
  cause : Cause
  path : Option String
  deriving Repr, DecidableEq

def Cause.number : Cause → Nat
  | notFound => 2
  | taken => 17
  | notFolder => 20
  | isFolder => 21

def Cause.text : Cause → String
  | notFound => "No such file or directory"
  | taken => "File exists"
  | notFolder => "Not a directory"
  | isFolder => "Is a directory"

def Fault.message (f : Fault) : String :=
  "[Errno " ++ toString f.cause.number ++ "] " ++ f.cause.text ++
    (match f.path with
      | some path => ": " ++ Text.quoted path
      | none => "")

namespace Disk

def at? (d : Disk) (l : Location) : Option Item :=
  if l = [] then some .folder else d.items.lookup l

def follow (d : Disk) (l : Location) (name : String) : Except Cause Location :=
  match d.at? l with
  | none => .error .notFound
  | some (.file _) => .error .notFolder
  | some .folder => .ok (if name = ".." then l.dropLast else l ++ [name])

def locate (d : Disk) (p : Path) : Except Cause Location :=
  p.parts.foldlM d.follow (if p.isAbsolute then [] else d.here)

def find? (d : Disk) (p : Path) : Option Item :=
  match d.locate p with
  | .ok l => d.at? l
  | .error _ => none

def exists? (d : Disk) (p : Path) : Bool :=
  (d.find? p).isSome

def isFolder (d : Disk) (p : Path) : Bool :=
  d.find? p == some .folder

def isFile (d : Disk) (p : Path) : Bool :=
  match d.find? p with
  | some (.file _) => true
  | _ => false

def put (d : Disk) (l : Location) (item : Item) : Disk :=
  if (d.items.lookup l).isSome then
    { d with items := d.items.map fun entry => if entry.1 = l then (l, item) else entry }
  else { d with items := d.items ++ [(l, item)] }

def drop (d : Disk) (l : Location) : Disk :=
  { d with items := d.items.filter fun entry => !l.isPrefixOf entry.1 }

def faultAt (p : Path) (cause : Cause) : Fault :=
  ⟨cause, some p.text⟩

def place (d : Disk) (p : Path) : Except Fault Location :=
  match d.locate p with
  | .error cause => .error (faultAt p cause)
  | .ok l =>
    match d.at? l.dropLast with
    | none => .error (faultAt p .notFound)
    | some (.file _) => .error (faultAt p .notFolder)
    | some .folder => .ok l

def makeFolder (d : Disk) (p : Path) : Except Fault Disk := do
  let l ← d.place p
  match d.at? l with
  | some _ => .error (faultAt p .taken)
  | none => .ok (d.put l .folder)

/-- Makes a folder and the folders above it, unless it is there. The argument bounds how many folders
above it may be missing. -/
def makeFoldersFrom : Nat → Disk → Path → Except Fault Disk
  | levels, d, p =>
    match d.makeFolder p with
    | .ok d => .ok d
    | .error fault =>
      match fault.cause, levels with
      | .notFound, levels + 1 =>
        if p.parts.isEmpty then .error fault
        else do
          let d ← makeFoldersFrom levels d p.parent
          match d.makeFolder p with
          | .ok d => .ok d
          | .error fault => if d.isFolder p then .ok d else .error fault
      | _, _ => if d.isFolder p then .ok d else .error fault

def makeFolders (d : Disk) (p : Path) : Except Fault Disk :=
  makeFoldersFrom p.parts.length d p

def write (d : Disk) (p : Path) (text : String) : Except Fault Disk := do
  let l ← d.place p
  match d.at? l with
  | some .folder => .error (faultAt p .isFolder)
  | _ => .ok (d.put l (.file text))

def read (d : Disk) (p : Path) : Except Fault String :=
  match d.locate p with
  | .error cause => .error (faultAt p cause)
  | .ok l =>
    match d.at? l with
    | none => .error (faultAt p .notFound)
    | some .folder => .error (faultAt p .isFolder)
    | some (.file text) => .ok text

def unlink (d : Disk) (p : Path) : Except Fault Disk :=
  match d.locate p with
  | .error .notFound => .ok d
  | .error cause => .error (faultAt p cause)
  | .ok l =>
    match d.at? l with
    | none => .ok d
    | some .folder => .error (faultAt p .isFolder)
    | some (.file _) => .ok (d.drop l)

def remove (d : Disk) (p : Path) : Disk :=
  match d.locate p with
  | .error _ => d
  | .ok l => d.drop l

def absolute (d : Disk) (p : Path) : Path :=
  match d.locate p with
  | .ok l => ⟨"/", l⟩
  | .error _ => if p.isAbsolute then p else ⟨"/", d.here ++ p.parts⟩

def isEmptyFolder (d : Disk) (entry : Location × Item) : Bool :=
  entry.2 == .folder && !d.items.any fun other => other.1 != entry.1 && entry.1.isPrefixOf other.1

def listing (d : Disk) : List String :=
  let below := d.items.filter fun entry => d.here.isPrefixOf entry.1 && entry.1 != d.here
  let names := below.filterMap fun entry =>
    let name := "/".intercalate (entry.1.drop d.here.length)
    match entry.2 with
    | .file _ => some name
    | .folder => if d.isEmptyFolder entry then some (name ++ "/") else none
  names.mergeSort fun a b => !(b < a)

def empty (here : Location) : Disk where
  items := (List.range here.length).map fun n => (here.take (n + 1), .folder)
  here := here

end Disk

end DependencyAtlas.Files
