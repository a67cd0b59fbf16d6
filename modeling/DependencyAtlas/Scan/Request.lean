import DependencyAtlas.Failure

namespace DependencyAtlas.Scan

structure Request where
  path : String
  deriving Repr, DecidableEq

namespace Request

def ofText? (s : String) : Option Request :=
  let path := Text.trimmed s
  if path = "" then none else some ⟨path⟩

def ofValue (v : Value) : Except Failure Request :=
  match v with
  | .str s =>
    match ofText? s with
    | some request => .ok request
    | none => .error (.complaint .emptyPath)
  | v =>
    if v.truthy then .error (.misuse (.noMember v.kind "strip"))
    else .error (.complaint .emptyPath)

def document (r : Request) : Value :=
  .object [("path", .str r.path)]

end Request

end DependencyAtlas.Scan
