import DependencyAtlas.Session.Viewer

namespace DependencyAtlas.Session

open Files

def imageName : String :=
  "dependency-graph.png"

def pageName : String :=
  "dependency-graph.html"

def elementsName : String :=
  "dependency-graph.json"

def target (name : String) : Act World Path := do
  let dir ← getOutputDir
  match ← (edit fun disk => disk.makeFolders dir).ending with
  | .ok () => return dir.child name
  | .error failure =>
    throw (.complaint (.exporting ("Could not create " ++ dir.text ++ ": " ++ failure.text)))

def exporting (name : String) (stops : Failure → Bool) (act : Act World Unit) : Act World Unit := do
  match ← act.ending with
  | .ok () => return
  | .error failure =>
    throw (if stops failure then
      .complaint (.exporting ("Could not export " ++ name ++ ": " ++ failure.text)) else failure)

def writeImage (path : Path) : Act World Unit := do
  match (← get).image with
  | .fails failure => throw failure
  | .writes text => writeFile path text

namespace Viewer

def exportImage : Act Viewer (Option Path) := do
  match ← Act.ofExcept (← get).studio.renderer.snapshot with
  | none => return none
  | some _ => inWorld do
    let path ← target imageName
    exporting path.name Failure.stopsExport (writeImage path)
    return some path

def exportPage : Act Viewer (Option Path) := do
  match ← Act.ofExcept (← get).studio.renderer.snapshot with
  | none => return none
  | some figure => inWorld do
    let path ← target pageName
    exporting path.name Failure.stopsDrawing (writeSheet .exported path figure)
    return some path

def exportElements : Act Viewer (Option Path) := do
  match ← Act.ofExcept (← get).studio.renderer.document with
  | none => return none
  | some document => inWorld do
    let path ← target elementsName
    exporting path.name Failure.isSystem
      (writeFile path (Json.indented document))
    return some path

end Viewer

end DependencyAtlas.Session
