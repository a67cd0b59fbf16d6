import DependencyAtlas.Drawing.Document
import DependencyAtlas.Json.Writer
import DependencyAtlas.Scan.Exchange
import DependencyAtlas.Scan.Pool
import DependencyAtlas.Stage.Renderer

namespace DependencyAtlas.Session

open Files Scan

inductive ImageWriter where
  | writes (text : String)
  | fails (f : Failure)

inductive Sheet where
  | live
  | exported

structure Page where
  path : Path
  opens : Bool
  opened : Bool

structure World where
  settings : Settings
  environment : List (String × String)
  disk : Disk
  page : Page
  pool : Pool
  /-- Why no connection can be opened, if none can. -/
  refusal : Option Failure
  /-- What the server answers, in turn; the last reply is given again. -/
  replies : List Reply
  /-- What figures are written as on a page. -/
  html : Sheet → Drawing.Figure Float → String
  image : ImageWriter
  /-- What goes wrong with the next files to be written, in turn; after that nothing does. -/
  mishaps : List (Option Failure)
  printed : List String
  requests : List Sent
  opened : List String
  attempts : List (Drawing.Figure Float)

namespace World

def around (w : World) : Surroundings :=
  ⟨w.environment, w.disk⟩

end World

def getOutputDir : Act World Path := do
  let w ← get
  Act.ofExcept (w.settings.getOutputDir w.around)

def isVerbose : Act World Bool := do
  let w ← get
  Act.ofExcept (w.settings.isVerbose w.around)

def write (markup : String) (ending : String) : Act World Unit := do
  match Console.Markup.render markup with
  | .ok text => modify fun w => { w with printed := w.printed ++ [text ++ ending] }
  | .error fault => throw (.markup fault)

def print (markup : String) : Act World Unit :=
  write markup "\n"

def tell (markup : String) : Act World Unit := do
  if ← isVerbose then print markup

def edit (alter : Disk → Except Fault Disk) : Act World Unit := do
  match alter (← get).disk with
  | .ok disk => modify fun w => { w with disk }
  | .error fault => throw (.file fault)

def nextMishap : Act World Unit := do
  match (← get).mishaps with
  | [] => return
  | mishap :: rest =>
    modify fun w => { w with mishaps := rest }
    match mishap with
    | some failure => throw failure
    | none => return

def writeFile (path : Path) (text : String) : Act World Unit := do
  nextMishap
  edit fun disk => disk.write path text

def nextReply : Act World Reply := do
  match (← get).replies with
  | [] => return .answer ⟨200, none, []⟩
  | [reply] => return reply
  | reply :: rest =>
    modify fun w => { w with replies := rest }
    return reply

def writeSheet (sheet : Sheet) (path : Path) (figure : Drawing.Figure Float) : Act World Unit := do
  writeFile path ((← get).html sheet figure)

def openPage : Act World Unit := do
  let page := (← get).page
  if page.opens && !page.opened then
    modify fun w => { w with
      opened := w.opened ++ [(w.disk.absolute page.path).uri]
      page := { page with opened := true } }

def canvas : Stage.Canvas World Unit where
  draw figure := do
    modify fun w => { w with attempts := w.attempts ++ [figure] }
    let path := (← get).page.path
    edit fun disk => disk.makeFolders path.parent
    writeSheet .live path figure
    openPage
  clear := do
    let path := (← get).page.path
    edit fun disk => disk.unlink path
  notify _ id := print ("Clicked " ++ Console.Markup.escape id)

end DependencyAtlas.Session
