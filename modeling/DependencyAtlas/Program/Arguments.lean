import DependencyAtlas.Session.Opening

namespace DependencyAtlas.Program

open Files Session

structure FollowUps where
  relayout : Bool := false
  image : Bool := false
  page : Bool := false
  elements : Bool := false

inductive Invocation where
  | version
  | scan (path : String) (flags : Flags) (followUps : FollowUps) (opens : Bool)
  | view (flags : Flags) (opens : Bool)

inductive Setting where
  | server
  | outputDir
  | timeout
  | certificates
  deriving Repr, DecidableEq

inductive Switch where
  | verbose
  | insecure
  | opens
  | noOpen
  | relayout
  | image
  | page
  | elements
  deriving Repr, DecidableEq

inductive Choice where
  | setting (s : Setting)
  | switch (s : Switch)
  deriving Repr, DecidableEq

abbrev Names := List (String × Choice)

def sharedNames : Names := [
  ("--server", .setting .server), ("-s", .setting .server),
  ("--output-dir", .setting .outputDir), ("-o", .setting .outputDir),
  ("--timeout", .setting .timeout),
  ("--verbose", .switch .verbose), ("-v", .switch .verbose),
  ("--insecure", .switch .insecure),
  ("--ca-cert", .setting .certificates),
  ("--open", .switch .opens)]

def scanNames : Names :=
  sharedNames ++ [
    ("--relayout", .switch .relayout),
    ("--export", .switch .image), ("-e", .switch .image),
    ("--html", .switch .page),
    ("--json", .switch .elements)]

def viewNames : Names :=
  sharedNames ++ [("--no-open", .switch .noOpen)]

structure Parsed where
  settings : List (Setting × String)
  switches : List Switch
  others : List String

namespace Parsed

def empty : Parsed :=
  ⟨[], [], []⟩

def addSetting (s : Setting) (value : String) (p : Parsed) : Parsed :=
  { p with settings := (s, value) :: p.settings }

def addSwitch (s : Switch) (p : Parsed) : Parsed :=
  { p with switches := s :: p.switches }

def addOthers (others : List String) (p : Parsed) : Parsed :=
  { p with others := others ++ p.others }

def value? (p : Parsed) (s : Setting) : Option String :=
  (p.settings.reverse.find? fun entry => entry.1 == s).map Prod.snd

def has (p : Parsed) (s : Switch) : Bool :=
  p.switches.contains s

end Parsed

def together (names : Names) : List Char → Option (List Switch × Option (Setting × Option String))
  | [] => some ([], none)
  | c :: cs =>
    match names.lookup (String.ofList ['-', c]) with
    | none => none
    | some (.setting s) =>
      some ([], some (s, if cs.isEmpty then none else some (String.ofList cs)))
    | some (.switch s) => (together names cs).map fun (switches, last) => (s :: switches, last)

def parse (names : Names) : List String → Option Parsed
  | [] => some .empty
  | arg :: rest =>
    let cs := arg.toList
    if arg = "--" then some (Parsed.empty.addOthers rest)
    else if cs.head? != some '-' || cs.length = 1 then
      (parse names rest).map (Parsed.addOthers [arg])
    else
      let name := String.ofList (cs.takeWhile (· != '='))
      let explicit :=
        match cs.dropWhile (· != '=') with
        | '=' :: value => some (String.ofList value)
        | _ => none
      let long := if cs.take 2 = ['-', '-'] then names.lookup name else none
      match long, explicit, rest with
      | some (.setting s), some value, rest => (parse names rest).map (Parsed.addSetting s value)
      | some (.setting s), none, value :: rest => (parse names rest).map (Parsed.addSetting s value)
      | some (.setting _), none, [] => none
      | some (.switch s), none, rest => (parse names rest).map (Parsed.addSwitch s)
      | some (.switch _), some _, _ => none
      | none, _, rest =>
        if cs.take 2 = ['-', '-'] then none
        else
          match together names (cs.drop 1), rest with
          | none, _ => none
          | some (switches, none), rest =>
            (parse names rest).map fun p => switches.foldr Parsed.addSwitch p
          | some (switches, some (s, some value)), rest =>
            (parse names rest).map fun p => switches.foldr Parsed.addSwitch (p.addSetting s value)
          | some (switches, some (s, none)), value :: rest =>
            (parse names rest).map fun p => switches.foldr Parsed.addSwitch (p.addSetting s value)
          | some (_, some (_, none)), [] => none

def textOr (value : Option String) : Value :=
  (value.map Value.str).getD .null

def flagsOf (p : Parsed) : Option Flags := do
  let timeout ←
    match p.value? .timeout with
    | some text => (Decimal.read? text).map Value.float
    | none => some Value.null
  return {
    server := textOr (p.value? .server)
    timeout := timeout
    outputDir := textOr (p.value? .outputDir)
    verbose := if p.has .verbose then .bool true else .null
    insecure := p.has .insecure
    certificates := (p.value? .certificates).map Path.ofText }

def scanOf (p : Parsed) : Option Invocation := do
  let flags ← flagsOf p
  match p.others with
  | [path] =>
    return .scan path flags
      ⟨p.has .relayout, p.has .image, p.has .page, p.has .elements⟩ (p.has .opens)
  | _ => none

def opensPage (p : Parsed) : Bool :=
  ((p.switches.filter fun s => s == .opens || s == .noOpen).getLast?.getD .opens) == .opens

def viewOf (p : Parsed) : Option Invocation := do
  let flags ← flagsOf p
  if p.others.isEmpty then some (.view flags (opensPage p)) else none

def versionOf (p : Parsed) : Option Invocation :=
  if p.others.isEmpty then some .version else none

def invocation : List String → Option Invocation
  | "--" :: name :: rest => command name rest
  | name :: rest => command name rest
  | [] => none
where
  command (name : String) (rest : List String) : Option Invocation :=
    match name with
    | "scan" => (parse scanNames rest).bind scanOf
    | "view" => (parse viewNames rest).bind viewOf
    | "version" => (parse [] rest).bind versionOf
    | _ => none

end DependencyAtlas.Program
