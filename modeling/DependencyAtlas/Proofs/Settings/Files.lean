import DependencyAtlas.Proofs.Results
import DependencyAtlas.Settings.Basic

namespace DependencyAtlas

namespace Surroundings

variable {s : Surroundings} {name : String}

def fileTable (s : Surroundings) (name : String) : Except Failure Value := do
  tableIn (← s.fileContents (.ofText name))

def HoldsTable (s : Surroundings) (name : String) (table : Fields) : Prop :=
  ∃ v, s.fileTable name = .ok v ∧ (v = .object table ∨ (v.truthy = false ∧ table = []))

theorem tableInFiles_cons {names : List String} {table : Fields} (h : s.HoldsTable name table) :
    s.tableInFiles (name :: names) =
      if table.isEmpty then s.tableInFiles names else .ok (.object table) := by
  obtain ⟨v, hfile, hv⟩ := h
  obtain ⟨contents, hcontents, htable⟩ := bind_eq_ok_iff.mp hfile
  rw [tableInFiles, hcontents, ok_bind, htable, ok_bind]
  rcases hv with rfl | ⟨hfalsy, rfl⟩
  · cases table <;> rfl
  · rw [if_neg (ne_true_of_eq_false hfalsy)]
    rfl

def found? (first second : Fields) (key : String) : Option Value :=
  match first.get? key with
  | some v => some v
  | none => if first.isEmpty then second.get? key else none

theorem get?_table {first second : Fields} (key : String) :
    Fields.get? (([first, second].find? (!·.isEmpty)).getD []) key = found? first second key := by
  cases first with
  | nil => cases second <;> rfl
  | cons field rest =>
    rw [found?]
    cases h : Fields.get? (field :: rest) key <;> exact h

section

variable {first second : Fields} (hfirst : s.HoldsTable localFile first)
  (hsecond : first = [] → s.HoldsTable projectFile second)

include hfirst hsecond

theorem table_eq : s.table = .ok (.object (([first, second].find? (!·.isEmpty)).getD [])) := by
  rw [table, tableInFiles_cons hfirst]
  cases first with
  | nil =>
    rw [List.isEmpty_nil, if_pos rfl, tableInFiles_cons (hsecond rfl)]
    cases second <;> rfl
  | cons field rest => rfl

theorem setting?_eq (key : String) : s.setting? key = .ok (found? first second key) := by
  rw [setting?, table_eq hfirst hsecond, ok_bind, settingIn?, get?_table]

end

theorem exists_table (h : (s.fileTable name).toOption.any (·.kind == .object) = true) :
    ∃ table, s.fileTable name = .ok (.object table) := by
  cases htable : s.fileTable name with
  | error failure =>
    rw [htable] at h
    cases h
  | ok v =>
    rw [htable] at h
    cases v with
    | object table => exact ⟨table, rfl⟩
    | moment m => cases m <;> cases h
    | _ => cases h

end Surroundings

namespace Settings

variable {settings : Settings} {s : Surroundings}

/-- Every setting that is neither set explicitly nor by a variable has the value that `found` gives it,
as it is read, or its default. -/
structure FollowsFiles (settings : Settings) (s : Surroundings) (found : String → Option Value) :
    Prop where
  server : settings.server = none → s.variableText? "DEPGRAPH_VIEWER_SERVER_URL" = none →
    settings.getServer s =
      .ok (((found "server_url").map fun v => Text.withoutEnd '/' v.text).getD defaultServer)
  timeout : settings.timeout = none → s.variableText? "DEPGRAPH_VIEWER_TIMEOUT" = none →
    settings.getTimeout s =
      ((found "timeout").map fun v => (v.readDouble.mapError .misuse).map Value.float).getD
        (.ok (.float defaultTimeout))
  outputDir : settings.outputDir = none → s.variableText? "DEPGRAPH_VIEWER_OUTPUT_DIR" = none →
    settings.getOutputDir s = ((found "output_dir").map (pathOf s)).getD (.ok s.here)
  verbose : settings.verbose = none →
    settings.getVerbose s = .ok (.bool (((found "verbose").map Value.truthy).getD false))

theorem follows_files {first second : Fields} (hfirst : s.HoldsTable Surroundings.localFile first)
    (hsecond : first = [] → s.HoldsTable Surroundings.projectFile second) (settings : Settings) :
    settings.FollowsFiles s (Surroundings.found? first second) := by
  have hsetting := Surroundings.setting?_eq hfirst hsecond
  refine ⟨fun hset hvariable => ?_, fun hset hvariable => ?_, fun hset hvariable => ?_, fun hset => ?_⟩
  · rw [getServer.eq_def, hset, hvariable]
    dsimp only
    rw [hsetting, ok_bind]
    cases Surroundings.found? first second "server_url" <;> rfl
  · rw [getTimeout.eq_def, hset, hvariable]
    dsimp only [Option.bind_none]
    rw [hsetting, ok_bind]
    cases Surroundings.found? first second "timeout" with
    | none => rfl
    | some v =>
      dsimp only [Option.map_some, Option.getD_some]
      cases v.readDouble <;> rfl
  · rw [getOutputDir.eq_def, hset, hvariable]
    dsimp only
    rw [hsetting, ok_bind]
    cases Surroundings.found? first second "output_dir" <;> rfl
  · rw [getVerbose.eq_def, hset]
    dsimp only
    rw [Surroundings.table_eq hfirst hsecond, ok_bind]
    dsimp only
    rw [Surroundings.get?_table]
    cases Surroundings.found? first second "verbose" <;> rfl

def twoFiles : Surroundings where
  environment := []
  disk := ⟨[([".depgraph-viewer.toml"], .file "[tool.depgraph-viewer]\nverbose = true\n"),
    (["pyproject.toml"], .file "[tool.depgraph-viewer]\nserver_url = \"http://a\"\n")], []⟩

theorem twoFiles_tables :
    (∃ first, twoFiles.fileTable Surroundings.localFile = .ok (.object first)) ∧
      ∃ second, twoFiles.fileTable Surroundings.projectFile = .ok (.object second) := by
  constructor
  · apply Surroundings.exists_table
    decide +kernel
  · apply Surroundings.exists_table
    decide +kernel

theorem follows_two_files :
    ∃ first second, twoFiles.HoldsTable Surroundings.localFile first ∧
      twoFiles.HoldsTable Surroundings.projectFile second ∧
      initial.FollowsFiles twoFiles (Surroundings.found? first second) := by
  obtain ⟨⟨first, hfirst⟩, second, hsecond⟩ := twoFiles_tables
  have hlocal : twoFiles.HoldsTable Surroundings.localFile first := ⟨_, hfirst, .inl rfl⟩
  have hproject : twoFiles.HoldsTable Surroundings.projectFile second := ⟨_, hsecond, .inl rfl⟩
  exact ⟨first, second, hlocal, hproject, follows_files hlocal (fun _ => hproject) initial⟩

/-- The local table does not define the server and the project's does, but it does not count. -/
theorem project_server_hidden :
    ∃ first second, twoFiles.fileTable Surroundings.localFile = .ok (.object first) ∧
      twoFiles.fileTable Surroundings.projectFile = .ok (.object second) ∧
      Fields.get? first "server_url" = none ∧
      (Fields.get? second "server_url").map (fun v => Text.withoutEnd '/' v.text) = some "http://a" ∧
      initial.server = none ∧ twoFiles.variableText? "DEPGRAPH_VIEWER_SERVER_URL" = none ∧
      initial.getServer twoFiles ≠ .ok "http://a" := by
  obtain ⟨⟨first, hfirst⟩, second, hsecond⟩ := twoFiles_tables
  have hlocal : ((twoFiles.fileTable Surroundings.localFile).toOption.map fun table =>
      (Surroundings.settingIn? table "server_url").toOption.map Option.isNone) = some (some true) := by
    decide +kernel
  have hproject : ((twoFiles.fileTable Surroundings.projectFile).toOption.map fun table =>
      (Surroundings.settingIn? table "server_url").toOption.map
        (Option.map fun v => Text.withoutEnd '/' v.text)) = some (some (some "http://a")) := by
    decide +kernel
  have hserver : (initial.getServer twoFiles).toOption = some defaultServer := by decide +kernel
  rw [hfirst] at hlocal
  rw [hsecond] at hproject
  refine ⟨first, second, hfirst, hsecond, ?_, ?_, rfl, rfl, ?_⟩
  · exact Option.isNone_iff_eq_none.mp (Option.some.inj (Option.some.inj hlocal))
  · exact Option.some.inj (Option.some.inj hproject)
  · intro h
    rw [h] at hserver
    exact absurd (Option.some.inj hserver) (by decide)

end Settings

end DependencyAtlas
