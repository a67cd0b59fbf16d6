import DependencyAtlas.Proofs.Session.Reached
import DependencyAtlas.Proofs.Session.Reading
import DependencyAtlas.Proofs.Stage.Taps

namespace DependencyAtlas.Session

open Scan Stage Drawing
open Act (Keeps Maintains)

theorem exportOf_keeps_renderer {α : Type} (content : Renderer Unit → Except Failure (Option α))
    (out : α → Act World (Option Files.Path)) :
    Keeps (fun v : Viewer => v.studio.renderer) (Viewer.exportOf content out) := by
  apply Keeps.bind Keeps.get
  intro v
  apply Keeps.bind (Keeps.ofExcept _)
  intro a?
  split
  · exact Keeps.pure _
  · exact Keeps.within_other fun _ _ => rfl

theorem built_stays : Viewer.Stays fun v => v.studio.renderer.Built where
  scenery v w h hbuilt := by
    rw [(Viewer.parts_of_scenery h).renderer]
    exact hbuilt
  release v _ := Studio.built_of_hidden (congrArg Renderer.live (Studio.release_renderer v.studio))
  render g _ v _ := Studio.render_built g v.studio
  relayout v h := Studio.relayout_built h
  tap id v h := Studio.tap_built h id
  exportImage := by
    rw [Viewer.exportImage_eq]
    exact .of_keeps (exportOf_keeps_renderer _ _)
  exportPage := by
    rw [Viewer.exportPage_eq]
    exact .of_keeps (exportOf_keeps_renderer _ _)
  exportElements := by
    rw [Viewer.exportElements_eq]
    exact .of_keeps (exportOf_keeps_renderer _ _)

theorem Viewer.Reached.built {v : Viewer} (h : v.Reached) : v.studio.renderer.Built := by
  induction h with
  | opened h => exact Studio.built_of_hidden (openViewer_fresh h).2.1
  | begun _ command argument ih => exact built_stays.start command argument _ ih
  | ended _ waiting reply ih => exact built_stays.resume waiting reply _ ih
  | outside _ w ih => exact ih

theorem tap_selects {s : Studio World Unit} {live : Live} (hlive : s.renderer.live = some live)
    (hjoined : live.visualization.graph.Joined) (hcomplete : live.visualization.Complete) {id : String}
    {kind : Graph.Element} (hkind : live.visualization.graph.element? id = some kind) :
    ∃ figure, (Studio.tap canvas id s).1 =
        ((canvas.draw figure s.outside).1.map fun _ => some kind).mapError Studio.drawFailure ∧
      (Studio.tap canvas id s).2.renderer.selected = some id ∧
      (Studio.tap canvas id s).2.renderer.elements = some live.visualization.graph := by
  obtain ⟨figure, hfigure⟩ : ∃ figure,
      { live.visualization with selected := some id }.figure floatGauge {} = .ok figure :=
    Visualization.figure_of_selected hjoined hcomplete id
  refine ⟨figure, ?_⟩
  rw [Studio.tap_eq_redraw hlive hkind, Studio.redraw_apply, hfigure]
  dsimp only
  rcases canvas.draw figure s.outside with ⟨cause | _, outside⟩
  · exact ⟨rfl, rfl, rfl⟩
  · dsimp only
    rw [Studio.tell_apply]
    obtain ⟨printed, htold⟩ := notifyAll_apply id (if kind = .node then s.renderer.handlers else [])
      { s.changed live { live.visualization with selected := some id } with outside }
    have hhandlers : ({ s.changed live { live.visualization with selected := some id } with outside } :
        Studio World Unit).renderer.handlers = s.renderer.handlers := rfl
    rw [hhandlers, Act.bind_apply_ok htold]
    exact ⟨rfl, rfl, rfl⟩

theorem dispatch_select_apply (id : String) (v : Viewer) :
    Viewer.dispatch .select id v =
      ((Studio.tap canvas id v.studio).1.map Outcome.ofElement,
        { v with studio := (Studio.tap canvas id v.studio).2 }) := by
  rw [Viewer.dispatch_select, Act.bind_apply, Viewer.inStudio, Act.within_apply]
  rcases Studio.tap canvas id v.studio with ⟨failure | kind, t⟩ <;> rfl

theorem select_unknown {v : Viewer} {g : Graph} (hshown : v.studio.renderer.elements = some g) {id : String}
    (hid : id ∉ g.nodeIds ∧ id ∉ g.edgeIds) : Viewer.dispatch .select id v = (.ok .none, v) := by
  obtain ⟨live, hlive, rfl⟩ := Option.map_eq_some_iff.mp hshown
  rw [dispatch_select_apply, Studio.tap_of_unknown hlive (Graph.element?_eq_none_iff.mpr hid)]
  rfl

theorem ofLine_select (text : String) :
    Command.ofLine (":select " ++ text) = .ok (.select, Text.trimmed text) := by
  have hspace : ":select " ++ text = ":select" ++ Command.spaces 1 ++ text := rfl
  rw [hspace]
  have hentry : ((":select", .select) : String × Command) ∈ Command.shortcuts := by decide
  exact Command.ofLine_shortcut hentry le_rfl text

theorem sayable_iff {id : String} :
    (∃ line, Command.ofLine line = .ok (.select, id)) ↔ Text.trimmed id = id := by
  constructor
  · rintro ⟨line, hline⟩
    exact ((Command.reads_line line).read _ _ hline).2.2
  · intro hsolid
    exact ⟨":select " ++ id, by rw [ofLine_select, hsolid]⟩

/-- The element with an id can be selected: by a line, unless there are blanks around the id. The page is drawn with
it, and where that fails it is selected all the same. -/
structure Selects (v : Viewer) (g : Graph) (id : String) : Prop where
  sayable : (∃ line, Command.ofLine line = .ok (.select, id)) ↔ Text.trimmed id = id
  said : Text.trimmed id = id → Command.ofLine (":select " ++ id) = .ok (.select, id)
  answers : ∃ kind figure, g.HasElement id kind ∧ (Viewer.dispatch .select id v).1 =
    ((canvas.draw figure v.world).1.map fun _ => Outcome.element kind).mapError Studio.drawFailure
  selected : (Viewer.dispatch .select id v).2.studio.renderer.selected = some id
  shown : (Viewer.dispatch .select id v).2.studio.renderer.elements = some g

theorem selected_by_line {v : Viewer} (hreached : v.Reached) {document : Value} {g : Graph}
    (hread : Graph.ofDocument document = .ok g) (hshown : v.studio.renderer.elements = some g) {id : String}
    (hid : id ∈ g.nodeIds ++ g.edgeIds) : Selects v g id := by
  obtain ⟨live, hlive, rfl⟩ := Option.map_eq_some_iff.mp hshown
  have hjoined := Graph.ofDocument_joined hread
  have hcomplete := (hreached.built live hlive).complete hjoined
  obtain ⟨kind, hkind⟩ := Option.isSome_iff_exists.mp (Graph.element?_isSome hid)
  obtain ⟨figure, hresult, hselected, helements⟩ := tap_selects hlive hjoined hcomplete hkind
  have hdispatch := dispatch_select_apply id v
  refine ⟨sayable_iff, fun hsolid => by rw [ofLine_select, hsolid], ⟨kind, figure, ?_, ?_⟩, ?_, ?_⟩
  · exact Graph.element?_eq_some_iff.mp hkind
  · rw [hdispatch, hresult]
    have houtside : v.world = v.studio.outside := rfl
    rw [houtside]
    rcases (canvas.draw figure v.studio.outside).1 with failure | _ <;> rfl
  · rw [hdispatch]
    exact hselected
  · rw [hdispatch]
    exact helements

def spacedGraph : Graph :=
  ⟨[⟨"a ", "A"⟩], [⟨"e", "a ", "a ", "", none⟩]⟩

def spacedWorld : World :=
  { bareWorld with
    settings := { bareWorld.settings with
      server := some "http://localhost:8080"
      timeout := some (.int 30)
      outputDir := some ⟨"", []⟩ }
    replies := [.answer {
      status := 200
      contentType := none
      body := (Json.compact spacedGraph.toDocument).toList.map fun c => UInt8.ofNat c.toNat }] }

def spacedOpened : Viewer :=
  newViewer.setWorld { spacedWorld with page := ⟨⟨"", [livePageName]⟩, false, false⟩ }

def spacedShown : Viewer :=
  (Viewer.dispatch .submit "/a" spacedOpened).2

theorem spacedShown_reached : spacedShown.Reached :=
  (Viewer.Reached.opened (show openViewer {} false spacedWorld = (.ok spacedOpened, _) from rfl)).dispatched _ _

theorem spacedShown_elements : spacedShown.studio.renderer.elements = some spacedGraph := by
  have hparts : (spacedShown.studio.renderer.elements.map fun g =>
      (g.nodes, g.edges.map fun e => ([e.id, e.source, e.target, e.label], e.extra.isNone))) =
      some ([⟨"a ", "A"⟩], [(["e", "a ", "a ", ""], true)]) := by
    decide +kernel
  obtain ⟨⟨nodes, edges⟩, helements, hparts⟩ := Option.map_eq_some_iff.mp hparts
  obtain ⟨rfl, hedges⟩ := Prod.mk.inj hparts
  obtain ⟨⟨id, source, target, label, extra⟩, rfl, hedge⟩ := List.map_eq_singleton_iff.mp hedges
  simp only [Prod.mk.injEq, List.cons.injEq, Option.isNone_iff_eq_none] at hedge
  obtain ⟨⟨rfl, rfl, rfl, rfl, -⟩, rfl⟩ := hedge
  exact helements

theorem selected_by_line_edge :
    spacedShown.Reached ∧ Graph.ofDocument spacedGraph.toDocument = .ok spacedGraph ∧
      spacedShown.studio.renderer.elements = some spacedGraph ∧
      "e" ∈ spacedGraph.nodeIds ++ spacedGraph.edgeIds ∧ Selects spacedShown spacedGraph "e" := by
  have hread : Graph.ofDocument spacedGraph.toDocument = .ok spacedGraph := rfl
  have hid : "e" ∈ spacedGraph.nodeIds ++ spacedGraph.edgeIds := by decide
  exact ⟨spacedShown_reached, hread, spacedShown_elements, hid,
    selected_by_line spacedShown_reached hread spacedShown_elements hid⟩

/-- A node that no line selects: the blank in its id is taken for one behind it. -/
theorem spaced_not_selected :
    spacedShown.Reached ∧ Graph.ofDocument spacedGraph.toDocument = .ok spacedGraph ∧
      spacedShown.studio.renderer.elements = some spacedGraph ∧ "a " ∈ spacedGraph.nodeIds ∧
      Command.ofLine (":select " ++ "a ") = .ok (.select, "a") ∧
      (∀ kind, (Viewer.dispatch .select "a" spacedShown).1 ≠ .ok (.element kind)) ∧
      (Viewer.dispatch .select "a" spacedShown).2.studio.renderer.selected = none := by
  have hunknown : "a" ∉ spacedGraph.nodeIds ∧ "a" ∉ spacedGraph.edgeIds := by decide
  rw [select_unknown spacedShown_elements hunknown]
  refine ⟨spacedShown_reached, rfl, spacedShown_elements, by decide, by decide, nofun, ?_⟩
  decide +kernel

end DependencyAtlas.Session
