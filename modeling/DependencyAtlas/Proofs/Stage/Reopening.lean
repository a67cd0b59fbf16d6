import DependencyAtlas.Proofs.Decimal.Negation
import DependencyAtlas.Proofs.Graph.RoundTrip
import DependencyAtlas.Proofs.Stage.Built

namespace DependencyAtlas

open Layout Drawing

namespace Stage

def unplacedEntry : Value → Value
  | .object fields => .object (Fields.without ["position"] fields)
  | v => v

def unplaced (elements : Fields) : Fields :=
  elements.map fun
    | ("nodes", .list entries) => ("nodes", .list (entries.map unplacedEntry))
    | field => field

def Placed (positions : Placement Float) (n : Node) (entry : Value) : Prop :=
  ∃ (fields : Fields) (x y : Float), entry = .object fields ∧
    fields.filter (fun field => field.1 = "position") =
      [("position", .object [("x", .float x), ("y", .float y)])] ∧
    positions.get? n.id = some ⟨x, -y⟩

structure Exported {η : Type} (r : Renderer η) (g : Graph) (document : Value) (elements : Fields) :
    Prop where
  given : r.document = .ok (some document)
  read : Graph.ofDocument document = .ok g
  held : Graph.Holds document "elements" elements
  rest : Value.object (unplaced elements) = g.toElements
  places : ∃ entries, elements.get? "nodes" = some (.list entries) ∧
    List.Forall₂ (Placed r.positions) g.nodes entries

namespace Renderer

variable {η : Type} {r : Renderer η} {positions : Placement Float}

theorem positionedEntry_eq_ok_iff {n : Node} {entry : Value} :
    positionedEntry positions n = .ok entry ↔ ∃ p : Point Float, positions.get? n.id = some p ∧
      entry = .object [("data", .object (Graph.nodeData n)),
        ("position", .object [("x", .float p.x), ("y", .float (-p.y))])] := by
  simp only [positionedEntry, bind_eq_ok_iff, Visualization.pointOf_eq_ok_iff]
  constructor
  · rintro ⟨p, hp, ⟨⟩⟩
    exact ⟨p, hp, rfl⟩
  · rintro ⟨p, hp, rfl⟩
    exact ⟨p, hp, rfl⟩

theorem placed_of_positionedEntry {n : Node} {entry : Value}
    (h : positionedEntry positions n = .ok entry) : Placed positions n entry := by
  obtain ⟨p, hp, rfl⟩ := positionedEntry_eq_ok_iff.mp h
  refine ⟨_, p.x, -p.y, rfl, rfl, ?_⟩
  rw [Decimal.neg_neg]
  exact hp

theorem unplaced_positionedEntry {n : Node} {entry : Value}
    (h : positionedEntry positions n = .ok entry) : unplacedEntry entry = Graph.nodeEntry n := by
  obtain ⟨p, -, rfl⟩ := positionedEntry_eq_ok_iff.mp h
  rfl

theorem positionedEntry_holds {n : Node} {entry : Value}
    (h : positionedEntry positions n = .ok entry) : Graph.Holds entry "data" (Graph.nodeData n) := by
  obtain ⟨p, -, rfl⟩ := positionedEntry_eq_ok_iff.mp h
  exact ⟨_, rfl, rfl⟩

theorem document_eq_ok {live : Live} (hlive : r.live = some live)
    (hcomplete : live.visualization.Complete) :
    ∃ entries, live.visualization.graph.nodes.mapM (positionedEntry live.visualization.positions) =
        .ok entries ∧
      r.document = .ok (some (.object [
        ("elements", .object [("nodes", .list entries),
          ("edges", .list (live.visualization.graph.edges.map Graph.edgeEntry))]),
        ("layout", r.policy.toOptions)])) := by
  obtain ⟨entries, hentries⟩ : ∃ entries,
      live.visualization.graph.nodes.mapM (positionedEntry live.visualization.positions) =
        .ok entries := by
    apply mapM_eq_ok
    intro n hn
    have hplaced := hcomplete.positions n.id (List.mem_map_of_mem hn)
    obtain ⟨p, hp⟩ := Placement.get?_of_mem hplaced
    exact ⟨_, positionedEntry_eq_ok_iff.mpr ⟨p, hp, rfl⟩⟩
  refine ⟨entries, hentries, ?_⟩
  rw [document, hlive]
  dsimp only
  rw [hentries]
  rfl

theorem exported {live : Live} (hlive : r.live = some live)
    (hwell : live.visualization.graph.WellFormed) (hcomplete : live.visualization.Complete) :
    ∃ document elements, Exported r live.visualization.graph document elements := by
  have hpositions : r.positions = live.visualization.positions := by
    rw [positions, hlive]
    rfl
  obtain ⟨entries, hentries, hdocument⟩ := document_eq_ok hlive hcomplete
  have hall := mapM_eq_ok_iff.mp hentries
  have hstripped : entries.map unplacedEntry = live.visualization.graph.nodes.map Graph.nodeEntry := by
    rw [← List.forall₂_eq_eq_eq, List.forall₂_map_left_iff, List.forall₂_map_right_iff]
    exact (hall.imp fun _ _ h => unplaced_positionedEntry h).flip
  refine ⟨_, _, hdocument, ?_, ⟨_, rfl, rfl⟩, ?_, entries, rfl, ?_⟩
  · apply Graph.ofDocument_of_datas hwell
    refine Graph.valid_of_datas hwell ⟨_, rfl, rfl⟩ (.inl rfl) (.inl rfl) ?_
      (Graph.map_wrapped_holds Graph.edgeData _)
    rw [List.forall₂_map_right_iff]
    exact (hall.imp fun _ _ h => positionedEntry_holds h).flip
  · rw [Graph.toElements, ← hstripped]
    rfl
  · rw [hpositions]
    exact hall.imp fun _ _ h => placed_of_positionedEntry h

end Renderer

variable {σ η : Type} {canvas : Canvas σ η}

theorem Renderer.Built.exported {r : Renderer η} {g : Graph} (h : r.Built)
    (hshown : r.elements = some g) (hwell : g.WellFormed) :
    ∃ document elements, Exported r g document elements := by
  obtain ⟨live, hlive, rfl⟩ := Option.map_eq_some_iff.mp hshown
  exact Renderer.exported hlive hwell ((h live hlive).complete hwell.joined)

theorem Renderer.Built.rendered {r : Renderer η} {g : Graph} (h : r.Built)
    (hshown : r.elements = some g) {σ' η' : Type} {canvas' : Canvas σ' η'} {s t : Studio σ' η'}
    (hpolicy : s.renderer.policy = r.policy) (hrelease : Studio.release canvas' s = (.ok (), t))
    (hfree : t.surface.bound = none) (hdraw : ∀ figure, (canvas'.draw figure t.outside).1 = .ok ()) :
    ∃ u, Studio.render canvas' g s = (.ok true, u) := by
  obtain ⟨live, hlive, rfl⟩ := Option.map_eq_some_iff.mp hshown
  obtain ⟨hnonempty, -, first, figure, hview, hfigure⟩ := h live hlive
  have hreleased := congrArg Renderer.policy (@Studio.release_renderer _ _ canvas' s)
  rw [hrelease] at hreleased
  have hsame : t.renderer.policy = r.policy := hreleased.trans hpolicy
  rw [← hsame] at hview hfigure
  exact ⟨_, Studio.render_of_view hrelease hfree hnonempty hdraw hview hfigure⟩

/-- Whatever the renderers did before and whatever failed, the document of one that shows a graph that was read
from a document is read as that graph again, and what is rendered from it has the same document but for the
places. -/
theorem reopens {start : Ensemble σ η} (hhidden : ∀ r ∈ start.renderers, r.live = none)
    (events : List (Event σ η)) {i : Nat} {r : Renderer η}
    (hi : (start.afterAll canvas events).renderers[i]? = some r) {g : Graph}
    (hshown : r.elements = some g) {origin : Value} (hproper : origin.Proper)
    (hread : Graph.ofDocument origin = .ok g) :
    ∃ document elements, Exported r g document elements ∧
      ∀ (σ' η' : Type) (canvas' : Canvas σ' η') (s : Studio σ' η'),
        (∀ t, s.renderer.policy = r.policy → Studio.release canvas' s = (.ok (), t) →
          t.surface.bound = none → (∀ figure, (canvas'.draw figure t.outside).1 = .ok ()) →
          ∃ u, Studio.render canvas' g s = (.ok true, u)) ∧
        ∀ u, Studio.render canvas' g s = (.ok true, u) →
          ∃ document' elements', Exported u.renderer g document' elements' ∧
            unplaced elements' = unplaced elements := by
  have hwell := Graph.ofDocument_wellFormed hproper hread
  have hbuilt : r.Built := Ensemble.afterAll_built
    (fun r hr => Studio.built_of_hidden (hhidden r hr)) events r (List.mem_of_getElem? hi)
  obtain ⟨document, elements, hexported⟩ := hbuilt.exported hshown hwell
  refine ⟨document, elements, hexported, fun σ' η' canvas' s => ⟨?_, ?_⟩⟩
  · intro t hpolicy hrelease hfree hdraw
    exact hbuilt.rendered hshown hpolicy hrelease hfree hdraw
  · intro u hrender
    have hagain := @Studio.render_built _ _ canvas' g s
    rw [hrender] at hagain
    obtain ⟨document', elements', hexported'⟩ :=
      hagain.exported (Studio.render_elements hrender) hwell
    refine ⟨document', elements', hexported', ?_⟩
    have hsame := hexported'.rest.trans hexported.rest.symm
    exact Value.object.inj hsame

def selfCall : Graph :=
  ⟨[⟨"a", "A"⟩], [⟨"e", "a", "a", "", some [("position", .int 3), ("nodes", .list [.null])]⟩]⟩

theorem selfCall_proper : selfCall.toDocument.Proper := by
  have hnull : Value.null.Proper := Value.proper_plain nofun nofun
  have hint (n : Int) : (Value.int n).Proper := Value.proper_plain nofun nofun
  have hstr (s : String) : (Value.str s).Proper := Value.proper_plain nofun nofun
  simp [Value.proper_object_iff, Value.proper_list_iff, Fields.names, Fields.ofPairs, Fields.put,
    Graph.toDocument, Graph.toElements, Graph.nodeEntry, Graph.edgeEntry, Graph.edgeData, selfCall,
    hnull, hint, hstr]

def selfCalls : Ensemble (Recording Nat) Nat :=
  (Ensemble.start measured 1 1).afterAll (recorder Nat)
    [.ask 0 (.render selfCall), .outside ⟨some (.file ⟨.isFolder, none⟩), [], []⟩, .ask 0 .relayout,
      .outside ⟨none, [], []⟩, .ask 0 (.tap "e")]

def newStudio : Studio (Recording Nat) Nat :=
  (Ensemble.start measured 1 1).studio 0 ⟨measured, none, []⟩

theorem reopens_selfCall :
    ∃ r document elements, selfCalls.renderers[0]? = some r ∧ r.elements = some selfCall ∧
      Exported r selfCall document elements ∧
      ∃ u document' elements', Studio.render (recorder Nat) selfCall newStudio = (.ok true, u) ∧
        Exported u.renderer selfCall document' elements' ∧ unplaced elements' = unplaced elements := by
  have hread : Graph.ofDocument selfCall.toDocument = .ok selfCall := rfl
  have hfirst : selfCalls.renderers[0]?.isSome = true := rfl
  have hi : selfCalls.renderers[0]? = some (selfCalls.renderers[0]?.get hfirst) :=
    (Option.some_get hfirst).symm
  have hshown : (selfCalls.renderers[0]?.get hfirst).elements = some selfCall := rfl
  have hhidden : ∀ r ∈ (Ensemble.start (η := Nat) measured 1 1).renderers, r.live = none := by
    intro r hr
    rw [List.eq_of_mem_replicate hr]
  obtain ⟨document, elements, hexported, hagain⟩ := reopens hhidden _ hi hshown selfCall_proper hread
  obtain ⟨hrenders, hsame⟩ := hagain _ _ (recorder Nat) newStudio
  obtain ⟨u, hrender⟩ := hrenders newStudio rfl (Studio.release_of_hidden rfl) rfl fun figure =>
    congrArg Prod.fst (recorder_draw rfl figure)
  obtain ⟨document', elements', hexported', hunplaced⟩ := hsame u hrender
  exact ⟨_, document, elements, hi, hshown, hexported, u, document', elements', hrender, hexported',
    hunplaced⟩

end Stage

end DependencyAtlas
