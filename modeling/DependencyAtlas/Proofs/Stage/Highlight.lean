import DependencyAtlas.Proofs.Graph.Documents
import DependencyAtlas.Proofs.Stage.Shown
import DependencyAtlas.Proofs.Stage.Success

namespace DependencyAtlas

open Layout

theorem forall₂_getElem? {α β : Type} {R : α → β → Prop} {xs : List α} {ys : List β}
    (h : List.Forall₂ R xs ys) {i : Nat} {y : β} (hy : ys[i]? = some y) :
    ∃ x, xs[i]? = some x ∧ R x y := by
  obtain ⟨hlt, rfl⟩ := List.getElem?_eq_some_iff.mp hy
  have hlt' : i < xs.length := h.length_eq ▸ hlt
  exact ⟨xs[i], List.getElem?_eq_getElem hlt', h.get hlt' hlt⟩

namespace Graph

def arrowed (g : Graph) : List Edge :=
  g.edges.filter fun e => e.source ≠ e.target

def markedIds (g : Graph) : List String :=
  g.nodeIds ++ g.arrowed.map Edge.id

def Apart (g : Graph) : Prop :=
  (g.nodeIds ++ g.edgeIds).Nodup

theorem edgeIds_arrowed (g : Graph) : (g.arrowed.map Edge.id).Sublist g.edgeIds :=
  List.filter_sublist.map Edge.id

theorem Apart.markedIds {g : Graph} (h : g.Apart) : g.markedIds.Nodup :=
  h.sublist ((List.Sublist.refl _).append g.edgeIds_arrowed)

theorem Apart.not_marked {g : Graph} (h : g.Apart) {e : Edge} (he : e ∈ g.edges)
    (hloop : e.source = e.target) : e.id ∉ g.markedIds := by
  obtain ⟨-, hedges, hdisjoint⟩ := List.nodup_append.mp h
  have hid : e.id ∈ g.edgeIds := List.mem_map_of_mem he
  rw [Graph.markedIds, List.mem_append]
  rintro (hnode | harrow)
  · exact hdisjoint e.id hnode e.id hid rfl
  · obtain ⟨other, hother, hsame⟩ := List.mem_map.mp harrow
    obtain ⟨hmem, hends⟩ := List.mem_filter.mp hother
    obtain rfl := List.inj_on_of_nodup_map hedges hmem he hsame
    simp only [hloop, ne_eq, not_true_eq_false, decide_false, Bool.false_eq_true] at hends

theorem ofDocument_apart {document : Value} {g : Graph} (h : ofDocument document = .ok g) :
    g.Apart := by
  obtain ⟨nodes, edges, ⟨elements, -, hnodes, hedges⟩, rfl⟩ := valid_of_ofDocument h
  have hnodeIds : nodeIds ⟨nodes.map nodeOf, edges.map edgeOf⟩ = nodes.map (textOf "id") :=
    nodeIds_of_datas nodes
  have hedgeIds : edgeIds ⟨nodes.map nodeOf, edges.map edgeOf⟩ = edges.map (textOf "id") := by
    rw [edgeIds, List.map_map]
    rfl
  rw [Apart, hnodeIds, hedgeIds]
  refine List.nodup_append.mpr ⟨hnodes.distinct, hedges.distinct, ?_⟩
  rintro id hnode _ hedge rfl
  obtain ⟨data, hdata, rfl⟩ := List.mem_map.mp hedge
  exact (hedges.fit data hdata).other hnode

theorem element?_isSome {g : Graph} {id : String} (h : id ∈ g.nodeIds ++ g.edgeIds) :
    (g.element? id).isSome = true := by
  rw [element?]
  split
  · rfl
  · rename_i hnode
    rw [List.contains_iff_mem] at hnode
    rw [if_pos (List.contains_iff_mem.mpr ((List.mem_append.mp h).resolve_left hnode))]
    rfl

end Graph

namespace Drawing

variable {α : Type}

inductive Mark (α : Type) where
  | marker (id : String) (point : Point α) (color : String)
  | arrow (source target : Point α) (color : String)

namespace Mark

def color : Mark α → String
  | marker _ _ color => color
  | arrow _ _ color => color

inductive StandsFor (g : Graph) (p : Placement α) : String → Mark α → Prop
  | node {id : String} {point : Point α} {color : String} (hid : id ∈ g.nodeIds)
    (hpoint : p.get? id = some point) : StandsFor g p id (.marker id point color)
  | edge {e : Edge} {a b : Point α} {color : String} (he : e ∈ g.edges)
    (hsource : p.get? e.source = some a) (htarget : p.get? e.target = some b) :
    StandsFor g p e.id (.arrow a b color)

end Mark

def Note.mark? : Note α → Option (Mark α)
  | .arrow source target color => some (.arrow source target color)
  | .label .. => none

def Markers.marks (m : Markers α) : List (Mark α) :=
  (m.ids.zip (m.points.zip m.colors)).map fun entry => .marker entry.1 entry.2.1 entry.2.2

def Picture.marks (pic : Picture α) : List (Mark α) :=
  pic.markers.marks ++ pic.notes.filterMap Note.mark?

def Mark.Tells (g : Graph) (p : Placement α) (selected : Option String) (id : String)
    (mark : Mark α) : Prop :=
  mark.StandsFor g p id ∧ (mark.color = highlight ↔ selected = some id)

variable {g : Graph} {p : Placement α} {selected : Option String}

theorem markers_tell {ids : List String} {points : List (Point α)} {colors : List String}
    (hids : ∀ id ∈ ids, id ∈ g.nodeIds)
    (hpoints : List.Forall₂ (fun id point => p.get? id = some point) ids points)
    (hcolors : List.Forall₂ (fun id color => color = highlight ↔ selected = some id) ids colors) :
    List.Forall₂ (Mark.Tells g p selected) ids
      ((ids.zip (points.zip colors)).map fun entry => .marker entry.1 entry.2.1 entry.2.2) := by
  induction hpoints generalizing colors with
  | nil => exact .nil
  | cons hpoint _ ih =>
    obtain ⟨_, _, hcolor, hrest, rfl⟩ := List.forall₂_cons_left_iff.mp hcolors
    obtain ⟨hid, hids⟩ := List.forall_mem_cons.mp hids
    exact .cons ⟨.node hid hpoint, hcolor⟩ (ih hids hrest)

variable [Add α] [Div α] [NatCast α]

theorem EdgeNotes.marks {e : Edge} {a b : Point α} {part : List (Note α)}
    (h : EdgeNotes selected e a b part) : ∃ color, (color = highlight ↔ selected = some e.id) ∧
      part.filterMap Note.mark? = if e.source = e.target then [] else [.arrow a b color] := by
  obtain ⟨color, angle, hcolor⟩ := h
  refine ⟨color, hcolor, ?_⟩
  by_cases hloop : e.source = e.target <;> by_cases hlabel : e.label = "" <;>
    simp [hloop, hlabel, Note.mark?]

theorem notes_tell {edges : List Edge} {parts : List (List (Note α))}
    (hedges : ∀ e ∈ edges, e ∈ g.edges)
    (h : List.Forall₂ (fun e part => ∃ a b, p.get? e.source = some a ∧ p.get? e.target = some b ∧
      EdgeNotes selected e a b part) edges parts) :
    List.Forall₂ (Mark.Tells g p selected)
      ((edges.filter fun e => e.source ≠ e.target).map Edge.id)
      (parts.flatten.filterMap Note.mark?) := by
  induction h with
  | nil => exact .nil
  | @cons e part rest parts hpart _ ih =>
    obtain ⟨a, b, hsource, htarget, hnotes⟩ := hpart
    obtain ⟨color, hcolor, hmarks⟩ := hnotes.marks
    obtain ⟨he, hrest⟩ := List.forall_mem_cons.mp hedges
    rw [List.flatten_cons, List.filterMap_append, hmarks, List.filter_cons]
    by_cases hloop : e.source = e.target
    · simpa only [hloop, ne_eq, not_true_eq_false, decide_false, Bool.false_eq_true, if_false, if_true,
        List.nil_append] using ih hrest
    · simpa only [hloop, ne_eq, not_false_eq_true, decide_true, if_true, if_false, List.map_cons,
        List.singleton_append] using List.Forall₂.cons ⟨.edge he hsource htarget, hcolor⟩ (ih hrest)

theorem Picture.Shows.marks {pic : Picture α} (h : pic.Shows g selected p) :
    List.Forall₂ (Mark.Tells g p selected) g.markedIds pic.marks := by
  obtain ⟨parts, hnotes, hparts⟩ := h.notes
  rw [Graph.markedIds, Picture.marks, Markers.marks, h.ids, hnotes]
  exact List.rel_append (markers_tell (fun _ hid => hid) h.points h.colors)
    (notes_tell (fun _ he => he) hparts)

variable {id : String} {pic : Picture α}

structure Picture.Highlights (g : Graph) (p : Placement α) (id : String) (pic : Picture α) :
    Prop where
  marks : List.Forall₂ (fun id mark => mark.StandsFor g p id) g.markedIds pic.marks
  only : ∃! i : Nat, ∃ mark : Mark α, pic.marks[i]? = some mark ∧ mark.color = highlight
  its : ∀ (i : Nat) (mark : Mark α), pic.marks[i]? = some mark → mark.color = highlight →
    g.markedIds[i]? = some id

theorem Picture.Shows.highlights (h : pic.Shows g (some id) p) (hapart : g.Apart)
    (hid : id ∈ g.markedIds) : pic.Highlights g p id := by
  have hmarks := h.marks
  have hits {i : Nat} {mark : Mark α} (hmark : pic.marks[i]? = some mark)
      (hcolor : mark.color = highlight) : g.markedIds[i]? = some id := by
    obtain ⟨other, hother, -, htells⟩ := forall₂_getElem? hmarks hmark
    rw [hother, htells.mp hcolor]
  refine ⟨hmarks.imp fun _ _ htells => htells.1, ?_, fun _ _ => hits⟩
  obtain ⟨i, hlt, hi⟩ := List.getElem_of_mem hid
  have hlt' : i < pic.marks.length := hmarks.length_eq ▸ hlt
  refine ⟨i, ⟨pic.marks[i], List.getElem?_eq_getElem hlt', ?_⟩, ?_⟩
  · obtain ⟨other, hother, -, htells⟩ :=
      forall₂_getElem? hmarks (List.getElem?_eq_getElem hlt')
    rw [List.getElem?_eq_getElem hlt, hi] at hother
    exact htells.mpr hother
  · rintro j ⟨mark, hmark, hcolor⟩
    apply List.getElem?_inj ?_ hapart.markedIds |>.mp
    · rw [hits hmark hcolor, List.getElem?_eq_getElem hlt, hi]
    · rw [hmarks.length_eq]
      exact (List.getElem?_eq_some_iff.mp hmark).1

theorem Picture.Shows.not_highlighted (h : pic.Shows g (some id) p) (hid : id ∉ g.markedIds) :
    ∀ mark ∈ pic.marks, mark.color ≠ highlight := by
  intro mark hmark hcolor
  obtain ⟨i, hi⟩ := List.getElem?_of_mem hmark
  obtain ⟨other, hother, -, htells⟩ := forall₂_getElem? h.marks hi
  rw [← Option.some.inj (htells.mp hcolor)] at hother
  exact hid (List.mem_of_getElem? hother)

end Drawing

namespace Drawing.Visualization

theorem figure_still {α : Type} [Add α] [Sub α] [Neg α] [Div α] [LT α] [DecidableLT α] [BEq α]
    [NatCast α] {v : Visualization α} {gauge : Gauge α} {options : FigureOptions}
    {figure : Figure α} (hstill : options.animated = false) (h : v.figure gauge options = .ok figure) :
    figure.animation = none ∧ v.picture gauge v.positions = .ok figure.picture := by
  have hshown : v.moving options.animated = [] := by
    rw [hstill]
    rfl
  simp only [figure_eq, hshown, bind_eq_ok_iff, List.headD_nil, animation] at h
  obtain ⟨picture, hpicture, size, -, _, ⟨⟩, ⟨⟩⟩ := h
  exact ⟨rfl, hpicture⟩

end Drawing.Visualization

namespace Stage

open Drawing

variable {σ η : Type} {canvas : Canvas σ η} {displayed : σ → Option (Figure Float)}

/-- The figure is one picture, in which the mark of the element of an id is the only highlighted one. An edge
that leads back to its source has no mark, so that nothing is highlighted then. -/
structure TapShows (g : Graph) (p : Placement Float) (id : String) (figure : Figure Float) : Prop where
  still : figure.animation = none
  marked : (id ∈ g.nodeIds ∨ ∃ e ∈ g.edges, e.id = id ∧ e.source ≠ e.target) →
    figure.picture.Highlights g p id
  loop : (∃ e ∈ g.edges, e.id = id ∧ e.source = e.target) →
    ∀ mark ∈ figure.picture.marks, mark.color ≠ highlight

theorem tapShows_of_shows {g : Graph} (hapart : g.Apart) {p : Placement Float} {id : String}
    {figure : Figure Float} (hstill : figure.animation = none)
    (h : figure.picture.Shows g (some id) p) : TapShows g p id figure where
  still := hstill
  marked := by
    intro hid
    apply h.highlights hapart
    rw [Graph.markedIds, List.mem_append]
    refine hid.imp_right ?_
    rintro ⟨e, he, rfl, hends⟩
    exact List.mem_map_of_mem (List.mem_filter.mpr ⟨he, decide_eq_true hends⟩)
  loop := by
    rintro ⟨e, he, rfl, hloop⟩
    exact h.not_highlighted (hapart.not_marked he hloop)

theorem tapped_highlighted (hdisplays : canvas.Displays displayed) {document : Value} {g : Graph}
    (hread : Graph.ofDocument document = .ok g) {s t : Studio σ η}
    (hshown : s.renderer.elements = some g) {id : String} (hid : id ∈ g.nodeIds ++ g.edgeIds)
    {kind : Option Graph.Element} (h : Studio.tap canvas id s = (.ok kind, t)) :
    kind.isSome = true ∧ ∃ figure, displayed t.outside = some figure ∧
      TapShows g t.renderer.positions id figure := by
  obtain ⟨live, hlive, rfl⟩ := Option.map_eq_some_iff.mp hshown
  have hkind := Studio.tap_kind hlive (congrArg Prod.fst h)
  obtain ⟨found, hfound⟩ := Option.isSome_iff_exists.mp (Graph.element?_isSome hid)
  rw [hfound] at hkind
  subst hkind
  obtain ⟨v, figure, hselect, hfigure, hdraw, rfl⟩ := Studio.tap_eq_ok hlive h
  obtain ⟨hstill, hpicture⟩ := Visualization.figure_still rfl hfigure
  rw [Visualization.select, hfound] at hselect
  cases hselect
  have hkeeps := Studio.notifyAll_keeps fun handler =>
    Studio.outsideAct_keeps (η := η) (hdisplays.notify handler id)
  refine ⟨rfl, figure, (hkeeps _ _).trans (hdisplays.draw figure _ hdraw), ?_⟩
  rw [Studio.notifyAll_renderer]
  exact tapShows_of_shows (Graph.ofDocument_apart hread) hstill (Visualization.picture_shows hpicture)

def freshStudio : Studio (Recording Nat) Nat :=
  ⟨⟨measured, none, []⟩, .empty, ⟨0, []⟩, ⟨none, [], []⟩⟩

def thereAndBack : Graph :=
  ⟨[⟨"a", "A"⟩, ⟨"b", "B"⟩],
    [⟨"e", "a", "b", "", none⟩, ⟨"f", "b", "a", "back", none⟩, ⟨"l", "a", "a", "again", none⟩]⟩

theorem tapped_highlighted_back :
    Graph.ofDocument thereAndBack.toDocument = .ok thereAndBack ∧
      ∃ s t, Studio.render (recorder Nat) thereAndBack freshStudio = (.ok true, s) ∧
        Studio.tap (recorder Nat) "f" s = (.ok (some .edge), t) ∧
        ∃ figure, t.outside.drawn.getLast? = some figure ∧
          figure.picture.Highlights thereAndBack t.renderer.positions "f" := by
  have hread : Graph.ofDocument thereAndBack.toDocument = .ok thereAndBack := rfl
  have hjoined : thereAndBack.Joined := ⟨by decide, by decide⟩
  obtain ⟨v, first, s, hview, hrender, hlive, houtside⟩ :=
    Studio.render_eq_ok (Studio.release_of_hidden (s := freshStudio) rfl) rfl rfl
      (fun figure => congrArg Prod.fst (recorder_draw rfl figure)) hjoined (measured_computes _)
  obtain ⟨hgraph, -, hcomplete⟩ := Studio.firstView_complete hjoined hview
  have hedge : v.graph.element? "f" = some .edge := by
    rw [hgraph]
    rfl
  have hworks : s.outside.failing = none := by
    rw [houtside, recorder_draw rfl]
    rfl
  obtain ⟨t, htap⟩ := Studio.tap_edge hlive (hgraph ▸ hjoined) hcomplete hedge fun figure =>
    congrArg Prod.fst (recorder_draw hworks figure)
  have hshown : s.renderer.elements = some thereAndBack := by
    rw [Renderer.elements, hlive, Option.map_some, hgraph]
  have hid : "f" ∈ thereAndBack.nodeIds ++ thereAndBack.edgeIds := by decide
  obtain ⟨-, figure, hdrawn, hshows⟩ :=
    tapped_highlighted (recorder_displays Nat) hread hshown hid htap
  exact ⟨hread, s, t, hrender, htap, figure, hdrawn,
    hshows.marked (.inr ⟨⟨"f", "b", "a", "back", none⟩, by simp [thereAndBack], rfl, by decide⟩)⟩

theorem tapped_loop_not_highlighted :
    Graph.ofDocument loops.toDocument = .ok loops ∧ "e" ∈ loops.edgeIds ∧
      tappedLoops.1 = .ok (.tapped (some .edge)) ∧
      ∃ figure, tappedLoops.2.outside.drawn.getLast? = some figure ∧
        ∀ mark ∈ figure.picture.marks, mark.color ≠ highlight := by
  have hcolors : tappedLoops.2.outside.drawn.getLast?.map
      (fun figure => figure.picture.marks.map Mark.color) = some ["#3b82f6", "#3b82f6"] := rfl
  obtain ⟨figure, hfigure, hmarks⟩ := Option.map_eq_some_iff.mp hcolors
  refine ⟨rfl, by decide, rfl, figure, hfigure, ?_⟩
  intro mark hmark hhighlight
  have hcolor : mark.color ∈ ["#3b82f6", "#3b82f6"] := hmarks ▸ List.mem_map_of_mem hmark
  rw [hhighlight] at hcolor
  revert hcolor
  decide

end Stage

end DependencyAtlas
