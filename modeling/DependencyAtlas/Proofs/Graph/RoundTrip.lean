import DependencyAtlas.Proofs.Graph.Documents
import DependencyAtlas.Proofs.Value.Fields
import DependencyAtlas.Proofs.Value.Text

/-!
Round trips. The graphs that are read from proper documents are the well-formed ones, and a well-formed graph
comes back from its own document. A document in canonical form is the document of the graph that it is
read as, but for the order of fields.
-/

namespace DependencyAtlas

structure Node.WellFormed (n : Node) : Prop where
  id : n.id ≠ ""
  label : n.label ≠ ""

structure Edge.WellFormed (nodes : List String) (e : Edge) : Prop where
  id : e.id ≠ ""
  source : e.source ≠ ""
  target : e.target ≠ ""
  other : e.id ∉ nodes
  sourceKnown : e.source ∈ nodes
  targetKnown : e.target ∈ nodes
  extraGiven : e.extra ≠ some []
  extraNodup : (Fields.names (e.extra.getD [])).Nodup
  extraOther : ∀ name ∈ Fields.names (e.extra.getD []), name ∉ Graph.edgeFields

namespace Graph

structure WellFormed (g : Graph) : Prop where
  nodes : ∀ n ∈ g.nodes, Node.WellFormed n
  edges : ∀ e ∈ g.edges, Edge.WellFormed g.nodeIds e
  nodesDistinct : g.nodeIds.Nodup
  edgesDistinct : g.edgeIds.Nodup

theorem textOf_eq {data : Fields} {field : String} {v : Value} (h : data.get? field = some v) :
    textOf field data = v.text := by
  simp [textOf, h]

theorem textOf_ne_empty {data : Fields} {field : String} (h : Given field data) :
    textOf field data ≠ "" := by
  obtain ⟨v, hget, -, hempty⟩ := h
  rw [textOf_eq hget]
  exact Value.text_ne_empty hempty

theorem labelText_cases (other : String) (data : Fields) :
    labelText other data = other ∨ labelText other data ≠ "" := by
  rw [labelText]
  rcases data.get? "label" with _ | v
  · exact .inl rfl
  · by_cases htruthy : v.truthy = true
    · right
      rw [Option.filter_some, if_pos htruthy, Option.elim_some]
      apply Value.text_ne_empty
      rintro rfl
      cases htruthy
    · left
      rw [Option.filter_some, if_neg htruthy, Option.elim_none]

theorem nodeOf_wellFormed {data : Fields} (h : Given "id" data) : (nodeOf data).WellFormed where
  id := textOf_ne_empty h
  label := by
    rcases labelText_cases (textOf "id" data) data with hid | hlabel
    · intro hempty
      exact textOf_ne_empty h (hid.symm.trans hempty)
    · exact hlabel

theorem names_restOf (data : Fields) :
    Fields.names (restOf data) = data.names.filter (· ∉ edgeFields) := by
  rw [Fields.names, Fields.names, restOf, List.filter_map]
  rfl

theorem extra_edgeOf (data : Fields) : (edgeOf data).extra.getD [] = restOf data := by
  rw [edgeOf]
  by_cases h : restOf data = [] <;> simp [h]

theorem edgeOf_wellFormed {nodes : List String} {data : Fields} (h : Links nodes data)
    (hnodup : data.names.Nodup) : (edgeOf data).WellFormed nodes where
  id := textOf_ne_empty h.id
  source := textOf_ne_empty h.source
  target := textOf_ne_empty h.target
  other := h.other
  sourceKnown := h.sourceKnown
  targetKnown := h.targetKnown
  extraGiven := by
    rw [edgeOf]
    by_cases hrest : restOf data = [] <;> simp [hrest]
  extraNodup := by
    rw [extra_edgeOf, names_restOf]
    exact hnodup.filter _
  extraOther := by
    rw [extra_edgeOf, names_restOf]
    intro name hname
    simpa using (List.mem_filter.mp hname).2

theorem holds_proper {v : Value} {name : String} {inner : Fields} (hv : v.Proper)
    (h : Holds v name inner) : Value.Proper (.object inner) := by
  obtain ⟨fields, rfl, hget⟩ := h
  exact hv.of_get? hget

theorem lists_proper {elements : Fields} {name : String} {entries : List Value}
    (helements : Value.Proper (.object elements)) (h : Lists elements name entries) :
    ∀ entry ∈ entries, entry.Proper := by
  rcases h with hlist | ⟨rfl, -⟩
  · intro entry hentry
    exact Value.proper_list_iff.mp (helements.of_get? hlist) entry hentry
  · nofun

theorem datas_proper {entries : List Value} {datas : List Fields}
    (hentries : ∀ entry ∈ entries, entry.Proper) (h : List.Forall₂ (Holds · "data") entries datas) :
    ∀ data ∈ datas, Value.Proper (.object data) := by
  induction h with
  | nil => nofun
  | cons hdata _ ih =>
    obtain ⟨hentry, hrest⟩ := List.forall_mem_cons.mp hentries
    exact List.forall_mem_cons.mpr ⟨holds_proper hentry hdata, ih hrest⟩

theorem Parts.names_nodup {elements : Fields} {name : String} {Fit : Fields → Prop}
    {datas : List Fields} (h : Parts elements name Fit datas)
    (helements : Value.Proper (.object elements)) : ∀ data ∈ datas, data.names.Nodup := by
  obtain ⟨entries, hlists, hdatas⟩ := h.listed
  intro data hdata
  exact (datas_proper (lists_proper helements hlists) hdatas data hdata).names_nodup

theorem edgeIds_of_datas (datas : List Fields) :
    (datas.map edgeOf).map Edge.id = datas.map (textOf "id") := by
  rw [List.map_map]
  rfl

theorem ofDocument_wellFormed {v : Value} {g : Graph} (hv : v.Proper) (h : ofDocument v = .ok g) :
    g.WellFormed := by
  obtain ⟨nodes, edges, ⟨elements, helements, hnodes, hedges⟩, rfl⟩ := valid_of_ofDocument h
  have hnames := hedges.names_nodup (holds_proper hv helements)
  constructor
  · intro n hn
    obtain ⟨data, hdata, rfl⟩ := List.mem_map.mp hn
    exact nodeOf_wellFormed (hnodes.fit data hdata)
  · intro e he
    obtain ⟨data, hdata, rfl⟩ := List.mem_map.mp he
    rw [nodeIds, nodeIds_of_datas]
    exact edgeOf_wellFormed (hedges.fit data hdata) (hnames data hdata)
  · rw [nodeIds, nodeIds_of_datas]
    exact hnodes.distinct
  · rw [edgeIds, edgeIds_of_datas]
    exact hedges.distinct

def Accepted (g : Graph) : Prop :=
  ∃ origin : Value, origin.Proper ∧ ofDocument origin = .ok g

theorem Accepted.wellFormed {g : Graph} (h : g.Accepted) : g.WellFormed := by
  obtain ⟨origin, hproper, hread⟩ := h
  exact ofDocument_wellFormed hproper hread

def nodeData (n : Node) : Fields :=
  [("id", .str n.id), ("label", .str n.label)]

theorem given_of_text {data : Fields} {field s : String} (h : data.get? field = some (.str s))
    (hs : s ≠ "") : Given field data :=
  ⟨.str s, h, nofun, fun heq => hs (Value.str.inj heq)⟩

theorem labelText_of_text {data : Fields} {label : String} (other : String)
    (h : data.get? "label" = some (.str label)) :
    labelText other data = if label = "" then other else label := by
  rw [labelText, h, Option.filter_some]
  by_cases hlabel : label = ""
  · rw [if_pos hlabel, if_neg (by simp [Value.truthy, hlabel]), Option.elim_none]
  · rw [if_neg hlabel, if_pos (by simp [Value.truthy, hlabel]), Option.elim_some, Value.text]

theorem nodeOf_nodeData {n : Node} (h : n.WellFormed) : nodeOf (nodeData n) = n := by
  have hid : textOf "id" (nodeData n) = n.id := rfl
  have hget : (nodeData n).get? "label" = some (.str n.label) := rfl
  have hlabel : labelText n.id (nodeData n) = n.label := by
    rw [labelText_of_text _ hget, if_neg h.label]
  rw [nodeOf, hid, hlabel]

def edgePairs (e : Edge) : Fields :=
  e.extra.getD [] ++
    [("id", .str e.id), ("source", .str e.source), ("target", .str e.target),
      ("label", .str e.label)]

theorem edgePairs_nodup {nodes : List String} {e : Edge} (h : e.WellFormed nodes) :
    (edgePairs e).names.Nodup := by
  rw [edgePairs, Fields.names_append]
  refine List.nodup_append.mpr ⟨h.extraNodup, ?_, ?_⟩
  · simp [Fields.names]
  · intro name hname other hother heq
    exact h.extraOther name hname (heq ▸ hother)

theorem edgeData_eq {nodes : List String} {e : Edge} (h : e.WellFormed nodes) :
    edgeData e = edgePairs e :=
  Fields.ofPairs_of_nodup (edgePairs_nodup h)

theorem edgePairs_get? {nodes : List String} {e : Edge} (h : e.WellFormed nodes) {name : String}
    {v : Value} (hv : (name, v) ∈ [("id", Value.str e.id), ("source", .str e.source),
      ("target", .str e.target), ("label", .str e.label)]) :
    (edgePairs e).get? name = some v :=
  Fields.get?_of_mem (edgePairs_nodup h) (List.mem_append_right _ hv)

theorem restOf_edgePairs {nodes : List String} {e : Edge} (h : e.WellFormed nodes) :
    restOf (edgePairs e) = e.extra.getD [] := by
  have hextra : (e.extra.getD []).filter (fun field => field.1 ∉ edgeFields) = e.extra.getD [] := by
    apply List.filter_eq_self.mpr
    intro field hfield
    exact decide_eq_true (h.extraOther field.1 (List.mem_map_of_mem hfield))
  rw [restOf, edgePairs, List.filter_append]
  exact (congrArg₂ (· ++ ·) hextra rfl).trans (List.append_nil _)

theorem edgeOf_edgeData {nodes : List String} {e : Edge} (h : e.WellFormed nodes) :
    edgeOf (edgeData e) = e := by
  have htext {name s : String} (hv : (name, Value.str s) ∈ [("id", Value.str e.id),
      ("source", .str e.source), ("target", .str e.target), ("label", .str e.label)]) :
      textOf name (edgePairs e) = s := by
    rw [textOf_eq (edgePairs_get? h hv)]
    rfl
  have hlabel : labelText "" (edgePairs e) = e.label := by
    rw [labelText_of_text _ (edgePairs_get? h (v := .str e.label) (by simp))]
    split
    · next hempty => exact hempty.symm
    · rfl
  have hextra : (if e.extra.getD [] = [] then none else some (e.extra.getD [])) = e.extra := by
    have hgiven := h.extraGiven
    rcases hextra : e.extra with _ | extra
    · rfl
    · rw [hextra] at hgiven
      have hne : extra ≠ [] := fun heq => hgiven (congrArg some heq)
      simp [hne]
  rw [edgeData_eq h, edgeOf, restOf_edgePairs h, hextra, hlabel, htext (s := e.id) (by simp),
    htext (s := e.source) (by simp), htext (s := e.target) (by simp)]

theorem edgeData_links {nodes : List String} {e : Edge} (h : e.WellFormed nodes) :
    Links nodes (edgeData e) := by
  have hedge := edgeOf_edgeData h
  have hid : textOf "id" (edgeData e) = e.id := congrArg Edge.id hedge
  have hsource : textOf "source" (edgeData e) = e.source := congrArg Edge.source hedge
  have htarget : textOf "target" (edgeData e) = e.target := congrArg Edge.target hedge
  have hgiven {name s : String} (hs : s ≠ "") (hv : (name, Value.str s) ∈ [("id", Value.str e.id),
      ("source", .str e.source), ("target", .str e.target), ("label", .str e.label)]) :
      Given name (edgeData e) := by
    rw [edgeData_eq h]
    exact given_of_text (edgePairs_get? h hv) hs
  constructor
  · exact hgiven h.id (by simp)
  · exact hgiven h.source (by simp)
  · exact hgiven h.target (by simp)
  · exact hid ▸ h.other
  · exact hsource ▸ h.sourceKnown
  · exact htarget ▸ h.targetKnown

theorem map_wrapped_holds {α : Type} (data : α → Fields) (parts : List α) :
    List.Forall₂ (Holds · "data") (parts.map fun a => .object [("data", .object (data a))])
      (parts.map data) := by
  induction parts with
  | nil => exact .nil
  | cons a rest ih => exact .cons ⟨_, rfl, rfl⟩ ih

theorem valid_of_datas {g : Graph} (h : g.WellFormed) {v : Value} {elements : Fields}
    {nodes edges : List Value} (helements : Holds v "elements" elements)
    (hnodes : Lists elements "nodes" nodes) (hedges : Lists elements "edges" edges)
    (hnodeDatas : List.Forall₂ (Holds · "data") nodes (g.nodes.map nodeData))
    (hedgeDatas : List.Forall₂ (Holds · "data") edges (g.edges.map edgeData)) :
    Valid v (g.nodes.map nodeData) (g.edges.map edgeData) := by
  have hids : (g.nodes.map nodeData).map (textOf "id") = g.nodeIds := by
    rw [List.map_map]
    rfl
  refine ⟨elements, helements, ⟨⟨nodes, hnodes, hnodeDatas⟩, ?_, ?_⟩,
    ⟨⟨edges, hedges, hedgeDatas⟩, ?_, ?_⟩⟩
  · intro data hdata
    obtain ⟨n, hn, rfl⟩ := List.mem_map.mp hdata
    exact given_of_text rfl (h.nodes n hn).id
  · rw [hids]
    exact h.nodesDistinct
  · intro data hdata
    obtain ⟨e, he, rfl⟩ := List.mem_map.mp hdata
    rw [hids]
    exact edgeData_links (h.edges e he)
  · have hedgeIds : (g.edges.map edgeData).map (textOf "id") = g.edgeIds := by
      rw [List.map_map, edgeIds]
      apply List.map_congr_left
      intro e he
      exact congrArg Edge.id (edgeOf_edgeData (h.edges e he))
    rw [hedgeIds]
    exact h.edgesDistinct

theorem ofDocument_of_datas {g : Graph} (h : g.WellFormed) {v : Value}
    (hvalid : Valid v (g.nodes.map nodeData) (g.edges.map edgeData)) : ofDocument v = .ok g := by
  have hnodes : (g.nodes.map nodeData).map nodeOf = g.nodes := by
    rw [List.map_map]
    exact (List.map_congr_left fun n hn => nodeOf_nodeData (h.nodes n hn)).trans (List.map_id _)
  have hedges : (g.edges.map edgeData).map edgeOf = g.edges := by
    rw [List.map_map]
    exact (List.map_congr_left fun e he => edgeOf_edgeData (h.edges e he)).trans (List.map_id _)
  rw [ofDocument_of_valid hvalid, hnodes, hedges]

theorem ofDocument_toDocument {g : Graph} (h : g.WellFormed) : ofDocument g.toDocument = .ok g :=
  ofDocument_of_datas h (valid_of_datas h ⟨_, rfl, rfl⟩ (.inl rfl) (.inl rfl)
    (map_wrapped_holds nodeData g.nodes) (map_wrapped_holds edgeData g.edges))

open Value (Reordered ReorderedFields ReorderedItems)

def CanonicalNode (entry : Value) : Prop :=
  ∃ (data : Fields) (id label : String), entry = .object [("data", .object data)] ∧
    data.Perm [("id", .str id), ("label", .str label)] ∧ label ≠ ""

def CanonicalEdge (entry : Value) : Prop :=
  ∃ (data : Fields) (id source target label : String), entry = .object [("data", .object data)] ∧
    data.get? "id" = some (.str id) ∧ data.get? "source" = some (.str source) ∧
    data.get? "target" = some (.str target) ∧ data.get? "label" = some (.str label)

/-- Elements in canonical form: both lists and nothing else, nodes with an id and a label, edges with all
four texts and whatever else they have. -/
def Canonical (elements : Fields) : Prop :=
  ∃ nodes edges : List Value, elements.Perm [("nodes", .list nodes), ("edges", .list edges)] ∧
    (∀ entry ∈ nodes, CanonicalNode entry) ∧ ∀ entry ∈ edges, CanonicalEdge entry

theorem lists_eq {elements : Fields} {name : String} {entries items : List Value}
    (hget : elements.get? name = some (.list items)) (h : Lists elements name entries) :
    entries = items := by
  rcases h with hlist | ⟨rfl, hfalsy⟩
  · rw [hget] at hlist
    exact (Value.list.inj (Option.some.inj hlist)).symm
  · have hempty := hfalsy _ hget
    rcases items with _ | ⟨item, rest⟩
    · rfl
    · cases hempty

theorem holds_wrapped {data inner : Fields}
    (h : Holds (.object [("data", .object data)]) "data" inner) : inner = data := by
  obtain ⟨fields, hfields, hget⟩ := h
  cases hfields
  exact (Value.object.inj (Option.some.inj hget)).symm

theorem nodeEntry_reordered {entry : Value} {data : Fields} (hentry : CanonicalNode entry)
    (hdata : Holds entry "data" data) : Reordered (nodeEntry (nodeOf data)) entry := by
  obtain ⟨inner, id, label, rfl, hperm, hlabel⟩ := hentry
  obtain rfl := holds_wrapped hdata
  have hnodup : data.names.Nodup := (hperm.map Prod.fst).nodup_iff.mpr (by simp)
  have hid : data.get? "id" = some (.str id) := Fields.get?_perm hnodup hperm "id"
  have hget : data.get? "label" = some (.str label) := Fields.get?_perm hnodup hperm "label"
  have hnode : nodeOf data = ⟨id, label⟩ := by
    rw [nodeOf, textOf_eq hid, labelText_of_text _ hget, if_neg hlabel, Value.text]
  rw [hnode]
  exact .single "data" (.object (.of_perm hperm.symm))

theorem edgePairs_perm {data : Fields} {id source target label : String}
    (hnodup : data.names.Nodup) (hid : data.get? "id" = some (.str id))
    (hsource : data.get? "source" = some (.str source))
    (htarget : data.get? "target" = some (.str target))
    (hlabel : data.get? "label" = some (.str label)) (hpairs : (edgePairs (edgeOf data)).names.Nodup) :
    (edgePairs (edgeOf data)).Perm data := by
  have hedge : edgePairs (edgeOf data) = restOf data ++
      [("id", .str id), ("source", .str source), ("target", .str target), ("label", .str label)] := by
    have hempty : (if label = "" then "" else label) = label := by
      split
      · next h => exact h.symm
      · rfl
    rw [edgePairs, extra_edgeOf]
    simp only [edgeOf, textOf_eq hid, textOf_eq hsource, textOf_eq htarget,
      labelText_of_text _ hlabel, hempty, Value.text]
  rw [List.perm_ext_iff_of_nodup hpairs.of_map hnodup.of_map, hedge]
  rintro ⟨name, v⟩
  simp only [List.mem_append, restOf, List.mem_filter, List.mem_cons, Prod.mk.injEq,
    List.not_mem_nil, or_false, decide_eq_true_eq, not_or]
  rw [← Fields.get?_eq_some_iff hnodup]
  constructor
  · rintro (⟨hget, -⟩ | ⟨rfl, rfl⟩ | ⟨rfl, rfl⟩ | ⟨rfl, rfl⟩ | ⟨rfl, rfl⟩)
    · exact hget
    · exact hid
    · exact hsource
    · exact htarget
    · exact hlabel
  · intro hget
    by_cases hname : name ∈ edgeFields
    · right
      simp only [edgeFields, List.mem_cons, List.not_mem_nil, or_false] at hname
      rcases hname with rfl | rfl | rfl | rfl <;> simp_all
    · left
      simpa [edgeFields, hget] using hname

theorem edgeEntry_reordered {nodes : List String} {entry : Value} {data : Fields}
    (hentry : CanonicalEdge entry) (hdata : Holds entry "data" data) (hnodup : data.names.Nodup)
    (hlinks : Links nodes data) : Reordered (edgeEntry (edgeOf data)) entry := by
  obtain ⟨inner, id, source, target, label, rfl, hid, hsource, htarget, hlabel⟩ := hentry
  obtain rfl := holds_wrapped hdata
  have hwell := edgeOf_wellFormed hlinks hnodup
  have hperm := edgePairs_perm hnodup hid hsource htarget hlabel (edgePairs_nodup hwell)
  rw [edgeEntry, edgeData_eq hwell]
  exact .single "data" (.object (.of_perm hperm))

theorem items_reordered {entries : List Value} {datas : List Fields} {entryOf : Fields → Value}
    (hdatas : List.Forall₂ (Holds · "data") entries datas)
    (h : ∀ entry ∈ entries, ∀ data ∈ datas, Holds entry "data" data → Reordered (entryOf data) entry) :
    ReorderedItems (datas.map entryOf) entries := by
  induction hdatas with
  | nil => exact .nil
  | cons hdata _ ih =>
    refine .cons (h _ List.mem_cons_self _ List.mem_cons_self hdata) (ih ?_)
    intro entry hentry data hdata
    exact h entry (List.mem_cons_of_mem _ hentry) data (List.mem_cons_of_mem _ hdata)

theorem toElements_reordered {v : Value} {nodes edges : List Fields} {elements : Fields}
    (hv : v.Proper) (helements : Holds v "elements" elements)
    (hnodes : Parts elements "nodes" (Given "id") nodes)
    (hedges : Parts elements "edges" (Links (nodes.map (textOf "id"))) edges)
    (hcanonical : Canonical elements) :
    Reordered (toElements ⟨nodes.map nodeOf, edges.map edgeOf⟩) (.object elements) := by
  obtain ⟨nodeEntries, edgeEntries, hperm, hnodeEntries, hedgeEntries⟩ := hcanonical
  have hproper := holds_proper hv helements
  have hnames := hedges.names_nodup hproper
  have hget := Fields.get?_perm hproper.names_nodup hperm
  obtain ⟨entries, hlists, hnodeDatas⟩ := hnodes.listed
  obtain rfl := lists_eq (hget "nodes") hlists
  obtain ⟨entries', hlists, hedgeDatas⟩ := hedges.listed
  obtain rfl := lists_eq (hget "edges") hlists
  have hnodeItems : ReorderedItems (nodes.map (nodeEntry ∘ nodeOf)) entries :=
    items_reordered hnodeDatas fun entry hentry data _ hdata =>
      nodeEntry_reordered (hnodeEntries entry hentry) hdata
  have hedgeItems : ReorderedItems (edges.map (edgeEntry ∘ edgeOf)) entries' :=
    items_reordered hedgeDatas fun entry hentry data hmem hdata =>
      edgeEntry_reordered (hedgeEntries entry hentry) hdata (hnames data hmem) (hedges.fit data hmem)
  rw [toElements, List.map_map, List.map_map]
  refine .object (.trans ?_ (.of_perm hperm.symm))
  exact .cons "nodes" (.list hnodeItems) (.cons "edges" (.list hedgeItems) .nil)

theorem read_again (v : Value) (g : Graph) (hv : v.Proper) (h : ofDocument v = .ok g) :
    ofDocument g.toDocument = .ok g ∧
      ∀ elements, Holds v "elements" elements → Canonical elements →
        Reordered g.toElements (.object elements) := by
  refine ⟨ofDocument_toDocument (ofDocument_wellFormed hv h), ?_⟩
  intro elements helements hcanonical
  obtain ⟨nodes, edges, ⟨elements', helements', hnodes, hedges⟩, rfl⟩ := valid_of_ofDocument h
  have hsame : elements' = elements := by
    obtain ⟨fields, rfl, hget⟩ := helements
    obtain ⟨_, hfields, hget'⟩ := helements'
    cases hfields
    exact Value.object.inj (Option.some.inj (hget'.symm.trans hget))
  subst hsame
  exact toElements_reordered hv helements' hnodes hedges hcanonical

def callData : Fields :=
  [("method", .str "GET"), ("target", .str "b"), ("label", .str ""), ("id", .str "e"),
    ("source", .str "a"), ("hops", .list [.null, .object [("n", .int 2)]])]

def callElements : Fields :=
  [("edges", .list [.object [("data", .object callData)]]),
    ("nodes", .list [.object [("data", .object [("label", .str "A"), ("id", .str "a")])],
      .object [("data", .object [("id", .str "b"), ("label", .str "b")])]])]

def callGraph : Graph where
  nodes := [⟨"a", "A"⟩, ⟨"b", "b"⟩]
  edges := [⟨"e", "a", "b", "",
    some [("method", .str "GET"), ("hops", .list [.null, .object [("n", .int 2)]])]⟩]

theorem callElements_canonical : Canonical callElements := by
  refine ⟨_, _, .swap _ _ _, ?_, ?_⟩
  · simp only [List.forall_mem_cons, List.not_mem_nil, false_implies, implies_true, and_true]
    exact ⟨⟨_, "a", "A", rfl, .swap _ _ _, by decide⟩, ⟨_, "b", "b", rfl, .refl _, by decide⟩⟩
  · simp only [List.forall_mem_cons, List.not_mem_nil, false_implies, implies_true, and_true]
    exact ⟨callData, "e", "a", "b", "", rfl, rfl, rfl, rfl, rfl⟩

theorem read_again_call :
    ofDocument (.object [("elements", .object callElements)]) = .ok callGraph ∧
      ofDocument callGraph.toDocument = .ok callGraph ∧
      Reordered callGraph.toElements (.object callElements) := by
  have hproper : Value.Proper (.object [("elements", .object callElements)]) := by
    have hnull : Value.null.Proper := Value.proper_plain nofun nofun
    have hint (n : Int) : (Value.int n).Proper := Value.proper_plain nofun nofun
    have hstr (s : String) : (Value.str s).Proper := Value.proper_plain nofun nofun
    simp [Value.proper_object_iff, Value.proper_list_iff, Fields.names, callElements, callData,
      hnull, hint, hstr]
  have hread : ofDocument (.object [("elements", .object callElements)]) = .ok callGraph := rfl
  obtain ⟨hagain, hreordered⟩ := read_again _ _ hproper hread
  exact ⟨hread, hagain, hreordered callElements ⟨_, rfl, rfl⟩ callElements_canonical⟩

end Graph

end DependencyAtlas
