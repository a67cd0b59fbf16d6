import DependencyAtlas.Graph.Elements
import DependencyAtlas.Proofs.Results
import Mathlib.Data.List.Nodup

namespace DependencyAtlas

namespace Graph

def Holds (v : Value) (name : String) (inner : Fields) : Prop :=
  ∃ fields : Fields, v = .object fields ∧ fields.get? name = some (.object inner)

/-- The field is a list, or is absent or counts as no. -/
def Lists (elements : Fields) (name : String) (entries : List Value) : Prop :=
  elements.get? name = some (.list entries) ∨
    entries = [] ∧ ∀ v, elements.get? name = some v → v.truthy = false

def Given (field : String) (data : Fields) : Prop :=
  ∃ v, data.get? field = some v ∧ v ≠ .null ∧ v ≠ .str ""

def textOf (field : String) (data : Fields) : String :=
  ((data.get? field).map Value.text).getD ""

def labelText (other : String) (data : Fields) : String :=
  ((data.get? "label").filter Value.truthy).elim other Value.text

def restOf (data : Fields) : Fields :=
  data.filter fun field => field.1 ∉ ["id", "source", "target", "label"]

def nodeOf (data : Fields) : Node where
  id := textOf "id" data
  label := labelText (textOf "id" data) data

def edgeOf (data : Fields) : Edge where
  id := textOf "id" data
  source := textOf "source" data
  target := textOf "target" data
  label := labelText "" data
  extra := if restOf data = [] then none else some (restOf data)

structure Links (nodes : List String) (data : Fields) : Prop where
  id : Given "id" data
  source : Given "source" data
  target : Given "target" data
  other : textOf "id" data ∉ nodes
  sourceKnown : textOf "source" data ∈ nodes
  targetKnown : textOf "target" data ∈ nodes

theorem held_eq_ok_iff {name : String} {otherwise : Defect} {v : Value} {inner : Fields} :
    held name otherwise v = .ok inner ↔ Holds v name inner := by
  constructor
  · intro h
    cases v with
    | object fields =>
      simp only [held] at h
      split at h
      · next hget =>
        cases h
        exact ⟨fields, rfl, hget⟩
      · cases h
    | _ => cases h
  · rintro ⟨fields, rfl, hget⟩
    simp only [held, hget]

theorem required_of_given {part : Element} {data : Fields} {field : String} {v : Value}
    (hget : data.get? field = some v) (hnull : v ≠ .null) (hempty : v ≠ .str "") :
    required part data field = .ok v.text := by
  rw [required, hget]
  split
  · next h => cases h
  · next h => exact absurd (Option.some.inj h) hnull
  · next h => exact absurd (Option.some.inj h) hempty
  · next h => rw [Option.some.inj h]

theorem required_eq_ok_iff {part : Element} {data : Fields} {field text : String} :
    required part data field = .ok text ↔ Given field data ∧ textOf field data = text := by
  constructor
  · intro h
    rw [required] at h
    split at h
    · cases h
    · cases h
    · cases h
    · next v hnull hempty hget =>
      cases h
      refine ⟨⟨v, hget, hnull, hempty⟩, ?_⟩
      rw [textOf, hget, Option.map_some, Option.getD_some]
  · rintro ⟨⟨v, hget, hnull, hempty⟩, rfl⟩
    rw [required_of_given hget hnull hempty, textOf, hget, Option.map_some, Option.getD_some]

theorem labelOr_eq (other : String) (data : Fields) : labelOr other data = labelText other data := by
  rw [labelOr, labelText]
  rcases data.get? "label" with _ | v
  · rfl
  · by_cases h : v.truthy = true
    · simp only [h, if_true, Option.filter_some, Option.elim_some]
    · rw [Option.filter_some, if_neg h]
      exact if_neg h

theorem extraOf_eq (data : Fields) :
    extraOf data = if restOf data = [] then none else some (restOf data) := by
  have hrest : data.without edgeFields = restOf data := by
    rw [Fields.without, restOf]
    apply List.filter_congr
    intro field _
    simp only [edgeFields, List.contains_eq_mem, decide_not]
  rw [extraOf, hrest]
  rcases restOf data with _ | ⟨field, rest⟩ <;> rfl

theorem readNode_eq_ok_iff {taken : List String} {entry : Value} {n : Node} :
    readNode taken entry = .ok n ↔
      ∃ data, Holds entry "data" data ∧ Given "id" data ∧ textOf "id" data ∉ taken ∧
        nodeOf data = n := by
  simp only [readNode, bind_eq_ok_iff, unless_throw_eq_ok_iff, dataOf, held_eq_ok_iff, required_eq_ok_iff,
    List.contains_eq_mem, decide_eq_true_iff, labelOr_eq]
  constructor
  · rintro ⟨data, hdata, _, ⟨hgiven, rfl⟩, hfresh, hnode⟩
    exact ⟨data, hdata, hgiven, hfresh, Except.ok.inj hnode⟩
  · rintro ⟨data, hdata, hgiven, hfresh, rfl⟩
    exact ⟨data, hdata, _, ⟨hgiven, rfl⟩, hfresh, rfl⟩

theorem readEdge_eq_ok_iff {nodes taken : List String} {entry : Value} {e : Edge} :
    readEdge nodes taken entry = .ok e ↔
      ∃ data, Holds entry "data" data ∧
        Links nodes data ∧ textOf "id" data ∉ taken ∧ edgeOf data = e := by
  simp only [readEdge, bind_eq_ok_iff, unless_throw_eq_ok_iff, dataOf, held_eq_ok_iff, required_eq_ok_iff,
    List.contains_eq_mem, labelOr_eq, extraOf_eq, Bool.or_eq_true, Bool.not_eq_true',
    decide_eq_true_iff, decide_eq_false_iff_not, not_or, not_not]
  constructor
  · rintro ⟨data, hdata, _, ⟨hid, rfl⟩, _, ⟨hsource, rfl⟩, _, ⟨htarget, rfl⟩, ⟨hother, hfresh⟩,
      hfrom, hto, hedge⟩
    exact ⟨data, hdata, ⟨hid, hsource, htarget, hother, hfrom, hto⟩, hfresh, Except.ok.inj hedge⟩
  · rintro ⟨data, hdata, ⟨hid, hsource, htarget, hother, hfrom, hto⟩, hfresh, rfl⟩
    exact ⟨data, hdata, _, ⟨hid, rfl⟩, _, ⟨hsource, rfl⟩, _, ⟨htarget, rfl⟩, ⟨hother, hfresh⟩, hfrom,
      hto, rfl⟩

section

variable {α : Type} {read : List String → Value → Except Refusal α} {idOf : α → String}
  {Fit : Fields → Prop} {make : Fields → α}

theorem readAll_eq_ok_iff
    (hread : ∀ {taken entry a}, read taken entry = .ok a ↔
      ∃ data, Holds entry "data" data ∧ Fit data ∧ textOf "id" data ∉ taken ∧ make data = a)
    (hid : ∀ data, idOf (make data) = textOf "id" data)
    {taken : List String} {entries : List Value} {items : List α} :
    readAll read idOf taken entries = .ok items ↔
      ∃ datas, List.Forall₂ (Holds · "data") entries datas ∧ (∀ data ∈ datas, Fit data) ∧
        (datas.map (textOf "id")).Nodup ∧ (∀ data ∈ datas, textOf "id" data ∉ taken) ∧
        datas.map make = items := by
  induction entries generalizing taken items with
  | nil =>
    constructor
    · intro h
      cases h
      exact ⟨[], .nil, nofun, List.nodup_nil, nofun, rfl⟩
    · rintro ⟨_, hdatas, -, -, -, rfl⟩
      cases hdatas
      rfl
  | cons entry rest ih =>
    simp only [readAll, bind_eq_ok_iff, hread, ih]
    constructor
    · rintro ⟨_, ⟨data, hdata, hfit, hfresh, rfl⟩, _,
        ⟨datas, hdatas, hfits, hnodup, hfreshes, rfl⟩, hitems⟩
      rw [hid] at hfreshes
      refine ⟨data :: datas, .cons hdata hdatas, List.forall_mem_cons.mpr ⟨hfit, hfits⟩, ?_,
        List.forall_mem_cons.mpr ⟨hfresh, ?_⟩, Except.ok.inj hitems⟩
      -- The id is taken when the rest is read, so it does not come again.
      · refine List.nodup_cons.mpr ⟨fun hmem => ?_, hnodup⟩
        obtain ⟨other, hother, hsame⟩ := List.mem_map.mp hmem
        apply hfreshes other hother
        rw [hsame]
        exact List.mem_cons_self
      · intro other hother hmem
        exact hfreshes other hother (List.mem_cons_of_mem _ hmem)
    · rintro ⟨_, hdatas, hfits, hnodup, hfreshes, rfl⟩
      cases hdatas with
      | @cons _ data _ datas hdata hdatas =>
        obtain ⟨hnew, hnodup⟩ := List.nodup_cons.mp hnodup
        obtain ⟨hfit, hfits⟩ := List.forall_mem_cons.mp hfits
        obtain ⟨hfresh, hfreshes⟩ := List.forall_mem_cons.mp hfreshes
        refine ⟨_, ⟨data, hdata, hfit, hfresh, rfl⟩, _,
          ⟨datas, hdatas, hfits, hnodup, ?_, rfl⟩, rfl⟩
        intro other hother hmem
        rw [hid] at hmem
        rcases List.mem_cons.mp hmem with hsame | htaken
        · exact hnew (List.mem_map.mpr ⟨other, hother, hsame⟩)
        · exact hfreshes other hother htaken

theorem entries_of_lists {elements : Fields} {name : String} {items : List Value}
    (h : Lists elements name items) : entries elements name = .ok items := by
  rw [entries]
  rcases h with hlist | ⟨rfl, hfalsy⟩
  · rw [hlist]
    rcases items with _ | ⟨item, rest⟩ <;> rfl
  · rcases hget : elements.get? name with _ | v
    · rfl
    · simp only [hfalsy v hget, Bool.false_eq_true, if_false]

theorem eq_nil_of_texts {α : Type} {texts : List α} {textOf : α → String} {datas : List Fields}
    (h : List.Forall₂ (Holds · "data") (texts.map fun a => .str (textOf a)) datas) : texts = [] := by
  rcases texts with _ | ⟨a, rest⟩
  · rfl
  · cases h with
    | cons hholds _ =>
      obtain ⟨_, hobject, -⟩ := hholds
      cases hobject

theorem lists_of_entries {elements : Fields} {name : String} {items : List Value}
    {datas : List Fields} (h : entries elements name = .ok items)
    (hdatas : List.Forall₂ (Holds · "data") items datas) : Lists elements name items := by
  rw [entries] at h
  rcases hget : elements.get? name with _ | v
  · rw [hget] at h
    cases h
    refine .inr ⟨rfl, fun v hv => ?_⟩
    rw [hget] at hv
    cases hv
  rw [hget] at h
  dsimp only at h
  by_cases htruthy : v.truthy = true
  · rw [if_pos htruthy] at h
    cases v with
    | list entries =>
      cases h
      exact .inl hget
    | str s =>
      cases h
      rw [String.toList_eq_nil_iff.mp (eq_nil_of_texts hdatas)] at htruthy
      cases htruthy
    | object inner =>
      cases h
      rw [eq_nil_of_texts hdatas] at htruthy
      cases htruthy
    | _ => cases h
  · rw [if_neg htruthy] at h
    cases h
    refine .inr ⟨rfl, fun w hw => ?_⟩
    rw [hget] at hw
    cases hw
    exact Bool.eq_false_iff.mpr htruthy

structure Parts (elements : Fields) (name : String) (Fit : Fields → Prop) (datas : List Fields) :
    Prop where
  listed : ∃ entries, Lists elements name entries ∧ List.Forall₂ (Holds · "data") entries datas
  fit : ∀ data ∈ datas, Fit data
  distinct : (datas.map (textOf "id")).Nodup

theorem readUnder_eq_ok_iff
    (hread : ∀ {taken entry a}, read taken entry = .ok a ↔
      ∃ data, Holds entry "data" data ∧ Fit data ∧ textOf "id" data ∉ taken ∧ make data = a)
    (hid : ∀ data, idOf (make data) = textOf "id" data)
    {name : String} {elements : Fields} {items : List α} :
    readUnder name read idOf elements = .ok items ↔
      ∃ datas, Parts elements name Fit datas ∧ datas.map make = items := by
  simp only [readUnder, bind_eq_ok_iff, readAll_eq_ok_iff hread hid]
  constructor
  · rintro ⟨entries, hentries, datas, hdatas, hfit, hdistinct, -, hitems⟩
    exact ⟨datas, ⟨⟨entries, lists_of_entries hentries hdatas, hdatas⟩, hfit, hdistinct⟩, hitems⟩
  · rintro ⟨datas, ⟨⟨entries, hlists, hdatas⟩, hfit, hdistinct⟩, hitems⟩
    exact ⟨entries, entries_of_lists hlists, datas, hdatas, hfit, hdistinct,
      fun _ _ => List.not_mem_nil, hitems⟩

end

theorem nodesIn_eq_ok_iff {elements : Fields} {nodes : List Node} :
    nodesIn elements = .ok nodes ↔
      ∃ datas, Parts elements "nodes" (Given "id") datas ∧ datas.map nodeOf = nodes :=
  readUnder_eq_ok_iff readNode_eq_ok_iff fun _ => rfl

theorem edgesIn_eq_ok_iff {ids : List String} {elements : Fields} {edges : List Edge} :
    edgesIn ids elements = .ok edges ↔
      ∃ datas, Parts elements "edges" (Links ids) datas ∧ datas.map edgeOf = edges :=
  readUnder_eq_ok_iff readEdge_eq_ok_iff fun _ => rfl

/-- The document is valid, and these are the data of its nodes and of its edges. -/
def Valid (v : Value) (nodes edges : List Fields) : Prop :=
  ∃ elements, Holds v "elements" elements ∧ Parts elements "nodes" (Given "id") nodes ∧
    Parts elements "edges" (Links (nodes.map (textOf "id"))) edges

theorem nodeIds_of_datas (datas : List Fields) :
    (datas.map nodeOf).map Node.id = datas.map (textOf "id") := by
  rw [List.map_map]
  rfl

theorem valid_of_ofDocument {v : Value} {g : Graph} (h : ofDocument v = .ok g) :
    ∃ nodes edges, Valid v nodes edges ∧ g = ⟨nodes.map nodeOf, edges.map edgeOf⟩ := by
  simp only [ofDocument, bind_eq_ok_iff, elementsOf, held_eq_ok_iff, nodesIn_eq_ok_iff,
    edgesIn_eq_ok_iff] at h
  obtain ⟨elements, helements, _, ⟨nodes, hnodes, rfl⟩, _, ⟨edges, hedges, rfl⟩, hgraph⟩ := h
  rw [nodeIds_of_datas] at hedges
  exact ⟨nodes, edges, ⟨elements, helements, hnodes, hedges⟩, (Except.ok.inj hgraph).symm⟩

theorem ofDocument_of_valid {v : Value} {nodes edges : List Fields} (h : Valid v nodes edges) :
    ofDocument v = .ok ⟨nodes.map nodeOf, edges.map edgeOf⟩ := by
  obtain ⟨elements, helements, hnodes, hedges⟩ := h
  simp only [ofDocument, bind_eq_ok_iff, elementsOf, held_eq_ok_iff, nodesIn_eq_ok_iff,
    edgesIn_eq_ok_iff]
  rw [← nodeIds_of_datas] at hedges
  exact ⟨elements, helements, _, ⟨nodes, hnodes, rfl⟩, _, ⟨edges, hedges, rfl⟩, rfl⟩

theorem ofDocument_eq_ok_iff (v : Value) (g : Graph) :
    ofDocument v = .ok g ↔
      ∃ nodes edges, Valid v nodes edges ∧ g = ⟨nodes.map nodeOf, edges.map edgeOf⟩ := by
  constructor
  · exact valid_of_ofDocument
  · rintro ⟨nodes, edges, hvalid, rfl⟩
    exact ofDocument_of_valid hvalid

end Graph

end DependencyAtlas
