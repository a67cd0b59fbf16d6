import DependencyAtlas.Proofs.Graph.Documents

namespace DependencyAtlas

def Kind.isWalkable : Kind → Bool
  | list | str | object => true
  | _ => false

namespace Graph

def OnlyDefects {α : Type} (x : Except Refusal α) : Prop :=
  ∀ m, x ≠ .error (.misuse m)

section

variable {α β : Type} {x : Except Refusal α} {next : α → Except Refusal β}

theorem onlyDefects_ok (a : α) : OnlyDefects (.ok a) := nofun

theorem onlyDefects_defect (d : Defect) : OnlyDefects (.error (.defect d) : Except Refusal α) :=
  nofun

theorem OnlyDefects.bind (hx : OnlyDefects x) (hnext : ∀ a, OnlyDefects (next a)) :
    OnlyDefects (x >>= next) := by
  intro m h
  rcases bind_eq_error_iff.mp h with hfirst | ⟨a, -, hsecond⟩
  · exact hx m hfirst
  · exact hnext a m hsecond

theorem onlyDefects_unless {c : Prop} [Decidable c] (d : Defect) {rest : α → Except Refusal β}
    {y : Except Refusal β} (hy : OnlyDefects y) :
    OnlyDefects (if c then throw (.defect d) >>= rest else y) := by
  split
  · exact onlyDefects_defect d
  · exact hy

end

theorem held_onlyDefects (name : String) (otherwise : Defect) (v : Value) :
    OnlyDefects (held name otherwise v) := by
  cases v with
  | object fields =>
    simp only [held]
    split
    · exact onlyDefects_ok _
    · exact onlyDefects_defect _
  | _ => exact onlyDefects_defect _

theorem required_onlyDefects (part : Element) (data : Fields) (field : String) :
    OnlyDefects (required part data field) := by
  rw [required]
  split
  · exact onlyDefects_defect _
  · exact onlyDefects_defect _
  · exact onlyDefects_defect _
  · exact onlyDefects_ok _

theorem readNode_onlyDefects (taken : List String) (entry : Value) :
    OnlyDefects (readNode taken entry) := by
  apply (held_onlyDefects _ _ entry).bind
  intro data
  apply (required_onlyDefects _ data "id").bind
  intro id
  exact onlyDefects_unless _ (onlyDefects_ok _)

theorem readEdge_onlyDefects (nodes taken : List String) (entry : Value) :
    OnlyDefects (readEdge nodes taken entry) := by
  apply (held_onlyDefects _ _ entry).bind
  intro data
  apply (required_onlyDefects _ data "id").bind
  intro id
  apply (required_onlyDefects _ data "source").bind
  intro source
  apply (required_onlyDefects _ data "target").bind
  intro target
  apply onlyDefects_unless
  apply onlyDefects_unless
  apply onlyDefects_unless
  exact onlyDefects_ok _

section

variable {α : Type} {read : List String → Value → Except Refusal α} {idOf : α → String}

theorem readAll_onlyDefects (hread : ∀ taken entry, OnlyDefects (read taken entry))
    (taken : List String) (entries : List Value) :
    OnlyDefects (readAll read idOf taken entries) := by
  induction entries generalizing taken with
  | nil => exact onlyDefects_ok _
  | cons entry rest ih =>
    apply (hread taken entry).bind
    intro item
    apply (ih _).bind
    intro items
    exact onlyDefects_ok _

def Unwalkable (elements : Fields) (name : String) : Prop :=
  ∃ v, elements.get? name = some v ∧ v.truthy = true ∧ v.kind.isWalkable = false

theorem entries_eq_error_iff {elements : Fields} {name : String} {r : Refusal} :
    entries elements name = .error r ↔
      ∃ v, elements.get? name = some v ∧ v.truthy = true ∧ v.kind.isWalkable = false ∧
        r = .misuse (.notIterable v.kind) := by
  constructor
  · intro h
    rw [entries] at h
    rcases hget : elements.get? name with _ | v
    · rw [hget] at h
      cases h
    rw [hget] at h
    dsimp only at h
    by_cases htruthy : v.truthy = true
    · rw [if_pos htruthy] at h
      refine ⟨v, rfl, htruthy, ?_⟩
      cases v with
      | list | str | object => cases h
      | moment m =>
        cases h
        cases m <;> exact ⟨rfl, rfl⟩
      | _ =>
        cases h
        exact ⟨rfl, rfl⟩
    · rw [if_neg htruthy] at h
      cases h
  · rintro ⟨v, hget, htruthy, hkind, rfl⟩
    rw [entries, hget]
    dsimp only
    rw [if_pos htruthy]
    cases v with
    | list | str | object => cases hkind
    | _ => rfl

theorem readUnder_misuse_iff (hread : ∀ taken entry, OnlyDefects (read taken entry))
    {name : String} {elements : Fields} :
    (∃ m, readUnder name read idOf elements = .error (.misuse m)) ↔ Unwalkable elements name := by
  constructor
  · rintro ⟨m, h⟩
    rcases bind_eq_error_iff.mp h with hentries | ⟨items, -, hitems⟩
    · obtain ⟨v, hget, htruthy, hkind, -⟩ := entries_eq_error_iff.mp hentries
      exact ⟨v, hget, htruthy, hkind⟩
    · exact absurd hitems (readAll_onlyDefects hread [] items m)
  · rintro ⟨v, hget, htruthy, hkind⟩
    have hentries := entries_eq_error_iff.mpr ⟨v, hget, htruthy, hkind, rfl⟩
    exact ⟨_, bind_eq_error_iff.mpr (.inl hentries)⟩

end

/-- The document has elements, but its nodes cannot be walked through, or its nodes are all right and its
edges cannot. -/
def Stuck (v : Value) : Prop :=
  ∃ elements, Holds v "elements" elements ∧
    (Unwalkable elements "nodes" ∨
      (∃ nodes, Parts elements "nodes" (Given "id") nodes) ∧ Unwalkable elements "edges")

theorem ofDocument_misuse_iff (v : Value) :
    (∃ m, ofDocument v = .error (.misuse m)) ↔ Stuck v := by
  constructor
  · rintro ⟨m, h⟩
    rcases bind_eq_error_iff.mp h with h | ⟨elements, helements, h⟩
    · exact absurd h (held_onlyDefects _ _ v m)
    refine ⟨elements, held_eq_ok_iff.mp helements, ?_⟩
    rcases bind_eq_error_iff.mp h with h | ⟨nodes, hnodes, h⟩
    · exact .inl ((readUnder_misuse_iff readNode_onlyDefects).mp ⟨m, h⟩)
    obtain ⟨datas, hdatas, -⟩ := nodesIn_eq_ok_iff.mp hnodes
    rcases bind_eq_error_iff.mp h with h | ⟨edges, -, h⟩
    · exact .inr ⟨⟨datas, hdatas⟩, (readUnder_misuse_iff (readEdge_onlyDefects _)).mp ⟨m, h⟩⟩
    · cases h
  · rintro ⟨elements, helements, hstuck⟩
    replace helements : elementsOf v = .ok elements := held_eq_ok_iff.mpr helements
    rcases hstuck with hnodes | ⟨⟨datas, hdatas⟩, hedges⟩
    · obtain ⟨m, hm⟩ := (readUnder_misuse_iff readNode_onlyDefects).mpr hnodes
      refine ⟨m, bind_eq_error_iff.mpr (.inr ⟨elements, helements, ?_⟩)⟩
      exact bind_eq_error_iff.mpr (.inl hm)
    · have hnodes := nodesIn_eq_ok_iff.mpr ⟨datas, hdatas, rfl⟩
      obtain ⟨m, hm⟩ := (readUnder_misuse_iff (readEdge_onlyDefects _)).mpr hedges
      refine ⟨m, bind_eq_error_iff.mpr (.inr ⟨elements, helements, ?_⟩)⟩
      refine bind_eq_error_iff.mpr (.inr ⟨_, hnodes, ?_⟩)
      exact bind_eq_error_iff.mpr (.inl hm)

theorem ofDocument_cases {v : Value} (h : ¬ Stuck v) :
    (∃ g, ofDocument v = .ok g) ∨ ∃ d, ofDocument v = .error (.defect d) := by
  rw [← ofDocument_misuse_iff] at h
  rcases hread : ofDocument v with (d | m) | g
  · exact .inr ⟨d, rfl⟩
  · exact absurd ⟨m, hread⟩ h
  · exact .inl ⟨g, rfl⟩

end Graph

end DependencyAtlas
