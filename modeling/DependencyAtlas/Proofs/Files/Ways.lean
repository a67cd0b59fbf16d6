import DependencyAtlas.Proofs.Files.Disk
import Mathlib.Data.List.Induction
import Mathlib.Data.List.Infix

/-!
Where paths lead. Which locations a path comes by is known without a look at the store, and what is done to a path
depends on what is at these locations and just above them. In a store that is rooted there is a folder above
everything, and it stays rooted.
-/

namespace DependencyAtlas.Files

namespace Path

def origin (here : Location) (p : Path) : Location :=
  if p.isAbsolute then [] else here

def step (l : Location) (name : String) : Location :=
  if name = ".." then l.dropLast else l ++ [name]

def reach (here : Location) (p : Path) : Location :=
  p.parts.foldl step (p.origin here)

def way (here : Location) (p : Path) : List Location :=
  p.parts.inits.map fun names => names.foldl step (p.origin here)

/-- The locations at which a look is taken for a path. -/
def looks (here : Location) (p : Path) : List Location :=
  (p.way here).flatMap fun l => [l, l.dropLast]

variable {here : Location} {p : Path} {l : Location}

theorem mem_way : l ∈ p.way here ↔ ∃ names, names <+: p.parts ∧ names.foldl step (p.origin here) = l := by
  simp only [way, List.mem_map, List.mem_inits]

theorem reach_mem_way (here : Location) (p : Path) : p.reach here ∈ p.way here :=
  mem_way.mpr ⟨p.parts, List.prefix_refl _, rfl⟩

theorem mem_looks_of_way (h : l ∈ p.way here) : l ∈ p.looks here :=
  List.mem_flatMap.mpr ⟨l, h, List.mem_cons_self⟩

theorem dropLast_mem_looks (h : l ∈ p.way here) : l.dropLast ∈ p.looks here :=
  List.mem_flatMap.mpr ⟨l, h, List.mem_cons_of_mem _ List.mem_cons_self⟩

theorem way_parent (h : l ∈ p.parent.way here) : l ∈ p.way here := by
  obtain ⟨names, hnames, rfl⟩ := mem_way.mp h
  exact mem_way.mpr ⟨names, hnames.trans (List.dropLast_prefix _), rfl⟩

theorem looks_parent (h : l ∈ p.parent.looks here) : l ∈ p.looks here := by
  obtain ⟨above, habove, hl⟩ := List.mem_flatMap.mp h
  exact List.mem_flatMap.mpr ⟨above, way_parent habove, hl⟩

theorem parent_child (p : Path) (name : String) : (p.child name).parent = p := by
  rw [parent, child, List.dropLast_concat]

theorem reach_child {name : String} (hname : name ≠ "..") (here : Location) (p : Path) :
    (p.child name).reach here = p.reach here ++ [name] := by
  rw [reach, child, List.foldl_append, List.foldl_cons, List.foldl_nil, step, if_neg hname]
  rfl

end Path

namespace Disk

variable {d e : Disk} {p : Path} {l : Location}

theorem follow_of_folder (h : d.at? l = some .folder) (name : String) :
    d.follow l name = .ok (Path.step l name) := by
  rw [follow, h]
  rfl

theorem locate_eq_ok_iff : d.locate p = .ok l ↔
    p.reach d.here = l ∧ ∀ names name, names ++ [name] <+: p.parts →
      d.at? (names.foldl Path.step (p.origin d.here)) = some .folder := by
  rw [locate, Path.reach]
  change p.parts.foldlM d.follow (p.origin d.here) = .ok l ↔ _
  generalize p.origin d.here = start
  generalize p.parts = parts
  induction parts generalizing start with
  | nil =>
    refine ⟨fun h => ⟨Except.ok.inj h, fun names name hnames => ?_⟩, fun h => congrArg Except.ok h.1⟩
    cases List.append_ne_nil_of_right_ne_nil names (List.cons_ne_nil name []) (List.prefix_nil.mp hnames)
  | cons first rest ih =>
    rw [List.foldlM_cons, bind_eq_ok_iff, List.foldl_cons]
    constructor
    · rintro ⟨next, hnext, hrest⟩
      obtain ⟨hfolder, rfl⟩ := follow_eq_ok_iff.mp hnext
      obtain ⟨hreach, hfolders⟩ := (ih _).mp hrest
      refine ⟨hreach, fun names name hnames => ?_⟩
      cases names with
      | nil => exact hfolder
      | cons other names =>
        obtain ⟨rfl, htail⟩ := List.cons_prefix_cons.mp hnames
        exact hfolders names name htail
    · rintro ⟨hreach, hfolders⟩
      have hfolder : d.at? start = some .folder := hfolders [] first (List.prefix_append [first] rest)
      refine ⟨_, follow_of_folder hfolder first, (ih _).mpr ⟨hreach, fun names name hnames => ?_⟩⟩
      exact hfolders (first :: names) name (List.cons_prefix_cons.mpr ⟨rfl, hnames⟩)

theorem folder_of_way (h : d.locate p = .ok l) {l' : Location} (hl' : l' ∈ p.way d.here) (hne : l' ≠ l) :
    d.at? l' = some .folder := by
  obtain ⟨rfl, hfolders⟩ := locate_eq_ok_iff.mp h
  obtain ⟨names, ⟨rest, hrest⟩, rfl⟩ := Path.mem_way.mp hl'
  cases rest with
  | nil =>
    rw [List.append_nil] at hrest
    exact absurd (by rw [Path.reach, hrest]) hne
  | cons name rest =>
    refine hfolders names name ⟨rest, ?_⟩
    rw [List.append_assoc, List.singleton_append, hrest]

theorem locate_child {m : Location} (hm : d.locate p = .ok m) (hfolder : d.at? m = some .folder) {name : String}
    (hname : name ≠ "..") : d.locate (p.child name) = .ok (m ++ [name]) := by
  have horigin : (p.child name).isAbsolute = p.isAbsolute := rfl
  rw [locate] at hm ⊢
  rw [horigin, Path.child, List.foldlM_append, bind_eq_ok_iff]
  refine ⟨m, hm, ?_⟩
  rw [List.foldlM_cons, follow_of_folder hfolder, Path.step, if_neg hname]
  rfl

theorem folder_of_isFolder (h : d.isFolder p = true) (hl : l ∈ p.way d.here) : d.at? l = some .folder := by
  obtain ⟨end', hend, hfolder⟩ := isFolder_iff.mp h
  by_cases heq : l = end'
  · rw [heq]
    exact hfolder
  · exact folder_of_way hend hl heq

section

variable (hhere : e.here = d.here)

include hhere

theorem locate_congr (h : ∀ l ∈ p.way d.here, e.at? l = d.at? l) : e.locate p = d.locate p := by
  rw [locate, locate, hhere]
  change p.parts.foldlM e.follow (p.origin d.here) = p.parts.foldlM d.follow (p.origin d.here)
  have hway : ∀ names, names <+: p.parts →
      e.at? (names.foldl Path.step (p.origin d.here)) = d.at? (names.foldl Path.step (p.origin d.here)) :=
    fun names hnames => h _ (Path.mem_way.mpr ⟨names, hnames, rfl⟩)
  revert hway
  generalize p.origin d.here = start
  generalize p.parts = parts
  intro hway
  induction parts generalizing start with
  | nil => rfl
  | cons first rest ih =>
    have hsame : e.follow start first = d.follow start first := by
      rw [follow, follow, show e.at? start = d.at? start from hway [] List.nil_prefix]
    rw [List.foldlM_cons, List.foldlM_cons, hsame]
    cases hnext : d.follow start first with
    | error cause => rfl
    | ok next =>
      obtain ⟨-, rfl⟩ := follow_eq_ok_iff.mp hnext
      exact ih _ fun names hnames => hway (first :: names) (List.cons_prefix_cons.mpr ⟨rfl, hnames⟩)

variable (h : ∀ l ∈ p.looks d.here, e.at? l = d.at? l)

include h

theorem locate_of_looks : e.locate p = d.locate p :=
  locate_congr hhere fun l hl => h l (Path.mem_looks_of_way hl)

omit hhere in
theorem at?_of_located (hl : d.locate p = .ok l) : e.at? l = d.at? l := by
  obtain ⟨rfl, -⟩ := locate_eq_ok_iff.mp hl
  exact h _ (Path.mem_looks_of_way (Path.reach_mem_way _ p))

theorem find?_congr : e.find? p = d.find? p := by
  rw [find?, find?, locate_of_looks hhere h]
  cases hl : d.locate p with
  | error cause => rfl
  | ok l => exact at?_of_located h hl

theorem read_congr : e.read p = d.read p := by
  rw [read, read, locate_of_looks hhere h]
  cases hl : d.locate p with
  | error cause => rfl
  | ok l =>
    dsimp only
    rw [at?_of_located h hl]

theorem place_congr : e.place p = d.place p := by
  rw [place, place, locate_of_looks hhere h]
  cases hl : d.locate p with
  | error cause => rfl
  | ok l =>
    obtain ⟨rfl, -⟩ := locate_eq_ok_iff.mp hl
    dsimp only
    rw [h _ (Path.dropLast_mem_looks (Path.reach_mem_way _ p))]

theorem isFolder_congr : e.isFolder p = d.isFolder p := by
  rw [isFolder, isFolder, find?_congr hhere h]

theorem exists?_congr : e.exists? p = d.exists? p := by
  rw [exists?, exists?, find?_congr hhere h]

theorem absolute_congr : e.absolute p = d.absolute p := by
  rw [absolute, absolute, locate_of_looks hhere h, hhere]

end

structure Rooted (d : Disk) : Prop where
  here : d.at? d.here = some .folder
  above : ∀ l, (d.at? l).isSome → d.at? l.dropLast = some .folder

theorem rooted_empty : Rooted ⟨[], []⟩ := by
  refine ⟨rfl, fun l hl => ?_⟩
  have htop : l = [] := by
    by_contra hne
    rw [at?_eq_lookup hne] at hl
    cases hl
  rw [htop]
  rfl

theorem Rooted.folder_of_prefix (h : d.Rooted) {l l' : Location} (hbelow : l <+: l') (hne : l ≠ l')
    (hthere : (d.at? l').isSome) : d.at? l = some .folder := by
  obtain ⟨rest, rfl⟩ := hbelow
  induction rest using List.reverseRecOn with
  | nil => exact absurd (List.append_nil l).symm hne
  | append_singleton rest name ih =>
    have habove := h.above _ hthere
    rw [← List.append_assoc, List.dropLast_concat] at habove
    by_cases hrest : rest = []
    · rw [hrest, List.append_nil] at habove
      exact habove
    · refine ih (fun hsame => hrest ?_) (by rw [habove]; rfl)
      exact List.append_right_eq_self.mp hsame.symm

theorem place_above (h : d.place p = .ok l) : d.at? l.dropLast = some .folder := by
  rw [place] at h
  split at h
  · cases h
  · split at h
    · cases h
    · cases h
    · next hfolder =>
      obtain rfl := Except.ok.inj h
      exact hfolder

theorem Rooted.folder_of_looks (h : d.Rooted) (hplace : d.place p = .ok l) {l' : Location}
    (hl' : l' ∈ p.looks d.here) : d.at? l' = some .folder ∨ l' = l := by
  obtain ⟨above, habove, hl'⟩ := List.mem_flatMap.mp hl'
  by_cases hend : above = l
  · subst hend
    rcases List.mem_pair.mp hl' with rfl | rfl
    · exact .inr rfl
    · exact .inl (place_above hplace)
  · have hfolder := folder_of_way (place_eq_ok hplace) habove hend
    rcases List.mem_pair.mp hl' with rfl | rfl
    · exact .inl hfolder
    · exact .inl (h.above above (by rw [hfolder]; rfl))

namespace Rooted

variable (h : d.Rooted)

include h

theorem put (hnot : d.at? l ≠ some .folder) (habove : d.at? l.dropLast = some .folder) (item : Item) :
    (d.put l item).Rooted := by
  have hne := ne_nil_of_not_folder hnot
  have hkept {l' : Location} (hfolder : d.at? l' = some .folder) : (d.put l item).at? l' = some .folder :=
    folder_put hnot item hfolder
  constructor
  · rw [here_put]
    exact hkept h.here
  · intro l' hthere
    rw [at?_put hne] at hthere
    split at hthere
    · next heq => exact hkept (heq ▸ habove)
    · exact hkept (h.above l' hthere)

theorem makeFolder (hmade : d.makeFolder p = .ok e) : e.Rooted := by
  rw [Disk.makeFolder, bind_eq_ok_iff] at hmade
  obtain ⟨l, hplace, hmade⟩ := hmade
  split at hmade
  · cases hmade
  · next hnone =>
    obtain rfl := Except.ok.inj hmade
    exact h.put (not_folder_of_none hnone) (place_above hplace) _

theorem write {text : String} (hwritten : d.write p text = .ok e) : e.Rooted := by
  rw [Disk.write, bind_eq_ok_iff] at hwritten
  obtain ⟨l, hplace, hwritten⟩ := hwritten
  split at hwritten
  · cases hwritten
  · next hnot =>
    obtain rfl := Except.ok.inj hwritten
    exact h.put hnot (place_above hplace) _

theorem unlink (hunlinked : d.unlink p = .ok e) : e.Rooted := by
  rw [Disk.unlink] at hunlinked
  split at hunlinked
  · obtain rfl := Except.ok.inj hunlinked
    exact h
  · cases hunlinked
  · next l hl =>
    split at hunlinked
    · obtain rfl := Except.ok.inj hunlinked
      exact h
    · cases hunlinked
    · next text hfile =>
      obtain rfl := Except.ok.inj hunlinked
      have hnot : d.at? l ≠ some .folder := by
        simp only [hfile, ne_eq, Option.some.injEq, reduceCtorEq, not_false_eq_true]
      have hne : l ≠ [] := ne_nil_of_not_folder hnot
      -- Nothing is below a file, and so no folder goes away with it.
      have hkept {l' : Location} (hfolder : d.at? l' = some .folder) : (d.drop l).at? l' = some .folder := by
        by_cases hl' : l' = []
        · rw [hl']
          rfl
        rw [at?_eq_lookup hl', drop, lookup_filter _ fun key => !l.isPrefixOf key, if_pos,
          ← at?_eq_lookup hl', hfolder]
        rw [Bool.not_eq_true', Bool.eq_false_iff]
        intro hbelow
        have hnofile : l ≠ l' := by
          rintro rfl
          cases hfile.symm.trans hfolder
        have hfolder' := h.folder_of_prefix (List.isPrefixOf_iff_prefix.mp hbelow) hnofile (by rw [hfolder]; rfl)
        cases hfile.symm.trans hfolder'
      refine ⟨hkept h.here, fun l' hthere => ?_⟩
      obtain ⟨item, hitem⟩ := Option.isSome_iff_exists.mp hthere
      exact hkept (h.above l' (by rw [(at?_of_drop hne hitem).1]; rfl))

theorem makeFolders (hmade : d.makeFolders p = .ok e) : e.Rooted :=
  makeFoldersFrom_ind (R := fun d e => d.Rooted → e.Rooted) (P := fun _ => True) (fun _ => id)
    (fun hde hef => hef ∘ hde) id (fun _ hmade hd => hd.makeFolder hmade) trivial hmade h

end Rooted

end Disk

end DependencyAtlas.Files
