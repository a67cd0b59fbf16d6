import DependencyAtlas.Files.Disk
import DependencyAtlas.Proofs.Lookup
import DependencyAtlas.Proofs.Results

namespace DependencyAtlas.Files.Disk

variable {d e : Disk} {p : Path} {l : Location} {item : Item}

theorem at?_eq_lookup (h : l ≠ []) (d : Disk) : d.at? l = d.items.lookup l := by
  rw [at?, if_neg h]

theorem at?_put (h : l ≠ []) (d : Disk) (item : Item) (l' : Location) :
    (d.put l item).at? l' = if l' = l then some item else d.at? l' := by
  by_cases hl : l' = []
  · rw [if_neg (hl ▸ h.symm), at?, at?, if_pos hl, if_pos hl]
  rw [at?_eq_lookup hl, at?_eq_lookup hl, put]
  cases hlookup : d.items.lookup l with
  | some old =>
    dsimp only [Option.isSome_some]
    rw [if_pos rfl, lookup_replaced, hlookup, Option.map_some]
  | none =>
    dsimp only [Option.isSome_none]
    rw [if_neg Bool.false_ne_true, List.lookup_append]
    by_cases heq : l' = l
    · rw [if_pos heq, heq, hlookup, List.lookup_cons_self, Option.none_or]
    · rw [if_neg heq, lookup_cons_of_ne heq, List.lookup_nil, Option.or_none]

structure Grows (d e : Disk) : Prop where
  here : e.here = d.here
  folder : ∀ l, d.at? l = some .folder → e.at? l = some .folder
  file : ∀ l text, d.at? l = some (.file text) → ∃ text', e.at? l = some (.file text')

theorem Grows.refl (d : Disk) : d.Grows d :=
  ⟨rfl, fun _ => id, fun _ text h => ⟨text, h⟩⟩

theorem Grows.trans {f : Disk} (h : d.Grows e) (h' : e.Grows f) : d.Grows f := by
  refine ⟨h'.here.trans h.here, fun l hl => h'.folder l (h.folder l hl), fun l text hl => ?_⟩
  obtain ⟨text', hl'⟩ := h.file l text hl
  exact h'.file l text' hl'

theorem Grows.there (h : d.Grows e) (l : Location) (hl : (d.at? l).isSome) : (e.at? l).isSome := by
  rcases hitem : d.at? l with _ | _ | text
  · rw [hitem] at hl
    cases hl
  · rw [h.folder l hitem]
    rfl
  · obtain ⟨text', hl'⟩ := h.file l text hitem
    rw [hl']
    rfl

theorem follow_eq_ok_iff {name : String} {l' : Location} : d.follow l name = .ok l' ↔
    d.at? l = some .folder ∧ l' = if name = ".." then l.dropLast else l ++ [name] := by
  rw [follow]
  split
  · simp_all
  · simp_all
  · simp_all [eq_comm]

theorem locate_of_folders (hhere : e.here = d.here)
    (hfolders : ∀ l, d.at? l = some .folder → e.at? l = some .folder) (h : d.locate p = .ok l) :
    e.locate p = .ok l := by
  rw [locate] at h ⊢
  rw [hhere]
  generalize (if p.isAbsolute then [] else d.here) = start at h ⊢
  generalize p.parts = names at h ⊢
  induction names generalizing start with
  | nil => exact h
  | cons name rest ih =>
    rw [List.foldlM_cons, bind_eq_ok_iff] at h ⊢
    obtain ⟨next, hnext, hrest⟩ := h
    obtain ⟨hfolder, heq⟩ := follow_eq_ok_iff.mp hnext
    exact ⟨next, follow_eq_ok_iff.mpr ⟨hfolders _ hfolder, heq⟩, ih next hrest⟩

theorem isFile_iff : d.isFile p = true ↔ ∃ text, d.find? p = some (.file text) := by
  rw [isFile]
  rcases d.find? p with _ | _ | text
  · exact ⟨nofun, nofun⟩
  · exact ⟨nofun, nofun⟩
  · exact ⟨fun _ => ⟨text, rfl⟩, fun _ => rfl⟩

theorem Grows.isFile (h : d.Grows e) (hp : d.isFile p = true) : e.isFile p = true := by
  rw [isFile_iff, find?] at hp
  obtain ⟨text, hfile⟩ := hp
  rcases hl : d.locate p with cause | l
  · rw [hl] at hfile
    cases hfile
  · rw [hl] at hfile
    obtain ⟨text', hfile'⟩ := h.file l text hfile
    rw [isFile_iff, find?, locate_of_folders h.here h.folder hl]
    exact ⟨text', hfile'⟩

theorem isFolder_iff : d.isFolder p = true ↔ ∃ l, d.locate p = .ok l ∧ d.at? l = some .folder := by
  rw [isFolder, beq_iff_eq, find?]
  cases d.locate p with
  | error cause => exact ⟨nofun, nofun⟩
  | ok l => exact ⟨fun h => ⟨l, rfl, h⟩, fun ⟨_, hl, h⟩ => Except.ok.inj hl ▸ h⟩

theorem Grows.isFolder (h : d.Grows e) (hp : d.isFolder p = true) : e.isFolder p = true := by
  obtain ⟨l, hl, hfolder⟩ := isFolder_iff.mp hp
  exact isFolder_iff.mpr ⟨l, locate_of_folders h.here h.folder hl, h.folder l hfolder⟩

theorem Grows.exists? (h : d.Grows e) (hp : d.exists? p = true) : e.exists? p = true := by
  rw [Disk.exists?, find?] at hp ⊢
  cases hl : d.locate p with
  | error cause =>
    rw [hl] at hp
    cases hp
  | ok l =>
    rw [hl] at hp
    rw [locate_of_folders h.here h.folder hl]
    exact h.there l hp

theorem ne_nil_of_not_folder (h : d.at? l ≠ some .folder) : l ≠ [] := by
  rintro rfl
  exact h rfl

theorem here_put (d : Disk) (l : Location) (item : Item) : (d.put l item).here = d.here := by
  rw [put]
  split <;> rfl

theorem not_folder_of_none (h : d.at? l = none) : d.at? l ≠ some .folder := by
  rw [h]
  exact Option.some_ne_none _ ∘ Eq.symm

theorem folder_put (h : d.at? l ≠ some .folder) (item : Item) {l' : Location} (hfolder : d.at? l' = some .folder) :
    (d.put l item).at? l' = some .folder := by
  rw [at?_put (ne_nil_of_not_folder h), if_neg]
  · exact hfolder
  · rintro rfl
    exact h hfolder

theorem grows_put_new (h : d.at? l = none) (item : Item) : d.Grows (d.put l item) := by
  have hnot := not_folder_of_none h
  refine ⟨here_put d l item, fun _ => folder_put hnot item, fun l' text hfile => ⟨text, ?_⟩⟩
  rw [at?_put (ne_nil_of_not_folder hnot), if_neg]
  · exact hfile
  · rintro rfl
    cases h.symm.trans hfile

theorem grows_put_file (h : d.at? l ≠ some .folder) (text : String) : d.Grows (d.put l (.file text)) := by
  refine ⟨here_put d l _, fun _ => folder_put h _, fun l' old hfile => ?_⟩
  rw [at?_put (ne_nil_of_not_folder h)]
  split
  · exact ⟨text, rfl⟩
  · exact ⟨old, hfile⟩

theorem place_eq_ok (h : d.place p = .ok l) : d.locate p = .ok l := by
  rw [place] at h
  split at h
  · cases h
  · next l' hl =>
    split at h
    · cases h
    · cases h
    · obtain rfl := Except.ok.inj h
      exact hl

theorem makeFolder_grows (h : d.makeFolder p = .ok e) : d.Grows e := by
  rw [makeFolder, bind_eq_ok_iff] at h
  obtain ⟨l, -, h⟩ := h
  split at h
  · cases h
  · next hnone =>
    obtain rfl := Except.ok.inj h
    exact grows_put_new hnone _

theorem of_isFolder {fault : Fault} (h : (if d.isFolder p then .ok d else .error fault) = Except.ok e) :
    e = d := by
  split at h
  · exact (Except.ok.inj h).symm
  · cases h

theorem makeFoldersFrom_ind {R : Disk → Disk → Prop} {P : Path → Prop} (hrefl : ∀ d, R d d)
    (htrans : ∀ {d e f}, R d e → R e f → R d f) (hparent : ∀ {q}, P q → P q.parent)
    (hmake : ∀ {d q e}, P q → d.makeFolder q = .ok e → R d e) (hp : P p) {levels : Nat}
    (h : makeFoldersFrom levels d p = .ok e) : R d e := by
  induction levels generalizing d e p with
  | zero =>
    rw [makeFoldersFrom] at h
    split at h
    · next hmade =>
      obtain rfl := Except.ok.inj h
      exact hmake hp hmade
    · split at h
      · next hlevels => cases hlevels
      · rw [of_isFolder h]
        exact hrefl d
  | succ levels ih =>
    rw [makeFoldersFrom] at h
    split at h
    · next hmade =>
      obtain rfl := Except.ok.inj h
      exact hmake hp hmade
    · split at h
      · next hlevels =>
        obtain rfl := Nat.succ.inj hlevels
        split at h
        · cases h
        · obtain ⟨above, habove, h⟩ := bind_eq_ok_iff.mp h
          apply htrans (ih (hparent hp) habove)
          split at h
          · next hmade =>
            obtain rfl := Except.ok.inj h
            exact hmake hp hmade
          · rw [of_isFolder h]
            exact hrefl above
      · rw [of_isFolder h]
        exact hrefl d

theorem makeFoldersFrom_grows {levels : Nat} (h : makeFoldersFrom levels d p = .ok e) : d.Grows e :=
  makeFoldersFrom_ind (P := fun _ => True) Grows.refl Grows.trans id (fun _ => makeFolder_grows) trivial h

theorem makeFolders_grows (h : d.makeFolders p = .ok e) : d.Grows e :=
  makeFoldersFrom_grows h

theorem isFolder_of_makeFolder (h : d.makeFolder p = .ok e) : e.isFolder p = true := by
  have hgrows := makeFolder_grows h
  rw [makeFolder, bind_eq_ok_iff] at h
  obtain ⟨l, hplace, h⟩ := h
  split at h
  · cases h
  · next hnone =>
    obtain rfl := Except.ok.inj h
    refine isFolder_iff.mpr ⟨l, locate_of_folders hgrows.here hgrows.folder (place_eq_ok hplace), ?_⟩
    rw [at?_put (ne_nil_of_not_folder (not_folder_of_none hnone)), if_pos rfl]

theorem isFolder_of_makeFolders (h : d.makeFolders p = .ok e) : e.isFolder p = true := by
  have hmade {d' d'' : Disk} (hmake : d'.makeFolder p = .ok d'') (h : Except.ok d'' = (.ok e : Except Fault Disk)) :
      e.isFolder p = true :=
    Except.ok.inj h ▸ isFolder_of_makeFolder hmake
  have hfound {d' : Disk} {fault : Fault} (h : (if d'.isFolder p then .ok d' else .error fault) = Except.ok e) :
      e.isFolder p = true := by
    split at h
    · next hfolder => exact Except.ok.inj h ▸ hfolder
    · cases h
  rw [makeFolders] at h
  generalize p.parts.length = levels at h
  cases levels with
  | zero =>
    rw [makeFoldersFrom] at h
    split at h
    · next hmake => exact hmade hmake h
    · split at h
      · next hlevels => cases hlevels
      · exact hfound h
  | succ levels =>
    rw [makeFoldersFrom] at h
    split at h
    · next hmake => exact hmade hmake h
    · split at h
      · split at h
        · cases h
        · obtain ⟨above, -, h⟩ := bind_eq_ok_iff.mp h
          split at h
          · next hmake => exact hmade hmake h
          · exact hfound h
      · exact hfound h

theorem write_eq_ok {text : String} (h : d.write p text = .ok e) :
    ∃ l, d.locate p = .ok l ∧ d.at? l ≠ some .folder ∧ e = d.put l (.file text) := by
  rw [write, bind_eq_ok_iff] at h
  obtain ⟨l, hplace, h⟩ := h
  split at h
  · cases h
  · next hnot => exact ⟨l, place_eq_ok hplace, hnot, (Except.ok.inj h).symm⟩

theorem write_grows {text : String} (h : d.write p text = .ok e) : d.Grows e := by
  obtain ⟨l, -, hnot, rfl⟩ := write_eq_ok h
  exact grows_put_file hnot _

theorem find?_of_write {text : String} (h : d.write p text = .ok e) : e.find? p = some (.file text) := by
  obtain ⟨l, hl, hnot, rfl⟩ := write_eq_ok h
  have hgrows := grows_put_file hnot text
  rw [find?, locate_of_folders hgrows.here hgrows.folder hl]
  dsimp only
  rw [at?_put (ne_nil_of_not_folder hnot), if_pos rfl]

theorem isFile_of_write {text : String} (h : d.write p text = .ok e) : e.isFile p = true :=
  isFile_iff.mpr ⟨text, find?_of_write h⟩

theorem exists_of_isFile (h : d.isFile p = true) : d.exists? p = true := by
  obtain ⟨text, hfile⟩ := isFile_iff.mp h
  rw [exists?, hfile]
  rfl

theorem at?_of_drop (hl : l ≠ []) {l' : Location} (h : (d.drop l).at? l' = some item) :
    d.at? l' = some item ∧ l' ≠ l := by
  by_cases hl' : l' = []
  · obtain rfl := hl'
    exact ⟨h, hl.symm⟩
  rw [at?_eq_lookup hl', drop, lookup_filter _ fun key => !l.isPrefixOf key] at h
  split at h
  · next hkept =>
    refine ⟨(at?_eq_lookup hl' d).trans h, ?_⟩
    rintro rfl
    rw [List.isPrefixOf_iff_prefix.mpr (List.prefix_refl l')] at hkept
    cases hkept
  · cases h

theorem unlink_here (h : d.unlink p = .ok e) : e.here = d.here := by
  rw [unlink] at h
  split at h
  · rw [← Except.ok.inj h]
  · cases h
  · split at h
    · rw [← Except.ok.inj h]
    · cases h
    · rw [← Except.ok.inj h, drop]

theorem exists_of_unlink (h : d.unlink p = .ok e) : e.exists? p = false := by
  have hnowhere (hfind : d.find? p = none) : d.exists? p = false := by
    rw [exists?, hfind]
    rfl
  rw [unlink] at h
  split at h
  · next hl =>
    obtain rfl := Except.ok.inj h
    exact hnowhere (by rw [find?, hl])
  · cases h
  · next l hl =>
    split at h
    · next hnone =>
      obtain rfl := Except.ok.inj h
      refine hnowhere ?_
      rw [find?, hl]
      exact hnone
    · cases h
    · next text hfile =>
      obtain rfl := Except.ok.inj h
      have hne : l ≠ [] := ne_nil_of_not_folder (by rw [hfile]; nofun)
      rw [exists?, find?]
      split
      · next l' hl' =>
        have hback := locate_of_folders (d := d.drop l) (e := d) rfl
          (fun _ hfolder => (at?_of_drop hne hfolder).1) hl'
        obtain rfl : l = l' := Except.ok.inj (hl.symm.trans hback)
        cases hleft : (d.drop l).at? l with
        | none => rfl
        | some item => exact absurd rfl (at?_of_drop hne hleft).2
      · rfl

theorem isFile_of_unlink_error {fault : Fault} (h : d.unlink p = .error fault) : d.isFile p = false := by
  rw [isFile, find?]
  rw [unlink] at h
  split at h
  · cases h
  · next hl => rw [hl]
  · next l hl =>
    rw [hl]
    split at h
    · cases h
    · next hfolder =>
      dsimp only
      rw [hfolder]
    · cases h

end DependencyAtlas.Files.Disk
