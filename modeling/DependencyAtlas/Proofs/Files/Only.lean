import DependencyAtlas.Proofs.Files.Ways

namespace DependencyAtlas.Files.Disk

def only (keep : Location → Bool) (d : Disk) : Disk :=
  { d with items := d.items.filter fun entry => keep entry.1 }

variable {keep : Location → Bool} {d e : Disk} {p : Path} {l : Location} {item : Item}

theorem at?_only (h : keep l = true) (d : Disk) : (d.only keep).at? l = d.at? l := by
  rw [at?, at?, only, lookup_filter, if_pos h]

theorem put_only (h : keep l = true) (d : Disk) (item : Item) :
    (d.put l item).only keep = (d.only keep).put l item := by
  have hkey (entry : Location × Item) : (if entry.1 = l then (l, item) else entry).1 = entry.1 := by
    split
    · next heq => exact heq.symm
    · rfl
  have hlookup : (d.only keep).items.lookup l = d.items.lookup l := by
    rw [only, lookup_filter, if_pos h]
  rw [put, put, hlookup]
  split
  · rw [only, List.filter_map]
    simp only [Function.comp_def, hkey]
    rfl
  · simp only [only, List.filter_append, List.filter_singleton, h, cond_true]

theorem put_only_of_not (h : keep l = false) (d : Disk) (item : Item) :
    (d.put l item).only keep = d.only keep := by
  have hout : ¬ keep l = true := ne_true_of_eq_false h
  rw [put]
  split
  · rw [only, only, List.filter_map]
    congr 1
    have hkeep : ((fun entry : Location × Item => keep entry.1) ∘
        fun entry => if entry.1 = l then (l, item) else entry) = fun entry => keep entry.1 := by
      funext entry
      dsimp only [Function.comp]
      split
      · next heq => rw [heq]
      · rfl
    rw [hkeep]
    refine (List.map_congr_left fun entry hentry => if_neg ?_).trans (List.map_id' _)
    rintro rfl
    exact hout (List.mem_filter.mp hentry).2
  · simp only [only, List.filter_append, List.filter_singleton, h, cond_false, List.append_nil]

theorem drop_only (l : Location) (d : Disk) : (d.drop l).only keep = (d.only keep).drop l := by
  simp only [drop, only, List.filter_filter, Bool.and_comm]

section

variable (h : ∀ l ∈ p.looks d.here, keep l = true)

include h

theorem at?_only_of_looks : ∀ l ∈ p.looks d.here, (d.only keep).at? l = d.at? l :=
  fun l hl => at?_only (h l hl) d

theorem locate_only : (d.only keep).locate p = d.locate p :=
  locate_of_looks rfl (at?_only_of_looks h)

theorem place_only : (d.only keep).place p = d.place p :=
  place_congr rfl (at?_only_of_looks h)

theorem isFolder_only : (d.only keep).isFolder p = d.isFolder p :=
  isFolder_congr rfl (at?_only_of_looks h)

theorem keep_of_place (hl : d.place p = .ok l) : keep l = true := by
  obtain ⟨rfl, -⟩ := locate_eq_ok_iff.mp (place_eq_ok hl)
  exact h _ (Path.mem_looks_of_way (Path.reach_mem_way _ p))

theorem makeFolder_only : (d.only keep).makeFolder p = (d.makeFolder p).map (only keep) := by
  rw [makeFolder, makeFolder, place_only h]
  cases hplace : d.place p with
  | error fault => rfl
  | ok l =>
    have hkeep := keep_of_place h hplace
    simp only [ok_bind, at?_only hkeep]
    split
    · rfl
    · rw [← put_only hkeep]
      rfl

theorem write_only (text : String) : (d.only keep).write p text = (d.write p text).map (only keep) := by
  rw [write, write, place_only h]
  cases hplace : d.place p with
  | error fault => rfl
  | ok l =>
    have hkeep := keep_of_place h hplace
    simp only [ok_bind, at?_only hkeep]
    split
    · rfl
    · rw [← put_only hkeep]
      rfl

theorem unlink_only : (d.only keep).unlink p = (d.unlink p).map (only keep) := by
  rw [unlink, unlink, locate_only h]
  cases hl : d.locate p with
  | error cause => cases cause <;> rfl
  | ok l =>
    dsimp only
    rw [at?_of_located (at?_only_of_looks h) hl]
    split
    · rfl
    · rfl
    · rw [← drop_only]
      rfl

end

theorem makeFoldersFrom_of_made (h : d.makeFolder p = .ok e) (levels : Nat) :
    makeFoldersFrom levels d p = .ok e := by
  cases levels <;> rw [makeFoldersFrom, h]

theorem makeFoldersFrom_of_missing {fault : Fault} (h : d.makeFolder p = .error fault)
    (hcause : fault.cause = .notFound) (levels : Nat) :
    makeFoldersFrom (levels + 1) d p =
      if p.parts.isEmpty then .error fault
      else (do
        let d ← makeFoldersFrom levels d p.parent
        match d.makeFolder p with
        | .ok d => .ok d
        | .error fault => if d.isFolder p then .ok d else .error fault) := by
  have hunfolded := makeFoldersFrom.eq_1 (levels + 1) d p
  simp only [h, hcause] at hunfolded
  exact hunfolded

theorem makeFoldersFrom_of_fault {fault : Fault} (h : d.makeFolder p = .error fault) {levels : Nat}
    (hcause : fault.cause = .notFound → levels = 0) :
    makeFoldersFrom levels d p = if d.isFolder p then .ok d else .error fault := by
  cases levels <;> rw [makeFoldersFrom, h] <;> dsimp only <;> split
  · next hlevels => cases hlevels
  · rfl
  · next hmissing _ => cases hcause hmissing
  · rfl

theorem makeFoldersFrom_only {levels : Nat} (h : ∀ l ∈ p.looks d.here, keep l = true) :
    makeFoldersFrom levels (d.only keep) p = (makeFoldersFrom levels d p).map (only keep) := by
  have hfolder {d : Disk} {p : Path} {fault : Fault} (h : ∀ l ∈ p.looks d.here, keep l = true) :
      (if (d.only keep).isFolder p then .ok (d.only keep) else .error fault) =
        (if d.isFolder p then .ok d else .error fault : Except Fault Disk).map (only keep) := by
    rw [isFolder_only h, apply_ite (Except.map (only keep))]
    rfl
  induction levels generalizing d p with
  | zero =>
    have honly := makeFolder_only h
    cases hmade : d.makeFolder p with
    | ok made =>
      rw [hmade] at honly
      rw [makeFoldersFrom_of_made hmade, makeFoldersFrom_of_made honly]
      rfl
    | error fault =>
      rw [hmade] at honly
      rw [makeFoldersFrom_of_fault hmade fun _ => rfl, makeFoldersFrom_of_fault honly fun _ => rfl, hfolder h]
  | succ levels ih =>
    have honly := makeFolder_only h
    cases hmade : d.makeFolder p with
    | ok made =>
      rw [hmade] at honly
      rw [makeFoldersFrom_of_made hmade, makeFoldersFrom_of_made honly]
      rfl
    | error fault =>
      rw [hmade] at honly
      by_cases hcause : fault.cause = .notFound
      · rw [makeFoldersFrom_of_missing hmade hcause, makeFoldersFrom_of_missing honly hcause,
          apply_ite (Except.map (only keep)), ih fun l hl => h l (Path.looks_parent hl)]
        congr 1
        cases habove : makeFoldersFrom levels d p.parent with
        | error fault => rfl
        | ok above =>
          have hlooks : ∀ l ∈ p.looks above.here, keep l = true := by
            rw [(makeFoldersFrom_grows habove).here]
            exact h
          simp only [Except.map, ok_bind, makeFolder_only hlooks]
          cases above.makeFolder p with
          | ok made => rfl
          | error fault => exact hfolder hlooks
      · rw [makeFoldersFrom_of_fault hmade fun h => absurd h hcause,
          makeFoldersFrom_of_fault honly fun h => absurd h hcause, hfolder h]

theorem makeFolders_only (h : ∀ l ∈ p.looks d.here, keep l = true) :
    (d.only keep).makeFolders p = (d.makeFolders p).map (only keep) :=
  makeFoldersFrom_only h

theorem only_of_makeFolders (h : ∀ l ∈ p.way d.here, d.at? l = none → keep l = false)
    (hmade : d.makeFolders p = .ok e) : e.only keep = d.only keep := by
  have hall : (d.Grows e) ∧ ((∀ l ∈ p.way d.here, d.at? l = none → keep l = false) →
      e.only keep = d.only keep) := by
    refine makeFoldersFrom_ind (P := fun q => ∀ here, ∀ l ∈ q.way here, l ∈ p.way here)
      (R := fun d e => d.Grows e ∧ ((∀ l ∈ p.way d.here, d.at? l = none → keep l = false) →
        e.only keep = d.only keep))
      (fun d => ⟨.refl d, fun _ => rfl⟩) ?_ (fun hq here l hl => hq here l (Path.way_parent hl)) ?_
      (fun _ _ => id) hmade
    · rintro d e f ⟨hde, hkept⟩ ⟨hef, hkept'⟩
      refine ⟨hde.trans hef, fun hnew => (hkept' ?_).trans (hkept hnew)⟩
      intro l hl hnone
      rw [hde.here] at hl
      refine hnew l hl (Option.not_isSome_iff_eq_none.mp fun hthere => ?_)
      have hstill := hde.there l hthere
      rw [hnone] at hstill
      cases hstill
    · intro d q e hq hmade
      refine ⟨makeFolder_grows hmade, fun hnew => ?_⟩
      rw [makeFolder, bind_eq_ok_iff] at hmade
      obtain ⟨l, hplace, hmade⟩ := hmade
      obtain ⟨rfl, -⟩ := locate_eq_ok_iff.mp (place_eq_ok hplace)
      split at hmade
      · cases hmade
      · next hnone =>
        obtain rfl := Except.ok.inj hmade
        exact put_only_of_not (hnew _ (hq _ _ (Path.reach_mem_way _ q)) hnone) d _
  exact hall.2 h

theorem only_of_write {text : String} (h : d.at? (p.reach d.here) ≠ some .folder → keep (p.reach d.here) = false)
    (hwritten : d.write p text = .ok e) : e.only keep = d.only keep := by
  obtain ⟨l, hl, hnot, rfl⟩ := write_eq_ok hwritten
  obtain ⟨rfl, -⟩ := locate_eq_ok_iff.mp hl
  exact put_only_of_not (h hnot) d _

end DependencyAtlas.Files.Disk
