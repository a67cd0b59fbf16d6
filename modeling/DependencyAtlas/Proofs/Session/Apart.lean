import DependencyAtlas.Proofs.Session.Saving
import DependencyAtlas.Proofs.Session.Sight

namespace DependencyAtlas.Session

open Files Scan Stage

def exportNames : List String :=
  [imageName, pageName, elementsName]

theorem fileName_mem (command : Command) : command.fileName ∈ exportNames := by
  cases command <;> decide

/-- The page is none of the exported files, and neither it nor a file with settings is in the way of their folder. -/
structure Apart (dir page : Path) (here : Location) : Prop where
  named : ∃ (folder : Path) (name : String), page = folder.child name ∧ name ≠ ".." ∧ name ∉ exportNames
  away : dir = page.parent ∨ ∀ p ∈ page :: Surroundings.settingsFiles, p.reach here ∉ dir.way here

namespace World

def faced (w : World) : World :=
  { w.sighted with mishaps := [], image := .writes "", html := fun _ _ => "" }

variable {w : World} {dir page : Path} {here : Location}

theorem settings_child {p : Path} (hp : p ∈ Surroundings.settingsFiles) :
    ∃ name, p = (⟨"", []⟩ : Path).child name ∧ name ≠ ".." ∧ name ∉ exportNames := by
  rcases List.mem_pair.mp hp with rfl | rfl
  · exact ⟨".depgraph-viewer.toml", by decide +kernel, by decide, by decide⟩
  · exact ⟨"pyproject.toml", by decide +kernel, by decide, by decide⟩

theorem faced_of_only {disk : Disk} {mishaps : List (Option Failure)} (hhere : disk.here = w.disk.here)
    (h : disk.only w.isSight = w.disk.only w.isSight) : faced { w with disk, mishaps } = w.faced := by
  have hsight : isSight { w with disk, mishaps } = w.isSight := isSight_congr rfl hhere
  rw [faced, sighted, hsight]
  dsimp only
  rw [h]
  rfl

section

variable (hfirm : w.Firm page here) (hfolder : w.hasFolder = true) (hapart : Apart dir page here)

include hfirm hfolder hapart

theorem sight_cases {l : Location} (hl : w.isSight l = true) :
    w.disk.at? l = some .folder ∨ ∃ p ∈ page :: Surroundings.settingsFiles, l = p.reach here := by
  obtain ⟨p, hp, hl⟩ := List.mem_flatMap.mp (List.contains_iff_mem.mp hl)
  rw [hfirm.page] at hp
  have hchild {folder : Path} {name : String} (hname : name ≠ "..") (hfolder : w.disk.isFolder folder = true) :
      ∃ m, w.disk.place (folder.child name) = .ok m := by
    obtain ⟨l, hl, hat⟩ := Disk.isFolder_iff.mp hfolder
    refine ⟨l ++ [name], ?_⟩
    rw [Disk.place, Disk.locate_child hl hat hname]
    dsimp only
    rw [List.dropLast_concat, hat]
  obtain ⟨m, hplace⟩ : ∃ m, w.disk.place p = .ok m := by
    rcases List.mem_cons.mp hp with rfl | hp
    · obtain ⟨folder, name, rfl, hname, -⟩ := hapart.named
      rw [hasFolder, hfirm.page, Path.parent_child] at hfolder
      exact hchild hname hfolder
    · obtain ⟨name, rfl, hname, -⟩ := settings_child hp
      exact hchild hname (Disk.isFolder_iff.mpr ⟨_, rfl, hfirm.rooted.here⟩)
  rcases hfirm.rooted.folder_of_looks hplace hl with hfolder | rfl
  · exact .inl hfolder
  · refine .inr ⟨p, hp, ?_⟩
    rw [← hfirm.here]
    exact (Disk.locate_eq_ok_iff.mp (Disk.place_eq_ok hplace)).1.symm

theorem made_unseen {made : Disk} (hmade : w.disk.makeFolders dir = .ok made) :
    made.only w.isSight = w.disk.only w.isSight := by
  refine Disk.only_of_makeFolders (fun l hl hnone => Bool.eq_false_iff.mpr fun hsight => ?_) hmade
  rcases hapart.away with rfl | haway
  · rw [hasFolder, hfirm.page] at hfolder
    cases hnone.symm.trans (Disk.folder_of_isFolder hfolder hl)
  · rcases sight_cases hfirm hfolder hapart hsight with hthere | ⟨p, hp, rfl⟩
    · cases hnone.symm.trans hthere
    · rw [hfirm.here] at hl
      exact haway p hp hl

theorem written_unseen {disk : Disk} {name text : String} (hname : name ∈ exportNames)
    (hwritten : w.disk.write (dir.child name) text = .ok disk) : disk.only w.isSight = w.disk.only w.isSight := by
  refine Disk.only_of_write (fun hnot => Bool.eq_false_iff.mpr fun hsight => ?_) hwritten
  have hplain : name ≠ ".." := by
    rintro rfl
    exact absurd hname (by decide)
  rcases sight_cases hfirm hfolder hapart hsight with hthere | ⟨p, hp, hreach⟩
  · exact hnot hthere
  obtain ⟨folder, other, rfl, hother, hunlike⟩ : ∃ (folder : Path) (other : String),
      p = folder.child other ∧ other ≠ ".." ∧ other ∉ exportNames := by
    rcases List.mem_cons.mp hp with rfl | hp
    · exact hapart.named
    · obtain ⟨other, h⟩ := settings_child hp
      exact ⟨_, other, h⟩
  rw [Path.reach_child hplain, Path.reach_child hother] at hreach
  obtain rfl : name = other := (List.append_inj' hreach rfl).2 |> List.singleton_injective
  exact hunlike hname

theorem saved_unseen {name : String} (hname : name ∈ exportNames) {stops : Failure → Bool}
    {brought : Except Failure String} {result : Except Failure (Option Path)} {w' : World}
    (h : Saved w dir name stops brought (result, w')) : w'.faced = w.faced := by
  cases h with
  | folderless _ => rfl
  | failed hmade _ => exact faced_of_only (Disk.makeFolders_grows hmade).here (made_unseen hfirm hfolder hapart hmade)
  | @written made disk _ _ hmade _ hwritten =>
    have hgrows := Disk.makeFolders_grows hmade
    have hmadeFirm : World.Firm page here { w with disk := made } :=
      ⟨hfirm.rooted.makeFolders hmade, hfirm.page, hgrows.here.trans hfirm.here⟩
    have hmadeFolder : hasFolder { w with disk := made } = true := hgrows.isFolder hfolder
    have hsight : isSight { w with disk := made } = w.isSight := isSight_congr rfl hgrows.here
    have hunseen := written_unseen hmadeFirm hmadeFolder hapart hname hwritten
    rw [hsight] at hunseen
    exact faced_of_only ((Disk.write_grows hwritten).here.trans hgrows.here)
      (hunseen.trans (made_unseen hfirm hfolder hapart hmade))

end

end World

end DependencyAtlas.Session
