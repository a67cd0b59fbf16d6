import DependencyAtlas.Program.Run
import DependencyAtlas.Proofs.Session.Serious

namespace DependencyAtlas

open Files Scan Session Stage
open Act (Keeps Maintains Fails)

namespace Session.Viewer

theorem dispatch_grows {command : Command} (h : command.exports = true ∨ command = .relayout) (argument : String)
    (w : World) : Maintains (fun v => w.Grows v.world) (dispatch command argument) := by
  have hfolders (dir : Path) : Maintains w.Grows (edit fun disk => disk.makeFolders dir) :=
    (edit_growing fun _ _ => Disk.makeFolders_grows).maintains w
  have hwrite (path : Path) (text : String) : Maintains w.Grows (writeFile path text) :=
    (writeFile_growing path text).maintains w
  cases command with
  | relayout =>
    have hredrawn := Studio.relayout_maintains (η := Unit) fun figure => (draw_growing figure).maintains w
    rw [dispatch_relayout]
    exact .bind (fun v => hredrawn v.studio) fun _ => .pure _
  | exportImage =>
    rw [dispatch_exportImage, exportImage_eq]
    exact .bind (exportOf_maintains fun _ => writeOut_maintains hfolders (writeImage_maintains hwrite)) fun _ => .pure _
  | exportPage =>
    rw [dispatch_exportPage, exportPage_eq]
    exact .bind (exportOf_maintains fun _ => writeOut_maintains hfolders fun path =>
      (writeSheet_growing _ path _).maintains w) fun _ => .pure _
  | exportElements =>
    rw [dispatch_exportElements, exportElements_eq]
    exact .bind (exportOf_maintains fun _ => writeOut_maintains hfolders fun path => hwrite path _) fun _ => .pure _
  | _ => rcases h with h | h <;> cases h

end Session.Viewer

namespace Program

def FollowUps.asks (wanted : FollowUps) : Command → Bool
  | .relayout => wanted.relayout
  | .exportImage => wanted.image
  | .exportPage => wanted.page
  | .exportElements => wanted.elements
  | _ => false

def FollowUps.commands (wanted : FollowUps) : List Command :=
  [.relayout, .exportImage, .exportPage, .exportElements].filter wanted.asks

def doneText (command : Command) (outcome : Outcome) : String :=
  match command with
  | .exportImage => "[green]Graph image exported to: " ++ outcomeText outcome ++ "[/green]"
  | .exportPage => "[green]Graph page exported to: " ++ outcomeText outcome ++ "[/green]"
  | .exportElements => "[green]Graph data exported to: " ++ outcomeText outcome ++ "[/green]"
  | _ => "[cyan]Layout refreshed.[/cyan]"

def followOne (command : Command) : Act Viewer Unit := do
  let outcome ← Viewer.dispatch command ""
  Viewer.inWorld (print (doneText command outcome))

inductive Followed : List Command → Viewer → Except Failure Unit × Viewer → Prop
  | done (v : Viewer) : Followed [] v (.ok (), v)
  | next {command : Command} {rest : List Command} {v t u : Viewer} {outcome : Outcome}
    {ended : Except Failure Unit × Viewer} (hdone : Viewer.dispatch command "" v = (.ok outcome, t))
    (hreported : Viewer.inWorld (print (doneText command outcome)) t = (.ok (), u)) (hrest : Followed rest u ended) :
    Followed (command :: rest) v ended
  | failed {command : Command} {rest : List Command} {v t : Viewer} {failure : Failure}
    (hfailed : Viewer.dispatch command "" v = (.error failure, t)) : Followed (command :: rest) v (.error failure, t)

variable {wanted : FollowUps} {commands : List Command} {v : Viewer} {ended : Except Failure Unit × Viewer}

theorem mem_commands {command : Command} (h : command ∈ wanted.commands) :
    command.exports = true ∨ command = .relayout := by
  obtain ⟨hmem, -⟩ := List.mem_filter.mp h
  fin_cases hmem
  · exact .inr rfl
  · exact .inl rfl
  · exact .inl rfl
  · exact .inl rfl

def followAsked (wanted : FollowUps) (command : Command) : Act Viewer Unit :=
  if wanted.asks command then followOne command else pure ()

theorem forM_commands (wanted : FollowUps) (all : List Command) :
    forM (all.filter wanted.asks) followOne = forM all (followAsked wanted) := by
  induction all with
  | nil => rfl
  | cons command rest ih =>
    rw [List.forM_cons, ← ih, followAsked]
    rcases hasked : wanted.asks command with _ | _
    · rw [List.filter_cons_of_neg (ne_true_of_eq_false hasked), if_neg Bool.false_ne_true, pure_bind]
    · rw [List.filter_cons_of_pos hasked, if_pos rfl, List.forM_cons]

theorem followUp_eq (wanted : FollowUps) : followUp wanted = forM wanted.commands followOne := by
  have himage : exportAfter wanted.image .exportImage "Graph image" = followAsked wanted .exportImage := rfl
  have hpage : exportAfter wanted.page .exportPage "Graph page" = followAsked wanted .exportPage := rfl
  have helements : exportAfter wanted.elements .exportElements "Graph data" = followAsked wanted .exportElements := rfl
  rw [FollowUps.commands, forM_commands, followUp, himage, hpage, helements]
  simp only [List.forM_cons, List.forM_nil, bind_pure_unit]
  by_cases hrelayout : wanted.relayout = true
  · have hasked : followAsked wanted .relayout = followOne .relayout := if_pos hrelayout
    rw [if_pos hrelayout, hasked, followOne, bind_assoc]
    rfl
  · have hunasked : followAsked wanted .relayout = pure () := if_neg hrelayout
    rw [if_neg hrelayout, hunasked, pure_bind]

theorem followed_of_printed (h : ∀ fault, (forM commands followOne v).1 ≠ .error (.markup fault)) :
    Followed commands v (forM commands followOne v) := by
  induction commands generalizing v with
  | nil => exact .done v
  | cons command rest ih =>
    rw [List.forM_cons] at h ⊢
    rcases hdone : Viewer.dispatch command "" v with ⟨failure | outcome, t⟩
    · have hone : followOne command v = (.error failure, t) := Act.bind_apply_error hdone
      rw [Act.bind_apply_error hone]
      exact .failed hdone
    have hone : followOne command v = Viewer.inWorld (print (doneText command outcome)) t := Act.bind_apply_ok hdone
    rcases hreported : Viewer.inWorld (print (doneText command outcome)) t with ⟨failure | _, u⟩
    · rw [hreported] at hone
      rw [Act.bind_apply_error hone] at h
      obtain ⟨fault, rfl⟩ := Viewer.print_failure hreported
      exact absurd rfl (h fault)
    · rw [hreported] at hone
      rw [Act.bind_apply_ok hone] at h ⊢
      exact .next hdone hreported (ih h)

namespace Followed

variable (h : Followed commands v ended)

include h

theorem maintains {P : Viewer → Prop} (hdispatch : ∀ command ∈ commands, Maintains P (Viewer.dispatch command ""))
    (hprint : ∀ markup, Maintains P (Viewer.inWorld (print markup))) (hv : P v) : P ended.2 := by
  induction h with
  | done v => exact hv
  | @next command rest v t u outcome ended hdone hreported _ ih =>
    have ht := hdispatch command List.mem_cons_self v hv
    rw [hdone] at ht
    have hu := hprint (doneText command outcome) t ht
    rw [hreported] at hu
    exact ih (fun command hmem => hdispatch command (List.mem_cons_of_mem _ hmem)) hu
  | @failed command rest v t failure hfailed =>
    have ht := hdispatch command List.mem_cons_self v hv
    rw [hfailed] at ht
    exact ht

theorem unique {ended' : Except Failure Unit × Viewer} (h' : Followed commands v ended') : ended = ended' := by
  induction h with
  | done v =>
    cases h'
    rfl
  | next hdone hreported hrest ih =>
    cases h' with
    | next hdone' hreported' hrest' =>
      cases hdone.symm.trans hdone'
      cases hreported.symm.trans hreported'
      exact ih hrest'
    | failed hfailed' => cases hdone.symm.trans hfailed'
  | failed hfailed =>
    cases h' with
    | next hdone' hreported' hrest' => cases hfailed.symm.trans hdone'
    | failed hfailed' =>
      cases hfailed.symm.trans hfailed'
      rfl

variable (hcommands : ∀ command ∈ commands, command.exports = true ∨ command = .relayout)

include hcommands

theorem grows : v.world.Grows ended.2.world := by
  refine h.maintains (P := fun u => v.world.Grows u.world) (fun command hmem => ?_) (fun markup => ?_) (.refl _)
  · exact Viewer.dispatch_grows (hcommands command hmem) "" v.world
  · exact fun u hu => (Growing.of_keeps (write_keeps (fun _ _ => rfl) markup "\n")).maintains v.world u.world hu

theorem pool_eq : ended.2.world.pool = v.world.pool := by
  refine h.maintains (P := fun u => u.world.pool = v.world.pool) (fun command hmem u hu => ?_) (fun markup => ?_) rfl
  · have hother : command ≠ .submit ∧ command ≠ .quit := by
      rcases hcommands command hmem with hexports | rfl
      · constructor <;> rintro rfl <;> cases hexports
      · exact ⟨nofun, nofun⟩
    have hstanding := Viewer.dispatch_keeps_standing hother.1 hother.2 "" u
    exact (congrArg (fun standing => standing.2.2.2.1) hstanding).trans hu
  · exact fun u hu => (write_keeps (f := World.pool) (fun _ _ => rfl) markup "\n" u.world).trans hu

theorem serious (hv : v.world.Serious) : FailsAs Failure.Serious ended.1 := by
  induction h with
  | done v => exact failsAs_ok _
  | @next command rest v t u outcome ended hdone hreported _ ih =>
    have ht := (Viewer.dispatch_sober (hcommands command List.mem_cons_self) "").maintains v hv
    rw [hdone] at ht
    have hu := (Viewer.inWorld_sober (write_sober (doneText command outcome) "\n")).maintains t ht
    rw [show Viewer.inWorld (write _ _) t = _ from hreported] at hu
    exact ih (fun command hmem => hcommands command (List.mem_cons_of_mem _ hmem)) hu
  | @failed command rest v t failure hfailed =>
    have hfails := (Viewer.dispatch_sober (hcommands command List.mem_cons_self) "").failsAs v hv
    rw [hfailed] at hfails
    exact failsAs_error (hfails failure rfl)

end Followed

end Program

end DependencyAtlas
