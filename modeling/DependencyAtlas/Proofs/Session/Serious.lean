import DependencyAtlas.Proofs.Layout.Faults
import DependencyAtlas.Proofs.Session.Commands
import DependencyAtlas.Proofs.Stage.Failing

namespace DependencyAtlas

open Files Scan Stage Drawing
open Act (Fails)

/-- A failure that neither asks the program to end nor complains about an empty result. -/
def Failure.Serious : Failure → Prop
  | .exit _ | .halt .. => False
  | .complaint c => c ≠ .emptyResult
  | _ => True

theorem Failure.Serious.halts_eq_false {failure : Failure} (h : failure.Serious) : failure.halts = false := by
  cases failure with
  | halt => exact absurd h id
  | _ => rfl

theorem serious_of_error {c : Complaint} (h : c.severity = .error) : (Failure.complaint c).Serious := by
  rintro rfl
  cases h

theorem serious_of_unplaceable {failure : Failure} (h : Layout.Unplaceable failure) : failure.Serious := by
  cases h <;> trivial

theorem serious_of_drawFailure {failure : Failure} (h : failure.Serious) :
    (Studio.drawFailure failure).Serious := by
  rw [Studio.drawFailure]
  split
  · exact serious_of_error rfl
  · exact h

namespace Surroundings

variable (s : Surroundings)

theorem fileContents_failsAs (p : Path) : FailsAs Failure.Serious (s.fileContents p) := by
  rw [fileContents]
  split
  · exact failsAs_ok _
  · split
    · exact failsAs_error trivial
    · split
      · exact failsAs_ok _
      · exact failsAs_error trivial

theorem tableInFiles_failsAs (names : List String) : FailsAs Failure.Serious (s.tableInFiles names) := by
  induction names with
  | nil => exact failsAs_ok _
  | cons name rest ih =>
    apply (s.fileContents_failsAs _).bind
    intro contents
    refine FailsAs.bind ?_ fun table => ?_
    · rw [tableIn]
      split
      · exact failsAs_ok _
      · exact failsAs_error trivial
    · split
      · exact failsAs_ok _
      · exact ih

theorem table_failsAs : FailsAs Failure.Serious s.table :=
  s.tableInFiles_failsAs _

theorem setting_failsAs (name : String) : FailsAs Failure.Serious (s.setting? name) := by
  apply s.table_failsAs.bind
  intro table
  rw [settingIn?.eq_def]
  split
  · exact failsAs_ok _
  · split
    · exact failsAs_error trivial
    · exact failsAs_ok _
  · split
    · exact failsAs_error trivial
    · exact failsAs_ok _
  · exact failsAs_error trivial

theorem expand_failsAs (p : Path) : FailsAs Failure.Serious (s.expand p) := by
  rw [expand]
  split
  · exact failsAs_ok _
  · exact failsAs_error trivial

end Surroundings

namespace Settings

variable (s : Settings) (around : Surroundings)

theorem getServer_failsAs : FailsAs Failure.Serious (s.getServer around) := by
  rw [getServer]
  split
  · exact failsAs_ok _
  · exact failsAs_ok _
  · apply (around.setting_failsAs _).bind
    intro v
    split <;> exact failsAs_ok _

theorem getTimeout_failsAs : FailsAs Failure.Serious (s.getTimeout around) := by
  rw [getTimeout]
  split
  · exact failsAs_ok _
  · exact failsAs_ok _
  · apply (around.setting_failsAs _).bind
    intro v
    split
    · exact FailsAs.bind (failsAs_mapError (fun _ => trivial) _) fun x => failsAs_ok _
    · exact failsAs_ok _

theorem getOutputDir_failsAs : FailsAs Failure.Serious (s.getOutputDir around) := by
  rw [getOutputDir]
  split
  · exact failsAs_ok _
  · exact around.expand_failsAs _
  · apply (around.setting_failsAs _).bind
    intro v
    split
    · rw [pathOf.eq_def]
      split
      · exact around.expand_failsAs _
      · exact failsAs_error trivial
    · exact failsAs_ok _

theorem isVerbose_failsAs : FailsAs Failure.Serious (s.isVerbose around) := by
  refine FailsAs.bind ?_ fun v => failsAs_ok _
  rw [getVerbose]
  split
  · exact failsAs_ok _
  · apply around.table_failsAs.bind
    intro table
    split
    · exact failsAs_ok _
    · exact failsAs_error trivial

end Settings

namespace Scan

theorem Address.parse_failsAs (url : String) : FailsAs Failure.Serious (Address.parse url) := by
  have hport (scheme digits : List Char) : FailsAs Failure.Serious (Address.portOf scheme digits) := by
    rw [Address.portOf]
    split
    · exact failsAs_ok _
    · split
      · exact failsAs_ok _
      · exact failsAs_error trivial
  rw [Address.parse]
  dsimp only
  split
  · exact failsAs_error trivial
  · apply (hport _ _).bind
    intro port
    exact failsAs_ok _

theorem Client.create_failsAs (settings : Settings) (around : Surroundings) :
    FailsAs Failure.Serious (Client.create settings around .null .null) := by
  apply (settings.getServer_failsAs around).bind
  intro url
  apply (settings.getTimeout_failsAs around).bind
  intro timeout
  exact failsAs_ok _

theorem Client.send_failsAs (client : Client) (request : Request) :
    FailsAs Failure.Serious (client.send request) := by
  apply (Address.parse_failsAs _).bind
  intro address
  exact failsAs_ok _

theorem Answer.graph_failsAs (a : Answer) : FailsAs Failure.Serious a.graph := by
  have hmalformed (text : String) : (Answer.malformed text).Serious := serious_of_error rfl
  rw [Answer.graph]
  split
  · refine FailsAs.bind ?_ fun document => failsAs_mapError ?_ _
    · rw [Answer.document]
      split
      · exact failsAs_error (hmalformed _)
      · split
        · exact failsAs_error (hmalformed _)
        · exact failsAs_ok _
    · intro refusal
      cases refusal with
      | defect d => exact serious_of_error rfl
      | misuse m => trivial
  · refine FailsAs.bind ?_ fun text => failsAs_error (serious_of_error rfl)
    rw [Answer.text]
    split
    · exact failsAs_ok _
    · split
      · exact failsAs_ok _
      · exact failsAs_error trivial

def Reply.Serious : Reply → Prop
  | .failed failure => failure.Serious
  | _ => True

theorem Reply.graphFrom_failsAs {reply : Reply} (h : reply.Serious) (address : Address) :
    FailsAs Failure.Serious (reply.graphFrom address) := by
  cases reply with
  | answer a =>
    rw [Reply.graphFrom]
    split
    · exact a.graph_failsAs
    · exact failsAs_error trivial
  | broken b text => exact failsAs_error (serious_of_error rfl)
  | failed failure => exact failsAs_error h

end Scan

namespace Session

structure World.Serious (w : World) : Prop where
  refusal : ∀ failure, w.refusal = some failure → failure.Serious
  mishaps : ∀ failure, some failure ∈ w.mishaps → failure.Serious
  image : ∀ failure, w.image = .fails failure → failure.Serious
  replies : ∀ reply ∈ w.replies, reply.Serious

abbrev Sober {σ α : Type} (world : σ → World) (act : Act σ α) : Prop :=
  Fails (fun s => (world s).Serious) Failure.Serious act

def World.sources (w : World) : Option Failure × List (Option Failure) × ImageWriter × List Reply :=
  (w.refusal, w.mishaps, w.image, w.replies)

theorem World.Serious.of_same {v w : World} (h : v.Serious) (hsame : w.sources = v.sources) : w.Serious := by
  simp only [sources, Prod.mk.injEq] at hsame
  obtain ⟨hrefusal, hmishaps, himage, hreplies⟩ := hsame
  exact ⟨hrefusal ▸ h.refusal, hmishaps ▸ h.mishaps, himage ▸ h.image, hreplies ▸ h.replies⟩

theorem getOutputDir_sober : Sober id getOutputDir :=
  .get_bind fun w _ => .ofExcept (w.settings.getOutputDir_failsAs _)

theorem write_sober (markup ending : String) : Sober id (write markup ending) := by
  rw [write]
  split
  · exact .modify fun w hw => hw.of_same rfl
  · exact .throw trivial

theorem tell_sober (markup : String) : Sober id (tell markup) := by
  refine Fails.bind ?_ fun verbose => .ite (write_sober _ _) (.pure _)
  exact .get_bind fun w _ => .ofExcept (w.settings.isVerbose_failsAs _)

theorem edit_sober (alter : Disk → Except Fault Disk) : Sober id (edit alter) := by
  refine Fails.get_bind fun w hw => ?_
  split
  · exact .modify fun w hw => hw.of_same rfl
  · exact .throw trivial

theorem nextMishap_sober : Sober id nextMishap := by
  refine Fails.get_bind fun w hw => ?_
  rcases hmishaps : w.mishaps with _ | ⟨mishap, rest⟩
  · exact .pure _
  · have hserious : ∀ failure, some failure ∈ mishap :: rest → failure.Serious := hmishaps ▸ hw.mishaps
    have hrest : Sober id (modify fun w : World => { w with mishaps := rest }) :=
      .modify fun w hw =>
        ⟨hw.refusal, fun failure h => hserious failure (List.mem_cons_of_mem _ h), hw.image, hw.replies⟩
    refine Fails.bind hrest fun _ => ?_
    rcases mishap with _ | failure
    · exact .pure _
    · exact .throw (hserious failure List.mem_cons_self)

theorem writeFile_sober (path : Path) (text : String) : Sober id (writeFile path text) :=
  nextMishap_sober.bind fun _ => edit_sober _

theorem writeSheet_sober (sheet : Sheet) (path : Path) (figure : Figure Float) :
    Sober id (writeSheet sheet path figure) :=
  .get_bind fun _ _ => writeFile_sober _ _

theorem draw_sober (figure : Figure Float) : Sober id (canvas.draw figure) := by
  dsimp only [canvas]
  refine Fails.bind (.modify fun w hw => hw.of_same rfl) fun _ => ?_
  refine Fails.get_bind fun w hw => ?_
  refine Fails.bind (edit_sober _) fun _ => ?_
  refine Fails.bind (writeSheet_sober _ _ _) fun _ => ?_
  exact .get_bind fun _ _ => .ite (.modify fun w hw => hw.of_same rfl) (.pure _)

theorem clear_sober : Sober id canvas.clear := by
  dsimp only [canvas]
  exact .get_bind fun _ _ => edit_sober _

theorem writeImage_sober (path : Path) : Sober id (writeImage path) := by
  refine Fails.get_bind fun w hw => ?_
  split
  · next failure himage => exact .throw (hw.image failure himage)
  · exact writeFile_sober _ _

theorem writeOut_sober (name : String) (stops : Failure → Bool) {write : Path → Act World Unit}
    (h : ∀ path, Sober id (write path)) : Sober id (writeOut name stops write) := by
  refine Fails.bind ?_ fun path => ?_
  · refine getOutputDir_sober.bind fun dir => ?_
    exact (edit_sober _).ending_bind (fun _ => .pure _) fun _ _ => .throw (serious_of_error rfl)
  · refine Fails.bind ?_ fun _ => .pure _
    refine (h path).ending_bind (fun _ => .pure _) fun failure hfailure => .throw ?_
    split
    · exact serious_of_error rfl
    · exact hfailure

theorem nextReply_sober : Sober id nextReply := by
  refine Fails.get_bind fun w hw => ?_
  rcases hreplies : w.replies with _ | ⟨reply, _ | ⟨other, rest⟩⟩
  · exact .pure _
  · exact .pure _
  · have hrest : ∀ reply ∈ other :: rest, reply.Serious := fun reply h =>
      hw.replies reply (hreplies ▸ List.mem_cons_of_mem _ h)
    exact .bind (.modify fun w hw => ⟨hw.refusal, hw.mishaps, hw.image, hrest⟩) fun _ => .pure _

theorem nextReply_serious {w w' : World} {reply : Reply} (hw : w.Serious) (h : nextReply w = (.ok reply, w')) :
    reply.Serious := by
  have hall := hw.replies
  rw [nextReply, Act.bind_apply_ok (Act.get_apply w)] at h
  rcases hreplies : w.replies with _ | ⟨first, _ | ⟨other, rest⟩⟩ <;> rw [hreplies] at h hall <;> cases h
  · trivial
  · exact hall _ List.mem_cons_self
  · exact hall _ List.mem_cons_self

theorem connect_sober : Sober id Viewer.connect := by
  refine Fails.get_bind fun w hw => ?_
  refine Fails.bind (.ofExcept (w.settings.getTimeout_failsAs _)) fun timeout => ?_
  refine Fails.bind ?_ fun _ => .pure _
  refine Fails.within (R := fun _ => True) (fun _ _ => trivial) (fun w _ hw _ => hw.of_same rfl) ?_
  refine Fails.get_bind fun pool _ => ?_
  split
  · exact .pure _
  · refine Fails.bind (.modify fun _ => id) fun _ => ?_
    rcases hrefusal : w.refusal with _ | failure
    · exact .get_bind fun _ _ => .bind (.modify fun _ => id) fun _ => .pure _
    · exact .throw (hw.refusal failure hrefusal)

end Session

open Session

namespace Stage.Studio

theorem outsideAct_sober {α : Type} {act : Act World α} (h : Sober id act) :
    Sober outside (outsideAct act : Act (Studio World Unit) α) :=
  h.within (fun _ hs => hs) fun _ _ _ hw => hw

theorem canvas_sober :
    canvas.FailsWith (fun s : Studio World Unit => s.outside.Serious) Failure.Serious where
  live _ := id
  surface _ := id
  registry _ := id
  clear := outsideAct_sober clear_sober
  draw figure := (outsideAct_sober (Session.draw_sober figure)).ending_bind (fun _ => .pure _)
    fun _ hfailure => .throw (serious_of_drawFailure hfailure)
  busy := serious_of_error rfl

theorem drawTransition_sober (v : Visualization Float) : Sober outside (drawTransition canvas v) :=
  canvas_sober.drawTransition fun _ _ _ h => serious_of_unplaceable (Visualization.figure_failsAs _ _ h)

theorem render_sober (g : Graph) : Sober outside (render canvas g) :=
  canvas_sober.render (fun _ _ _ h => serious_of_unplaceable (firstView_failsAs _ _ _ h))
    fun _ v _ _ => drawTransition_sober v

theorem relayout_sober : Sober outside (relayout canvas) := by
  refine Fails.get_bind fun s _ => ?_
  dsimp only
  split
  · exact .pure _
  · refine Fails.bind (.ofExcept fun _ h => serious_of_unplaceable (nextView_failsAs _ _ _ h)) fun v => ?_
    exact (canvas_sober.setLive _).bind fun _ => drawTransition_sober v

end Stage.Studio

namespace Session.Viewer

variable {α : Type}

theorem inWorld_sober {act : Act World α} (h : Sober id act) : Sober world (inWorld act) :=
  h.within (fun _ hv => hv) fun _ _ _ hw => hw

theorem inStudio_sober {act : Act (Studio World Unit) α} (h : Sober Studio.outside act) :
    Sober world (inStudio act) :=
  h.within (fun _ hv => hv) fun _ _ _ hw => hw

theorem sources_unstated : Unstated fun v => v.world.sources where
  print _ := fun v => write_keeps (fun _ _ => rfl) _ _ v.world
  tell _ := fun v => tell_keeps (fun _ _ => rfl) _ v.world
  board _ _ := rfl
  changes _ _ := rfl
  inFlight _ _ := rfl

theorem send_sober (request : Request) : Sober world (send request) := by
  refine Fails.get_bind fun v _ => ?_
  refine Fails.bind (inWorld_sober (tell_sober _)) fun _ => ?_
  refine Fails.bind (inWorld_sober connect_sober) fun _ => ?_
  refine Fails.bind (.ofExcept (v.client.send_failsAs request)) fun sent => ?_
  exact .bind (inWorld_sober (.modify fun w hw => hw.of_same rfl)) fun _ => .pure _

theorem scan_sober (request : Request) : Sober world (scan request) := by
  refine (send_sober request).bind fun waiting => ?_
  refine (inWorld_sober nextReply_sober).bind_from fun v reply u hv hnext hu => ⟨hu, ?_⟩
  have hreply : nextReply v.world = (.ok reply, (nextReply v.world).2) := Prod.ext (congrArg Prod.fst hnext :) rfl
  exact Reply.graphFrom_failsAs (nextReply_serious hv hreply) _

section

variable {content : Renderer Unit → Except Failure (Option α)} {out : α → Act World (Option Path)}

theorem exportOf_sober (hcontent : ∀ r, FailsAs Layout.Unplaceable (content r)) (hout : ∀ a, Sober id (out a)) :
    Sober world (exportOf content out) := by
  refine Fails.get_bind fun v _ => ?_
  refine Fails.bind (.ofExcept fun _ h => serious_of_unplaceable (hcontent _ _ h)) fun a? => ?_
  split
  · exact .pure _
  · exact inWorld_sober (hout _)

end

theorem dispatch_sober {command : Command} (h : command.exports = true ∨ command = .relayout) (argument : String) :
    Sober world (dispatch command argument) := by
  cases command with
  | relayout =>
    rw [dispatch_relayout]
    exact (inStudio_sober Studio.relayout_sober).bind fun _ => .pure _
  | exportImage =>
    rw [dispatch_exportImage, exportImage_eq]
    exact (exportOf_sober Renderer.snapshot_failsAs fun _ => writeOut_sober _ _ writeImage_sober).bind fun _ => .pure _
  | exportPage =>
    rw [dispatch_exportPage, exportPage_eq]
    exact (exportOf_sober Renderer.snapshot_failsAs fun _ => writeOut_sober _ _ fun path =>
      writeSheet_sober _ path _).bind fun _ => .pure _
  | exportElements =>
    rw [dispatch_exportElements, exportElements_eq]
    exact (exportOf_sober Renderer.document_failsAs fun _ => writeOut_sober _ _ fun path =>
      writeFile_sober path _).bind fun _ => .pure _
  | _ => rcases h with h | h <;> cases h

end Session.Viewer

end DependencyAtlas
