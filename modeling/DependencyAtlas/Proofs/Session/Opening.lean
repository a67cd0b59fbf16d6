import DependencyAtlas.Proofs.Session.Frames
import DependencyAtlas.Session.Opening

namespace DependencyAtlas.Session

open Files Scan Stage
open Act (Keeps)

section

variable {γ : Type} {f : World → γ}

theorem applyCertificates_keeps (hverify : ∀ w v, f { w with settings := w.settings.setVerify v } = f w)
    (hprinted : ∀ w printed, f { w with printed } = f w) (insecure : Bool) (certificates : Option Path) :
    Keeps f (applyCertificates insecure certificates) := by
  have hprint (markup : String) : Keeps f (print markup) := write_keeps hprinted _ _
  have hset (v : Value) : Keeps f (modifySettings (Settings.setVerify v)) := Keeps.modify fun w => hverify w v
  cases certificates with
  | none => exact hset _
  | some path =>
    have hrest : Keeps f (do
        unless (← get).disk.exists? path do
          print ("[red]CA certificate file not found: " ++ path.text ++ "[/red]")
          throw (.exit 1)
        modifySettings (Settings.setVerify (.str path.text))) := by
      apply Keeps.bind Keeps.get
      intro w
      apply Keeps.ite (hset _)
      apply Keeps.bind (hprint _)
      intro _
      exact Keeps.bind (Keeps.throw _) fun _ => hset _
    exact Keeps.ite (Keeps.bind (hprint _) fun _ => hrest) hrest

theorem applyFlags_keeps (hsettings : ∀ w settings, f { w with settings } = f w)
    (hprinted : ∀ w printed, f { w with printed } = f w) (flags : Flags) : Keeps f (applyFlags flags) := by
  have hmodify (alter : Settings → Settings) : Keeps f (modifySettings alter) := Keeps.modify fun w => hsettings w _
  have hset (alter : Surroundings → Settings → Except Failure Settings) : Keeps f (setSettings alter) :=
    Keeps.bind Keeps.get fun w => Keeps.bind (Keeps.ofExcept _) fun _ => Keeps.modify fun w => hsettings w _
  have htimeout : Keeps f (applyTimeout flags.timeout) := by
    refine Keeps.bind (Keeps.ofExcept _) fun nonpositive => Keeps.ite ?_ (hmodify _)
    exact Keeps.bind (write_keeps hprinted _ _) fun _ => Keeps.bind (Keeps.throw _) fun _ => hmodify _
  -- The flags are taken from the last to the first, as each is followed by those after it.
  have hcertificates : Keeps f (applyCertificates flags.insecure flags.certificates) :=
    applyCertificates_keeps (fun w _ => hsettings w _) hprinted _ _
  have hverbose : Keeps f (do
      unless flags.verbose.isNull do modifySettings (Settings.setVerbose flags.verbose)
      applyCertificates flags.insecure flags.certificates) :=
    Keeps.ite hcertificates (Keeps.bind (hmodify _) fun _ => hcertificates)
  have houtput : Keeps f (do
      unless flags.outputDir.isNull do
        setSettings fun around s => s.setOutputDir around flags.outputDir
      unless flags.verbose.isNull do modifySettings (Settings.setVerbose flags.verbose)
      applyCertificates flags.insecure flags.certificates) :=
    Keeps.ite hverbose (Keeps.bind (hset _) fun _ => hverbose)
  have htimed : Keeps f (do
      unless flags.timeout.isNull do applyTimeout flags.timeout
      unless flags.outputDir.isNull do
        setSettings fun around s => s.setOutputDir around flags.outputDir
      unless flags.verbose.isNull do modifySettings (Settings.setVerbose flags.verbose)
      applyCertificates flags.insecure flags.certificates) :=
    Keeps.ite houtput (Keeps.bind htimeout fun _ => houtput)
  exact Keeps.ite (Keeps.bind (hset _) fun _ => htimed) htimed

variable {policy : Layout.Policy} {opens : Bool}

theorem openViewer_keeps (hpage : ∀ w page, f { w with page } = f w)
    (hprinted : ∀ w printed, f { w with printed } = f w) : Keeps f (openViewer policy opens) := by
  refine Keeps.bind (Keeps.bind Keeps.get fun _ => Keeps.ofExcept _) fun dir => ?_
  refine Keeps.bind (Keeps.modify fun w => hpage w _) fun _ => ?_
  refine Keeps.bind Keeps.get fun w => ?_
  refine Keeps.bind (Keeps.ofExcept _) fun client => ?_
  refine Keeps.bind (tell_keeps hprinted _) fun _ => ?_
  exact Keeps.bind Keeps.get fun _ => Keeps.pure _

end

theorem openViewer_holds {policy : Layout.Policy} {opens : Bool} {w w' : World} {v : Viewer} (h : openViewer policy opens w = (.ok v, w')) :
    v.world = w' ∧ v.board.notice.message = none ∧
      ∃ dir, w.settings.getOutputDir w.around = .ok dir ∧ w'.page.path = dir.child livePageName := by
  have hread : getOutputDir w = (w.settings.getOutputDir w.around, w) := rfl
  obtain ⟨dir, w₁, hdir, h⟩ := Act.bind_eq_ok h
  obtain ⟨hfolder, rfl⟩ := Prod.mk.inj (hread.symm.trans hdir)
  rw [Act.bind_apply_ok (Act.modify_apply _ _), Act.bind_apply_ok (Act.get_apply _)] at h
  obtain ⟨client, w₁, hclient, h⟩ := Act.bind_eq_ok h
  obtain ⟨-, rfl⟩ := Prod.mk.inj hclient
  obtain ⟨_, w₂, htell, h⟩ := Act.bind_eq_ok h
  obtain ⟨-, rfl⟩ := Prod.mk.inj (htell.symm.trans (Prod.ext rfl rfl))
  obtain ⟨_, hlast, rfl⟩ := Act.map_eq_ok h
  cases hlast
  refine ⟨rfl, rfl, dir, hfolder, ?_⟩
  exact tell_keeps (f := fun w => w.page.path) (fun _ _ => rfl) _ _

theorem withViewer_apply {α : Type} (v : Viewer) (act : Act Viewer α) :
    withViewer v act v.world = ((act v).1, (act v).2.world) := rfl

end DependencyAtlas.Session
