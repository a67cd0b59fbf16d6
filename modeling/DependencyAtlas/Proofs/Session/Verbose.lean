import DependencyAtlas.Proofs.Session.Muted
import DependencyAtlas.Proofs.Session.SingleFlight
import DependencyAtlas.Proofs.Session.Submitting

namespace DependencyAtlas.Session

open Console Scan Stage
open Act (Alike Respects Keeps)

theorem digits_plain (n : Nat) : ∀ c ∈ (toString n).toList, c ≠ '\\' ∧ c ≠ '[' := by
  intro c hc
  rw [Nat.toString_eq_repr, Nat.toList_repr] at hc
  have hdigit := Nat.isDigit_of_mem_toDigits (by decide) (by decide) hc
  constructor <;> rintro rfl <;> exact absurd hdigit (by decide)

theorem plain_of_all {cs : List Char} (h : cs.all (fun c => c != '\\' && c != '[') = true) :
    ∀ c ∈ cs, c ≠ '\\' ∧ c ≠ '[' := by
  simpa using h

theorem render_counts (n m : Nat) : ∃ text, Markup.render ("[dim]Rendered " ++ toString n ++
    " nodes, " ++ toString m ++ " edges[/dim]") = .ok text := by
  have hplain : ∀ c ∈ ("Rendered " ++ toString n ++ " nodes, " ++ toString m ++ " edges").toList,
      c ≠ '\\' ∧ c ≠ '[' := by
    simp only [String.toList_append, List.forall_mem_append]
    refine ⟨⟨⟨⟨?_, digits_plain n⟩, ?_⟩, digits_plain m⟩, ?_⟩ <;> exact plain_of_all rfl
  have hline : "[dim]" ++ ("Rendered " ++ toString n ++ " nodes, " ++ toString m ++ " edges") ++
      "[/dim]" = "[dim]Rendered " ++ toString n ++ " nodes, " ++ toString m ++ " edges[/dim]" := by
    apply String.toList_inj.mp
    simp
  rw [← hline]
  exact Markup.render_dim hplain

namespace Viewer

variable {v w : Viewer}

def verbose (v : Viewer) : Except Failure Bool :=
  v.world.settings.isVerbose v.world.around

def ignoring (request : Request) : String :=
  "[dim]Scan already in progress, ignoring " ++ request.path ++ "[/dim]"

def posting (client : Client) (request : Request) : String :=
  "[dim]POST " ++ client.scanUrl ++ " " ++ request.path ++ "[/dim]"

def diagnostic (v : Viewer) (request : Request) : String :=
  if v.inFlight then ignoring request else posting v.client request

theorem tell_apply {verbose : Bool} (h : v.verbose = .ok verbose) (markup : String) :
    inWorld (tell markup) v = if verbose then inWorld (print markup) v else (.ok (), v) := by
  have hread : isVerbose v.world = (.ok verbose, v.world) := by
    rw [isVerbose, Act.bind_apply_ok (Act.get_apply _)]
    exact congrArg (·, v.world) h
  rw [inWorld, Act.within_apply, tell, Act.bind_apply_ok hread]
  cases verbose <;> rfl

theorem tell_unread {failure : Failure} (h : v.verbose = .error failure) (markup : String) :
    inWorld (tell markup) v = (.error failure, v) := by
  have hread : isVerbose v.world = (.error failure, v.world) := by
    rw [isVerbose, Act.bind_apply_ok (Act.get_apply _)]
    exact congrArg (·, v.world) h
  rw [inWorld, Act.within_apply, tell, Act.bind_apply_error hread]
  rfl

theorem print_ok {markup text : String} (h : Markup.render markup = .ok text) :
    Alike muted (inWorld (print markup) v) (.ok (), v) := by
  rw [inWorld, Act.within_apply, print, write_of_text h]
  exact ⟨rfl, rfl⟩

theorem print_error {markup : String} {fault : Markup.Fault}
    (h : Markup.render markup = .error fault) :
    inWorld (print markup) v = (.error (.markup fault), v) := by
  rw [inWorld, Act.within_apply, print, write, h]
  rfl

theorem tell_error {markup : String} {fault : Markup.Fault} (h : v.verbose = .ok true)
    (hmarkup : Markup.render markup = .error fault) :
    inWorld (tell markup) v = (.error (.markup fault), v) := by
  rw [tell_apply h]
  exact print_error hmarkup

theorem tell_alike {verbose : Bool} (h : v.verbose = .ok verbose) {markup : String}
    (hmarkup : ∃ text, Markup.render markup = .ok text) :
    Alike muted (inWorld (tell markup) v) (.ok (), v) := by
  obtain ⟨text, htext⟩ := hmarkup
  rw [tell_apply h]
  cases verbose with
  | false => exact ⟨rfl, rfl⟩
  | true => exact print_ok htext

section

variable {m n : Bool} (h : v.muted = w.muted) (hm : v.verbose = .ok m) (hn : w.verbose = .ok n)

include h hm hn

theorem tell_both {markup : String} (hmarkup : ∃ text, Markup.render markup = .ok text) :
    Alike muted (inWorld (tell markup) v) (inWorld (tell markup) w) := by
  have hsame : Alike muted (.ok (), v) (.ok (), w) := ⟨rfl, h⟩
  exact ((tell_alike hm hmarkup).trans hsame).trans (tell_alike hn hmarkup).symm

theorem send_both {request : Request}
    (hposting : ∃ text, Markup.render (posting v.client request) = .ok text) :
    Alike muted (send request v) (send request w) := by
  have hclient : v.muted.client = w.muted.client := by rw [h]
  change v.client = w.client at hclient
  rw [send, Act.bind_apply_ok (Act.get_apply v), Act.bind_apply_ok (Act.get_apply w)]
  dsimp only
  rw [← hclient]
  exact (tell_both h hm hn hposting).bind fun _ => muted_overlooked.request v.client request

end

theorem scan_both {request : Request} (hsend : Alike muted (send request v) (send request w)) :
    Alike muted (scan request v) (scan request w) := by
  refine hsend.bind fun _ => ?_
  exact Respects.bind (inWorld_respects muted_overlooked.nextReply) fun _ => Respects.ofExcept _

theorem ended_both {act : Act Viewer Graph} (h : Alike muted (act v) (act w)) :
    Alike muted ((settle act).andFinally becomeIdle v) ((settle act).andFinally becomeIdle w) := by
  have hsettle : Alike muted (settle act v) (settle act w) := by
    refine h.ending.bind fun result => ?_
    split
    · exact Respects.pure _
    · exact muted_overlooked.recover _
  exact hsettle.andFinally muted_overlooked.becomeIdle

theorem inWorld_keeps_verbose {α : Type} {act : Act World α}
    (h : Keeps (fun w => w.settings.isVerbose w.around) act) : Keeps verbose (inWorld act) :=
  fun v => h v.world

theorem verbose_unstated : Unstated verbose where
  print _ := inWorld_keeps_verbose (write_keeps (fun _ _ => rfl) _ _)
  tell _ := inWorld_keeps_verbose (tell_keeps (fun _ _ => rfl) _)
  board _ _ := rfl
  changes _ _ := rfl
  inFlight _ _ := rfl

theorem started_muted (h : v.muted = w.muted) : v.started.muted = w.started.muted := by
  have hmarked : ({ v with inFlight := true } : Viewer).muted =
      ({ w with inFlight := true } : Viewer).muted :=
    congrArg (fun u : Viewer => { u with inFlight := true }) h
  exact (muted_overlooked.change _ _ _ (muted_overlooked.change _ _ _ hmarked).2).2

theorem conclude_both {act : Act Viewer Graph} {m n : Bool} (h : Alike muted (act v) (act w))
    (hm : (conclude act v).2.verbose = .ok m) (hn : (conclude act w).2.verbose = .ok n) :
    Alike muted (conclude act v) (conclude act w) := by
  have hended := ended_both h
  rw [conclude, Act.bind_apply] at hm hn
  rw [conclude, Act.bind_apply, Act.bind_apply]
  generalize (settle act).andFinally becomeIdle v = x at *
  generalize (settle act).andFinally becomeIdle w = y at *
  obtain ⟨result, v'⟩ := x
  obtain ⟨result', w'⟩ := y
  obtain ⟨rfl, hstate⟩ : result = result' ∧ v'.muted = w'.muted := hended
  rcases result with failure | _ | g
  · exact ⟨rfl, hstate⟩
  · exact ⟨rfl, hstate⟩
  · have hkept (line : String) : Keeps verbose (do
        inWorld (tell line)
        return some g : Act Viewer (Option Graph)) :=
      Keeps.bind (verbose_unstated.tell line) fun _ => Keeps.pure _
    have hcounts := render_counts g.nodes.length g.edges.length
    have hv : v'.verbose = .ok m := (hkept _ v').symm.trans hm
    have hw : w'.verbose = .ok n := (hkept _ w').symm.trans hn
    exact (tell_both hstate hv hw hcounts).bind fun _ => Respects.pure _

theorem started_client (v : Viewer) : v.started.client = v.client :=
  congrArg Prod.fst (account_unstated.started v)

theorem submit_passed {path : Value} {failure : Failure}
    (hpath : Request.ofValue path = .error failure) :
    ∃ result, ∀ v, submit path v = (result, v) := by
  refine ⟨(submit path newViewer).1, fun v => ?_⟩
  rw [submit, beginSubmit, accept, hpath]
  cases failure <;> rfl

section

variable {path : Value} {request : Request} (hpath : Request.ofValue path = .ok request)

include hpath

theorem accept_ignored (hbusy : v.inFlight = true) :
    accept path v = (do
      inWorld (tell (ignoring request))
      return none : Act Viewer (Option Request)) v := by
  rw [accept, hpath]
  dsimp only
  rw [Act.bind_apply_ok (Act.get_apply v), if_pos hbusy]
  rfl

theorem submit_running (hbusy : v.inFlight = true) :
    submit path v = (do
      inWorld (tell (ignoring request))
      return none : Act Viewer (Option Graph)) v := by
  rw [submit, Act.bind_apply, beginSubmit, Act.bind_apply, accept_ignored hpath hbusy, Act.bind_apply,
    Act.bind_apply]
  generalize inWorld (tell (ignoring request)) v = told
  rcases told with ⟨failure | _, u⟩ <;> rfl

theorem submit_both (h : v.muted = w.muted) {m n : Bool} (hm : v.verbose = .ok m)
    (hn : w.verbose = .ok n) (hm' : (submit path v).2.verbose = .ok m)
    (hn' : (submit path w).2.verbose = .ok n)
    (hdiagnostic : ∃ text, Markup.render (v.diagnostic request) = .ok text) :
    Alike muted (submit path v) (submit path w) := by
  have hinFlight : v.muted.inFlight = w.muted.inFlight := by rw [h]
  change v.inFlight = w.inFlight at hinFlight
  rw [diagnostic] at hdiagnostic
  cases hbusy : v.inFlight with
  | true =>
    rw [if_pos hbusy] at hdiagnostic
    rw [submit_running hpath hbusy, submit_running hpath (hinFlight ▸ hbusy)]
    exact (tell_both h hm hn hdiagnostic).bind fun _ => Respects.pure _
  | false =>
    rw [if_neg (ne_true_of_eq_false hbusy)] at hdiagnostic
    rw [submit_accepted hpath hbusy] at hm' ⊢
    rw [submit_accepted hpath (hinFlight ▸ hbusy)] at hn' ⊢
    have hposting : ∃ text, Markup.render (posting v.started.client request) = .ok text := by
      rw [started_client]
      exact hdiagnostic
    have hsend := send_both (started_muted h) ((verbose_unstated.started v).trans hm)
      ((verbose_unstated.started w).trans hn) hposting
    exact conclude_both ((scan_both hsend).bind muted_overlooked.present) hm' hn'

variable {fault : Markup.Fault} (hverbose : v.verbose = .ok true)
  (hdiagnostic : Markup.render (v.diagnostic request) = .error fault)

include hverbose hdiagnostic

theorem submit_stuck : submit path v =
      (.error (.markup fault), if v.inFlight then v else (becomeIdle v.started).2) := by
  rw [diagnostic] at hdiagnostic
  cases hbusy : v.inFlight with
  | true =>
    rw [if_pos hbusy] at hdiagnostic
    rw [submit_running hpath hbusy, Act.bind_apply_error (tell_error hverbose hdiagnostic)]
    rfl
  | false =>
    rw [if_neg (ne_true_of_eq_false hbusy), ← started_client] at hdiagnostic
    have hsend : send request v.started = (.error (.markup fault), v.started) := by
      have htell := tell_error ((verbose_unstated.started v).trans hverbose) hdiagnostic
      rw [send, Act.bind_apply_ok (Act.get_apply v.started)]
      exact Act.bind_apply_error htell
    have hscan : (scan request >>= present) v.started = (.error (.markup fault), v.started) :=
      Act.bind_apply_error (Act.bind_apply_error hsend)
    rw [submit_accepted hpath hbusy]
    apply conclude_of_failed
    rw [settle_of_failure hscan]
    rfl

theorem submit_stuck_keeps {γ : Type} {f : Viewer → γ} (hf : Unstated f) :
    f (submit path v).2 = f v := by
  rw [submit_stuck hpath hverbose hdiagnostic]
  dsimp only
  split
  · rfl
  · rw [hf.becomeIdle, hf.started]

end

def settings (v : Viewer) : Settings :=
  v.world.settings

theorem inWorld_keeps_settings {α : Type} {act : Act World α} (h : Keeps World.settings act) :
    Keeps settings (inWorld act) :=
  fun v => h v.world

theorem inStudio_keeps_settings {α : Type} {act : Act (Studio World Unit) α}
    (h : Keeps (fun s => s.outside.settings) act) : Keeps settings (inStudio act) :=
  fun v => h v.studio

theorem settings_unstated : Unstated settings where
  print _ := inWorld_keeps_settings (write_keeps (fun _ _ => rfl) _ _)
  tell _ := inWorld_keeps_settings (tell_keeps (fun _ _ => rfl) _)
  board _ _ := rfl
  changes _ _ := rfl
  inFlight _ _ := rfl

theorem present_keeps_settings (g : Graph) : Keeps settings (present g) := by
  apply Keeps.ite (Keeps.throw _)
  apply Keeps.bind (inStudio_keeps_settings
    (Studio.render_keeps canvas_keeps_settings.draw canvas_keeps_settings.clear g))
  intro _
  exact Keeps.pure _

theorem submit_keeps_settings (path : Value) : Keeps settings (submit path) := by
  intro v
  have hscan : ∀ request, Keeps settings (scan request) :=
    scan_keeps fun h => inWorld_keeps_settings fun w => (congrArg World.settings (h w) :)
  have hrelease : Keeps settings release :=
    inStudio_keeps_settings (Studio.release_keeps canvas_keeps_settings.clear)
  cases hpath : Request.ofValue path with
  | error failure =>
    obtain ⟨result, hresult⟩ := submit_passed hpath
    rw [hresult]
  | ok request =>
    cases hbusy : v.inFlight with
    | true =>
      rw [submit_running hpath hbusy]
      exact Keeps.bind (settings_unstated.tell _) (fun _ => Keeps.pure _) v
    | false =>
      have hconclude := settings_unstated.conclude hrelease
        ((hscan request).bind present_keeps_settings) v.started
      rw [submit_accepted hpath hbusy, hconclude, settings_unstated.started]

def StaysVerbose (verbose : Bool) (path : Value) (v : Viewer) : Prop :=
  v.verbose = .ok verbose ∧ (submit path v).2.verbose = .ok verbose

theorem verbose_of_explicit {value : Value} (h : v.settings.verbose = some value) :
    v.verbose = .ok value.truthy := by
  rw [verbose, Settings.isVerbose, Settings.getVerbose]
  change v.world.settings.verbose = some value at h
  rw [h]
  rfl

theorem staysVerbose_of_explicit {value : Value} (h : v.settings.verbose = some value)
    (path : Value) : v.StaysVerbose value.truthy path := by
  refine ⟨verbose_of_explicit h, verbose_of_explicit ?_⟩
  rw [submit_keeps_settings]
  exact h

end Viewer

open Viewer

/-- What the verbose viewer does besides printing is what the other does, unless the diagnostic that names
the path cannot be printed. Then the submission fails, without a request and with the stage as it was. -/
theorem verbose_prints {path : Value} {v w : Viewer} (h : v.muted = w.muted)
    (hon : v.StaysVerbose true path) (hoff : w.StaysVerbose false path) :
    ((∀ request, Request.ofValue path = .ok request →
        ∃ text, Markup.render (v.diagnostic request) = .ok text) →
      Alike muted (submit path v) (submit path w)) ∧
    (∀ request fault, Request.ofValue path = .ok request →
      Markup.render (v.diagnostic request) = .error fault →
        (submit path v).1 = .error (.markup fault) ∧
        (submit path v).2.requests = v.requests ∧ (submit path v).2.scenery = v.scenery) := by
  refine ⟨fun hdiagnostic => ?_, fun request fault hpath hfault => ?_⟩
  · cases hpath : Request.ofValue path with
    | error failure =>
      obtain ⟨result, hresult⟩ := submit_passed hpath
      rw [hresult, hresult]
      exact ⟨rfl, h⟩
    | ok request =>
      exact submit_both hpath h hon.1 hoff.1 hon.2 hoff.2 (hdiagnostic request hpath)
  · refine ⟨congrArg Prod.fst (submit_stuck hpath hon.1 hfault), ?_, ?_⟩
    · exact congrArg Prod.snd (submit_stuck_keeps hpath hon.1 hfault account_unstated)
    · exact submit_stuck_keeps hpath hon.1 hfault scenery_unstated

def switched (on : Bool) : Viewer :=
  newViewer.setWorld
    { bareWorld with settings := { Settings.initial with verbose := some (.bool on) } }

theorem switched_stays (on : Bool) (path : Value) : (switched on).StaysVerbose on path := by
  have hset : (switched on).settings.verbose = some (.bool on) := rfl
  exact staysVerbose_of_explicit hset path

theorem verbose_prints_switched :
    (switched true).muted = (switched false).muted ∧
      (switched true).StaysVerbose true (.str "a") ∧ (switched false).StaysVerbose false (.str "a") ∧
      Alike muted (submit (.str "a") (switched true)) (submit (.str "a") (switched false)) := by
  have hon := switched_stays true (.str "a")
  have hoff := switched_stays false (.str "a")
  have hsame : (switched true).muted = (switched false).muted := rfl
  refine ⟨hsame, hon, hoff, (verbose_prints hsame hon hoff).1 fun request hrequest => ?_⟩
  obtain rfl : ⟨"a"⟩ = request := Except.ok.inj hrequest
  have hprints : (Markup.render ((switched true).diagnostic ⟨"a"⟩)).isOk = true := by
    decide +kernel
  generalize Markup.render ((switched true).diagnostic ⟨"a"⟩) = result at hprints ⊢
  cases result with
  | error fault => cases hprints
  | ok text => exact ⟨text, rfl⟩

theorem verbose_fails :
    (switched true).muted = (switched false).muted ∧
      (switched true).StaysVerbose true (.str "[/x]") ∧
      (switched false).StaysVerbose false (.str "[/x]") ∧
      (submit (.str "[/x]") (switched true)).1.isOk = false ∧
      (submit (.str "[/x]") (switched true)).2.requests.length = 0 ∧
      (submit (.str "[/x]") (switched false)).1.isOk = true ∧
      (submit (.str "[/x]") (switched false)).2.requests.length = 1 := by
  refine ⟨rfl, switched_stays _ _, switched_stays _ _, ?_⟩
  decide +kernel

end DependencyAtlas.Session
