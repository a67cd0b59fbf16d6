import DependencyAtlas.Proofs.Program.FirstScan
import DependencyAtlas.Proofs.Program.FollowUps
import DependencyAtlas.Proofs.Session.Opening
import DependencyAtlas.Proofs.Session.Reached

namespace DependencyAtlas

open Files Scan Session Stage
open Act (Keeps Maintains Fails)

namespace Session

section

variable {policy : Layout.Policy} {opens : Bool}

theorem openViewer_sober : Sober id (openViewer policy opens) := by
  refine getOutputDir_sober.bind fun dir => ?_
  refine Fails.bind (.modify fun w hw => hw.of_same rfl) fun _ => ?_
  refine Fails.get_bind fun w _ => ?_
  refine Fails.bind (.ofExcept (Client.create_failsAs w.settings w.around)) fun client => ?_
  refine (tell_sober _).bind fun _ => ?_
  exact .get_bind fun _ _ => .pure _

end

theorem fresh_of_opened {opens : Bool} {w w' : World} {v : Viewer} (h : openViewer {} opens w = (.ok v, w'))
    (hserious : w.Serious) : Fresh v := by
  obtain ⟨hworld, hwordless, -⟩ := openViewer_holds h
  obtain ⟨hidle, hhidden, hfree⟩ := openViewer_fresh h
  have hsober : Sober id (openViewer {} opens) := openViewer_sober
  have hkept := hsober.maintains w hserious
  rw [h] at hkept
  exact ⟨hidle, hhidden, hfree, hwordless, hworld ▸ hkept⟩

namespace Viewer

variable {v : Viewer}

theorem send_tidy (request : Request) : Maintains (fun v => v.world.pool.Tidy) (send request) := by
  refine Maintains.bind .get fun v => ?_
  refine Maintains.bind (.of_keeps fun v => tell_keeps (f := World.pool) (fun _ _ => rfl) _ v.world) fun _ => ?_
  refine Maintains.bind (fun v hv => connect_tidy hv) fun _ => ?_
  refine Maintains.bind (.ofExcept _) fun sent => ?_
  exact .bind (fun _ => id) fun _ => .pure _

theorem scan_tidy (request : Request) : Maintains (fun v => v.world.pool.Tidy) (scan request) := by
  refine Maintains.bind (send_tidy request) fun waiting => ?_
  refine Maintains.bind (.of_keeps fun v => nextReply_keeps (f := World.pool) (fun _ _ => rfl) v.world) fun reply => ?_
  exact .ofExcept _

theorem submit_maintains {γ : Type} {f : Viewer → γ} {P : Viewer → Prop} (hP : ∀ v w, f w = f v → P v → P w)
    (hf : Unstated f) (hrelease : Keeps f release) (hscan : ∀ request, Maintains P (scan request))
    (hpresent : ∀ g, Maintains P (present g)) (hidle : v.inFlight = false) (h : P v) (path : String) :
    P (submit (.str path) v).2 := by
  by_cases htext : Text.trimmed path = ""
  · rw [submit_blank htext]
    exact h
  have hdone : P ((scan ⟨Text.trimmed path⟩ >>= present) v.started).2 :=
    Maintains.bind (hscan _) hpresent v.started (hP v _ (hf.started v) h)
  have hended (act : Act Viewer Graph) (v : Viewer) : f (conclude act v).2 = f (act v).2 := by
    have hresult : act v = Act.ofExcept (act v).1 (act v).2 := rfl
    rw [conclude_congr hresult]
    exact hf.conclude hrelease (Keeps.ofExcept _) _
  rw [submit_accepted (ofValue_text htext) hidle]
  exact hP _ _ (hended _ _) hdone

theorem submit_tidy (hidle : v.inFlight = false) (h : v.world.pool.Tidy) (path : String) :
    (submit (.str path) v).2.world.pool.Tidy := by
  refine submit_maintains (P := fun v => v.world.pool.Tidy) (fun v w hbooks hv => ?_) books_unstated
    release_keeps_books scan_tidy (fun g v hv => ?_) hidle h path
  · have hpool : w.world.pool = v.world.pool := congrArg (fun books => books.2.2.1) hbooks
    exact hpool ▸ hv
  · have hpool : (present g v).2.world.pool = v.world.pool :=
      congrArg (fun books => books.2.2.1) (present_keeps_books g v)
    exact (congrArg Pool.Tidy hpool).mpr hv

theorem submit_serious (hidle : v.inFlight = false) (h : v.world.Serious) (path : String) :
    (submit (.str path) v).2.world.Serious := by
  have hclear : Keeps World.sources canvas.clear := clear_keeps fun _ _ => rfl
  refine submit_maintains (f := fun v => v.world.sources) (fun v w hsame hv => hv.of_same hsame) sources_unstated
    (fun v => Studio.release_keeps hclear v.studio) (fun request => (scan_sober request).maintains) (fun g => ?_)
    hidle h path
  exact .ite (.throw _) (.bind (inStudio_sober (Studio.render_sober g)).maintains fun _ => .pure _)

end Viewer

end Session

namespace Program

open Viewer

def disconnected (v : Viewer) : Viewer :=
  v.setWorld { v.world with pool := v.world.pool.shut }

theorem disconnect_apply (v : Viewer) : disconnect v = (.ok (), disconnected v) := rfl

@[simp] theorem disconnected_message (v : Viewer) : (disconnected v).message = v.message := rfl

theorem submission_apply (path : String) (v : Viewer) :
    (Viewer.dispatch .submit path).andFinally disconnect v =
      ((submit (.str path) v).1.map Outcome.ofGraph, disconnected (submit (.str path) v).2) := by
  rw [Act.andFinally_apply, dispatch_submit, disconnect_apply, Act.bind_apply]
  rcases submit (.str path) v with ⟨failure | shown, u⟩ <;> rfl

def drawnText (g : Graph) (page : Path) : String :=
  "[green]Rendered " ++ toString g.nodes.length ++ " nodes and " ++ toString g.edges.length ++ " edges to: " ++
    page.text ++ "[/green]"

def Follows (path : String) (v u : Viewer) : Prop :=
  ∃ g t, (Viewer.dispatch .submit path).andFinally disconnect v = (.ok (.graph g), t) ∧
    Viewer.inWorld (print (drawnText g t.world.page.path)) t = (.ok (), u)

theorem afterScan_none (wanted : FollowUps) (v : Viewer) :
    afterScan wanted .none v = (if endsWell v.message then .ok () else .error (.exit 1), v) := by
  have hunfolded : afterScan wanted .none v =
      (unless endsWell v.message do throw (.exit 1) : Act Viewer Unit) v := rfl
  rw [hunfolded]
  cases endsWell v.message <;> rfl

def giveUp : Failure → Act Viewer Unit
  | .complaint c => do
    printComplaint c
    throw (.exit 1)
  | failure => throw failure

theorem afterScan_graph {g : Graph} {v u : Viewer}
    (hreported : Viewer.inWorld (print (drawnText g v.world.page.path)) v = (.ok (), u)) (wanted : FollowUps) :
    afterScan wanted (.graph g) v =
      match followUp wanted u with
      | (.ok _, e) => (.ok (), e)
      | (.error failure, e) => giveUp failure e := by
  rw [afterScan, Act.bind_apply_ok (Act.get_apply v)]
  refine (Act.bind_apply_ok hreported).trans ?_
  rw [Act.bind_apply_ok (Act.ending_apply _ u)]
  rcases followUp wanted u with ⟨failure | _, e⟩
  · cases failure <;> rfl
  · rfl

theorem afterScan_unreported {g : Graph} {v u : Viewer} {failure : Failure}
    (hreported : Viewer.inWorld (print (drawnText g v.world.page.path)) v = (.error failure, u)) (wanted : FollowUps) :
    afterScan wanted (.graph g) v = (.error failure, u) := by
  rw [afterScan, Act.bind_apply_ok (Act.get_apply v)]
  exact Act.bind_apply_error hreported

theorem code_of_serious {failure : Failure} (h : failure.Serious) : (Ending.of (.error failure)).code = 1 := by
  cases failure with
  | exit | halt => exact absurd h id
  | _ => rfl

theorem giveUp_ends {failure : Failure} (h : failure.Serious) (e : Viewer) :
    (Ending.of (giveUp failure e).1).code = 1 ∧
      ∃ printed, (giveUp failure e).2.world = { e.world with printed } := by
  cases failure with
  | complaint c =>
    obtain ⟨text, htext⟩ := c.message.render_markup
    have hprinted : printComplaint c e =
        (.ok (), e.setWorld { e.world with printed := e.world.printed ++ [text ++ "\n"] }) := by
      rw [printComplaint, Viewer.inWorld, Act.within_apply, print, write_of_text htext]
    rw [giveUp, Act.bind_apply_ok hprinted]
    exact ⟨rfl, _, rfl⟩
  | exit | halt => exact absurd h id
  | _ => exact ⟨rfl, e.world.printed, rfl⟩

/-- All goes well if the graph has no nodes, or if it is drawn, the settings can still be read, and all that was asked
for is done. -/
inductive Succeeds (path : String) (wanted : FollowUps) (v : Viewer) : Prop
  | nothing (h : BringsNothing path v)
  | followed {t u e : Viewer} {verbose : Bool} (hdrawn : Draws path v t) (hread : t.verbose = .ok verbose)
    (hfollows : Follows path v u) (hdone : Followed wanted.commands u (.ok (), e))

/-- How a scan ends with the viewer that was opened for it. The exit code is zero or one, and zero if all goes well. What
was asked for follows, once the client is closed, if the graph is drawn and the settings can still be read, and how
this ends is how the scan ends. At the end the client is closed, and the page is there if the graph is drawn, and only
then if there was none before. -/
structure ScanEnds (path : String) (wanted : FollowUps) (v : Viewer) (run : Except Failure Unit × World) : Prop where
  well_iff : (Ending.of run.1).code = 0 ↔ Succeeds path wanted v
  badly : (Ending.of run.1).code ≠ 0 → (Ending.of run.1).code = 1
  follows_iff : (∃ u, Follows path v u) ↔ ∃ t verbose, Draws path v t ∧ t.verbose = .ok verbose
  followed : ∀ u, Follows path v u → u.world.pool.AllClosed ∧
    ∃ result e printed, Followed wanted.commands u (result, e) ∧ ((Ending.of run.1).code = 0 ↔ result = .ok ()) ∧
      run.2 = { e.world with printed }
  closed : run.2.pool.AllClosed
  paged : ∀ t, Draws path v t → run.2.disk.isFile v.world.page.path = true
  page_iff : v.world.pageIsFile = false → (run.2.disk.isFile v.world.page.path = true ↔ ∃ t, Draws path v t)

section

variable {path : String} {flags : Flags} {wanted : FollowUps} {opens : Bool} {w w₁ : World}

theorem scan_of_unopened (hflags : applyFlags flags w = (.ok (), w₁)) {failure : Failure} {w₂ : World}
    (hopened : openViewer {} opens w₁ = (.error failure, w₂)) :
    scan path flags wanted opens w = (.error failure, w₂) := by
  have hprepare : prepare flags opens w = (.error failure, w₂) := (Act.bind_apply_ok hflags).trans hopened
  rw [scan, Act.bind_apply_error hprepare]

theorem scan_of_opened (hflags : applyFlags flags w = (.ok (), w₁)) {v : Viewer} {w₂ : World}
    (hopened : openViewer {} opens w₁ = (.ok v, w₂)) :
    scan path flags wanted opens w =
      ((finishScan wanted (Viewer.dispatch .submit path) v).1,
        (finishScan wanted (Viewer.dispatch .submit path) v).2.world) := by
  have hprepare : prepare flags opens w = (.ok v, w₂) := (Act.bind_apply_ok hflags).trans hopened
  obtain ⟨rfl, -⟩ := openViewer_holds hopened
  rw [scan, Act.bind_apply_ok hprepare, withViewer_apply]

theorem finishScan_apply (v : Viewer) :
    finishScan wanted (Viewer.dispatch .submit path) v =
      match submit (.str path) v with
      | (.error failure, u) => (.error failure, disconnected u)
      | (.ok none, u) => afterScan wanted .none (disconnected u)
      | (.ok (some g), u) => afterScan wanted (.graph g) (disconnected u) := by
  rw [finishScan, Act.bind_apply, submission_apply]
  rcases submit (.str path) v with ⟨failure | _ | g, u⟩ <;> rfl

theorem draws_unique {v t t' : Viewer} (h : Draws path v t) (h' : Draws path v t') : t = t' := by
  obtain ⟨g, u, ⟨request, hpath, hscan⟩, -, hdrawn⟩ := h
  obtain ⟨g', u', ⟨request', hpath', hscan'⟩, -, hdrawn'⟩ := h'
  cases hpath.symm.trans hpath'
  cases hscan.symm.trans hscan'
  cases hdrawn.symm.trans hdrawn'
  rfl

variable {v : Viewer}

theorem submit_of_follows {u : Viewer} (h : Follows path v u) : ∃ g, (submit (.str path) v).1 = .ok (some g) := by
  obtain ⟨g, t, hsubmission, -⟩ := h
  rw [submission_apply] at hsubmission
  rcases hsubmit : submit (.str path) v with ⟨failure | _ | g', u⟩ <;> rw [hsubmit] at hsubmission
  · cases hsubmission
  · cases hsubmission
  · exact ⟨g', rfl⟩

theorem scanEnds_of_unfollowed {u : Viewer} {result : Except Failure (Option Graph)} {run : Except Failure Unit}
    (hsubmit : submit (.str path) v = (result, u)) (hresult : ∀ g, result ≠ .ok (some g))
    (htidy : u.world.pool.Tidy) (hpath : u.world.page.path = v.world.page.path)
    (hcode : (Ending.of run).code = 0 ∧ BringsNothing path v ∨ (Ending.of run).code = 1 ∧ ¬ BringsNothing path v)
    (hunread : ∀ t verbose, Draws path v t → t.verbose ≠ .ok verbose)
    (hpaged : ∀ t, Draws path v t → u.world.pageIsFile = true)
    (hunpaged : v.world.pageIsFile = false → (∀ t, ¬ Draws path v t) → u.world.pageIsFile = false) :
    ScanEnds path wanted v (run, (disconnected u).world) := by
  have hnone (w : Viewer) : ¬ Follows path v w := by
    intro hfollows
    obtain ⟨g, hg⟩ := submit_of_follows hfollows
    rw [hsubmit] at hg
    exact hresult g hg
  have hsucceeds : Succeeds path wanted v ↔ BringsNothing path v := by
    constructor
    · rintro (hnothing | ⟨-, -, hfollows, -⟩)
      · exact hnothing
      · exact absurd hfollows (hnone _)
    · exact .nothing
  have hthere : (disconnected u).world.disk.isFile v.world.page.path = u.world.pageIsFile := by
    rw [← hpath]
    rfl
  refine ⟨?_, ?_, ⟨?_, ?_⟩, fun w hfollows => absurd hfollows (hnone w), htidy.shut,
    fun t hdrawn => hthere.trans (hpaged t hdrawn), fun hclean => ⟨fun hpage => ?_, ?_⟩⟩
  · rw [hsucceeds]
    rcases hcode with ⟨hzero, hempty⟩ | ⟨hone, hfull⟩
    · exact iff_of_true hzero hempty
    · exact iff_of_false (by rw [hone]; exact Nat.one_ne_zero) hfull
  · intro hbadly
    rcases hcode with ⟨hzero, -⟩ | ⟨hone, -⟩
    · exact absurd hzero hbadly
    · exact hone
  · rintro ⟨w, hfollows⟩
    exact absurd hfollows (hnone w)
  · rintro ⟨t, verbose, hdrawn, hread⟩
    exact absurd hread (hunread t verbose hdrawn)
  · by_contra hnot
    cases (hthere.symm.trans hpage).symm.trans (hunpaged hclean (not_exists.mp hnot))
  · rintro ⟨t, hdrawn⟩
    exact hthere.trans (hpaged t hdrawn)

theorem page_stays (path : String) (v : Viewer) :
    (submit (.str path) v).2.world.page.path = v.world.page.path := by
  have hstays : Stays fun u => u.world.page.path = v.world.page.path :=
    stays_of_keeps (f := fun w => w.page.path) (fun _ => rfl)
      (canvas_keeps (fun _ _ => rfl) (fun _ _ => rfl) (fun _ _ => rfl) (fun _ _ => rfl) fun _ _ => rfl)
      (fun _ _ => rfl) (fun _ _ => rfl) _
  have hdispatched := hstays.dispatch .submit path v rfl
  rw [dispatch_submit] at hdispatched
  exact (Keeps.bind_right (f := fun u : Viewer => u.world.page.path) (fun _ => Keeps.pure _) v).symm.trans hdispatched

theorem serious_of_print {markup : String} {t u : Viewer} (h : Viewer.inWorld (print markup) t = (.ok (), u))
    (hserious : t.world.Serious) : u.world.Serious := by
  obtain ⟨printed, hprinted⟩ := print_done h
  rw [hprinted]
  exact hserious.of_same rfl

variable {g : Graph} {t : Viewer} {run : Except Failure Unit} {last : Viewer}

theorem reported_of_printed (hrun : afterScan wanted (.graph g) t = (run, last))
    (hprinted : ∀ fault, run ≠ .error (.markup fault)) :
    ∃ u, Viewer.inWorld (print (drawnText g t.world.page.path)) t = (.ok (), u) := by
  rcases hreported : Viewer.inWorld (print (drawnText g t.world.page.path)) t with ⟨failure | _, u⟩
  · obtain ⟨fault, rfl⟩ := print_failure hreported
    obtain ⟨rfl, -⟩ := Prod.mk.inj ((afterScan_unreported hreported wanted).symm.trans hrun)
    exact absurd rfl (hprinted fault)
  · exact ⟨u, rfl⟩

theorem followed_ends {u : Viewer} (hrun : afterScan wanted (.graph g) t = (run, last))
    (hreported : Viewer.inWorld (print (drawnText g t.world.page.path)) t = (.ok (), u))
    (hserious : t.world.Serious) (hprinted : ∀ fault, run ≠ .error (.markup fault)) :
    ∃ result e printed, Followed wanted.commands u (result, e) ∧ last.world = { e.world with printed } ∧
      ((Ending.of run).code = 0 ∧ result = .ok () ∨ (Ending.of run).code = 1 ∧ result ≠ .ok ()) := by
  rw [afterScan_graph hreported, followUp_eq] at hrun
  have hunmarked : ∀ fault, (forM wanted.commands followOne u).1 ≠ .error (.markup fault) := by
    intro fault hfault
    rcases hfollow : forM wanted.commands followOne u with ⟨result, e⟩
    rw [hfollow] at hrun hfault
    obtain rfl : result = .error (.markup fault) := hfault
    obtain ⟨rfl, -⟩ := Prod.mk.inj hrun
    exact hprinted fault rfl
  have hfollowed := followed_of_printed hunmarked
  have hfails := hfollowed.serious (fun _ => mem_commands) (serious_of_print hreported hserious)
  rcases hfollow : forM wanted.commands followOne u with ⟨failure | _, e⟩ <;> rw [hfollow] at hfollowed hfails hrun
  · obtain ⟨hcode, printed, hworld⟩ := giveUp_ends (hfails failure rfl) e
    rw [show giveUp failure e = (run, last) from hrun] at hcode hworld
    exact ⟨_, e, printed, hfollowed, hworld, .inr ⟨hcode, nofun⟩⟩
  · obtain ⟨rfl, rfl⟩ := Prod.mk.inj hrun
    exact ⟨_, e, e.world.printed, hfollowed, rfl, .inl ⟨rfl, rfl⟩⟩

theorem follows_unique {u u' : Viewer}
    (hsubmission : (Viewer.dispatch .submit path).andFinally disconnect v = (.ok (.graph g), t))
    (hreported : Viewer.inWorld (print (drawnText g t.world.page.path)) t = (.ok (), u)) (h : Follows path v u') :
    u' = u := by
  obtain ⟨g', t', hsubmission', hreported'⟩ := h
  cases hsubmission.symm.trans hsubmission'
  cases hreported.symm.trans hreported'
  rfl

theorem drawn_ends {t₀ : Viewer} {verbose : Bool} (hfull : ¬ BringsNothing path v)
    (hdrawn : Draws path v t₀) (hread : t₀.verbose = .ok verbose)
    (hsubmission : (Viewer.dispatch .submit path).andFinally disconnect v = (.ok (.graph g), t))
    (hserious : t.world.Serious) (hclosed : t.world.pool.AllClosed) (hpage : t.world.pageIsFile = true)
    (hpath : t.world.page.path = v.world.page.path) (hrun : afterScan wanted (.graph g) t = (run, last))
    (hprinted : ∀ fault, run ≠ .error (.markup fault)) : ScanEnds path wanted v (run, last.world) := by
  obtain ⟨u, hreported⟩ := reported_of_printed hrun hprinted
  have hfollows : Follows path v u := ⟨g, t, hsubmission, hreported⟩
  obtain ⟨result, e, printed, hfollowed, hend, hways⟩ := followed_ends hrun hreported hserious hprinted
  obtain ⟨text, hworld⟩ := print_done hreported
  have hpool : e.world.pool = t.world.pool := by
    rw [hfollowed.pool_eq fun _ => mem_commands, hworld]
  have hkept : e.world.disk.isFile t.world.page.path = true := by
    have hgrows : u.world.Grows e.world := hfollowed.grows fun _ => mem_commands
    have hpage' : u.world.disk.isFile t.world.page.path = true := by
      rw [hworld]
      exact hpage
    exact hgrows.disk.isFile hpage'
  have hzero : (Ending.of run).code = 0 ↔ result = .ok () := by
    rcases hways with ⟨hcode, hdone⟩ | ⟨hcode, hfailed⟩
    · exact iff_of_true hcode hdone
    · exact iff_of_false (by rw [hcode]; exact Nat.one_ne_zero) hfailed
  have hpaged : last.world.disk.isFile v.world.page.path = true := by
    rw [hend, ← hpath]
    exact hkept
  refine ⟨hzero.trans ⟨?_, ?_⟩, ?_, ?_, ?_, ?_, fun _ _ => hpaged, fun _ => iff_of_true hpaged ⟨t₀, hdrawn⟩⟩
  · rintro rfl
    exact .followed hdrawn hread hfollows hfollowed
  · rintro (hnothing | ⟨-, -, hfollows', hdone⟩)
    · exact absurd hnothing hfull
    · obtain rfl := follows_unique hsubmission hreported hfollows'
      exact congrArg Prod.fst (hfollowed.unique hdone)
  · intro hbadly
    rcases hways with ⟨hcode, -⟩ | ⟨hcode, -⟩
    · exact absurd hcode hbadly
    · exact hcode
  · exact iff_of_true ⟨_, hfollows⟩ ⟨t₀, verbose, hdrawn, hread⟩
  · intro u' hfollows'
    obtain rfl := follows_unique hsubmission hreported hfollows'
    rw [hworld]
    exact ⟨hclosed, result, e, printed, hfollowed, hzero, hend⟩
  · dsimp only
    rw [hend]
    exact (congrArg Pool.AllClosed hpool).mpr hclosed

theorem finish_ends (h : Fresh v) (htidy : v.world.pool.Tidy)
    (hprinted : ∀ fault, (finishScan wanted (Viewer.dispatch .submit path) v).1 ≠ .error (.markup fault)) :
    ScanEnds path wanted v ((finishScan wanted (Viewer.dispatch .submit path) v).1,
      (finishScan wanted (Viewer.dispatch .submit path) v).2.world) := by
  have htidy' := submit_tidy h.idle.1 htidy path
  have hserious := submit_serious h.idle.1 h.serious path
  have hpath := page_stays path v
  have hends := first_ends h path
  rw [finishScan_apply] at hprinted ⊢
  rcases hsubmit : submit (.str path) v with ⟨result, u⟩
  rw [hsubmit] at htidy' hserious hpath hends hprinted
  cases hends with
  | undrawn hfull hundrawn hpage hresult =>
    rcases hresult with ⟨failure, rfl, hfailure⟩ | ⟨rfl, hill⟩
    · exact scanEnds_of_unfollowed hsubmit nofun htidy' hpath (.inr ⟨code_of_serious hfailure, hfull⟩)
        (fun t _ hdrawn => absurd hdrawn (hundrawn t)) (fun t hdrawn => absurd hdrawn (hundrawn t))
        fun hclean _ => hpage hclean
    · dsimp only
      rw [afterScan_none, disconnected_message, hill]
      exact scanEnds_of_unfollowed hsubmit nofun htidy' hpath (.inr ⟨rfl, hfull⟩)
        (fun t _ hdrawn => absurd hdrawn (hundrawn t)) (fun t hdrawn => absurd hdrawn (hundrawn t))
        fun hclean _ => hpage hclean
  | nothing hempty hundrawn hpage hwell =>
    dsimp only
    rw [afterScan_none, disconnected_message, hwell]
    exact scanEnds_of_unfollowed hsubmit nofun htidy' hpath (.inl ⟨rfl, hempty⟩)
      (fun t _ hdrawn => absurd hdrawn (hundrawn t)) (fun t hdrawn => absurd hdrawn (hundrawn t))
      fun hclean _ => hpage hclean
  | @drawn g t u verbose hfull hdrawn hpage hread =>
    have hsubmission : (Viewer.dispatch .submit path).andFinally disconnect v = (.ok (.graph g), disconnected u) := by
      rw [submission_apply, hsubmit]
      rfl
    dsimp only at hprinted ⊢
    rcases hrun : afterScan wanted (.graph g) (disconnected u) with ⟨run, last⟩
    rw [hrun] at hprinted
    exact drawn_ends hfull hdrawn hread hsubmission (hserious.of_same rfl) htidy'.shut hpage hpath hrun hprinted
  | @unread failure t u hfull hdrawn hpage hread hfailure =>
    refine scanEnds_of_unfollowed hsubmit nofun htidy' hpath (.inr ⟨code_of_serious hfailure, hfull⟩) ?_
      (fun _ _ => hpage) fun _ hundrawn => absurd hdrawn (hundrawn t)
    intro t' verbose hdrawn' hread'
    rw [draws_unique hdrawn' hdrawn, hread] at hread'
    cases hread'

/-- A scan for which a viewer can be opened ends as `ScanEnds` says. If none can be opened, the exit code is one and
nothing is done to any file. -/
theorem scan_ends (hserious : w.Serious) (hclosed : w.pool.AllClosed) (hflags : applyFlags flags w = (.ok (), w₁))
    (hprinted : ∀ fault, (scan path flags wanted opens w).1 ≠ .error (.markup fault)) :
    (∀ v w₂, openViewer {} opens w₁ = (.ok v, w₂) → ScanEnds path wanted v (scan path flags wanted opens w)) ∧
      ∀ failure w₂, openViewer {} opens w₁ = (.error failure, w₂) →
        (Ending.of (scan path flags wanted opens w).1).code = 1 ∧
          (scan path flags wanted opens w).2.disk = w.disk ∧ (scan path flags wanted opens w).2.pool.AllClosed := by
  have hkept {γ : Type} {f : World → γ} (hsettings : ∀ w settings, f { w with settings } = f w)
      (hprinted : ∀ w printed, f { w with printed } = f w) (hpage : ∀ w page, f { w with page } = f w) :
      f (openViewer {} opens w₁).2 = f w := by
    have happlied := applyFlags_keeps hsettings hprinted flags w
    rw [hflags] at happlied
    exact (openViewer_keeps hpage hprinted w₁).trans happlied
  have hserious' : w₁.Serious := by
    have happlied := applyFlags_keeps (f := World.sources) (fun _ _ => rfl) (fun _ _ => rfl) flags w
    rw [hflags] at happlied
    exact hserious.of_same happlied
  have hpool := hkept (f := World.pool) (fun _ _ => rfl) (fun _ _ => rfl) fun _ _ => rfl
  have hdisk := hkept (f := World.disk) (fun _ _ => rfl) (fun _ _ => rfl) fun _ _ => rfl
  constructor
  · intro v w₂ hopened
    have hworld := (openViewer_holds hopened).1
    rw [hopened] at hpool
    have htidy : v.world.pool.Tidy := by
      rw [hworld, hpool]
      exact .of_allClosed hclosed
    rw [scan_of_opened hflags hopened] at hprinted ⊢
    exact finish_ends (fresh_of_opened hopened hserious') htidy hprinted
  · intro failure w₂ hopened
    rw [hopened] at hpool hdisk
    have hsober : Sober id (openViewer {} opens) := openViewer_sober
    have hfails := hsober.failsAs w₁ hserious'
    rw [hopened] at hfails
    rw [scan_of_unopened hflags hopened]
    exact ⟨code_of_serious (hfails failure rfl), hdisk, (congrArg Pool.AllClosed hpool).mpr hclosed⟩

end

def servedWorld : World :=
  { bareWorld with
    settings := { bareWorld.settings with
      server := some "http://localhost:8080"
      timeout := some (.int 30)
      verbose := none
      outputDir := some ⟨"", []⟩ }
    replies := [.answer oneNode] }

theorem servedWorld_serious : servedWorld.Serious where
  refusal _ h := by cases h
  mishaps _ h := by cases h
  image _ h := by cases h
  replies reply h := by
    rw [List.mem_singleton.mp h]
    trivial

theorem scan_ends_one_node :
    ∃ w v, servedWorld.Serious ∧ servedWorld.pool.AllClosed ∧ applyFlags {} servedWorld = (.ok (), w) ∧
      openViewer {} false w = (.ok v, v.world) ∧
      (Ending.of (scan "a" {} ⟨true, false, false, true⟩ false servedWorld).1).code = 0 ∧
      ScanEnds "a" ⟨true, false, false, true⟩ v (scan "a" {} ⟨true, false, false, true⟩ false servedWorld) := by
  have hclosed : servedWorld.pool.AllClosed := nofun
  have hflags : applyFlags {} servedWorld = (.ok (), (applyFlags {} servedWorld).2) := rfl
  have hcode : (Ending.of (scan "a" {} ⟨true, false, false, true⟩ false servedWorld).1).code = 0 := by
    decide +kernel
  have hprinted : ∀ fault, (scan "a" {} ⟨true, false, false, true⟩ false servedWorld).1 ≠ .error (.markup fault) := by
    intro fault hfault
    rw [hfault] at hcode
    cases hcode
  have hopened : ∃ v, openViewer {} false (applyFlags {} servedWorld).2 = (.ok v, v.world) := ⟨_, rfl⟩
  obtain ⟨v, hopened⟩ := hopened
  exact ⟨_, v, servedWorld_serious, hclosed, hflags, hopened, hcode,
    (scan_ends servedWorld_serious hclosed hflags hprinted).1 v _ hopened⟩

def misplacedFlags : Flags :=
  { outputDir := .str ".depgraph-viewer.toml" }

def misplacedViewer : Viewer :=
  newViewer.setWorld { servedWorld with
    settings := { servedWorld.settings with outputDir := some ⟨"", [".depgraph-viewer.toml"]⟩ }
    page := ⟨⟨"", [".depgraph-viewer.toml", livePageName]⟩, false, false⟩ }

theorem draws_of_text {path : String} {v : Viewer} (htext : Text.trimmed path ≠ "")
    (hdrawn : ((do
      let g ← Viewer.scan ⟨Text.trimmed path⟩
      if g.isEmpty then return false
      Viewer.render g : Act Viewer Bool) v.started).1.toOption = some true) : ∃ t, Draws path v t := by
  rcases hscan : Viewer.scan ⟨Text.trimmed path⟩ v.started with ⟨failure | g, u⟩
  · rw [Act.bind_apply_error hscan] at hdrawn
    cases hdrawn
  rw [Act.bind_apply_ok hscan] at hdrawn
  rcases hempty : g.isEmpty with _ | _
  · rw [if_neg (ne_true_of_eq_false hempty)] at hdrawn
    rcases hrender : Viewer.render g u with ⟨failure | drawn, t⟩ <;> rw [hrender] at hdrawn
    · cases hdrawn
    · obtain rfl : drawn = true := Option.some.inj hdrawn
      exact ⟨t, g, u, ⟨_, ofValue_text htext, hscan⟩, hempty, hrender⟩
  · rw [if_pos hempty] at hdrawn
    cases hdrawn

/-- The graph is drawn and nothing else is asked for, but once the folder of the page is there the settings cannot be
read, and the exit code is one. -/
theorem scan_fails_though_drawn :
    prepare misplacedFlags false servedWorld = (.ok misplacedViewer, misplacedViewer.world) ∧
      misplacedViewer.world.pageIsFile = false ∧ (∃ t, Draws "a" misplacedViewer t) ∧ FollowUps.commands {} = [] ∧
      (Ending.of (scan "a" misplacedFlags {} false servedWorld).1).code = 1 ∧
      (Ending.of (scan "a" misplacedFlags {} false servedWorld).1).failure =
        some (.settings ".depgraph-viewer.toml" "[Errno 21] Is a directory: '.depgraph-viewer.toml'") := by
  have hdrawn : ∃ t, Draws "a" misplacedViewer t := draws_of_text (by decide +kernel) (by decide +kernel)
  exact ⟨rfl, rfl, hdrawn, rfl, by decide +kernel, by decide +kernel⟩

end Program

end DependencyAtlas
