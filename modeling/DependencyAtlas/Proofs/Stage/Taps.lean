import DependencyAtlas.Proofs.Stage.Built
import DependencyAtlas.Proofs.Stage.Highlight

namespace DependencyAtlas

namespace Graph

def HasElement (g : Graph) (id : String) : Element → Prop
  | .node => id ∈ g.nodeIds
  | .edge => id ∈ g.edgeIds ∧ id ∉ g.nodeIds

theorem element?_eq_some_iff {g : Graph} {id : String} {kind : Element} :
    g.element? id = some kind ↔ g.HasElement id kind := by
  by_cases hnode : id ∈ g.nodeIds <;> by_cases hedge : id ∈ g.edgeIds <;>
    cases kind <;> simp [element?, HasElement, hnode, hedge]

theorem element?_eq_none_iff {g : Graph} {id : String} :
    g.element? id = none ↔ id ∉ g.nodeIds ∧ id ∉ g.edgeIds := by
  by_cases hnode : id ∈ g.nodeIds <;> by_cases hedge : id ∈ g.edgeIds <;>
    simp [element?, hnode, hedge]

end Graph

namespace Stage

open Act (Keeps)
open Layout Drawing

abbrev Entry (η : Type) : Type :=
  Deed η × Except Failure Result

variable {σ η : Type}

def registered? : Deed η → Option η
  | .onSelect handler => some handler
  | _ => none

def registered (history : List (Entry η)) : List η :=
  history.filterMap fun entry => registered? entry.1

def tapped? : Entry η → Option String
  | (.tap id, .ok (.tapped (some .node))) => some id
  | _ => none

def calls (handlers : List η) (entry : Entry η) : List (η × String) :=
  (tapped? entry).toList.flatMap fun id => handlers.map fun handler => (handler, id)

def told (handlers : List η) : List (Entry η) → List (η × String)
  | [] => []
  | entry :: rest => calls handlers entry ++ told (handlers ++ (registered? entry.1).toList) rest

structure Canvas.Records (heard : σ → List (η × String)) (canvas : Canvas σ η) : Prop where
  draw : ∀ figure, Act.Keeps heard (canvas.draw figure)
  clear : Act.Keeps heard canvas.clear
  notify : ∀ handler id outside, (canvas.notify handler id outside).1 = .ok () ∧
    heard (canvas.notify handler id outside).2 = heard outside ++ [(handler, id)]

/-- A renderer is asked for one thing after the other. In between anything may happen outside, so that
drawing works at one time and fails at another. -/
inductive Runs (canvas : Canvas σ η) (heard : σ → List (η × String)) (start : Studio σ η) :
    List (Entry η) → Studio σ η → Prop
  | start : Runs canvas heard start [] start
  | ask {history : List (Entry η)} {s : Studio σ η} (h : Runs canvas heard start history s)
    (deed : Deed η) : Runs canvas heard start (history ++ [(deed, (deed.perform canvas s).1)])
      (deed.perform canvas s).2
  | elsewhere {history : List (Entry η)} {s t : Studio σ η} (h : Runs canvas heard start history s)
    (hrenderer : t.renderer = s.renderer) (hheard : heard t.outside = heard s.outside) :
    Runs canvas heard start history t

theorem registered_cons (entry : Entry η) (rest : List (Entry η)) :
    registered (entry :: rest) = (registered? entry.1).toList ++ registered rest := by
  cases h : registered? entry.1 <;> simp [registered, h]

theorem registered_concat (history : List (Entry η)) (entry : Entry η) :
    registered (history ++ [entry]) = registered history ++ (registered? entry.1).toList := by
  cases h : registered? entry.1 <;> simp [registered, h]

theorem told_append (handlers : List η) (before later : List (Entry η)) :
    told handlers (before ++ later) =
      told handlers before ++ told (handlers ++ registered before) later := by
  induction before generalizing handlers with
  | nil => simp [told, registered]
  | cons entry rest ih =>
    rw [List.cons_append, told, ih, told, registered_cons, List.append_assoc, List.append_assoc]

theorem told_concat (handlers : List η) (history : List (Entry η)) (entry : Entry η) :
    told handlers (history ++ [entry]) =
      told handlers history ++ calls (handlers ++ registered history) entry := by
  rw [told_append, told, told, List.append_nil]

section

variable [DecidableEq η] {handler : η}

def heardBy (handler : η) (log : List (η × String)) : List String :=
  (log.filter fun call => call.1 == handler).map Prod.snd

theorem heardBy_append (log more : List (η × String)) :
    heardBy handler (log ++ more) = heardBy handler log ++ heardBy handler more := by
  rw [heardBy, List.filter_append, List.map_append]
  rfl

theorem heardBy_calls (handlers : List η) (entry : Entry η) :
    heardBy handler (calls handlers entry) =
      (tapped? entry).toList.flatMap (List.replicate (handlers.count handler)) := by
  cases htap : tapped? entry with
  | none => simp [calls, heardBy, htap]
  | some id =>
    simp [calls, heardBy, htap, List.filter_map, Function.comp_def, List.count_eq_length_filter]

theorem heardBy_told_of_not_mem {handlers : List η} {history : List (Entry η)}
    (h : handler ∉ handlers ++ registered history) : heardBy handler (told handlers history) = [] := by
  induction history generalizing handlers with
  | nil => rfl
  | cons entry rest ih =>
    rw [registered_cons, ← List.append_assoc] at h
    have hcount : handlers.count handler = 0 :=
      List.count_eq_zero.mpr fun hmem => h (by simp [hmem])
    rw [told, heardBy_append, heardBy_calls, hcount, ih h]
    cases tapped? entry <;> simp

theorem heardBy_told {handlers : List η} {history : List (Entry η)}
    (hcount : handlers.count handler = 1) (h : handler ∉ registered history) :
    heardBy handler (told handlers history) = history.filterMap tapped? := by
  induction history generalizing handlers with
  | nil => rfl
  | cons entry rest ih =>
    rw [registered_cons, List.mem_append, not_or] at h
    have hcount' : (handlers ++ (registered? entry.1).toList).count handler = 1 := by
      rw [List.count_append, hcount, List.count_eq_zero.mpr h.1]
    -- It was there before the tap, once, and nothing else comes under its name.
    rw [told, heardBy_append, heardBy_calls, hcount, ih hcount' h.2]
    cases htap : tapped? entry <;> simp [htap]

end

def Live.selecting (live : Live) (id : String) : Visualization Float :=
  { live.visualization with selected := some id }

namespace Studio

variable {canvas : Canvas σ η} {heard : σ → List (η × String)} {s : Studio σ η}

def toldOf (canvas : Canvas σ η) (id : String) (handlers : List η) (outside : σ) : σ :=
  handlers.foldl (fun outside handler => (canvas.notify handler id outside).2) outside

theorem toldOf_cons (id : String) (handler : η) (rest : List η) (outside : σ) :
    toldOf canvas id (handler :: rest) outside =
      toldOf canvas id rest (canvas.notify handler id outside).2 := rfl

theorem heard_toldOf (hrecords : canvas.Records heard) (id : String) (handlers : List η) (outside : σ) :
    heard (toldOf canvas id handlers outside) =
      heard outside ++ handlers.map fun handler => (handler, id) := by
  induction handlers generalizing outside with
  | nil => simp [toldOf]
  | cons handler rest ih =>
    rw [toldOf_cons, ih, (hrecords.notify handler id outside).2]
    simp

theorem notifyAll_apply (hrecords : canvas.Records heard) (id : String) (handlers : List η)
    (s : Studio σ η) :
    notifyAll canvas id handlers s =
      (.ok (), { s with outside := toldOf canvas id handlers s.outside }) := by
  induction handlers generalizing s with
  | nil => rfl
  | cons handler rest ih =>
    have hnotify : outsideAct (canvas.notify handler id) s =
        (.ok (), { s with outside := (canvas.notify handler id s.outside).2 }) := by
      rw [outsideAct, Act.within_apply, (hrecords.notify handler id s.outside).1]
    rw [notifyAll, Act.bind_apply_ok hnotify, ih, toldOf_cons]

variable {live : Live} {id : String} {kind : Graph.Element}

theorem tap_apply (hrecords : canvas.Records heard) (hlive : s.renderer.live = some live)
    (hkind : live.visualization.graph.element? id = some kind) :
    tap canvas id s =
      match (live.selecting id).figure floatGauge {} with
      | .error failure => (.error failure, s.changed live (live.selecting id))
      | .ok figure =>
        match canvas.draw figure s.outside with
        | (.error cause, outside) =>
          (.error (drawFailure cause), { s.changed live (live.selecting id) with outside })
        | (.ok _, outside) =>
          (.ok (some kind),
            { s.changed live (live.selecting id) with
              outside := toldOf canvas id (if kind = .node then s.renderer.handlers else []) outside }) := by
  have hredraw : tap canvas id s = redraw canvas live (live.selecting id) {} (tell canvas id kind) s :=
    tap_eq_redraw hlive hkind
  rw [hredraw, redraw_apply]
  rcases (live.selecting id).figure floatGauge {} with failure | figure
  · rfl
  · dsimp only
    rcases canvas.draw figure s.outside with ⟨cause | _, outside⟩
    · rfl
    · dsimp only
      rw [tell_apply, Act.bind_apply_ok (notifyAll_apply hrecords _ _ _)]
      rfl

theorem tap_returns_iff (hrecords : canvas.Records heard) :
    (tap canvas id s).1 = .ok (some kind) ↔
      ∃ live figure, s.renderer.live = some live ∧ live.visualization.graph.HasElement id kind ∧
        (live.selecting id).figure floatGauge {} = .ok figure ∧
        (canvas.draw figure s.outside).1 = .ok () := by
  constructor
  · intro h
    rcases hlive : s.renderer.live with _ | live
    · rw [tap_of_hidden hlive] at h
      cases h
    obtain ⟨v, figure, hselect, hfigure, hdraw, -⟩ := tap_eq_ok hlive (Prod.ext h rfl)
    have hkind := (tap_kind hlive h).symm
    rw [Visualization.select, hkind] at hselect
    cases hselect
    exact ⟨live, figure, rfl, Graph.element?_eq_some_iff.mp hkind, hfigure, hdraw⟩
  · rintro ⟨live, figure, hlive, hkind, hfigure, hdraw⟩
    rcases hdrawn : canvas.draw figure s.outside with ⟨_ | _, outside⟩
    · rw [hdrawn] at hdraw
      cases hdraw
    · rw [tap_apply hrecords hlive (Graph.element?_eq_some_iff.mpr hkind), hfigure]
      dsimp only
      rw [hdrawn]

theorem tap_heard (hrecords : canvas.Records heard) (id : String) (s : Studio σ η) :
    heard (tap canvas id s).2.outside =
      heard s.outside ++ calls s.renderer.handlers (.tap id, (tap canvas id s).1.map .tapped) := by
  rcases hlive : s.renderer.live with _ | live
  · rw [tap_of_hidden hlive]
    exact (List.append_nil _).symm
  rcases hkind : live.visualization.graph.element? id with _ | kind
  · rw [tap_of_unknown hlive hkind]
    exact (List.append_nil _).symm
  rw [tap_apply hrecords hlive hkind]
  rcases (live.selecting id).figure floatGauge {} with failure | figure
  · exact (List.append_nil _).symm
  have hdraw : heard (canvas.draw figure s.outside).2 = heard s.outside := hrecords.draw figure s.outside
  dsimp only
  rcases hdrawn : canvas.draw figure s.outside with ⟨cause | _, outside⟩ <;> rw [hdrawn] at hdraw
  · exact hdraw.trans (List.append_nil _).symm
  · dsimp only
    rw [heard_toldOf hrecords, show heard outside = _ from hdraw]
    cases kind <;> simp [calls, tapped?, Except.map]

end Studio

variable {canvas : Canvas σ η} {heard : σ → List (η × String)} {s : Studio σ η}

theorem perform_tap (id : String) (s : Studio σ η) :
    (Deed.tap id).perform canvas s =
      ((Studio.tap canvas id s).1.map .tapped, (Studio.tap canvas id s).2) := by
  rw [Deed.perform, Act.bind_apply]
  rcases Studio.tap canvas id s with ⟨_ | _, t⟩ <;> rfl

open Studio in
theorem perform_heard (hrecords : canvas.Records heard) (deed : Deed η) (s : Studio σ η) :
    heard (deed.perform canvas s).2.outside =
      heard s.outside ++ calls s.renderer.handlers (deed, (deed.perform canvas s).1) := by
  -- Nothing but a tap tells anybody anything.
  have hquiet (h : Keeps (fun s : Studio σ η => heard s.outside) (deed.perform canvas))
      (hcalls : calls s.renderer.handlers (deed, (deed.perform canvas s).1) = []) :
      heard (deed.perform canvas s).2.outside =
        heard s.outside ++ calls s.renderer.handlers (deed, (deed.perform canvas s).1) := by
    rw [hcalls, List.append_nil]
    exact h s
  cases deed with
  | tap id =>
    rw [perform_tap]
    exact tap_heard hrecords id s
  | render g =>
    exact hquiet (Keeps.bind (render_keeps hrecords.draw hrecords.clear g) fun _ => Keeps.pure _) rfl
  | relayout => exact hquiet (Keeps.bind (relayout_keeps hrecords.draw) fun _ => Keeps.pure _) rfl
  | release => exact hquiet (Keeps.bind (release_keeps hrecords.clear) fun _ => Keeps.pure _) rfl
  | onSelect handler => exact hquiet (Keeps.bind (Keeps.modify fun _ => rfl) fun _ => Keeps.pure _) rfl
  | snapshot | document =>
    exact hquiet
      (Keeps.bind Keeps.get fun _ => Keeps.bind (Keeps.ofExcept _) fun _ => Keeps.pure _) rfl
  | bind holder => exact hquiet (Keeps.bind (bind_keeps holder) fun _ => Keeps.pure _) rfl
  | unbind holder =>
    exact hquiet (Keeps.bind (unbind_keeps hrecords.clear holder) fun _ => Keeps.pure _) rfl
  | unbindBound =>
    exact hquiet (Keeps.bind Keeps.get fun _ =>
      Keeps.bind (unbind_keeps hrecords.clear _) fun _ => Keeps.pure _) rfl

def Studio.handlers (s : Studio σ η) : List η :=
  s.renderer.handlers

theorem handlers_of_renderer {α : Type} {act : Act (Studio σ η) α} (h : Keeps Studio.renderer act) :
    Keeps Studio.handlers act :=
  fun s => congrArg Renderer.handlers (h s)

open Studio in
theorem perform_handlers (deed : Deed η) (s : Studio σ η) :
    (deed.perform canvas s).2.renderer.handlers =
      s.renderer.handlers ++ (registered? deed).toList := by
  have hkept (h : Keeps Studio.handlers (deed.perform canvas)) (hnone : registered? deed = none) :
      (deed.perform canvas s).2.renderer.handlers =
        s.renderer.handlers ++ (registered? deed).toList := by
    rw [hnone, Option.toList_none, List.append_nil]
    exact h s
  have hlive (live : Option Live) : Keeps Studio.handlers (setLive (σ := σ) (η := η) live) :=
    Keeps.modify fun _ => rfl
  have houtside (act : Act σ Unit) : Keeps Studio.handlers (outsideAct (η := η) act) :=
    handlers_of_renderer (outsideAct_keeps_renderer act)
  have hrelease : Keeps Studio.handlers (release canvas) := by
    intro s
    rw [Studio.handlers, release_renderer]
    rfl
  cases deed with
  | onSelect handler => rfl
  | render g =>
    have hcreate : Keeps (Studio.handlers (σ := σ) (η := η)) create := fun _ => rfl
    have hrender := render_keeps_of hrelease hcreate
      (fun holder => handlers_of_renderer (bind_keeps_renderer holder))
      (fun _ => Keeps.modify fun _ => rfl) hlive (fun figure => houtside (canvas.draw figure)) g
    exact hkept (Keeps.bind hrender fun _ => Keeps.pure _) rfl
  | relayout =>
    exact hkept (Keeps.bind (relayout_keeps_of hlive fun figure => houtside (canvas.draw figure))
      fun _ => Keeps.pure _) rfl
  | tap id =>
    exact hkept (Keeps.bind (tap_keeps_of hlive (fun figure => houtside (canvas.draw figure))
      fun handler => houtside (canvas.notify handler id)) fun _ => Keeps.pure _) rfl
  | release => exact hkept (Keeps.bind hrelease fun _ => Keeps.pure _) rfl
  | snapshot | document =>
    exact hkept
      (Keeps.bind Keeps.get fun _ => Keeps.bind (Keeps.ofExcept _) fun _ => Keeps.pure _) rfl
  | bind holder =>
    exact hkept (Keeps.bind (handlers_of_renderer (bind_keeps_renderer holder)) fun _ => Keeps.pure _) rfl
  | unbind holder =>
    exact hkept (Keeps.bind (handlers_of_renderer (unbind_keeps_renderer holder))
      fun _ => Keeps.pure _) rfl
  | unbindBound =>
    exact hkept (Keeps.bind Keeps.get fun _ =>
      Keeps.bind (handlers_of_renderer (unbind_keeps_renderer _)) fun _ => Keeps.pure _) rfl

variable {history : List (Entry η)} {t : Studio σ η}

theorem Runs.handlers (h : Runs canvas heard s history t) :
    t.renderer.handlers = s.renderer.handlers ++ registered history := by
  induction h with
  | start => simp [registered]
  | @ask history t _ deed ih =>
    rw [perform_handlers, ih, List.append_assoc, registered_concat]
  | elsewhere _ hrenderer _ ih => rw [hrenderer, ih]

theorem Runs.heard_eq (hrecords : canvas.Records heard) (h : Runs canvas heard s history t) :
    heard t.outside = heard s.outside ++ told s.renderer.handlers history := by
  induction h with
  | start => simp [told]
  | @ask history t h deed ih =>
    -- Told are the handlers that came before the deed.
    rw [perform_heard hrecords, ih, told_concat, h.handlers, List.append_assoc]
  | elsewhere _ _ hheard ih => rw [hheard, ih]

theorem Runs.built (hstart : s.renderer.Built) (h : Runs canvas heard s history t) :
    t.renderer.Built := by
  induction h with
  | start => exact hstart
  | ask _ deed ih => exact deed.perform_built ih
  | elsewhere _ hrenderer _ ih => exact hrenderer ▸ ih

/-- Who was told of taps in a run, and who is told of the next one. -/
structure TapsTold [DecidableEq η] (canvas : Canvas σ η) (heard : σ → List (η × String))
    (s : Studio σ η) (history : List (Entry η)) (t : Studio σ η) : Prop where
  log : heard t.outside = heard s.outside ++ told s.renderer.handlers history
  each : ∀ (before later : List (Entry η)) (handler : η) (result : Except Failure Result),
    history = before ++ (.onSelect handler, result) :: later →
    handler ∉ s.renderer.handlers ++ registered before → handler ∉ registered later →
    heardBy handler (heard t.outside) =
      heardBy handler (heard s.outside) ++ later.filterMap tapped?
  handlers : t.renderer.handlers = s.renderer.handlers ++ registered history
  returned : ∀ (id : String) (kind : Graph.Element),
    (Studio.tap canvas id t).1 = .ok (some kind) ↔
      ∃ live figure, t.renderer.live = some live ∧ live.visualization.graph.HasElement id kind ∧
        (live.selecting id).figure floatGauge {} = .ok figure ∧
        (canvas.draw figure t.outside).1 = .ok ()
  drawable : ∀ (live : Live) (id : String), t.renderer.live = some live →
    live.visualization.graph.Joined → ∃ figure, (live.selecting id).figure floatGauge {} = .ok figure
  turns : ∀ (live : Live) (figure : Figure Float) (id : String) (kind : Graph.Element),
    t.renderer.live = some live → (live.selecting id).figure floatGauge {} = .ok figure →
    (Studio.tap canvas id t).1 = .ok (some kind) →
    (Studio.tap canvas id t).2.outside =
      Studio.toldOf canvas id (if kind = .node then t.renderer.handlers else [])
        (canvas.draw figure t.outside).2
  passed : ∀ id : String, (∀ live, t.renderer.live = some live →
      id ∉ live.visualization.graph.nodeIds ∧ id ∉ live.visualization.graph.edgeIds) →
    Studio.tap canvas id t = (.ok none, t)

theorem each_told [DecidableEq η] {handlers : List η} {before later : List (Entry η)} {handler : η}
    {result : Except Failure Result} (hbefore : handler ∉ handlers ++ registered before)
    (hlater : handler ∉ registered later) :
    heardBy handler (told handlers (before ++ (.onSelect handler, result) :: later)) =
      later.filterMap tapped? := by
  have hcount : (handlers ++ registered before ++ [handler]).count handler = 1 := by
    rw [List.count_append, List.count_eq_zero.mpr hbefore, List.count_singleton_self]
  have hnone : calls (handlers ++ registered before) (.onSelect handler, result) = [] := rfl
  rw [told_append, heardBy_append, heardBy_told_of_not_mem hbefore, List.nil_append, told, hnone,
    List.nil_append]
  exact heardBy_told hcount hlater

theorem taps_told [DecidableEq η] (hrecords : canvas.Records heard) (hstart : s.renderer.live = none)
    (h : Runs canvas heard s history t) : TapsTold canvas heard s history t := by
  have hlog := h.heard_eq hrecords
  constructor
  · exact hlog
  · rintro before later handler result rfl hbefore hlater
    rw [hlog, heardBy_append, each_told hbefore hlater]
  · exact h.handlers
  · exact fun id kind => Studio.tap_returns_iff hrecords
  · intro live id hlive hjoined
    have hcomplete := (h.built (Studio.built_of_hidden hstart) live hlive).complete hjoined
    exact Visualization.figure_of_selected hjoined hcomplete id
  · intro live figure id kind hlive hfigure htap
    have hkind := (Studio.tap_kind hlive htap).symm
    rw [Studio.tap_apply hrecords hlive hkind, hfigure] at htap ⊢
    dsimp only at htap ⊢
    rcases hdrawn : canvas.draw figure t.outside with ⟨_ | _, outside⟩
    · rw [hdrawn] at htap
      cases htap
    · rfl
  · intro id hunknown
    rcases hlive : t.renderer.live with _ | live
    · exact Studio.tap_of_hidden hlive id
    · exact Studio.tap_of_unknown hlive (Graph.element?_eq_none_iff.mpr (hunknown live hlive))

theorem recorder_records (η : Type) : (recorder η).Records Recording.taps where
  draw figure := by
    apply Keeps.bind Keeps.get
    intro recording
    split
    · exact Keeps.throw _
    · exact Keeps.modify fun _ => rfl
  clear := Keeps.pure _
  notify _ _ _ := ⟨rfl, rfl⟩

def askAll (canvas : Canvas σ η) (deeds : List (Deed η)) (s : Studio σ η) : Studio σ η :=
  deeds.foldl (fun s deed => (deed.perform canvas s).2) s

theorem Runs.askAll (h : Runs canvas heard s history t) (deeds : List (Deed η)) :
    ∃ more, Runs canvas heard s (history ++ more) (askAll canvas deeds t) := by
  induction deeds generalizing history t with
  | nil => exact ⟨[], by simpa [Stage.askAll] using h⟩
  | cons deed rest ih =>
    obtain ⟨more, hmore⟩ := ih (h.ask deed)
    rw [List.append_assoc] at hmore
    exact ⟨_, hmore⟩

def fails (failing : Option Failure) (s : Studio (Recording Nat) Nat) : Studio (Recording Nat) Nat :=
  { s with outside := { s.outside with failing } }

theorem Runs.fails {s t : Studio (Recording Nat) Nat} {history : List (Entry Nat)}
    (h : Runs (recorder Nat) Recording.taps s history t) (failing : Option Failure) :
    Runs (recorder Nat) Recording.taps s history (fails failing t) :=
  h.elsewhere rfl rfl

def tappedTwice : Studio (Recording Nat) Nat :=
  askAll (recorder Nat) [.tap "e", .tap "b"]
    (fails none (askAll (recorder Nat) [.onSelect 2, .tap "b"]
      (fails (some (.outside .system "disk full"))
        (askAll (recorder Nat) [.onSelect 1, .render loops, .tap "a"] freshStudio))))

theorem taps_told_twice :
    (recorder Nat).Records Recording.taps ∧ freshStudio.renderer.live = none ∧
      tappedTwice.outside.taps = [(1, "a"), (1, "b"), (2, "b")] ∧
      ∃ history, Runs (recorder Nat) Recording.taps freshStudio history tappedTwice ∧
        TapsTold (recorder Nat) Recording.taps freshStudio history tappedTwice := by
  have hstart : Runs (recorder Nat) Recording.taps freshStudio [] freshStudio := .start
  obtain ⟨first, hfirst⟩ := hstart.askAll [.onSelect 1, .render loops, .tap "a"]
  obtain ⟨second, hsecond⟩ :=
    (hfirst.fails (some (.outside .system "disk full"))).askAll [.onSelect 2, .tap "b"]
  obtain ⟨third, hthird⟩ := (hsecond.fails none).askAll [.tap "e", .tap "b"]
  have htaps : tappedTwice.outside.taps = [(1, "a"), (1, "b"), (2, "b")] := by decide +kernel
  exact ⟨recorder_records Nat, rfl, htaps, _, hthird, taps_told (recorder_records Nat) rfl hthird⟩

end Stage

end DependencyAtlas
