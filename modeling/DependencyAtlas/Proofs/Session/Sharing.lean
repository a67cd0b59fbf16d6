import DependencyAtlas.Proofs.Scan.Pool
import DependencyAtlas.Proofs.Session.SingleFlight
import DependencyAtlas.Proofs.Value.Same

namespace DependencyAtlas.Session

open Scan

def World.timeout (w : World) : Except Failure Value :=
  w.settings.getTimeout w.around

def World.withPool (w : World) (pool : Pool) : World :=
  { w with pool }

def lease (refusal : Option Failure) : Act World Nat := do
  let w ← get
  let timeout ← Act.ofExcept w.timeout
  (Pool.acquire refusal w.settings.verify timeout).within World.pool fun pool w => w.withPool pool

variable {w : World} {refusal : Option Failure} {timeout : Value} {i : Nat}

theorem lease_unreadable {failure : Failure} (h : w.timeout = .error failure) :
    lease refusal w = (.error failure, w) := by
  rw [lease, Act.bind_apply_ok (Act.get_apply w), h]
  rfl

theorem lease_readable (h : w.timeout = .ok timeout) :
    lease refusal w = ((Pool.acquire refusal w.settings.verify timeout w.pool).1,
      w.withPool (Pool.acquire refusal w.settings.verify timeout w.pool).2) := by
  rw [lease, Act.bind_apply_ok (Act.get_apply w), h]
  rfl

theorem connect_eq_lease (w : World) :
    Viewer.connect w = ((lease w.refusal w).1.map fun _ => (), (lease w.refusal w).2) := by
  rw [Viewer.connect, Act.bind_apply_ok (Act.get_apply w)]
  cases h : w.timeout with
  | error failure =>
    have hread : Act.ofExcept (w.settings.getTimeout w.around) w = (.error failure, w) :=
      congrArg (·, w) h
    rw [lease_unreadable h, Act.bind_apply_error hread]
    rfl
  | ok timeout =>
    have hread : Act.ofExcept (w.settings.getTimeout w.around) w = (.ok timeout, w) :=
      congrArg (·, w) h
    rw [lease_readable h, Act.bind_apply_ok hread, Act.bind_apply, Act.within_apply]
    rcases Pool.acquire w.refusal w.settings.verify timeout w.pool with ⟨_ | _, _⟩ <;> rfl

theorem lease_cases (refusal : Option Failure) (w : World) :
    (∃ failure, w.timeout = .error failure ∧ lease refusal w = (.error failure, w)) ∨
    (∃ timeout i, w.timeout = .ok timeout ∧ w.pool.serving? w.settings.verify timeout = some i ∧
      lease refusal w = (.ok i, w)) ∨
    (∃ timeout failure, w.timeout = .ok timeout ∧
      lease refusal w = (.error failure, w.withPool w.pool.closeHeld)) ∨
    ∃ timeout, w.timeout = .ok timeout ∧ lease refusal w = (.ok w.pool.connections.length,
      w.withPool (w.pool.closeHeld.openNew w.settings.verify timeout)) := by
  cases h : w.timeout with
  | error failure => exact .inl ⟨failure, rfl, lease_unreadable h⟩
  | ok timeout =>
    rw [lease_readable h]
    cases hserving : w.pool.serving? w.settings.verify timeout with
    | some i =>
      rw [Pool.acquire_serving hserving]
      exact .inr (.inl ⟨timeout, i, rfl, hserving, rfl⟩)
    | none =>
      cases refusal with
      | some failure =>
        rw [Pool.acquire_refused hserving]
        exact .inr (.inr (.inl ⟨timeout, failure, rfl, rfl⟩))
      | none =>
        rw [Pool.acquire_new hserving]
        exact .inr (.inr (.inr ⟨timeout, rfl, rfl⟩))

inductive Deed where
  | lease (refusal : Option Failure)
  | shut
  | close (i : Nat)
  | setTimeout (v : Value)
  | setVerify (v : Value)

namespace Deed

def after : Deed → World → World
  | .lease refusal, w => (Session.lease refusal w).2
  | .shut, w => w.withPool w.pool.shut
  | .close i, w => w.withPool (w.pool.close i)
  | .setTimeout v, w => { w with settings := w.settings.setTimeout v }
  | .setVerify v, w => { w with settings := w.settings.setVerify v }

def GivesOut (w : World) : Deed → Prop
  | .lease refusal => ∃ i, (Session.lease refusal w).1 = .ok i
  | _ => False

def IsRefused (w : World) : Deed → Prop
  | .lease refusal => ∃ timeout failure, w.timeout = .ok timeout ∧
      (Session.lease refusal w).1 = .error failure
  | _ => False

def Closes (i : Nat) (w : World) : Deed → Prop
  | .lease refusal => IsRefused w (.lease refusal)
  | .shut => True
  | .close j => j = i
  | _ => False

def Plain : Deed → Prop
  | .setTimeout v | .setVerify v => v.Plain
  | _ => True

end Deed

def afterAll (deeds : List Deed) (w : World) : World :=
  deeds.foldl (fun w d => d.after w) w

def Throughout (P : World → Deed → Prop) : World → List Deed → Prop
  | _, [] => True
  | w, d :: deeds => P w d ∧ Throughout P (d.after w) deeds

structure PlainSettings (s : Settings) : Prop where
  verify : s.verify.Plain
  timeout : ∀ v, s.timeout = some v → v.Plain

structure Orderly (w : World) : Prop where
  tidy : w.pool.Tidy
  proper : w.pool.Proper
  settings : PlainSettings w.settings

theorem Orderly.of_empty (hpool : w.pool = .empty) (hsettings : PlainSettings w.settings) :
    Orderly w := by
  have hnone : ∀ i c, w.pool.connection? i ≠ some c := by
    intro i c
    rw [hpool]
    nofun
  exact ⟨fun i c hc => absurd hc (hnone i c), fun i c hc => absurd hc (hnone i c), hsettings⟩

theorem Orderly.timeout_proper (h : Orderly w) (ht : w.timeout = .ok timeout) :
    timeout.Proper := by
  rw [World.timeout, Settings.getTimeout.eq_def] at ht
  split at ht
  · next hv =>
    cases ht
    exact (h.settings.timeout _ hv).1
  · cases ht
    exact Value.proper_plain nofun nofun
  · obtain ⟨found, -, ht⟩ := bind_eq_ok_iff.mp ht
    cases found with
    | none =>
      cases ht
      exact Value.proper_plain nofun nofun
    | some v =>
      obtain ⟨x, -, ht⟩ := bind_eq_ok_iff.mp ht
      cases ht
      exact Value.proper_plain nofun nofun

theorem ages_after (w : World) (d : Deed) : w.pool.Ages (d.after w).pool := by
  cases d with
  | lease refusal =>
    rw [Deed.after]
    rcases lease_cases refusal w with ⟨_, _, h⟩ | ⟨_, _, _, _, h⟩ | ⟨_, _, _, h⟩ | ⟨_, _, h⟩ <;> rw [h]
    · exact .refl _
    · exact .refl _
    · exact Pool.ages_closeHeld _
    · exact (Pool.ages_closeHeld _).trans (Pool.ages_openNew _ _ _)
  | shut => exact Pool.ages_closeHeld _
  | close i => exact Pool.ages_close _ i
  | setTimeout v | setVerify v => exact .refl _

theorem length_after {d : Deed} (hd : ¬ d.GivesOut w) :
    (d.after w).pool.connections.length = w.pool.connections.length := by
  cases d with
  | lease refusal =>
    rw [Deed.after]
    rcases lease_cases refusal w with ⟨_, _, h⟩ | ⟨_, _, _, _, h⟩ | ⟨_, _, _, h⟩ | ⟨_, _, h⟩
    · rw [h]
    · rw [h]
    · rw [h]
      exact Pool.length_closeHeld _
    · exact absurd ⟨_, congrArg Prod.fst h⟩ hd
  | shut => exact Pool.length_closeHeld _
  | close i => exact Pool.length_close _ i
  | setTimeout v | setVerify v => rfl

theorem PlainSettings.after (h : PlainSettings w.settings) {d : Deed} (hd : d.Plain) :
    PlainSettings (d.after w).settings := by
  cases d with
  | lease refusal =>
    rw [Deed.after]
    rcases lease_cases refusal w with ⟨_, _, hl⟩ | ⟨_, _, _, _, hl⟩ | ⟨_, _, _, hl⟩ | ⟨_, _, hl⟩ <;>
      rw [hl] <;> exact h
  | shut | close i => exact h
  | setTimeout v =>
    refine ⟨h.verify, fun u hu => ?_⟩
    have hgiven : Settings.given v = some u := hu
    rw [Settings.given] at hgiven
    split at hgiven
    · cases hgiven
    · cases hgiven
      exact hd
  | setVerify v => exact ⟨hd, h.timeout⟩

theorem tidy_after (h : w.pool.Tidy) (d : Deed) : (d.after w).pool.Tidy := by
  cases d with
  | lease refusal =>
    rw [Deed.after]
    rcases lease_cases refusal w with ⟨_, _, hl⟩ | ⟨_, _, _, _, hl⟩ | ⟨_, _, _, hl⟩ | ⟨_, _, hl⟩ <;>
      rw [hl]
    · exact h
    · exact h
    · exact .of_allClosed h.closeHeld
    · exact h.closeHeld.openNew
  | shut => exact .of_allClosed h.shut
  | close i => exact h.close i
  | setTimeout v | setVerify v => exact h

theorem Orderly.after (h : Orderly w) {d : Deed} (hd : d.Plain) : Orderly (d.after w) := by
  refine ⟨tidy_after h.tidy d, ?_, h.settings.after hd⟩
  have hclosed : w.pool.closeHeld.Proper :=
    h.proper.of_ages (Pool.ages_closeHeld _) (Pool.length_closeHeld _)
  cases d with
  | lease refusal =>
    rw [Deed.after]
    rcases lease_cases refusal w with ⟨_, _, hl⟩ | ⟨_, _, _, _, hl⟩ | ⟨_, _, _, hl⟩ | ⟨_, ht, hl⟩ <;>
      rw [hl]
    · exact h.proper
    · exact h.proper
    · exact hclosed
    · exact hclosed.openNew h.settings.verify.1 (h.timeout_proper ht)
  | shut => exact hclosed
  | close i => exact h.proper.of_ages (Pool.ages_close _ i) (Pool.length_close _ i)
  | setTimeout v | setVerify v => exact h.proper

theorem isOpen_after_iff (h : Orderly w) {d : Deed} (hd : ¬ d.GivesOut w) (hopen : w.pool.IsOpen i) :
    (d.after w).pool.IsOpen i ↔ ¬ d.Closes i w := by
  cases d with
  | lease refusal =>
    rw [Deed.after]
    rcases lease_cases refusal w with
      ⟨failure, ht, hl⟩ | ⟨_, _, _, _, hl⟩ | ⟨timeout, failure, ht, hl⟩ | ⟨_, _, hl⟩
    · rw [hl]
      refine iff_of_true hopen ?_
      rintro ⟨timeout, _, ht', -⟩
      rw [ht] at ht'
      cases ht'
    · exact absurd ⟨_, congrArg Prod.fst hl⟩ hd
    · rw [hl]
      have hcloses : Deed.Closes i w (.lease refusal) := ⟨timeout, failure, ht, congrArg Prod.fst hl⟩
      exact iff_of_false (h.tidy.closeHeld.not_isOpen i) (not_not_intro hcloses)
    · exact absurd ⟨_, congrArg Prod.fst hl⟩ hd
  | shut => exact iff_of_false (h.tidy.shut.not_isOpen i) (not_not_intro trivial)
  | close j =>
    obtain ⟨c, hc, hclosed⟩ := hopen
    constructor
    · rintro ⟨d, hd, hopen⟩
      exact (Pool.open_before_close hd hopen).1
    · intro hne
      refine ⟨c, ?_, hclosed⟩
      exact (Pool.connection?_close w.pool j i).trans ((if_neg hne).trans hc)
  | setTimeout v | setVerify v => exact iff_of_true hopen not_false

theorem Orderly.afterAll {deeds : List Deed} (h : Orderly w) (hplain : ∀ d ∈ deeds, d.Plain) :
    Orderly (afterAll deeds w) := by
  induction deeds generalizing w with
  | nil => exact h
  | cons d deeds ih =>
    rw [List.forall_mem_cons] at hplain
    exact ih (h.after hplain.1) hplain.2

theorem ages_afterAll (w : World) (deeds : List Deed) : w.pool.Ages (afterAll deeds w).pool := by
  induction deeds generalizing w with
  | nil => exact .refl _
  | cons d deeds ih => exact (ages_after w d).trans (ih _)

theorem length_afterAll {deeds : List Deed} (hd : Throughout (fun w d => ¬ d.GivesOut w) w deeds) :
    (afterAll deeds w).pool.connections.length = w.pool.connections.length := by
  induction deeds generalizing w with
  | nil => rfl
  | cons d deeds ih => exact (ih hd.2).trans (length_after hd.1)

theorem isOpen_afterAll_iff {deeds : List Deed} (h : Orderly w) (hplain : ∀ d ∈ deeds, d.Plain)
    (hd : Throughout (fun w d => ¬ d.GivesOut w) w deeds) (hopen : w.pool.IsOpen i) :
    (afterAll deeds w).pool.IsOpen i ↔ Throughout (fun w d => ¬ d.Closes i w) w deeds := by
  induction deeds generalizing w with
  | nil => exact iff_of_true hopen trivial
  | cons d deeds ih =>
    rw [List.forall_mem_cons] at hplain
    have hstep := isOpen_after_iff h hd.1 hopen
    by_cases hcloses : d.Closes i w
    · refine iff_of_false ?_ fun hall => hall.1 hcloses
      intro hlater
      obtain ⟨c, hc, -⟩ := hopen
      have hi : i < (d.after w).pool.connections.length := by
        rw [length_after hd.1]
        exact (List.getElem?_eq_some_iff.mp hc).1
      exact hstep.mp ((ages_afterAll _ deeds).open_before hi hlater) hcloses
    · have hrest := ih (h.after hplain.1) hplain.2 hd.2 (hstep.mpr hcloses)
      exact hrest.trans ⟨fun hall => ⟨hcloses, hall⟩, And.right⟩

def SameSettings (w w' : World) : Prop :=
  ∃ timeout timeout', w.timeout = .ok timeout ∧ w'.timeout = .ok timeout' ∧
    (w.settings.verify == w'.settings.verify) = true ∧ (timeout == timeout') = true

/-- What holds for the shared connection in a world, whatever is done there next. -/
structure Shared (w : World) : Prop where
  one_open : ∀ i c, w.pool.connection? i = some c → c.closed = false → w.pool.held = some i
  /-- Only NaN, which may be read from outside, differs from itself. -/
  given_out : ∀ refusal i, (lease refusal w).1 = .ok i → ∃ timeout c, w.timeout = .ok timeout ∧
    (lease refusal w).2.pool.connection? i = some c ∧ c.closed = false ∧
    (c.verify == w.settings.verify) = true ∧
    ((timeout == timeout) = true → (c.timeout == timeout) = true)
  reused : ∀ refusal i, (lease refusal w).1 = .ok i → ∀ between : List Deed,
    (∀ d ∈ between, d.Plain) →
    Throughout (fun w d => ¬ d.GivesOut w) (lease refusal w).2 between →
    ∀ refusal' j, (lease refusal' (afterAll between (lease refusal w).2)).1 = .ok j →
    (j = i ↔ SameSettings w (afterAll between (lease refusal w).2) ∧
      Throughout (fun w d => ¬ d.Closes i w) (lease refusal w).2 between)
  refused : ∀ refusal, Deed.IsRefused w (.lease refusal) → (lease refusal w).2.pool.AllClosed ∧
    ∀ between : List Deed,
      Throughout (fun w d => ¬ d.GivesOut w) (lease refusal w).2 between →
      ∀ timeout, (afterAll between (lease refusal w).2).timeout = .ok timeout →
      (lease none (afterAll between (lease refusal w).2)).1 = .ok w.pool.connections.length
  shut : (Deed.shut.after w).pool.AllClosed

theorem lease_ok (hok : (lease refusal w).1 = .ok i) :
    ∃ timeout c, w.timeout = .ok timeout ∧ (lease refusal w).2.pool.connection? i = some c ∧
      (c.serves w.settings.verify timeout = true ∨ c = ⟨w.settings.verify, timeout, false⟩) := by
  rcases lease_cases refusal w with
    ⟨_, _, hl⟩ | ⟨timeout, j, ht, hserving, hl⟩ | ⟨_, _, _, hl⟩ | ⟨timeout, ht, hl⟩
  · rw [hl] at hok
    cases hok
  · rw [hl] at hok ⊢
    cases hok
    obtain ⟨-, c, hc, hserves⟩ := Pool.serving?_eq_some_iff.mp hserving
    exact ⟨timeout, c, ht, hc, .inl hserves⟩
  · rw [hl] at hok
    cases hok
  · rw [hl] at hok ⊢
    cases hok
    refine ⟨timeout, _, ht, ?_, .inr rfl⟩
    have hnew := Pool.connection?_openNew_length w.pool.closeHeld w.settings.verify timeout
    rw [Pool.length_closeHeld] at hnew
    exact hnew

theorem settings_congr (h : Orderly w) {c : Connection} (hc : c.verify.Proper ∧ c.timeout.Proper)
    (ht : w.timeout = .ok timeout)
    (hfits : c.serves w.settings.verify timeout = true ∨ c = ⟨w.settings.verify, timeout, false⟩)
    (v : Value) :
    ((c.verify == v) = true ↔ (w.settings.verify == v) = true) ∧
      ((c.timeout == v) = true ↔ (timeout == v) = true) := by
  rcases hfits with hserves | rfl
  · obtain ⟨-, hverify, htimeout⟩ := Pool.serves_iff.mp hserves
    exact ⟨Value.same_congr hc.1 h.settings.verify.1 hverify,
      Value.same_congr hc.2 (h.timeout_proper ht) htimeout⟩
  · exact ⟨.rfl, .rfl⟩

theorem reused_iff (h : Orderly w) (hok : (lease refusal w).1 = .ok i) {between : List Deed}
    (hplain : ∀ d ∈ between, d.Plain)
    (hbetween : Throughout (fun w d => ¬ d.GivesOut w) (lease refusal w).2 between)
    {refusal' : Option Failure} {j : Nat}
    (hok' : (lease refusal' (afterAll between (lease refusal w).2)).1 = .ok j) :
    j = i ↔ SameSettings w (afterAll between (lease refusal w).2) ∧
      Throughout (fun w d => ¬ d.Closes i w) (lease refusal w).2 between := by
  obtain ⟨timeout, c, ht, hc, hfits⟩ := lease_ok hok
  have hfirst : Orderly (lease refusal w).2 := h.after (d := .lease refusal) trivial
  have hages := ages_afterAll (lease refusal w).2 between
  have hcongr := settings_congr h (hfirst.proper i c hc) ht hfits
  have hopen : (lease refusal w).2.pool.IsOpen i := by
    refine ⟨c, hc, ?_⟩
    rcases hfits with hserves | rfl
    · exact (Pool.serves_iff.mp hserves).1
    · rfl
  rw [← isOpen_afterAll_iff hfirst hplain hbetween hopen]
  have hlater := hfirst.afterAll hplain
  generalize afterAll between (lease refusal w).2 = w' at *
  obtain ⟨timeout', -, ht', -⟩ := lease_ok hok'
  obtain ⟨d, hd, hverify, htimeout, -⟩ := hages i c hc
  rw [lease_readable ht'] at hok'
  rw [Pool.acquire_eq_iff hlater.tidy (List.getElem?_eq_some_iff.mp hd).1 hok']
  constructor
  · rintro ⟨e, he, hserves⟩
    obtain rfl : d = e := Option.some.inj (hd.symm.trans he)
    obtain ⟨hopen, hsame⟩ := Pool.serves_iff.mp hserves
    rw [hverify, htimeout, (hcongr _).1, (hcongr _).2] at hsame
    exact ⟨⟨timeout, timeout', ht, ht', hsame⟩, d, hd, hopen⟩
  · rintro ⟨⟨u, u', hu, hu', hsame⟩, e, he, hopen⟩
    obtain rfl : timeout = u := Except.ok.inj (ht.symm.trans hu)
    obtain rfl : timeout' = u' := Except.ok.inj (ht'.symm.trans hu')
    obtain rfl : d = e := Option.some.inj (hd.symm.trans he)
    refine ⟨d, hd, Pool.serves_iff.mpr ⟨hopen, ?_⟩⟩
    rw [hverify, htimeout, (hcongr _).1, (hcongr _).2]
    exact hsame

theorem lease_of_isRefused (hrefused : Deed.IsRefused w (.lease refusal)) :
    (lease refusal w).2 = w.withPool w.pool.closeHeld := by
  obtain ⟨timeout, failure, ht, hfailed⟩ := hrefused
  rcases lease_cases refusal w with ⟨_, ht', -⟩ | ⟨_, _, _, _, hl⟩ | ⟨_, _, _, hl⟩ | ⟨_, _, hl⟩
  · rw [ht] at ht'
    cases ht'
  · rw [hl] at hfailed
    cases hfailed
  · rw [hl]
  · rw [hl] at hfailed
    cases hfailed

theorem lease_after_allClosed (hclosed : w.pool.AllClosed) {between : List Deed}
    (hbetween : Throughout (fun w d => ¬ d.GivesOut w) w between)
    (ht : (afterAll between w).timeout = .ok timeout) :
    (lease none (afterAll between w)).1 = .ok w.pool.connections.length := by
  have hlength := length_afterAll hbetween
  have hclosed' := hclosed.of_ages (ages_afterAll w between) hlength
  rw [lease_readable ht, Pool.acquire_new hclosed'.serving?, hlength]

theorem Orderly.shared (h : Orderly w) : Shared w where
  one_open := h.tidy
  given_out := by
    intro refusal i hok
    obtain ⟨timeout, c, ht, hc, hfits⟩ := lease_ok hok
    refine ⟨timeout, c, ht, hc, ?_⟩
    rcases hfits with hserves | rfl
    · obtain ⟨hopen, hverify, htimeout⟩ := Pool.serves_iff.mp hserves
      exact ⟨hopen, hverify, fun _ => htimeout⟩
    · exact ⟨rfl, h.settings.verify.2, id⟩
  reused := fun _ _ hok _ hplain hbetween _ _ hok' => reused_iff h hok hplain hbetween hok'
  refused := by
    intro refusal hrefused
    rw [lease_of_isRefused hrefused]
    refine ⟨h.tidy.closeHeld, fun between hbetween timeout ht => ?_⟩
    rw [lease_after_allClosed h.tidy.closeHeld hbetween ht]
    exact congrArg Except.ok (Pool.length_closeHeld w.pool)
  shut := h.tidy.shut

theorem sharing {start : World} (hpool : start.pool = .empty)
    (hsettings : PlainSettings start.settings) {deeds : List Deed}
    (hplain : ∀ d ∈ deeds, d.Plain) : Shared (afterAll deeds start) :=
  ((Orderly.of_empty hpool hsettings).afterAll hplain).shared

def someDeeds : List Deed :=
  [.lease none, .setTimeout (.int 5), .lease (some .noHome), .close 0, .lease none, .shut]

theorem sharing_refusal :
    bareWorld.pool = .empty ∧ PlainSettings bareWorld.settings ∧ (∀ d ∈ someDeeds, d.Plain) ∧
      Shared (afterAll someDeeds bareWorld) := by
  have hsettings : PlainSettings bareWorld.settings := by
    refine ⟨⟨Value.proper_plain nofun nofun, rfl⟩, nofun⟩
  have hplain : ∀ d ∈ someDeeds, d.Plain := by
    have hfive : Value.Plain (.int 5) := ⟨Value.proper_plain nofun nofun, rfl⟩
    simp [someDeeds, Deed.Plain, hfive]
  exact ⟨rfl, hsettings, hplain, sharing rfl hsettings hplain⟩

end DependencyAtlas.Session
