import DependencyAtlas.Proofs.Session.Opening
import DependencyAtlas.Proofs.Session.SingleFlight
import DependencyAtlas.Proofs.Value.Same

namespace DependencyAtlas

open Float.Model

namespace Decimal

def Size.IsPositive : Size → Prop
  | .number q => 0 < q
  | .infinite negative => negative = false

theorem zero_unpack : (0.0 : Float).toModel.unpack = .zero .positive := by
  have hparts : partsOf (0.0 : Float).toModel.unpack = .finite false ⟨0, -1074⟩ := by
    rw [← parts_eq]
    decide +kernel
  cases h : (0.0 : Float).toModel.unpack with
  | zero s =>
    rw [h] at hparts
    cases s with
    | positive => rfl
    | negative => cases hparts
  | finite s m e hm =>
    rw [h] at hparts
    simp only [partsOf, Parts.finite.injEq, Binary.mk.injEq] at hparts
    omega
  | _ =>
    rw [h] at hparts
    cases hparts

theorem le_zero_iff (x : Float) : x ≤ 0.0 ↔ ∃ s, size? x = some s ∧ ¬ s.IsPositive := by
  have hle : x ≤ 0.0 ↔ x.toModel.unpack.le (0.0 : Float).toModel.unpack = true := decide_eq_true_iff
  rw [hle, zero_unpack, size?, parts_eq]
  cases x.toModel.unpack with
  | notANumber => simp [UnpackedFloat.le, UnpackedFloat.compare, partsOf, Parts.size?]
  | infinity s =>
    cases s <;>
      simp [UnpackedFloat.le, UnpackedFloat.compare, partsOf, Parts.size?, Size.IsPositive, isNegative]
  | zero s =>
    simp [UnpackedFloat.le, UnpackedFloat.compare, partsOf, Parts.size?, Size.IsPositive,
      Binary.signed_zero]
  | finite s m e hm =>
    have hpos : 0 < (Binary.mk m e).value := Binary.value_pos hm
    cases s <;>
      simp [UnpackedFloat.le, UnpackedFloat.compare, partsOf, Parts.size?, Size.IsPositive, isNegative,
        Binary.signed, hpos, hpos.le]

end Decimal

namespace Value

def IsPositive (v : Value) : Prop :=
  ∃ s, v.size? = some s ∧ s.IsPositive

theorem isNull_iff {v : Value} : v.isNull = true ↔ v = .null := by
  cases v <;> simp [isNull]

end Value

namespace Session

open Act (Keeps bind_eq_ok)

variable {flags : Flags} {w w' : World} {v : Value}

theorem isNotPositive_eq_ok_iff {b : Bool} :
    isNotPositive v = .ok b ↔
      v.isNumber = true ∧ (b = true ↔ ∃ s, v.size? = some s ∧ ¬ s.IsPositive) := by
  cases v with
  | float x =>
    have hnumber : (Value.float x).isNumber = true := rfl
    have hresult : isNotPositive (.float x) = .ok (decide (x ≤ 0.0)) := rfl
    rw [hresult, Except.ok.injEq, Value.size?, ← Decimal.le_zero_iff]
    cases b <;> simp [hnumber]
  | int n =>
    cases b <;>
      simp [isNotPositive, Value.isNumber, Value.int?, Value.size?, Decimal.Size.IsPositive]
  | bool c =>
    cases b <;> cases c <;>
      simp [isNotPositive, Value.isNumber, Value.int?, Value.size?, Decimal.Size.IsPositive]
  | _ => simp [isNotPositive, Value.isNumber, Value.int?]

theorem accepted_iff :
    isNotPositive v = .ok false ↔ v.isNumber = true ∧ (v.IsPositive ∨ v.size? = none) := by
  rw [isNotPositive_eq_ok_iff, Value.IsPositive]
  cases v.size? <;> simp

theorem applyTimeout_ok (h : applyTimeout v w = (.ok (), w')) :
    isNotPositive v = .ok false ∧ w' = { w with settings := w.settings.setTimeout v } := by
  obtain ⟨b, t, hb, hrest⟩ := bind_eq_ok h
  rw [Act.ofExcept_apply, Prod.mk.injEq, mapError_eq_ok_iff] at hb
  obtain ⟨hb, rfl⟩ := hb
  cases b with
  | false =>
    cases hrest
    exact ⟨hb, rfl⟩
  | true =>
    obtain ⟨_, _, -, hthrow⟩ := bind_eq_ok hrest
    obtain ⟨_, _, hthrow, -⟩ := bind_eq_ok hthrow
    cases hthrow

def World.timeoutSet (w : World) : Option Value :=
  w.settings.timeout

theorem setSettings_keeps {change : Surroundings → Settings → Except Failure Settings}
    (h : ∀ around s t, change around s = .ok t → t.timeout = s.timeout) :
    Keeps World.timeoutSet (setSettings change) := by
  intro w
  rw [setSettings, Act.bind_apply_ok (Act.get_apply w), Act.bind_apply, Act.ofExcept_apply]
  cases hchange : change w.around w.settings with
  | error failure => rfl
  | ok settings => exact h _ _ _ hchange

theorem setServer_timeout {s t : Settings} (h : s.setServer v = .ok t) : t.timeout = s.timeout := by
  cases v with
  | str url =>
    cases h
    rfl
  | _ => cases h

theorem setOutputDir_timeout {around : Surroundings} {s t : Settings}
    (h : s.setOutputDir around v = .ok t) : t.timeout = s.timeout := by
  obtain ⟨path, -, hpath⟩ := bind_eq_ok_iff.mp h
  cases hpath
  rfl

def applyOthers (flags : Flags) : Act World Unit := do
  unless flags.outputDir.isNull do
    setSettings fun around s => s.setOutputDir around flags.outputDir
  unless flags.verbose.isNull do modifySettings (Settings.setVerbose flags.verbose)
  applyCertificates flags.insecure flags.certificates

theorem applyOthers_keeps (flags : Flags) : Keeps World.timeoutSet (applyOthers flags) := by
  have hcertificates : Keeps World.timeoutSet (applyCertificates flags.insecure flags.certificates) :=
    applyCertificates_keeps (fun _ _ => rfl) (fun _ _ => rfl) _ _
  have hverbose : Keeps World.timeoutSet (do
      unless flags.verbose.isNull do modifySettings (Settings.setVerbose flags.verbose)
      applyCertificates flags.insecure flags.certificates) :=
    Keeps.ite hcertificates (Keeps.bind (Keeps.modify fun _ => rfl) fun _ => hcertificates)
  exact Keeps.ite hverbose
    (Keeps.bind (setSettings_keeps fun _ _ _ => setOutputDir_timeout) fun _ => hverbose)

theorem applyTimeout_then {t : World} (hstart : t.settings.timeout = none)
    (h : (do unless flags.timeout.isNull do applyTimeout flags.timeout
             applyOthers flags : Act World Unit) t = (.ok (), w')) :
    w'.settings.timeout = Settings.given flags.timeout ∧
      (flags.timeout.isNull = false → isNotPositive flags.timeout = .ok false) := by
  have hkeep (u : World) (h : applyOthers flags u = (.ok (), w')) :
      w'.settings.timeout = u.settings.timeout := by
    have hkeeps := applyOthers_keeps flags u
    rw [h] at hkeeps
    exact hkeeps
  cases hnull : flags.timeout.isNull with
  | true =>
    simp only [hnull, if_true] at h
    rw [hkeep t h, hstart, Settings.given, if_pos hnull]
    exact ⟨rfl, nofun⟩
  | false =>
    simp only [hnull, Bool.false_eq_true, if_false] at h
    obtain ⟨_, u, htimeout, hothers⟩ := bind_eq_ok h
    obtain ⟨haccepted, rfl⟩ := applyTimeout_ok htimeout
    exact ⟨hkeep _ hothers, fun _ => haccepted⟩

theorem applyFlags_timeout (hstart : w.settings.timeout = none)
    (h : applyFlags flags w = (.ok (), w')) :
    w'.settings.timeout = Settings.given flags.timeout ∧
      (flags.timeout.isNull = false → isNotPositive flags.timeout = .ok false) := by
  rw [applyFlags] at h
  cases hserver : flags.server.truthy with
  | true =>
    simp only [hserver, if_true] at h
    obtain ⟨_, t, ht, hrest⟩ := bind_eq_ok h
    have hkeeps := setSettings_keeps (fun _ _ _ => setServer_timeout (v := flags.server)) w
    rw [ht] at hkeeps
    exact applyTimeout_then (Eq.trans hkeeps hstart) hrest
  | false =>
    simp only [hserver, Bool.false_eq_true, if_false] at h
    exact applyTimeout_then hstart h

/-- What may be wrong with a timeout: NaN is let through as a flag, and what a variable or a file says
is not compared with zero. -/
inductive Unchecked (flags : Flags) (around : Surroundings) : Prop where
  | flag (x : Float) : flags.timeout = .float x → Decimal.size? x = none → Unchecked flags around
  | variable (x : Float) : flags.timeout = .null →
    (around.variableText? "DEPGRAPH_VIEWER_TIMEOUT").bind Decimal.read? = some x →
    ¬ (Value.float x).IsPositive → Unchecked flags around
  | file (v : Value) (x : Float) : flags.timeout = .null →
    (around.variableText? "DEPGRAPH_VIEWER_TIMEOUT").bind Decimal.read? = none →
    around.setting? "timeout" = .ok (some v) → v.readDouble = .ok x →
    ¬ (Value.float x).IsPositive → Unchecked flags around

theorem default_positive : (Value.float Settings.defaultTimeout).IsPositive := by
  have hparts : Decimal.parts Settings.defaultTimeout = .finite false ⟨30 * 2 ^ 48, -48⟩ := by
    decide +kernel
  refine ⟨_, congrArg Decimal.Parts.size? hparts, ?_⟩
  exact Decimal.Binary.value_pos (by norm_num)

variable {around : Surroundings}

theorem unchecked_iff_of_flag (h : flags.timeout.isNull = false)
    (haccepted : isNotPositive flags.timeout = .ok false) :
    Unchecked flags around ↔ flags.timeout.size? = none := by
  constructor
  · rintro (⟨x, hx, hsize⟩ | ⟨_, hnull, _⟩ | ⟨_, _, hnull, _⟩)
    · rw [hx]
      exact hsize
    · rw [hnull] at h
      cases h
    · rw [hnull] at h
      cases h
  · intro hsize
    have hnumber := (accepted_iff.mp haccepted).1
    cases ht : flags.timeout with
    | float x =>
      rw [ht] at hsize
      exact .flag x ht hsize
    | bool _ | int _ =>
      rw [ht] at hsize
      cases hsize
    | _ =>
      rw [ht] at hnumber
      cases hnumber

theorem unchecked_iff_of_no_flag (hflag : flags.timeout = .null) :
    Unchecked flags around ↔
      (∃ x, (around.variableText? "DEPGRAPH_VIEWER_TIMEOUT").bind Decimal.read? = some x ∧
        ¬ (Value.float x).IsPositive) ∨
      ((around.variableText? "DEPGRAPH_VIEWER_TIMEOUT").bind Decimal.read? = none ∧
        ∃ v x, around.setting? "timeout" = .ok (some v) ∧ v.readDouble = .ok x ∧
          ¬ (Value.float x).IsPositive) := by
  constructor
  · rintro (⟨x, hx, -⟩ | ⟨x, -, hx, hpos⟩ | ⟨v, x, -, hnone, hv, hx, hpos⟩)
    · rw [hflag] at hx
      cases hx
    · exact .inl ⟨x, hx, hpos⟩
    · exact .inr ⟨hnone, v, x, hv, hx, hpos⟩
  · rintro (⟨x, hx, hpos⟩ | ⟨hnone, v, x, hv, hx, hpos⟩)
    · exact .variable x hflag hx hpos
    · exact .file v x hflag hnone hv hx hpos

theorem positive_of_no_flag {s : Settings} (hflag : flags.timeout = .null) (hset : s.timeout = none)
    (h : s.getTimeout around = .ok v) :
    v.isNumber = true ∧ (v.IsPositive ↔ ¬ Unchecked flags around) := by
  rw [unchecked_iff_of_no_flag hflag]
  rw [Settings.getTimeout.eq_def, hset] at h
  -- It is what the variable says, or the file, or the default.
  cases hvariable : (around.variableText? "DEPGRAPH_VIEWER_TIMEOUT").bind Decimal.read? with
  | some x =>
    rw [hvariable] at h
    cases h
    exact ⟨rfl, by simp⟩
  | none =>
    rw [hvariable] at h
    obtain ⟨found, hfound, h⟩ := bind_eq_ok_iff.mp h
    cases found with
    | some u =>
      obtain ⟨x, hx, h⟩ := bind_eq_ok_iff.mp h
      rw [mapError_eq_ok_iff] at hx
      cases h
      exact ⟨rfl, by simp [hfound, hx]⟩
    | none =>
      cases h
      exact ⟨rfl, by simp [hfound, default_positive]⟩

theorem timeout_positive_iff (hstart : w.settings.timeout = none)
    (happly : applyFlags flags w = (.ok (), w')) (h : w'.settings.getTimeout around = .ok v) :
    v.isNumber = true ∧ (v.IsPositive ↔ ¬ Unchecked flags around) := by
  obtain ⟨hset, haccepted⟩ := applyFlags_timeout hstart happly
  rw [Settings.given] at hset
  cases hnull : flags.timeout.isNull with
  | true =>
    rw [if_pos hnull] at hset
    exact positive_of_no_flag (Value.isNull_iff.mp hnull) hset h
  | false =>
    rw [if_neg (ne_true_of_eq_false hnull)] at hset
    rw [Settings.getTimeout.eq_def, hset] at h
    cases h
    obtain ⟨hnumber, hsize⟩ := accepted_iff.mp (haccepted hnull)
    refine ⟨hnumber, ?_⟩
    rw [unchecked_iff_of_flag hnull (haccepted hnull)]
    constructor
    · rintro ⟨s, hs, -⟩
      rw [hs]
      nofun
    · exact fun hnone => hsize.resolve_right hnone

def owingWorld : World :=
  { bareWorld with environment := [("DEPGRAPH_VIEWER_TIMEOUT", "-5")] }

def fiveSeconds : Flags :=
  { timeout := .int 5 }

theorem timeout_positive_five :
    ∃ w v, owingWorld.settings.timeout = none ∧ applyFlags fiveSeconds owingWorld = (.ok (), w) ∧
      w.settings.getTimeout w.around = .ok v ∧ v.isNumber = true ∧
      (v.IsPositive ↔ ¬ Unchecked fiveSeconds w.around) := by
  have happly : applyFlags fiveSeconds owingWorld =
      (.ok (), (applyFlags fiveSeconds owingWorld).2) := rfl
  have hget : (applyFlags fiveSeconds owingWorld).2.settings.getTimeout owingWorld.around =
      .ok (.int 5) := rfl
  exact ⟨_, _, rfl, happly, hget, timeout_positive_iff rfl happly hget⟩

theorem not_positive_of_parts {x : Float} {b : Decimal.Binary}
    (h : Decimal.parts x = .finite true b) : ¬ (Value.float x).IsPositive := by
  rintro ⟨s, hs, hpos⟩
  rw [Value.size?, Decimal.size?, h] at hs
  obtain rfl := Option.some.inj hs
  have hvalue : 0 ≤ b.value := mul_nonneg (Nat.cast_nonneg _) (zpow_nonneg zero_le_two _)
  simp only [Decimal.Size.IsPositive, Decimal.Binary.signed, if_true] at hpos
  linarith

theorem size?_of_nan {x : Float} (h : Decimal.parts x = .nan) : Decimal.size? x = none := by
  rw [Decimal.size?, h, Decimal.Parts.size?]

def unending : Flags :=
  { timeout := .float (0.0 / 0.0) }

/-- A variable is not compared with zero, and NaN is not at most zero. -/
theorem timeout_not_positive :
    (∃ w v, applyFlags {} owingWorld = (.ok (), w) ∧ w.settings.getTimeout w.around = .ok v ∧
      ¬ v.IsPositive) ∧
    ∃ w v, applyFlags unending bareWorld = (.ok (), w) ∧ w.settings.getTimeout w.around = .ok v ∧
      ¬ v.IsPositive := by
  constructor
  · have hread : (Decimal.read? "-5").map Decimal.parts = some (.finite true ⟨5 * 2 ^ 50, -50⟩) := by
      decide +kernel
    obtain ⟨x, hx, hparts⟩ := Option.map_eq_some_iff.mp hread
    have hvariable : (owingWorld.around.variableText? "DEPGRAPH_VIEWER_TIMEOUT").bind Decimal.read? =
        some x := hx
    refine ⟨(applyFlags {} owingWorld).2, .float x, rfl, ?_, not_positive_of_parts hparts⟩
    change Settings.initial.getTimeout owingWorld.around = _
    rw [Settings.getTimeout.eq_def, hvariable]
    rfl
  · have hnan : Decimal.size? (0.0 / 0.0) = none := size?_of_nan (by decide +kernel)
    have hok : (applyFlags unending bareWorld).1.isOk = true := by decide +kernel
    rcases happly : applyFlags unending bareWorld with ⟨_ | ⟨⟩, w⟩
    · rw [happly] at hok
      cases hok
    · obtain ⟨hset, -⟩ := applyFlags_timeout rfl happly
      refine ⟨w, .float (0.0 / 0.0), rfl, ?_, ?_⟩
      · rw [Settings.getTimeout.eq_def, hset]
        rfl
      · rintro ⟨s, hs, -⟩
        rw [Value.size?, hnan] at hs
        cases hs

end Session

end DependencyAtlas
