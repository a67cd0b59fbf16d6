import DependencyAtlas.Proofs.Results
import DependencyAtlas.Settings.Basic
import Mathlib.Data.List.Induction

namespace DependencyAtlas.Settings

open Files

inductive Field where
  | server | timeout | outputDir | verbose | verify
  deriving DecidableEq

namespace Field

abbrev Held : Field → Type
  | server => String
  | timeout => Value
  | outputDir => Path
  | verbose => Value
  | verify => Value

def variableName? : Field → Option String
  | server => some "DEPGRAPH_VIEWER_SERVER_URL"
  | timeout => some "DEPGRAPH_VIEWER_TIMEOUT"
  | outputDir => some "DEPGRAPH_VIEWER_OUTPUT_DIR"
  | verbose => none
  | verify => none

def read? (around : Surroundings) : (f : Field) → String → Option (Except Failure f.Held)
  | server, text => some (.ok (Text.withoutEnd '/' text))
  | timeout, text => (Decimal.read? text).map fun x => .ok (.float x)
  | outputDir, text => some (around.expand (.ofText text))
  | verbose, _ => none
  | verify, _ => none

end Field

def set (v : Value) (around : Surroundings) (s : Settings) : Field → Except Failure Settings
  | .server => s.setServer v
  | .timeout => .ok (s.setTimeout v)
  | .outputDir => s.setOutputDir around v
  | .verbose => .ok (s.setVerbose v)
  | .verify => .ok (s.setVerify v)

def get (s : Settings) (around : Surroundings) : (f : Field) → Except Failure f.Held
  | .server => s.getServer around
  | .timeout => s.getTimeout around
  | .outputDir => s.getOutputDir around
  | .verbose => s.getVerbose around
  | .verify => .ok s.verify

inductive Event where
  | set (f : Field) (v : Value) (around : Surroundings)
  | reset

namespace Event

def isReset : Event → Bool
  | set _ _ _ => false
  | reset => true

def perform (s : Settings) : Event → Settings
  | set f v around => (s.set v around f).toOption.getD s
  | reset => initial

end Event

def after (history : List Event) : Settings :=
  history.foldl Event.perform initial

def taken? (v : Value) (around : Surroundings) : (f : Field) → Option (Option f.Held)
  | .server => match v with
    | .str url => some (some (Text.withoutEnd '/' url))
    | _ => none
  | .timeout => some (given v)
  | .outputDir => (pathOf around v).toOption.map some
  | .verbose => some (given v)
  | .verify => some (some v)

def Event.gives? (f : Field) : Event → Option (Option f.Held)
  | set g v around => if g = f then taken? v around f else none
  | reset => none

def lastSet (f : Field) (history : List Event) : Option f.Held :=
  ((history.reverse.takeWhile (!·.isReset)).findSome? (Event.gives? f)).join

def homeOnly (around : Surroundings) : Surroundings :=
  ⟨(around.home.map fun dir => ("HOME", dir)).toList, around.disk⟩

namespace Field

def text? (around : Surroundings) (f : Field) : Option String :=
  f.variableName?.bind around.variableText?

def fromVariable? (around : Surroundings) (f : Field) : Option (Except Failure f.Held) :=
  (f.text? around).bind (f.read? around)

def fromFiles (around : Surroundings) (f : Field) : Except Failure f.Held :=
  initial.get (homeOnly around) f

def resolve (around : Surroundings) (f : Field) (explicit : Option f.Held) : Except Failure f.Held :=
  match explicit, f.fromVariable? around with
  | some a, _ => .ok a
  | none, some result => result
  | none, none => f.fromFiles around

end Field

def Holds (s : Settings) : (f : Field) → Option f.Held → Prop
  | .server, a => s.server = a
  | .timeout, a => s.timeout = a
  | .outputDir, a => s.outputDir = a
  | .verbose, a => s.verbose = a
  | .verify, a => s.verify = a.getD (.bool true)

variable {s : Settings} {f g : Field}

def keep (s : Settings) : (f : Field) → Option f.Held → Settings
  | .server, a => { s with server := a }
  | .timeout, a => { s with timeout := a }
  | .outputDir, a => { s with outputDir := a }
  | .verbose, a => { s with verbose := a }
  | .verify, a => { s with verify := a.getD (.bool true) }

theorem holds_initial (f : Field) : initial.Holds f none := by
  cases f <;> rfl

theorem holds_keep (a : Option f.Held) : (s.keep f a).Holds f a := by
  cases f <;> rfl

theorem holds_keep_other (h : g ≠ f) (a : Option g.Held) (b : Option f.Held) :
    (s.keep g a).Holds f b ↔ s.Holds f b := by
  cases f <;> cases g <;> first | rfl | exact absurd rfl h

theorem get_keep_other (h : g ≠ f) (a : Option g.Held) (around : Surroundings) :
    (s.keep g a).get around f = s.get around f := by
  cases f <;> cases g <;> first | rfl | exact absurd rfl h

theorem perform_set (v : Value) (around : Surroundings) (f : Field) :
    (Event.set f v around).perform s = ((taken? v around f).map (s.keep f)).getD s := by
  cases f with
  | server => cases v <;> rfl
  | outputDir =>
    simp only [Event.perform, set, setOutputDir, taken?]
    cases pathOf around v <;> rfl
  | _ => rfl

variable {around here there : Surroundings}

theorem setting?_of_disk (h : here.disk = there.disk) : here.setting? = there.setting? := by
  obtain ⟨environment, disk⟩ := here
  obtain rfl : disk = there.disk := h
  rfl

theorem table_of_disk (h : here.disk = there.disk) : here.table = there.table := by
  obtain ⟨environment, disk⟩ := here
  obtain rfl : disk = there.disk := h
  rfl

theorem pathOf_of_home (h : here.home = there.home) : pathOf here = pathOf there := by
  funext v
  cases v <;> simp only [pathOf, Surroundings.expand, h]

theorem get_congr (s : Settings) (hdisk : here.disk = there.disk)
    (hhome : f = .outputDir → here.home = there.home) (htext : f.text? here = f.text? there) :
    s.get here f = s.get there f := by
  -- Only a directory may begin at home; for the others it does not matter where that is.
  cases f with
  | server =>
    replace htext : here.variableText? "DEPGRAPH_VIEWER_SERVER_URL" =
      there.variableText? "DEPGRAPH_VIEWER_SERVER_URL" := htext
    simp only [get, getServer, htext, setting?_of_disk hdisk]
  | timeout =>
    replace htext : here.variableText? "DEPGRAPH_VIEWER_TIMEOUT" =
      there.variableText? "DEPGRAPH_VIEWER_TIMEOUT" := htext
    simp only [get, getTimeout, htext, setting?_of_disk hdisk]
  | outputDir =>
    replace htext : here.variableText? "DEPGRAPH_VIEWER_OUTPUT_DIR" =
      there.variableText? "DEPGRAPH_VIEWER_OUTPUT_DIR" := htext
    simp only [get, getOutputDir, htext, setting?_of_disk hdisk, pathOf_of_home (hhome rfl),
      Surroundings.expand, Surroundings.here, hhome rfl, hdisk]
  | verbose => simp only [get, getVerbose, table_of_disk hdisk]
  | verify => rfl

theorem home_homeOnly : (homeOnly around).home = around.home := by
  cases h : around.home <;> rw [homeOnly, h] <;> rfl

theorem text?_homeOnly : f.text? (homeOnly around) = none := by
  have hname (name : String) (h : (name == "HOME") = false) :
      (homeOnly around).variableText? name = none := by
    cases hhome : around.home <;> simp [homeOnly, Surroundings.variableText?, hhome, h]
  cases f with
  | server => exact hname "DEPGRAPH_VIEWER_SERVER_URL" rfl
  | timeout => exact hname "DEPGRAPH_VIEWER_TIMEOUT" rfl
  | outputDir => exact hname "DEPGRAPH_VIEWER_OUTPUT_DIR" rfl
  | _ => rfl

theorem get_of_explicit {a : f.Held} (h : s.Holds f (some a)) : s.get around f = .ok a := by
  cases f <;> simp only [Holds] at h <;>
    simp only [get, getServer, getTimeout, getOutputDir, getVerbose, h, Option.getD_some]

theorem get_of_holds_none (h : s.Holds f none) : s.get around f = initial.get around f := by
  cases f <;> simp only [Holds] at h <;>
    simp only [get, getServer, getTimeout, getOutputDir, getVerbose, initial, h, Option.getD_none]

theorem fromVariable?_of_text {text : String} (h : f.text? around = some text) :
    f.fromVariable? around = f.read? around text := by
  rw [Field.fromVariable?, h, Option.bind_some]

theorem get_of_text {text : String} (h : f.text? around = some text) :
    initial.get around f = (f.read? around text).getD (f.fromFiles around) := by
  cases f with
  | server =>
    replace h : around.variableText? "DEPGRAPH_VIEWER_SERVER_URL" = some text := h
    simp only [get, getServer, initial, Field.read?, h, Option.getD_some]
  | timeout =>
    have hfiles : (homeOnly around).variableText? "DEPGRAPH_VIEWER_TIMEOUT" = none :=
      text?_homeOnly (f := .timeout)
    replace h : around.variableText? "DEPGRAPH_VIEWER_TIMEOUT" = some text := h
    -- A text that is no number is passed over, as if it were not there.
    cases hread : Decimal.read? text with
    | none =>
      simp only [get, getTimeout, initial, Field.read?, Field.fromFiles, h, hread, hfiles,
        Option.bind_some, Option.bind_none, Option.map_none, Option.getD_none]
      rfl
    | some x =>
      simp only [get, getTimeout, initial, Field.read?, h, hread, Option.bind_some, Option.map_some,
        Option.getD_some]
  | outputDir =>
    replace h : around.variableText? "DEPGRAPH_VIEWER_OUTPUT_DIR" = some text := h
    simp only [get, getOutputDir, initial, Field.read?, h, Option.getD_some]
  | verbose => cases h
  | verify => cases h

theorem get_initial (around : Surroundings) (f : Field) :
    initial.get around f = (f.fromVariable? around).getD (f.fromFiles around) := by
  cases htext : f.text? around with
  | none =>
    rw [Field.fromVariable?, htext, Option.bind_none, Option.getD_none, Field.fromFiles]
    exact get_congr initial rfl (fun _ => home_homeOnly.symm) (htext.trans text?_homeOnly.symm)
  | some text => rw [fromVariable?_of_text htext, get_of_text htext]

theorem get_eq_resolve {explicit : Option f.Held} (h : s.Holds f explicit) (around : Surroundings) :
    s.get around f = f.resolve around explicit := by
  cases explicit with
  | some a => rw [get_of_explicit h, Field.resolve]
  | none =>
    rw [get_of_holds_none h, get_initial, Field.resolve.eq_def]
    cases f.fromVariable? around <;> rfl

theorem after_concat (history : List Event) (e : Event) :
    after (history ++ [e]) = e.perform (after history) :=
  List.foldl_append

theorem after_append (history later : List Event) :
    after (history ++ later) = later.foldl Event.perform (after history) :=
  List.foldl_append

theorem lastSet_reset (history : List Event) : lastSet f (history ++ [.reset]) = none := by
  simp [lastSet, Event.isReset]

theorem lastSet_set (history : List Event) (v : Value) (around : Surroundings) (g : Field) :
    lastSet f (history ++ [.set g v around]) =
      if g = f then (taken? v around f).getD (lastSet f history) else lastSet f history := by
  by_cases h : g = f
  · cases htaken : taken? v around f <;>
      simp [lastSet, Event.isReset, Event.gives?, h, htaken]
  · simp [lastSet, Event.isReset, Event.gives?, h]

theorem holds_after (f : Field) (history : List Event) : (after history).Holds f (lastSet f history) := by
  induction history using List.reverseRecOn with
  | nil => exact holds_initial f
  | append_singleton history e ih =>
    rw [after_concat]
    cases e with
    | reset =>
      rw [lastSet_reset]
      exact holds_initial f
    | set g v around =>
      -- A refused value leaves the one that was set last, and so does one for another field.
      rw [lastSet_set, perform_set]
      by_cases h : g = f
      · subst h
        rw [if_pos rfl]
        cases taken? v around g with
        | none => exact ih
        | some a => exact holds_keep a
      · rw [if_neg h]
        cases taken? v around g with
        | none => exact ih
        | some a => exact (holds_keep_other h a _).mpr ih

theorem taken_of_lastSet {history : List Event} {a : f.Held} (h : lastSet f history = some a) :
    ∃ v around, taken? v around f = some (some a) := by
  obtain ⟨e, -, hgives⟩ := List.exists_of_findSome?_eq_some (Option.join_eq_some_iff.mp h)
  cases e with
  | reset => cases hgives
  | set g v around =>
    simp only [Event.gives?] at hgives
    split at hgives
    · next hg =>
      subst hg
      exact ⟨v, around, hgives⟩
    · cases hgives

def Trimmed (url : String) : Prop :=
  url.toList.getLast? ≠ some '/'

theorem trimmed_withoutEnd (url : String) : Trimmed (Text.withoutEnd '/' url) := by
  intro h
  rw [Text.withoutEnd, String.toList_ofList, List.getLast?_reverse] at h
  have hhead := List.head?_dropWhile_not (· == '/') url.toList.reverse
  rw [h] at hhead
  cases hhead

theorem trimmed_getServer {url : String} (hset : ∀ a, s.server = some a → Trimmed a)
    (h : s.getServer around = .ok url) : Trimmed url := by
  simp only [getServer] at h
  split at h
  · next a hserver =>
    cases h
    exact hset _ ‹_›
  · cases h
    exact trimmed_withoutEnd _
  · obtain ⟨found, -, h⟩ := bind_eq_ok_iff.mp h
    cases found with
    | some v =>
      cases h
      exact trimmed_withoutEnd _
    | none =>
      cases h
      rw [Trimmed]
      decide

theorem trimmed_after (history : List Event) {url : String} (h : (after history).server = some url) :
    Trimmed url := by
  have hlast : lastSet .server history = some url := (holds_after .server history).symm.trans h
  obtain ⟨v, around, htaken⟩ := taken_of_lastSet hlast
  cases v with
  | str text =>
    cases htaken
    exact trimmed_withoutEnd text
  | _ => cases htaken

/-- What the fields of settings are after a run of events. -/
structure Shields (history : List Event) : Prop where
  resolved : ∀ around f, (after history).get around f = f.resolve around (lastSet f history)
  own : ∀ (other : List Event) (here there : Surroundings) (f : Field),
    lastSet f history = lastSet f other → f.text? here = f.text? there → here.disk = there.disk →
    (f = .outputDir → here.home = there.home) → (after history).get here f = (after other).get there f
  apart : ∀ (f g : Field) (v : Value) (here now : Surroundings), f ≠ g →
    (after (history ++ [.set f v here])).get now g = (after history).get now g
  forgotten : ∀ (later : List Event) (now : Surroundings) (f : Field),
    (after (history ++ .reset :: later)).get now f = (after later).get now f
  shielded : ∀ (around : Surroundings) (f : Field) (a : f.Held),
    lastSet f history = some a ∨
      (lastSet f history = none ∧ f.fromVariable? around = some (.ok a)) →
    ∀ disk, (after history).get { around with disk } f = .ok a
  trimmed : ∀ (around : Surroundings) (url : String),
    (after history).get around .server = .ok url → Trimmed url

theorem shields (history : List Event) : Shields history := by
  have hresolved (around : Surroundings) (f : Field) :
      (after history).get around f = f.resolve around (lastSet f history) :=
    get_eq_resolve (holds_after f history) around
  constructor
  · exact hresolved
  · intro other here there f hlast htext hdisk hhome
    rw [hresolved, hlast, ← get_eq_resolve (holds_after f other)]
    exact get_congr _ hdisk hhome htext
  · intro f g v here now hne
    rw [after_concat, perform_set]
    cases taken? v here f with
    | none => rfl
    | some a => exact get_keep_other hne a now
  · intro later now f
    rw [after_append]
    rfl
  · intro around f a h disk
    have hvariable : f.fromVariable? { around with disk } = f.fromVariable? around := by
      cases f <;> rfl
    rw [hresolved, Field.resolve.eq_def, hvariable]
    rcases h with hset | ⟨hset, hread⟩
    · rw [hset]
    · rw [hset, hread]
  · intro around url h
    exact trimmed_getServer (fun a => trimmed_after history) h

end DependencyAtlas.Settings
