import DependencyAtlas.Status
import Mathlib.Data.List.Induction

namespace DependencyAtlas

namespace Change

theorem loading_of_noticeAfter? {c : Change Bool} {n n' : Notice Bool}
    (h : c.noticeAfter? n = some n') (hc : ∀ value, c ≠ .load value) : n'.loading = n.loading := by
  cases c with
  | load value => exact absurd rfl (hc value)
  | «show» m =>
    obtain rfl := Option.some.inj h
    rfl
  | clear =>
    simp only [noticeAfter?] at h
    split at h
    · cases h
    · obtain rfl := Option.some.inj h
      rfl

variable {α : Type} [BEq α]

def matters (n : Notice α) : Change α → Bool
  | load value => n.loading != value
  | .show _ => true
  | clear => n.message.isSome

def result (n : Notice α) : Change α → Notice α
  | load value => { n with loading := value }
  | .show message => { n with message := some message }
  | clear => { n with message := none }

theorem noticeAfter?_eq (c : Change α) (n : Notice α) :
    c.noticeAfter? n = if c.matters n then some (c.result n) else none := by
  cases c with
  | load value => cases h : n.loading == value <;> simp [noticeAfter?, matters, result, bne, h]
  | «show» m => rfl
  | clear => cases h : n.message <;> simp [noticeAfter?, matters, result, h]

end Change

namespace Board

variable {α ι : Type} {react : ι → Notice α → ι × List ι} {b : Board α ι}

theorem change_of_none [BEq α] {c : Change α} (h : c.noticeAfter? b.notice = none) :
    b.change react c = (b, []) := by
  simp only [change, h]

theorem change_of_some [BEq α] {c : Change α} {n : Notice α}
    (h : c.noticeAfter? b.notice = some n) :
    b.change react c = notify react { b with notice := n } := by
  simp only [change, h]

theorem change_notice [BEq α] (c : Change α) :
    (b.change react c).1.notice = (c.noticeAfter? b.notice).getD b.notice := by
  cases h : c.noticeAfter? b.notice with
  | none => rw [change_of_none h]; rfl
  | some n => rw [change_of_some h]; rfl

theorem loading_change_load (react : ι → Notice Bool → ι × List ι) (b : Board Bool ι)
    (value : Bool) : (b.change react (.load value)).1.notice.loading = value := by
  rw [change_notice]
  simp only [Change.noticeAfter?]
  split
  · next h => exact eq_of_beq h
  · rfl

theorem loading_change_other {react : ι → Notice Bool → ι × List ι} {b : Board Bool ι}
    {c : Change Bool} (hc : ∀ value, c ≠ .load value) :
    (b.change react c).1.notice.loading = b.notice.loading := by
  rw [change_notice]
  cases h : c.noticeAfter? b.notice with
  | none => rfl
  | some n => exact Change.loading_of_noticeAfter? h hc

inductive Deed (α ι : Type) where
  | subscribe (listener : ι)
  | change (c : Change α)

variable [BEq α]

def Deed.perform (react : ι → Notice α → ι × List ι) (b : Board α ι) :
    Deed α ι → Board α ι × List ι
  | subscribe listener => (b.subscribe listener, [])
  | change c => b.change react c

def performAll (react : ι → Notice α → ι × List ι) (b : Board α ι) (deeds : List (Deed α ι)) :
    Board α ι :=
  deeds.foldl (fun b d => (d.perform react b).1) b

def Deed.told (n : Notice α) : Deed α ι → List (Notice α)
  | subscribe _ => []
  | change c => if c.matters n then [c.result n] else []

def toldAll (n : Notice α) : List (Deed α ι) → List (Notice α)
  | [] => []
  | d :: rest => d.told n ++ toldAll ((d.told n).getLastD n) rest

theorem told_change (c : Change α) (n : Notice α) :
    (Deed.change c : Deed α ι).told n = (c.noticeAfter? n).toList := by
  rw [Deed.told, Change.noticeAfter?_eq]
  split <;> rfl

theorem performAll_concat (react : ι → Notice α → ι × List ι) (b : Board α ι)
    (deeds : List (Deed α ι)) (d : Deed α ι) :
    b.performAll react (deeds ++ [d]) = (d.perform react (b.performAll react deeds)).1 :=
  List.foldl_append

theorem performAll_append (react : ι → Notice α → ι × List ι) (b : Board α ι)
    (deeds later : List (Deed α ι)) :
    b.performAll react (deeds ++ later) = (b.performAll react deeds).performAll react later :=
  List.foldl_append

theorem perform_notice (d : Deed α ι) :
    (d.perform react b).1.notice = (d.told b.notice).getLastD b.notice := by
  cases d with
  | subscribe listener => rfl
  | change c =>
    rw [Deed.perform, change_notice, told_change]
    cases c.noticeAfter? b.notice <;> rfl

end Board

structure Hearer (α ι : Type) where
  listener : ι
  seen : List (Notice α)

namespace Hearer

variable {α ι : Type}

def new (listener : ι) : Hearer α ι :=
  ⟨listener, []⟩

def react (react : ι → Notice α → ι × List ι) (h : Hearer α ι) (n : Notice α) :
    Hearer α ι × List (Hearer α ι) :=
  (⟨(react h.listener n).1, h.seen ++ [n]⟩, (react h.listener n).2.map new)

end Hearer

namespace Board

variable {α ι : Type} {react : ι → Notice α → ι × List ι}

def remembering (b : Board α ι) : Board α (Hearer α ι) :=
  ⟨b.notice, b.listeners.map .new⟩

def forgetting (b : Board α (Hearer α ι)) : Board α ι :=
  ⟨b.notice, b.listeners.map Hearer.listener⟩

def Deed.remembering : Deed α ι → Deed α (Hearer α ι)
  | subscribe listener => subscribe (.new listener)
  | change c => change c

theorem forgetting_remembering (b : Board α ι) : b.remembering.forgetting = b := by
  obtain ⟨notice, listeners⟩ := b
  simp [remembering, forgetting, Hearer.new, Function.comp_def]

variable [BEq α]

def remembered (react : ι → Notice α → ι × List ι) (b : Board α ι) (deeds : List (Deed α ι)) :
    Board α (Hearer α ι) :=
  b.remembering.performAll (Hearer.react react) (deeds.map Deed.remembering)

theorem told_remembering (d : Deed α ι) (n : Notice α) : d.remembering.told n = d.told n := by
  cases d <;> rfl

theorem perform_forgetting (d : Deed α ι) (b : Board α (Hearer α ι)) :
    (d.remembering.perform (Hearer.react react) b).1.forgetting = (d.perform react b.forgetting).1 := by
  cases d with
  | subscribe listener => simp [Deed.remembering, Deed.perform, subscribe, forgetting, Hearer.new]
  | change c =>
    rw [Deed.remembering, Deed.perform, Deed.perform]
    cases h : c.noticeAfter? b.notice with
    | none => rw [change_of_none h, change_of_none (by exact h)]
    | some n =>
      rw [change_of_some h, change_of_some (by exact h)]
      simp [notify, forgetting, Hearer.react, Hearer.new, List.map_flatMap, List.flatMap_map,
        Function.comp_def]

theorem perform_seen (react : ι → Notice α → ι × List ι) (d : Deed α ι)
    (b : Board α (Hearer α ι)) :
    ∃ new, (d.remembering.perform (Hearer.react react) b).1.listeners.map Hearer.seen =
      b.listeners.map (fun h => h.seen ++ d.told b.notice) ++ List.replicate new [] := by
  cases d with
  | subscribe listener =>
    refine ⟨1, ?_⟩
    simp [Deed.remembering, Deed.perform, Deed.told, subscribe, Hearer.new]
  | change c =>
    rw [told_change, Deed.remembering, Deed.perform]
    cases h : c.noticeAfter? b.notice with
    | none =>
      rw [change_of_none h]
      exact ⟨0, by simp⟩
    | some n =>
      rw [change_of_some h]
      refine ⟨(b.listeners.flatMap fun h => (react h.listener n).2).length, ?_⟩
      simp [notify, Hearer.react, Hearer.new, List.map_flatMap, List.flatMap_map, Function.comp_def,
        List.eq_replicate_iff]

theorem performAll_seen (react : ι → Notice α → ι × List ι) (later : List (Deed α ι))
    (b : Board α (Hearer α ι)) :
    ∃ more, (b.performAll (Hearer.react react) (later.map Deed.remembering)).listeners.map Hearer.seen =
      b.listeners.map (fun h => h.seen ++ toldAll b.notice later) ++ more := by
  induction later generalizing b with
  | nil => exact ⟨[], by simp [performAll, toldAll]⟩
  | cons d rest ih =>
    obtain ⟨new, hseen⟩ := perform_seen react d b
    obtain ⟨more, hmore⟩ := ih (d.remembering.perform (Hearer.react react) b).1
    have hnotice : (d.remembering.perform (Hearer.react react) b).1.notice =
        (d.told b.notice).getLastD b.notice := by
      rw [perform_notice, told_remembering]
    -- What the earlier listeners saw of the first deed stands before what they see of the rest.
    have hmap (told : List (Notice α)) (listeners : List (Hearer α ι)) :
        listeners.map (fun h => h.seen ++ told) = (listeners.map Hearer.seen).map (· ++ told) := by
      simp
    rw [List.map_cons, performAll, List.foldl_cons]
    rw [performAll] at hmore
    refine ⟨List.replicate new (toldAll ((d.told b.notice).getLastD b.notice) rest) ++ more, ?_⟩
    rw [hmore, hmap, hseen, hnotice, List.map_append, List.map_replicate, List.nil_append, List.map_map,
      List.append_assoc, toldAll]
    simp [Function.comp_def]

def Current (b : Board α (Hearer α ι)) : Prop :=
  ∀ h ∈ b.listeners, ∀ n, h.seen.getLast? = some n → n = b.notice

theorem Current.perform {b : Board α (Hearer α ι)} (h : b.Current) (d : Deed α ι) :
    (d.remembering.perform (Hearer.react react) b).1.Current := by
  obtain ⟨new, hseen⟩ := perform_seen react d b
  intro hearer hmem n hn
  rw [perform_notice, told_remembering]
  have hmem' : hearer.seen ∈
      b.listeners.map (fun h => h.seen ++ d.told b.notice) ++ List.replicate new [] :=
    hseen ▸ List.mem_map_of_mem hmem
  rcases List.mem_append.mp hmem' with hold | hnew
  · obtain ⟨before, hbefore, hlast⟩ := List.mem_map.mp hold
    rw [← hlast, List.getLast?_append] at hn
    cases htold : (d.told b.notice).getLast? with
    | none =>
      rw [htold, Option.none_or] at hn
      rw [List.getLast?_eq_none_iff.mp htold]
      exact h before hbefore n hn
    | some last =>
      rw [htold, Option.some_or] at hn
      rw [List.getLastD_eq_getLast?, htold]
      exact (Option.some.inj hn).symm
  · rw [List.eq_of_mem_replicate hnew] at hn
    cases hn

theorem remembered_concat (b : Board α ι) (deeds : List (Deed α ι)) (d : Deed α ι) :
    b.remembered react (deeds ++ [d]) =
      (d.remembering.perform (Hearer.react react) (b.remembered react deeds)).1 := by
  rw [remembered, List.map_append]
  exact performAll_concat _ _ _ _

theorem remembered_current (b : Board α ι) (deeds : List (Deed α ι)) :
    (b.remembered react deeds).Current := by
  induction deeds using List.reverseRecOn with
  | nil =>
    intro h hh n hn
    obtain ⟨listener, -, rfl⟩ := List.mem_map.mp hh
    cases hn
  | append_singleton deeds d ih =>
    rw [remembered_concat]
    exact ih.perform d

theorem forgetting_remembered (b : Board α ι) (deeds : List (Deed α ι)) :
    (b.remembered react deeds).forgetting = b.performAll react deeds := by
  induction deeds using List.reverseRecOn with
  | nil => exact forgetting_remembering b
  | append_singleton deeds d ih => rw [remembered_concat, perform_forgetting, ih, performAll_concat]

theorem remembered_notice (b : Board α ι) (deeds : List (Deed α ι)) :
    (b.remembered react deeds).notice = (b.performAll react deeds).notice :=
  congrArg Board.notice (forgetting_remembered b deeds)

theorem remembered_heard {b : Board α ι} {deeds : List (Deed α ι)} {i : Nat} {h : Hearer α ι}
    (hi : (b.remembered react deeds).listeners[i]? = some h) (later : List (Deed α ι)) :
    ∃ h', (b.remembered react (deeds ++ later)).listeners[i]? = some h' ∧
      h'.seen = h.seen ++ toldAll (b.performAll react deeds).notice later := by
  obtain ⟨more, hseen⟩ := performAll_seen react later (b.remembered react deeds)
  obtain ⟨hlt, -⟩ := List.getElem?_eq_some_iff.mp hi
  have hplace := congrArg (·[i]?) hseen
  simp only [List.getElem?_map] at hplace
  rw [List.getElem?_append_left (by simpa using hlt), List.getElem?_map, hi, Option.map_some,
    Option.map_eq_some_iff] at hplace
  obtain ⟨h', hh', hseen'⟩ := hplace
  refine ⟨h', ?_, remembered_notice b deeds ▸ hseen'⟩
  rw [remembered, List.map_append, performAll_append]
  exact hh'

theorem remembered_fresh {b : Board α ι} {deeds : List (Deed α ι)} {d : Deed α ι} {i : Nat}
    {h : Hearer α ι} (hi : (b.remembered react deeds).listeners.length ≤ i)
    (hh : (b.remembered react (deeds ++ [d])).listeners[i]? = some h) : h.seen = [] := by
  obtain ⟨new, hseen⟩ := perform_seen react d (b.remembered react deeds)
  rw [remembered_concat] at hh
  have hplace := congrArg (·[i]?) hseen
  simp only [List.getElem?_map, hh, Option.map_some] at hplace
  rw [List.getElem?_append_right (by simpa using hi)] at hplace
  exact List.eq_of_mem_replicate (List.mem_of_getElem? hplace.symm)

/-- What becomes of a status by some deeds, and who is told of it. -/
structure ListenersTold (react : ι → Notice α → ι × List ι) (start : Board α ι)
    (deeds : List (Deed α ι)) : Prop where
  same : (start.remembered react deeds).forgetting = start.performAll react deeds
  passed : ∀ c : Change α, c.matters (start.performAll react deeds).notice = false →
    (start.performAll react deeds).change react c = (start.performAll react deeds, [])
  called : ∀ c : Change α, c.matters (start.performAll react deeds).notice = true →
    ((start.performAll react deeds).change react c).1.notice =
        c.result (start.performAll react deeds).notice ∧
      ((start.performAll react deeds).change react c).2 = (start.performAll react deeds).listeners
  heard : ∀ (later : List (Deed α ι)) (i : Nat) (h : Hearer α ι),
    (start.remembered react deeds).listeners[i]? = some h →
    ∃ h', (start.remembered react (deeds ++ later)).listeners[i]? = some h' ∧
      h'.seen = h.seen ++ toldAll (start.performAll react deeds).notice later
  fresh : ∀ (d : Deed α ι) (i : Nat) (h : Hearer α ι),
    (start.remembered react deeds).listeners.length ≤ i →
    (start.remembered react (deeds ++ [d])).listeners[i]? = some h → h.seen = []
  current : ∀ h ∈ (start.remembered react deeds).listeners, ∀ n, h.seen.getLast? = some n →
    n = (start.performAll react deeds).notice

example :
    ((Board.mk (Notice.mk false none) []).remembered Listener.react
      [.subscribe ⟨"a", some "b"⟩, .change .clear, .change (.load true), .change (.load true),
        .change (.load false)]).listeners.map
        (fun h => (h.listener.name, h.seen.map Notice.loading)) =
      [("a", [true, false]), ("b", [false])] := rfl

end Board

end DependencyAtlas
