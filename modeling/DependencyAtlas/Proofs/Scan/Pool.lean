import DependencyAtlas.Proofs.Actions
import DependencyAtlas.Proofs.Value.Fields
import DependencyAtlas.Scan.Pool
import Mathlib.Data.List.Basic

namespace DependencyAtlas.Scan.Pool

variable {p : Pool} {i j : Nat} {c : Connection} {verify timeout : Value} {refusal : Option Failure}

def Tidy (p : Pool) : Prop :=
  ∀ i c, p.connection? i = some c → c.closed = false → p.held = some i

def AllClosed (p : Pool) : Prop :=
  ∀ i c, p.connection? i = some c → c.closed = true

def IsOpen (p : Pool) (i : Nat) : Prop :=
  ∃ c, p.connection? i = some c ∧ c.closed = false

theorem AllClosed.not_isOpen (h : p.AllClosed) (i : Nat) : ¬ p.IsOpen i := by
  rintro ⟨c, hc, hopen⟩
  rw [h i c hc] at hopen
  cases hopen

theorem Tidy.of_allClosed (h : p.AllClosed) : p.Tidy :=
  fun i c hc hopen => absurd ⟨c, hc, hopen⟩ (h.not_isOpen i)

theorem connection?_close (p : Pool) (i j : Nat) :
    (p.close i).connection? j =
      if i = j then (p.connection? j).map fun c => { c with closed := true } else p.connection? j := by
  rw [close, connection?, connection?, List.getElem?_modify]
  by_cases h : i = j
  · simp [h]
  · simp [h]

@[simp] theorem held_close (p : Pool) (i : Nat) : (p.close i).held = p.held := rfl

@[simp] theorem length_close (p : Pool) (i : Nat) :
    (p.close i).connections.length = p.connections.length :=
  List.length_modify ..

theorem open_before_close (h : (p.close i).connection? j = some c) (hopen : c.closed = false) :
    i ≠ j ∧ p.connection? j = some c := by
  rw [connection?_close] at h
  split at h
  · obtain ⟨d, -, rfl⟩ := Option.map_eq_some_iff.mp h
    cases hopen
  · next hne => exact ⟨hne, h⟩

theorem Tidy.close (h : p.Tidy) (i : Nat) : (p.close i).Tidy := by
  intro j c hc hopen
  exact h j c (open_before_close hc hopen).2 hopen

theorem Tidy.closeHeld (h : p.Tidy) : p.closeHeld.AllClosed := by
  intro j c hc
  by_contra hopen
  rw [Bool.not_eq_true] at hopen
  rw [Pool.closeHeld] at hc
  split at hc
  · next i hi =>
    obtain ⟨hne, hc⟩ := open_before_close hc hopen
    exact hne (Option.some.inj (hi.symm.trans (h j c hc hopen)))
  · next hnone =>
    rw [h j c hc hopen] at hnone
    cases hnone

theorem Tidy.shut (h : p.Tidy) : p.shut.AllClosed := h.closeHeld

@[simp] theorem length_closeHeld (p : Pool) :
    p.closeHeld.connections.length = p.connections.length := by
  rw [closeHeld]
  split
  · exact length_close p _
  · rfl

theorem connection?_openNew_length (p : Pool) (verify timeout : Value) :
    (p.openNew verify timeout).connection? p.connections.length = some ⟨verify, timeout, false⟩ :=
  List.getElem?_concat_length

theorem connection?_openNew_cases (h : (p.openNew verify timeout).connection? i = some c) :
    p.connection? i = some c ∨ i = p.connections.length ∧ c = ⟨verify, timeout, false⟩ := by
  rw [connection?, openNew, List.getElem?_append] at h
  split at h
  · exact .inl h
  · next hle =>
    rw [List.getElem?_singleton] at h
    split at h
    · exact .inr ⟨by omega, (Option.some.inj h).symm⟩
    · cases h

theorem AllClosed.openNew (h : p.AllClosed) : (p.openNew verify timeout).Tidy := by
  intro i c hc hopen
  rcases connection?_openNew_cases hc with hold | ⟨rfl, -⟩
  · exact absurd ⟨c, hold, hopen⟩ (h.not_isOpen i)
  · rfl

def Ages (p q : Pool) : Prop :=
  ∀ i c, p.connection? i = some c → ∃ d, q.connection? i = some d ∧
    d.verify = c.verify ∧ d.timeout = c.timeout ∧ (c.closed = true → d.closed = true)

theorem Ages.refl (p : Pool) : p.Ages p :=
  fun _ c hc => ⟨c, hc, rfl, rfl, id⟩

theorem Ages.trans {q r : Pool} (h : p.Ages q) (h' : q.Ages r) : p.Ages r := by
  intro i c hc
  obtain ⟨d, hd, hverify, htimeout, hclosed⟩ := h i c hc
  obtain ⟨e, he, hverify', htimeout', hclosed'⟩ := h' i d hd
  exact ⟨e, he, hverify'.trans hverify, htimeout'.trans htimeout, hclosed' ∘ hclosed⟩

theorem ages_close (p : Pool) (i : Nat) : p.Ages (p.close i) := by
  intro j c hc
  rw [connection?_close, hc]
  split
  · exact ⟨_, rfl, rfl, rfl, fun _ => rfl⟩
  · exact ⟨c, rfl, rfl, rfl, id⟩

theorem ages_closeHeld (p : Pool) : p.Ages p.closeHeld := by
  rw [closeHeld]
  split
  · exact ages_close p _
  · exact .refl p

theorem ages_openNew (p : Pool) (verify timeout : Value) : p.Ages (p.openNew verify timeout) := by
  intro i c hc
  refine ⟨c, ?_, rfl, rfl, id⟩
  rw [connection?, openNew, List.getElem?_append_left (List.getElem?_eq_some_iff.mp hc).1]
  exact hc

theorem Ages.open_before {q : Pool} (h : p.Ages q) (hi : i < p.connections.length)
    (hq : q.IsOpen i) : p.IsOpen i := by
  have hc : p.connection? i = some p.connections[i] := List.getElem?_eq_getElem hi
  obtain ⟨d, hd, -, -, hclosed⟩ := h i _ hc
  obtain ⟨e, he, hopen⟩ := hq
  obtain rfl : d = e := Option.some.inj (hd.symm.trans he)
  exact ⟨_, hc, by_contra fun h => by simp_all⟩

theorem AllClosed.of_ages {q : Pool} (h : p.AllClosed) (hages : p.Ages q)
    (hlength : q.connections.length = p.connections.length) : q.AllClosed := by
  intro i d hd
  have hi : i < p.connections.length := hlength ▸ (List.getElem?_eq_some_iff.mp hd).1
  by_contra hopen
  rw [Bool.not_eq_true] at hopen
  exact h.not_isOpen i (hages.open_before hi ⟨d, hd, hopen⟩)

def Proper (p : Pool) : Prop :=
  ∀ i c, p.connection? i = some c → c.verify.Proper ∧ c.timeout.Proper

theorem Proper.of_ages {q : Pool} (h : p.Proper) (hages : p.Ages q)
    (hlength : q.connections.length = p.connections.length) : q.Proper := by
  intro i d hd
  have hi : i < p.connections.length := hlength ▸ (List.getElem?_eq_some_iff.mp hd).1
  have hc : p.connection? i = some p.connections[i] := List.getElem?_eq_getElem hi
  obtain ⟨e, he, hverify, htimeout, -⟩ := hages i _ hc
  obtain rfl : d = e := Option.some.inj (hd.symm.trans he)
  rw [hverify, htimeout]
  exact h i _ hc

theorem Proper.openNew (h : p.Proper) (hverify : verify.Proper) (htimeout : timeout.Proper) :
    (p.openNew verify timeout).Proper := by
  intro i c hc
  rcases connection?_openNew_cases hc with hold | ⟨-, rfl⟩
  · exact h i c hold
  · exact ⟨hverify, htimeout⟩

theorem serving?_eq_some_iff :
    p.serving? verify timeout = some i ↔
      p.held = some i ∧ ∃ c, p.connection? i = some c ∧ c.serves verify timeout = true := by
  rw [serving?, Option.filter_eq_some_iff, Option.any_eq_true]

theorem serves_iff :
    c.serves verify timeout = true ↔
      c.closed = false ∧ (c.verify == verify) = true ∧ (c.timeout == timeout) = true := by
  simp [Connection.serves, and_assoc]

theorem AllClosed.serving? (h : p.AllClosed) : p.serving? verify timeout = none := by
  rw [Option.eq_none_iff_forall_ne_some]
  intro i hi
  obtain ⟨-, c, hc, hserves⟩ := serving?_eq_some_iff.mp hi
  exact h.not_isOpen i ⟨c, hc, (serves_iff.mp hserves).1⟩

theorem acquire_serving (h : p.serving? verify timeout = some i) :
    acquire refusal verify timeout p = (.ok i, p) := by
  rw [acquire.eq_def, Act.bind_apply_ok (Act.get_apply p), h]
  rfl

theorem acquire_refused {failure : Failure} (h : p.serving? verify timeout = none) :
    acquire (some failure) verify timeout p = (.error failure, p.closeHeld) := by
  rw [acquire.eq_def, Act.bind_apply_ok (Act.get_apply p), h]
  rfl

theorem acquire_new (h : p.serving? verify timeout = none) :
    acquire none verify timeout p =
      (.ok p.connections.length, p.closeHeld.openNew verify timeout) := by
  rw [acquire.eq_def, Act.bind_apply_ok (Act.get_apply p), h]
  dsimp only
  rw [Act.bind_apply_ok (Act.modify_apply closeHeld p)]
  rw [← length_closeHeld p]
  rfl

theorem acquire_eq_iff (h : p.Tidy) (hi : i < p.connections.length)
    (hj : (acquire refusal verify timeout p).1 = .ok j) :
    j = i ↔ ∃ c, p.connection? i = some c ∧ c.serves verify timeout = true := by
  constructor
  · rintro rfl
    cases hserving : p.serving? verify timeout with
    | some k =>
      rw [acquire_serving hserving] at hj
      cases hj
      exact (serving?_eq_some_iff.mp hserving).2
    | none =>
      cases refusal with
      | some failure =>
        rw [acquire_refused hserving] at hj
        cases hj
      | none =>
        rw [acquire_new hserving] at hj
        cases hj
        exact absurd hi (Nat.lt_irrefl _)
  · rintro ⟨c, hc, hserves⟩
    have hheld := h i c hc (serves_iff.mp hserves).1
    rw [acquire_serving (serving?_eq_some_iff.mpr ⟨hheld, c, hc, hserves⟩)] at hj
    cases hj
    rfl

end DependencyAtlas.Scan.Pool
