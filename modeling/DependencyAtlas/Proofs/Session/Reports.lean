import DependencyAtlas.Proofs.Graph.Refusals
import DependencyAtlas.Proofs.Session.Concluding
import DependencyAtlas.Proofs.Session.SingleFlight

namespace DependencyAtlas

namespace Session

open Scan
open Act (Keeps)

namespace Viewer

variable {v : Viewer}

theorem conclude_of_complaint {act : Act Viewer Graph} {w : Viewer} {c : Complaint}
    (h : act v = (.error (.complaint c), w)) (hc : c ≠ .emptyResult) :
    (conclude act v).2.message = some c.message := by
  rw [conclude_told h hc]
  exact w.told_message c.message

theorem conclude_of_failure {act : Act Viewer Graph} {w : Viewer} {failure : Failure}
    (h : act v = (.error failure, w)) (hfailure : failure.complaint? = none)
    (hw : w.message = none) :
    (conclude act v).1 = .error failure ∧ (conclude act v).2.message = none := by
  have hsettle : settle act v = (.error failure, w) := by
    rw [settle_of_failure h]
    cases failure with
    | complaint c => cases hfailure
    | _ => rfl
  rw [conclude_of_failed hsettle]
  exact ⟨rfl, (becomeIdle_keeps_message w).trans hw⟩

variable {waiting : Waiting} {reply : Reply}

theorem receive_of_graph {g : Graph} (h : reply.graphFrom waiting.address = .ok g) :
    receive waiting reply = conclude (present g) := by
  rw [receive, h]
  rfl

theorem received_failure {failure : Failure}
    (h : reply.graphFrom waiting.address = .error failure) (v : Viewer) :
    (do
      let g ← Act.ofExcept (reply.graphFrom waiting.address)
      present g : Act Viewer Graph) v = (.error failure, v) := by
  rw [h]
  rfl

end Viewer

structure Brings (waiting : Waiting) (a : Answer) (document : Value) : Prop where
  complete : waiting.address.isComplete = true
  success : a.isSuccess = true
  document : a.document = .ok document

theorem Brings.graphFrom {waiting : Waiting} {a : Answer} {document : Value}
    (h : Brings waiting a document) : (Reply.answer a).graphFrom waiting.address =
      (Graph.ofDocument document).mapError .ofRefusal := by
  rw [Reply.graphFrom, if_pos h.complete, Answer.graph, if_pos h.success, h.document]
  rfl

/-- What becomes of a document: unless reading gets stuck there is a graph or a defect. The graph is shown,
the defect is told as an error, and where reading gets stuck the failure is passed on without a word. -/
structure Handled (document : Value) : Prop where
  read : ((∃ g, Graph.ofDocument document = .ok g) ∨
    ∃ d, Graph.ofDocument document = .error (.defect d)) ↔ ¬ Graph.Stuck document
  shown : ∀ waiting a, Brings waiting a document → ∀ g, Graph.ofDocument document = .ok g →
    Viewer.receive waiting (.answer a) = Viewer.conclude (Viewer.present g)
  told : ∀ waiting a, Brings waiting a document → ∀ d,
    Graph.ofDocument document = .error (.defect d) → ∀ v,
    (Viewer.receive waiting (.answer a) v).2.message = some ⟨"Error: " ++ d.message, .error⟩
  passed : ∀ waiting a, Brings waiting a document → Graph.Stuck document → ∀ v : Viewer,
    v.message = none → (∃ m, (Viewer.receive waiting (.answer a) v).1 = .error (.misuse m)) ∧
      (Viewer.receive waiting (.answer a) v).2.message = none

theorem documents_handled (document : Value) : Handled document := by
  constructor
  · constructor
    · intro hread hstuck
      obtain ⟨m, hm⟩ := (Graph.ofDocument_misuse_iff document).mpr hstuck
      rw [hm] at hread
      rcases hread with ⟨g, hg⟩ | ⟨d, hd⟩
      · cases hg
      · cases hd
    · exact Graph.ofDocument_cases
  · intro waiting a h g hg
    apply Viewer.receive_of_graph
    rw [h.graphFrom, hg]
    rfl
  · intro waiting a h d hd v
    have hfailed : (Reply.answer a).graphFrom waiting.address =
        .error (.complaint (.malformed ⟨d.message, none⟩)) := by
      rw [h.graphFrom, hd]
      rfl
    exact Viewer.conclude_of_complaint (Viewer.received_failure hfailed v) nofun
  · intro waiting a h hstuck v hwordless
    obtain ⟨m, hm⟩ := (Graph.ofDocument_misuse_iff document).mpr hstuck
    have hfailed : (Reply.answer a).graphFrom waiting.address = .error (.misuse m) := by
      rw [h.graphFrom, hm]
      rfl
    obtain ⟨hpassed, hnone⟩ :=
      Viewer.conclude_of_failure (Viewer.received_failure hfailed v) rfl hwordless
    exact ⟨⟨m, hpassed⟩, hnone⟩

def localScan : Waiting where
  request := ⟨"a"⟩
  address :=
    { scheme := ['h', 't', 't', 'p'], user := [], host := ['l', 'o', 'c', 'a', 'l'], port := none,
      path := [], query := none, fragment := none }

def nullAnswer : Answer :=
  ⟨200, none, [110, 117, 108, 108]⟩

theorem null_reported :
    Brings localScan nullAnswer .null ∧
      (Viewer.receive localScan (.answer nullAnswer) newViewer).2.message =
        some ⟨"Error: Response has no 'elements' object", .error⟩ := by
  have hbrings : Brings localScan nullAnswer .null := ⟨rfl, rfl, rfl⟩
  exact ⟨hbrings, (documents_handled .null).told _ _ hbrings .noElements rfl newViewer⟩

theorem number_for_nodes :
    ¬ ((∃ g, Graph.ofDocument (.object [("elements", .object [("nodes", .int 5)])]) = .ok g) ∨
      ∃ d, Graph.ofDocument (.object [("elements", .object [("nodes", .int 5)])]) =
        .error (.defect d)) := by
  have hmisuse : Graph.ofDocument (.object [("elements", .object [("nodes", .int 5)])]) =
      .error (.misuse (.notIterable .int)) := rfl
  rw [hmisuse]
  rintro (⟨g, hg⟩ | ⟨d, hd⟩)
  · cases hg
  · cases hd

end Session

end DependencyAtlas
