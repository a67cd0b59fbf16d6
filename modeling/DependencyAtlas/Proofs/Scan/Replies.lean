import DependencyAtlas.Proofs.Graph.RoundTrip
import DependencyAtlas.Proofs.Json.Proper
import DependencyAtlas.Scan.Exchange

namespace DependencyAtlas

namespace Scan

theorem Answer.document_proper {a : Answer} {v : Value} (h : a.document = .ok v) : v.Proper := by
  rw [document] at h
  split at h
  · cases h
  · split at h
    · cases h
    · next hread =>
      cases h
      exact Json.parseChars_proper hread

theorem Answer.graph_accepted {a : Answer} {g : Graph} (h : a.graph = .ok g) : g.Accepted := by
  rw [graph] at h
  split at h
  · obtain ⟨document, hdocument, hread⟩ := bind_eq_ok_iff.mp h
    exact ⟨document, a.document_proper hdocument, mapError_eq_ok_iff.mp hread⟩
  · obtain ⟨_, -, hthrow⟩ := bind_eq_ok_iff.mp h
    cases hthrow

theorem Reply.graphFrom_accepted {reply : Reply} {address : Address} {g : Graph}
    (h : reply.graphFrom address = .ok g) : g.Accepted := by
  cases reply with
  | answer a =>
    rw [graphFrom] at h
    split at h
    · exact a.graph_accepted h
    · cases h
  | broken b text => cases h
  | failed f => cases h

theorem Reply.graphFrom_unsuccessful {address : Address} (haddress : address.isComplete = true)
    {a : Answer} (hfailed : a.isSuccess = false) {body : String} (hbody : a.text = .ok body) :
    (Reply.answer a).graphFrom address = .error (.complaint (.request ⟨body, some a.status⟩)) := by
  rw [graphFrom, if_pos haddress, Answer.graph, if_neg (ne_true_of_eq_false hfailed), hbody]
  rfl

end Scan

end DependencyAtlas
