import DependencyAtlas.Proofs.Lookup
import DependencyAtlas.Proofs.Text.Trim
import DependencyAtlas.Scan.Request
import DependencyAtlas.Session.Command

namespace DependencyAtlas.Session

open Scan Text

namespace Command

def firstWord (cs : List Char) : String :=
  String.ofList (cs.takeWhile (· != ' '))

def spaces (k : Nat) : String :=
  String.ofList (List.replicate k ' ')

theorem isBlank_space : isBlank ' ' = true := by decide

theorem spaces_blank (k : Nat) : AllBlank (spaces k).toList := by
  intro c hc
  rw [spaces, String.toList_ofList] at hc
  rw [List.eq_of_mem_replicate hc, isBlank_space]

theorem trim_drop_space {cs : List Char} (h : ∀ c, cs.head? = some c → c = ' ') :
    trim (cs.drop 1) = trim cs := by
  cases cs with
  | nil => rfl
  | cons c rest =>
    obtain rfl := h c rfl
    have hblank : AllBlank [' '] := by
      simpa only [AllBlank, List.forall_mem_singleton] using isBlank_space
    exact (trim_blank_append hblank).symm

theorem ofTrimmed_colon {cs : List Char} (h : cs.head? = some ':') :
    ofTrimmed cs =
      match shortcuts.lookup (firstWord cs) with
      | some command => .ok (command, trim (cs.dropWhile (· != ' ')))
      | none => .error (.unknownShortcut (firstWord cs) (shortcuts.map Prod.fst)) := by
  obtain ⟨rest, rfl⟩ := List.head?_eq_some_iff.mp h
  have hspace : ∀ c, ((':' :: rest).dropWhile (· != ' ')).head? = some c → c = ' ' := by
    intro c hc
    have hstop := List.head?_dropWhile_not (· != ' ') (':' :: rest)
    rw [hc] at hstop
    simpa using hstop
  rw [← trim_drop_space hspace]
  rfl

theorem ofTrimmed_path {cs : List Char} (h : cs.head? ≠ some ':') : ofTrimmed cs = .ok (submit, cs) := by
  rw [ofTrimmed.eq_def]
  split
  · exact absurd rfl h
  · rfl

theorem ofLine_eq (line : String) :
    ofLine line = (ofTrimmed (trim line.toList)).map fun found => (found.1, String.ofList found.2) := by
  rw [ofLine]
  cases ofTrimmed (trim line.toList) <;> rfl

theorem ofLine_congr {line line' : String} (h : trimmed line = trimmed line') : ofLine line = ofLine line' := by
  rw [ofLine_eq, ofLine_eq, ← toList_trimmed, ← toList_trimmed, h]

theorem ofLine_path {line : String} (h : (trimmed line).toList.head? ≠ some ':') :
    ofLine line = .ok (submit, trimmed line) := by
  rw [toList_trimmed] at h
  rw [ofLine_eq, ofTrimmed_path h]
  rfl

theorem shortcuts_solid : ∀ entry ∈ shortcuts,
    entry.1.toList.head? = some ':' ∧ trimEnd entry.1.toList = entry.1.toList ∧
      entry.1.toList.all (· != ' ') = true := by
  decide

theorem shortcuts_nodup : (shortcuts.map Prod.fst).Nodup := by
  decide

theorem ofLine_shortcut {entry : String × Command} (hentry : entry ∈ shortcuts) {k : Nat} (hk : 1 ≤ k)
    (argument : String) : ofLine (entry.1 ++ spaces k ++ argument) = .ok (entry.2, trimmed argument) := by
  obtain ⟨hcolon, hsolid, hword⟩ := shortcuts_solid entry hentry
  obtain ⟨k, rfl⟩ := Nat.exists_eq_add_of_le' hk
  generalize hrest : (spaces (k + 1) ++ argument).toList = rest
  -- After the word there is nothing or a space, also when the blanks at the end are gone.
  have hspace : ∀ c, (trimEnd rest).head? = some c → c = ' ' := by
    intro c hc
    obtain ⟨ending, hending⟩ : trimEnd rest <+: rest := List.rdropWhile_prefix isBlank rest
    have hhead : rest.head? = some c := by rw [← hending, List.head?_append, hc, Option.some_or]
    rw [← hrest, spaces, String.toList_append, String.toList_ofList, List.replicate_succ] at hhead
    exact (Option.some.inj hhead).symm
  have hline : trim (entry.1 ++ spaces (k + 1) ++ argument).toList = entry.1.toList ++ trimEnd rest := by
    have hstart : trimStart (entry.1.toList ++ rest) = entry.1.toList ++ rest := by
      obtain ⟨name, hname⟩ := List.head?_eq_some_iff.mp hcolon
      rw [hname]
      rfl
    rw [String.append_assoc, String.toList_append, hrest, trim, hstart, trimEnd_append_left hsolid]
  have htake : (entry.1.toList ++ trimEnd rest).takeWhile (· != ' ') = entry.1.toList := by
    rw [List.takeWhile_append_of_pos (List.all_eq_true.mp hword)]
    cases hshort : trimEnd rest with
    | nil => rw [List.takeWhile_nil, List.append_nil]
    | cons c cs =>
      obtain rfl := hspace c (by rw [hshort]; rfl)
      rw [List.takeWhile_cons_of_neg (by decide), List.append_nil]
  have hdrop : (entry.1.toList ++ trimEnd rest).dropWhile (· != ' ') = trimEnd rest := by
    have hsplit := List.takeWhile_append_dropWhile (p := (· != ' ')) (l := entry.1.toList ++ trimEnd rest)
    rw [htake] at hsplit
    exact List.append_cancel_left hsplit
  have hargument : trim (trimEnd rest) = trim argument.toList := by
    rw [trim_trimEnd, ← hrest, String.toList_append, trim_blank_append (spaces_blank _)]
  rw [ofLine_eq, hline, ofTrimmed_colon (by rw [List.head?_append, hcolon, Option.some_or]), firstWord,
    htake, String.ofList_toList, lookup_of_mem shortcuts_nodup hentry, hdrop, hargument]
  rfl

inductive Reads (line : String) : Except Failure (Command × String) → Prop
  | path (h : (trimmed line).toList.head? ≠ some ':') : Reads line (.ok (submit, trimmed line))
  | shortcut (h : (trimmed line).toList.head? = some ':') (command : Command) (argument : String)
      (hknown : (firstWord (trimmed line).toList, command) ∈ shortcuts) :
      Reads line (.ok (command, trimmed argument))
  | unknown (h : (trimmed line).toList.head? = some ':')
      (hunknown : firstWord (trimmed line).toList ∉ shortcuts.map Prod.fst) :
      Reads line (.error (.unknownShortcut (firstWord (trimmed line).toList) (shortcuts.map Prod.fst)))

theorem reads_ofLine (line : String) : Reads line (ofLine line) := by
  by_cases hcolon : (trimmed line).toList.head? = some ':'
  · have heq := ofTrimmed_colon hcolon
    rw [toList_trimmed] at heq
    by_cases hknown : firstWord (trimmed line).toList ∈ shortcuts.map Prod.fst
    · obtain ⟨command, hfound⟩ := exists_lookup_of_mem hknown
      have hread : ofLine line =
          .ok (command, trimmed (String.ofList ((trim line.toList).dropWhile (· != ' ')))) := by
        rw [toList_trimmed] at hfound
        rw [ofLine_eq, heq, hfound, trimmed, String.toList_ofList]
        rfl
      rw [hread]
      exact .shortcut hcolon command _ (mem_of_lookup hfound)
    · have hrefused : ofLine line =
          .error (.unknownShortcut (firstWord (trimmed line).toList) (shortcuts.map Prod.fst)) := by
        rw [toList_trimmed] at hknown ⊢
        rw [ofLine_eq, heq, lookup_eq_none_of_not_mem hknown]
        rfl
      rw [hrefused]
      exact .unknown hcolon hknown
  · rw [ofLine_path hcolon]
    exact .path hcolon

theorem ofName?_name (command : Command) : ofName? command.name = some command := by
  cases command <;> rfl

theorem request_eq (line : String) : Request.ofValue (.str line) =
    if trimmed line = "" then .error (.complaint .emptyPath) else .ok ⟨trimmed line⟩ := by
  rw [Request.ofValue, Request.ofText?]
  by_cases h : trimmed line = ""
  · rw [if_pos h, if_pos h]
  · rw [if_neg h, if_neg h]

/-- How a line is read. It stands for a known command with a trimmed argument, unless it begins with a colon and
its first word is no shortcut. -/
structure ReadsLine (line : String) : Prop where
  refused_iff : (∃ failure, ofLine line = .error failure) ↔
    (trimmed line).toList.head? = some ':' ∧
      firstWord (trimmed line).toList ∉ shortcuts.map Prod.fst
  refused : ∀ failure, ofLine line = .error failure →
    failure = .unknownShortcut (firstWord (trimmed line).toList) (shortcuts.map Prod.fst) ∧
      failure.isWrongValue = true
  read : ∀ command argument, ofLine line = .ok (command, argument) →
    ofName? command.name = some command ∧ command ∈ submit :: shortcuts.map Prod.snd ∧
      trimmed argument = argument
  surrounded : ∀ before after, AllBlank before.toList → AllBlank after.toList →
    ofLine (before ++ line ++ after) = ofLine line
  path : (trimmed line).toList.head? ≠ some ':' →
    ofLine line = .ok (submit, trimmed line) ∧ ofLine (trimmed line) = .ok (submit, trimmed line) ∧
      Request.ofValue (.str (trimmed line)) = Request.ofValue (.str line)
  request : Request.ofValue (.str line) =
    if trimmed line = "" then .error (.complaint .emptyPath) else .ok ⟨trimmed line⟩
  blank_iff : trimmed line = "" ↔ AllBlank line.toList

theorem reads_line (line : String) : ReadsLine line where
  refused_iff := by
    have hreads := reads_ofLine line
    generalize ofLine line = result at hreads
    cases hreads with
    | path h => exact ⟨nofun, fun hrefused => absurd hrefused.1 h⟩
    | shortcut h command argument hknown =>
      exact ⟨nofun, fun hrefused => absurd (List.mem_map_of_mem hknown) hrefused.2⟩
    | unknown h hunknown => exact ⟨fun _ => ⟨h, hunknown⟩, fun _ => ⟨_, rfl⟩⟩
  refused := by
    intro failure hrefused
    have hreads := reads_ofLine line
    rw [hrefused] at hreads
    cases hreads
    exact ⟨rfl, rfl⟩
  read := by
    intro command argument hread
    have hreads := reads_ofLine line
    rw [hread] at hreads
    cases hreads with
    | path h => exact ⟨rfl, List.mem_cons_self, trimmed_trimmed line⟩
    | shortcut h command argument hknown =>
      have hsecond : command ∈ shortcuts.map Prod.snd := List.mem_map_of_mem hknown
      exact ⟨ofName?_name command, List.mem_cons_of_mem _ hsecond, trimmed_trimmed argument⟩
  surrounded := fun before after hbefore hafter =>
    ofLine_congr (trimmed_surrounded hbefore hafter line)
  path := by
    intro hpath
    have hagain : ofLine (trimmed line) = ofLine line := ofLine_congr (trimmed_trimmed line)
    have hrequest : Request.ofValue (.str (trimmed line)) = Request.ofValue (.str line) := by
      rw [request_eq, request_eq, trimmed_trimmed]
    exact ⟨ofLine_path hpath, hagain.trans (ofLine_path hpath), hrequest⟩
  request := request_eq line
  blank_iff := trimmed_eq_empty_iff

theorem lines_read :
    (∀ line, ReadsLine line) ∧
    ∀ entry ∈ shortcuts, ∀ argument, trimmed argument = argument → ∀ k ≥ 1,
      ofLine (entry.1 ++ spaces k ++ argument) = .ok (entry.2, argument) := by
  refine ⟨reads_line, ?_⟩
  intro entry hentry argument htrimmed k hk
  rw [ofLine_shortcut hentry hk, htrimmed]

example : ofLine "\t:select  a :quit " = .ok (select, "a :quit") := by decide

end Command

end DependencyAtlas.Session
