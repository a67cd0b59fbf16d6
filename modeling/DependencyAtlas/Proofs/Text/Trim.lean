import DependencyAtlas.Text.Blank
import Mathlib.Data.List.DropRight

namespace DependencyAtlas.Text

def AllBlank (cs : List Char) : Prop :=
  ∀ c ∈ cs, isBlank c = true

variable {cs ds : List Char}

theorem trimEnd_append (h : AllBlank ds) : trimEnd (cs ++ ds) = trimEnd cs := by
  rw [trimEnd, List.reverse_append, List.dropWhile_append_of_pos fun c hc => h c (List.mem_reverse.mp hc),
    trimEnd]

theorem trimEnd_append_left (h : trimEnd cs = cs) (ds : List Char) :
    trimEnd (cs ++ ds) = cs ++ trimEnd ds := by
  have hreversed : cs.reverse.dropWhile isBlank = cs.reverse := by
    rw [← List.reverse_reverse (cs.reverse.dropWhile isBlank)]
    exact congrArg List.reverse h
  rw [trimEnd, List.reverse_append, List.dropWhile_append, hreversed, trimEnd]
  split
  · next hnone => rw [List.isEmpty_iff.mp hnone, List.reverse_nil, List.append_nil, List.reverse_reverse]
  · rw [List.reverse_append, List.reverse_reverse]

theorem trim_append_blank (h : AllBlank ds) : trim (cs ++ ds) = trim cs := by
  rw [trim, trim, trimStart, List.dropWhile_append, trimStart]
  split
  · next hnone =>
    rw [List.isEmpty_iff.mp hnone, List.dropWhile_eq_nil_iff.mpr h]
  · exact trimEnd_append h

theorem trim_blank_append (h : AllBlank cs) : trim (cs ++ ds) = trim ds := by
  rw [trim, trimStart, List.dropWhile_append_of_pos h]
  rfl

theorem trim_trimEnd (cs : List Char) : trim (trimEnd cs) = trim cs := by
  have hblank : AllBlank (cs.reverse.takeWhile isBlank).reverse := fun c hc =>
    List.mem_takeWhile_imp (List.mem_reverse.mp hc)
  have hsplit : trimEnd cs ++ (cs.reverse.takeWhile isBlank).reverse = cs := by
    rw [trimEnd, ← List.reverse_append, List.takeWhile_append_dropWhile, List.reverse_reverse]
  rw [← trim_append_blank hblank, hsplit]

theorem trim_eq_nil_iff : trim cs = [] ↔ AllBlank cs := by
  constructor
  · intro h
    have hstart : ∀ c ∈ trimStart cs, isBlank c = true := List.rdropWhile_eq_nil_iff.mp h
    -- The first character after the blanks is not blank, and so there is none.
    have hnone : trimStart cs = [] := by
      by_contra hsome
      have hlength := List.length_pos_iff.mpr hsome
      exact List.dropWhile_get_zero_not isBlank cs hlength (hstart _ (List.getElem_mem hlength))
    exact List.dropWhile_eq_nil_iff.mp hnone
  · intro h
    rw [trim, trimStart, List.dropWhile_eq_nil_iff.mpr h]
    rfl

theorem trim_trim (cs : List Char) : trim (trim cs) = trim cs := by
  have hblank : AllBlank (cs.takeWhile isBlank) := fun _ => List.mem_takeWhile_imp
  calc trim (trim cs) = trim (trimStart cs) := trim_trimEnd _
    _ = trim (cs.takeWhile isBlank ++ trimStart cs) := (trim_blank_append hblank).symm
    _ = trim cs := by rw [trimStart, List.takeWhile_append_dropWhile]

@[simp]
theorem toList_trimmed (s : String) : (trimmed s).toList = trim s.toList :=
  String.toList_ofList

theorem trimmed_trimmed (s : String) : trimmed (trimmed s) = trimmed s := by
  rw [trimmed, toList_trimmed, trim_trim, trimmed]

theorem trimmed_eq_empty_iff {s : String} : trimmed s = "" ↔ AllBlank s.toList := by
  rw [← trim_eq_nil_iff, ← toList_trimmed, ← String.toList_inj]
  rfl

theorem trimmed_surrounded {before after : String} (hbefore : AllBlank before.toList)
    (hafter : AllBlank after.toList) (s : String) : trimmed (before ++ s ++ after) = trimmed s := by
  rw [trimmed, String.toList_append, String.toList_append, trim_append_blank hafter,
    trim_blank_append hbefore, trimmed]

end DependencyAtlas.Text
