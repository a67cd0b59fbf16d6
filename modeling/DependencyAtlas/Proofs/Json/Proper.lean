import DependencyAtlas.Json.Reader
import DependencyAtlas.Proofs.Value.Fields

namespace DependencyAtlas.Json

def Sound (x : Except Stuck (Value × List Char)) : Prop :=
  ∀ v rest, x = .ok (v, rest) → v.Proper

theorem sound_ok {v : Value} (h : v.Proper) (rest : List Char) : Sound (.ok (v, rest)) := by
  intro w rest' heq
  cases heq
  exact h

theorem sound_plain {v : Value} (hlist : v.kind ≠ .list) (hobject : v.kind ≠ .object)
    (rest : List Char) : Sound (.ok (v, rest)) :=
  sound_ok (Value.proper_plain hlist hobject) rest

theorem sound_error (stuck : Stuck) : Sound (.error stuck) := nofun

theorem word_proper {cs rest : List Char} {v : Value} (h : word? cs = some (v, rest)) :
    v.Proper := by
  obtain ⟨⟨name, w⟩, hmem, hw⟩ := List.exists_of_findSome?_eq_some h
  obtain ⟨_, _, heq⟩ := Option.map_eq_some_iff.mp hw
  cases heq
  have hplain : ∀ word ∈ words, word.2.kind ≠ .list ∧ word.2.kind ≠ .object := by
    simp [words, Value.kind]
  exact Value.proper_plain (hplain _ hmem).1 (hplain _ hmem).2

theorem number_sound (cs : List Char) : Sound (number cs) := by
  unfold number
  dsimp only
  split
  · exact sound_error _
  · split
    · split
      · exact sound_error _
      · apply sound_plain <;> nofun
    · apply sound_plain <;> nofun

theorem readers_sound (fuel : Nat) :
    (∀ cs, Sound (value fuel cs)) ∧
    (∀ acc cs, (∀ v ∈ acc, v.Proper) → Sound (items fuel acc cs)) ∧
    ∀ acc cs, Value.Proper (.object acc) → Sound (fields fuel acc cs) := by
  induction fuel with
  | zero =>
    refine ⟨fun cs => ?_, fun acc cs _ => ?_, fun acc cs _ => ?_⟩
    · rw [value]; exact sound_error _
    · rw [items]; exact sound_error _
    · rw [fields]; exact sound_error _
  | succ fuel ih =>
    obtain ⟨hvalue, hitems, hfields⟩ := ih
    refine ⟨fun cs => ?_, fun acc cs hacc => ?_, fun acc cs hacc => ?_⟩
    · unfold value
      split
      · split
        · exact sound_error _
        · apply sound_plain <;> nofun
      · split
        · apply sound_ok
          exact Value.proper_list_iff.mpr nofun
        · apply hitems
          exact nofun
      · have hempty : Value.Proper (.object []) := Value.proper_object_iff.mpr ⟨List.nodup_nil, nofun⟩
        split
        · exact sound_ok hempty _
        · exact hfields _ _ hempty
      · split
        · next result hword => exact sound_ok (word_proper hword) _
        · exact number_sound _
    · unfold items
      split
      · exact sound_error _
      · next v rest hv =>
        have hmore : ∀ w ∈ v :: acc, w.Proper :=
          List.forall_mem_cons.mpr ⟨hvalue _ v rest hv, hacc⟩
        split
        · apply sound_ok
          apply Value.proper_list_iff.mpr
          intro w hw
          exact hmore w (List.mem_reverse.mp hw)
        · exact hitems _ _ hmore
        · exact sound_error _
    · unfold fields
      split
      · split
        · exact sound_error _
        · split
          · split
            · exact sound_error _
            · next v rest hv =>
              have hput (key : String) : Value.Proper (.object (Fields.put key v acc)) :=
                hacc.put (hvalue _ v rest hv)
              split
              · exact sound_ok (hput _) _
              · exact hfields _ _ (hput _)
              · exact sound_error _
          · exact sound_error _
      · exact sound_error _

theorem parseChars_proper {cs : List Char} {v : Value} (h : parseChars cs = .ok v) : v.Proper := by
  rw [parseChars] at h
  split at h
  · cases h
  · next w rest hw =>
    have hproper := (readers_sound _).1 _ w rest hw
    split at h
    · cases h
      exact hproper
    · cases h

end DependencyAtlas.Json
