import DependencyAtlas.Value.Text

namespace DependencyAtlas

namespace Decimal

theorem Spelling.magnitude_ne_empty (style : Spelling) (x : Scaled) : style.magnitude x ≠ "" := by
  have hexponent (e : Int) : exponentText e ≠ "" := by
    unfold exponentText
    split <;> simp [String.append_eq_empty_iff]
  simp only [magnitude]
  split
  · split <;> simp [String.append_eq_empty_iff]
  · simp [String.append_eq_empty_iff, hexponent]

theorem plain_write_ne_empty (x : Float) : plain.write x ≠ "" := by
  rw [Spelling.write]
  split
  · simp [plain]
  · simp [plain, String.append_eq_empty_iff]
  · simp only [ne_eq, String.append_eq_empty_iff, not_and]
    intro _
    split
    · simp
    · exact Spelling.magnitude_ne_empty _ _

end Decimal

theorem Moment.text_ne_empty (m : Moment) : m.text ≠ "" := by
  cases m <;> simp [text, dayText, clockText, String.append_eq_empty_iff]

namespace Value

theorem quoted_ne_empty {v : Value} (hstr : ∀ s, v ≠ .str s) (hmoment : ∀ m, v ≠ .moment m) :
    v.quoted ≠ "" := by
  cases v with
  | null => simp [quoted]
  | bool b => cases b <;> simp [quoted]
  | int n => simp [quoted, intText, String.append_eq_empty_iff]
  | float x => simpa only [quoted] using Decimal.plain_write_ne_empty x
  | str s => exact absurd rfl (hstr s)
  | moment m => exact absurd rfl (hmoment m)
  | list items => simp [quoted, String.append_eq_empty_iff]
  | object fields => simp [quoted, String.append_eq_empty_iff]

theorem text_ne_empty {v : Value} (h : v ≠ .str "") : v.text ≠ "" := by
  cases v with
  | str s => simpa [text] using h
  | moment m => simpa only [text] using m.text_ne_empty
  | _ => exact quoted_ne_empty nofun nofun

end Value

end DependencyAtlas
