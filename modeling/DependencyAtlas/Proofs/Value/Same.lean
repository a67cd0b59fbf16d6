import DependencyAtlas.Proofs.Decimal.Exact
import DependencyAtlas.Proofs.Value.Fields

namespace DependencyAtlas.Value

variable {u v w : Value}

theorem induction {P : Value → Prop} (plain : ∀ v, v.kind ≠ .list → v.kind ≠ .object → P v)
    (list : ∀ items : List Value, (∀ v ∈ items, P v) → P (.list items))
    (object : ∀ fields : List (String × Value), (∀ field ∈ fields, P field.2) → P (.object fields)) :
    ∀ v, P v := by
  refine @Value.rec P (fun items => ∀ v ∈ items, P v) (fun fields => ∀ field ∈ fields, P field.2)
    (fun field => P field.2) ?_ ?_ ?_ ?_ ?_ ?_ list object ?_ ?_ ?_ ?_ ?_
  case refine_1 => exact plain _ nofun nofun
  case refine_2 | refine_3 | refine_4 | refine_5 => exact fun _ => plain _ nofun nofun
  case refine_6 =>
    intro m
    exact plain _ (by cases m <;> nofun) (by cases m <;> nofun)
  case refine_7 | refine_9 => nofun
  case refine_8 | refine_10 => exact fun _ _ hhead htail => List.forall_mem_cons.mpr ⟨hhead, htail⟩
  case refine_11 => exact fun _ _ h => h

def isNumber : Value → Bool
  | bool _ | int _ | float _ => true
  | _ => false

def size? : Value → Option Decimal.Size
  | bool b => some (.number (if b then 1 else 0))
  | int n => some (.number n)
  | float x => Decimal.size? x
  | _ => none

theorem isNumber_of_size? {s : Decimal.Size} (h : v.size? = some s) : v.isNumber := by
  cases v with
  | bool b | int n | float x => rfl
  | _ => cases h

def whole? : Value → Option ℤ
  | float x => Decimal.exactInt? x
  | v => v.int?

theorem size?_of_int? {z : ℤ} (h : v.int? = some z) : v.size? = some (.number z) := by
  cases v with
  | bool b =>
    cases h
    cases b <;> simp [size?]
  | int n =>
    cases h
    rfl
  | _ => cases h

theorem whole?_eq_some_iff {z : ℤ} : v.whole? = some z ↔ v.size? = some (.number z) := by
  cases v with
  | float x => exact Decimal.exactInt?_eq_some_iff x z
  | bool b => cases b <;> simp [whole?, int?, size?, eq_comm]
  | int n => simp [whole?, int?, size?]
  | _ => simp [whole?, int?, size?]

theorem same_of_int? {z : ℤ} (hv : v.int? = some z) : v.same w = (some z == w.whole?) := by
  cases v with
  | bool b | int n =>
    cases hv
    cases w <;> simp [same.eq_def, int?, whole?]
  | _ => cases hv

theorem same_float_of_int? (x : Float) {z : ℤ} (hw : w.int? = some z) :
    same (.float x) w = (some z == Decimal.exactInt? x) := by
  cases w with
  | bool b | int n =>
    cases hw
    simp [same, int?]
  | _ => cases hw

theorem same_number_iff (h : v.isNumber) :
    v.same w = true ↔ ∃ s, v.size? = some s ∧ w.size? = some s := by
  cases hv : v.int? with
  | some z =>
    rw [same_of_int? hv, size?_of_int? hv, beq_iff_eq, eq_comm, whole?_eq_some_iff]
    simp
  | none =>
    obtain ⟨x, rfl⟩ : ∃ x, v = .float x := by cases v <;> simp_all [isNumber, int?]
    cases hw : w.int? with
    | some z =>
      rw [same_float_of_int? x hw, size?_of_int? hw, beq_iff_eq, eq_comm,
        Decimal.exactInt?_eq_some_iff]
      simp [size?]
    | none =>
      cases w with
      | float y => simp [same, size?, Decimal.beq_iff]
      | bool b | int n => cases hw
      | _ => simp [same, int?, size?]

theorem same_null_iff : same .null w = true ↔ w = .null := by
  cases w <;> simp [same.eq_def, int?]

theorem same_str_iff {s : String} : same (.str s) w = true ↔ w = .str s := by
  cases w <;> simp [same.eq_def, int?]
  exact eq_comm

theorem same_moment_iff {m : Moment} : same (.moment m) w = true ↔ w = .moment m := by
  cases w <;> simp [same.eq_def, int?]
  exact eq_comm

theorem sameItems_iff {xs ys : List Value} :
    sameItems xs ys = true ↔ List.Forall₂ (fun x y => same x y = true) xs ys := by
  induction xs generalizing ys with
  | nil => cases ys <;> simp [sameItems]
  | cons x xs ih => cases ys <;> simp [sameItems, ih]

theorem sameFields_iff {xs ys : Fields} :
    sameFields xs ys = true ↔ ∀ field ∈ xs, ∃ y, ys.get? field.1 = some y ∧ same field.2 y = true := by
  induction xs with
  | nil => simp [sameFields]
  | cons field xs ih =>
    rw [sameFields, Bool.and_eq_true, ih, List.forall_mem_cons]
    refine and_congr_left fun _ => ?_
    cases hy : ys.lookup field.1 <;> simp [Fields.get?, hy]

theorem same_list_iff {xs : List Value} :
    same (.list xs) w = true ↔ ∃ ys, w = .list ys ∧ List.Forall₂ (fun x y => same x y = true) xs ys := by
  cases w <;> simp [same.eq_def, int?, sameItems_iff]

theorem same_object_iff {xs : Fields} :
    same (.object xs) w = true ↔ ∃ ys : Fields, w = .object ys ∧ xs.length = ys.length ∧
      ∀ field ∈ xs, ∃ y, ys.get? field.1 = some y ∧ same field.2 y = true := by
  cases w <;> simp [same.eq_def, int?, sameFields_iff]

theorem same_symm_number (h : v.isNumber) (hsame : v.same w = true) : w.same v = true := by
  obtain ⟨s, hv, hw⟩ := (same_number_iff h).mp hsame
  exact (same_number_iff (isNumber_of_size? hw)).mpr ⟨s, hw, hv⟩

theorem same_trans_number (h : u.isNumber) (huv : u.same v = true) (hvw : v.same w = true) :
    u.same w = true := by
  obtain ⟨s, hu, hv⟩ := (same_number_iff h).mp huv
  obtain ⟨t, hv', hw⟩ := (same_number_iff (isNumber_of_size? hv)).mp hvw
  obtain rfl : s = t := Option.some.inj (hv.symm.trans hv')
  exact (same_number_iff h).mpr ⟨s, hu, hw⟩

theorem names_perm {xs ys : Fields} (hxs : xs.names.Nodup) (hlength : xs.length = ys.length)
    (h : ∀ field ∈ xs, ∃ y, ys.get? field.1 = some y) : xs.names.Perm ys.names := by
  have hsubset : xs.names ⊆ ys.names := by
    intro key hkey
    obtain ⟨field, hfield, rfl⟩ := List.mem_map.mp hkey
    obtain ⟨y, hy⟩ := h field hfield
    exact List.mem_map.mpr ⟨_, Fields.mem_of_get? hy, rfl⟩
  apply (hxs.subperm hsubset).perm_of_length_le
  rw [Fields.names, Fields.names, List.length_map, List.length_map, hlength]

theorem same_symm (hv : v.Proper) (hw : w.Proper) (h : v.same w = true) : w.same v = true := by
  induction v using Value.induction generalizing w with
  | plain v hlist hobject =>
    cases v with
    | null => rw [same_null_iff.mp h, same_null_iff]
    | str s => rw [same_str_iff.mp h, same_str_iff]
    | moment m => rw [same_moment_iff.mp h, same_moment_iff]
    | bool b | int n | float x => exact same_symm_number rfl h
    | list items => exact absurd rfl hlist
    | object fields => exact absurd rfl hobject
  | list items ih =>
    obtain ⟨ys, rfl, hitems⟩ := same_list_iff.mp h
    refine same_list_iff.mpr ⟨items, rfl, ?_⟩
    rw [proper_list_iff] at hv hw
    clear h
    induction hitems with
    | nil => exact .nil
    | cons hxy _ hrest =>
      rw [List.forall_mem_cons] at hv hw ih
      exact .cons (ih.1 hv.1 hw.1 hxy) (hrest ih.2 hv.2 hw.2)
  | object fields ih =>
    obtain ⟨ys, rfl, hlength, hfields⟩ := same_object_iff.mp h
    refine same_object_iff.mpr ⟨fields, rfl, hlength.symm, ?_⟩
    intro field hfield
    have hnames := names_perm hv.names_nodup hlength fun f hf => (hfields f hf).imp fun _ => And.left
    obtain ⟨pair, hpair, hname⟩ := List.mem_map.mp (hnames.mem_iff.mpr (List.mem_map_of_mem hfield))
    obtain ⟨y, hy, hxy⟩ := hfields pair hpair
    have hfound : ys.get? pair.1 = some field.2 := by
      rw [hname]
      exact Fields.get?_of_mem hw.names_nodup hfield
    obtain rfl : field.2 = y := Option.some.inj (hfound.symm.trans hy)
    have hx : Fields.get? fields field.1 = some pair.2 := by
      rw [← hname]
      exact Fields.get?_of_mem hv.names_nodup hpair
    exact ⟨pair.2, hx, ih pair hpair (hv.of_get? hx) (hw.of_get? hy) hxy⟩

theorem same_trans (huv : u.same v = true) (hvw : v.same w = true) : u.same w = true := by
  induction u using Value.induction generalizing v w with
  | plain u hlist hobject =>
    cases u with
    | null => rwa [← same_null_iff.mp huv]
    | str s => rwa [← same_str_iff.mp huv]
    | moment m => rwa [← same_moment_iff.mp huv]
    | bool b | int n | float x => exact same_trans_number rfl huv hvw
    | list items => exact absurd rfl hlist
    | object fields => exact absurd rfl hobject
  | list items ih =>
    obtain ⟨ys, rfl, hys⟩ := same_list_iff.mp huv
    obtain ⟨zs, rfl, hzs⟩ := same_list_iff.mp hvw
    refine same_list_iff.mpr ⟨zs, rfl, ?_⟩
    clear huv hvw
    induction hys generalizing zs with
    | nil => exact hzs
    | cons hxy _ hrest =>
      rw [List.forall_mem_cons] at ih
      cases hzs with
      | cons hyz hzs => exact .cons (ih.1 hxy hyz) (hrest ih.2 _ hzs)
  | object fields ih =>
    obtain ⟨ys, rfl, hlength, hys⟩ := same_object_iff.mp huv
    obtain ⟨zs, rfl, hlength', hzs⟩ := same_object_iff.mp hvw
    refine same_object_iff.mpr ⟨zs, rfl, hlength.trans hlength', ?_⟩
    intro field hfield
    obtain ⟨y, hy, hxy⟩ := hys field hfield
    obtain ⟨z, hz, hyz⟩ := hzs (field.1, y) (Fields.mem_of_get? hy)
    exact ⟨z, hz, ih field hfield hxy hyz⟩

theorem same_congr (hv : v.Proper) (hw : w.Proper) (h : v.same w = true) :
    v.same u = true ↔ w.same u = true :=
  ⟨same_trans (same_symm hv hw h), same_trans h⟩

def Plain (v : Value) : Prop :=
  v.Proper ∧ (v == v) = true

end DependencyAtlas.Value
