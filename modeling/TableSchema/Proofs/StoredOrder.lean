import TableSchema.Json.Reading
import TableSchema.Proofs.Number.Int64
import TableSchema.StoredField

/-!
# Stored orders

An order is an integer of 64 bits. A number that is held in another way is read by way of its double, which is
rounded for integers from `2⁶³` on. `integralOrder?_exact`: what is read is always the number itself, and every number
that is such an integer is read.
-/

namespace TableSchema

def OrderFits (n : Int) : Prop :=
  -9223372036854775808 ≤ n ∧ n < 9223372036854775808

instance (n : Int) : Decidable (OrderFits n) :=
  inferInstanceAs (Decidable (_ ∧ _))

theorem orderFits_iff (n : Int) : OrderFits n ↔ minInt64 ≤ n ∧ n ≤ maxInt64 := by
  unfold OrderFits minInt64 maxInt64
  simp only [Nat.pow_eq, Nat.reducePow]
  omega

namespace Json.Number

/-- The number as it is, before any rounding. -/
def value : Number → ℚ
  | .int n => n
  | .double x => x.value

/-- An integer with its sign in 64 bits, one without sign in 64 bits, or any double. -/
def Held : Number → Prop
  | .int n => -9223372036854775808 ≤ n ∧ n < 18446744073709551616
  | .double _ => True

theorem int64?_int_eq_some_iff (i n : Int) : (int i).int64? = some n ↔ i = n ∧ OrderFits n := by
  unfold int64?
  rw [Option.ite_none_right_eq_some, ← orderFits_iff, Option.some.injEq]
  apply Iff.intro
  · rintro ⟨hfits, rfl⟩
    exact ⟨rfl, hfits⟩
  · rintro ⟨rfl, hfits⟩
    exact ⟨hfits, rfl⟩

end Json.Number

theorem Numeral.held_of_toNumber? {n : Numeral} {m : Json.Number} (h : n.toNumber? = some m) : m.Held := by
  cases m with
  | double x => trivial
  | int i =>
    unfold toNumber? at h
    cases hi : n.int? with
    | none => simp [hi] at h
    | some j =>
      simp only [hi, Option.some.injEq, Json.Number.int.injEq] at h
      subst h
      unfold int? at hi
      simp only [Nat.pow_eq, Nat.reducePow] at hi
      unfold Json.Number.Held
      grind

/-! ## Reading -/

theorem Double.int64?_eq_some_iff_orderFits (x : Double) (n : Int) :
    x.int64? = some n ↔ x.value = n ∧ OrderFits n := by
  rw [int64?_eq_some_iff, orderFits_iff]

theorem integralOrder?_double_iff (x : Double) (n : Int) :
    integralOrder? (.ofDouble x) = some n ↔ x.value = n ∧ OrderFits n := by
  rw [← Double.int64?_eq_some_iff_orderFits]
  rfl

theorem integralOrder?_int_iff {i : Int} (h : (Json.Number.int i).Held) (n : Int) :
    integralOrder? (.ofInt i) = some n ↔ i = n ∧ OrderFits n := by
  have hsplit : integralOrder? (.ofInt i) = (Json.Number.int i).int64?.or (Double.ofInt i).int64? := rfl
  rw [hsplit, Option.or_eq_some_iff, Json.Number.int64?_int_eq_some_iff, or_iff_left_iff_imp]
  rintro ⟨hnone, hdouble⟩
  have hout : ¬ OrderFits i := fun hfits =>
    Option.not_mem_none i (hnone ▸ (Json.Number.int64?_int_eq_some_iff i i).mpr ⟨rfl, hfits⟩)
  obtain ⟨hvalue, hfits⟩ := (Double.int64?_eq_some_iff_orderFits _ n).mp hdouble
  exfalso
  unfold Json.Number.Held at h
  unfold OrderFits at hout
  obtain ⟨k, rfl⟩ := Int.eq_ofNat_of_zero_le (by omega : 0 ≤ i)
  have habove := Double.le_value_ofInt (n := k) (by simp only [Nat.pow_eq, Nat.reducePow]; omega)
    (by simp only [Nat.pow_eq, Nat.reducePow]; omega)
  rw [hvalue] at habove
  have hle : maxInt64 + 1 ≤ n := by exact_mod_cast habove
  have hge := ((orderFits_iff n).mp hfits).2
  omega

theorem integralOrder?_ofInt {n : Int} (h : OrderFits n) : integralOrder? (.ofInt n) = some n := by
  have hheld := (Json.Number.int64?_int_eq_some_iff n n).mpr ⟨rfl, h⟩
  simp only [integralOrder?, Json.ofInt, hheld, Option.some_or]

theorem orderFits_of_integralOrder? {v : Json} {n : Int} (h : integralOrder? v = some n) : OrderFits n := by
  cases v with
  | number m =>
    rcases Option.or_eq_some_iff.mp h with hheld | ⟨_, hdouble⟩
    · cases m with
      | int i => exact ((Json.Number.int64?_int_eq_some_iff i n).mp hheld).2
      | double x => cases hheld
    · exact ((Double.int64?_eq_some_iff_orderFits _ n).mp hdouble).2
  | _ => cases h

/-- A number is read as an order exactly if it is an integer of 64 bits, and then as that integer. This holds of every
number that a text can have. What is no number is no order. -/
theorem integralOrder?_exact :
    (∀ m : Json.Number, m.Held → ∀ n : Int, integralOrder? (.number m) = some n ↔
      m.value = n ∧ -9223372036854775808 ≤ n ∧ n < 9223372036854775808) ∧
    (∀ (d : Numeral) (m : Json.Number), d.toNumber? = some m → m.Held) ∧
    ∀ v : Json, v.isNumber = false → integralOrder? v = none := by
  refine ⟨?held, fun d m hm => Numeral.held_of_toNumber? hm, ?other⟩
  case held =>
    intro m hm n
    cases m with
    | int i =>
      exact (integralOrder?_int_iff hm n).trans (and_congr_left fun _ => Int.cast_inj.symm)
    | double x => exact integralOrder?_double_iff x n
  case other =>
    intro v hv
    cases v with
    | number m => cases hv
    | _ => rfl

theorem integralOrder?_exact_double : (Json.Number.double ⟨false, 9007199254740991, 10⟩).Held ∧
    integralOrder? (.ofDouble ⟨false, 9007199254740991, 10⟩) = some 9223372036854774784 := by
  have hvalue : (Json.Number.double ⟨false, 9007199254740991, 10⟩).value = (9223372036854774784 : Int) := by
    norm_num [Json.Number.value, Double.value]
  exact ⟨trivial, (integralOrder?_exact.1 (.double _) trivial _).mpr ⟨hvalue, by decide, by decide⟩⟩

example : integralOrder? (.ofInt 18446744073709551615) = none ∧
    integralOrder? (.ofDouble ⟨true, 0, -1074⟩) = some 0 := by
  decide +kernel

end TableSchema
