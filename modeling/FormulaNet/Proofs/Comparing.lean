/-
This file proves that the six comparisons of values fit together. All six read
one answer, how two payloads stand to each other, so most of it is a matter of
that answer alone. What takes an argument is that the answer turns around when
the payloads are exchanged: it does so for numbers, NaN included, and lists
inherit it position by position. Two lists stand to each other as the numbers at
the first position where they are not equal, in no order at all if those two are
in none, and as their lengths if there is no such position.
-/

import FormulaNet.Value.Basic

namespace FormulaNet

namespace Number

/-! ### Numbers -/

/-- A comparison whose answer turns around when its arguments are exchanged. -/
def Dual {α : Type} (cmp : α → α → Option Ordering) : Prop :=
  ∀ a b, cmp b a = (cmp a b).map Ordering.swap

theorem dual_compareUnpacked : Dual Float.Model.UnpackedFloat.compare := by
  intro a b
  cases a with
  | notANumber => cases b <;> rfl
  | infinity s =>
    cases b with
    | infinity t => cases s <;> cases t <;> rfl
    | _ => cases s <;> rfl
  | zero s =>
    cases b with
    | infinity t | finite t => cases t <;> rfl
    | _ => rfl
  | finite s m e _ =>
    cases b with
    | infinity t => cases s <;> cases t <;> rfl
    | zero t => cases s <;> rfl
    | notANumber => cases s <;> rfl
    | finite t n f _ =>
      -- Of two numbers with one sign the exponents decide, then the mantissas.
      cases s with
      | positive =>
        cases t with
        | positive =>
          refine congrArg some ?_
          rw [Ordering.swap_then, Int.compare_swap, Nat.compare_swap]
        | negative => rfl
      | negative =>
        cases t with
        | positive => rfl
        | negative =>
          refine congrArg some ?_
          rw [Ordering.swap_swap, Ordering.swap_then, Int.compare_swap, Nat.compare_swap]

/-- Numbers compare as their parts do. -/
theorem compare?_eq (a b : Float) :
    compare? a b = a.toModel.unpack.compare b.toModel.unpack := by
  have less (a b : Float) : a < b ↔ a.toModel.unpack.compare b.toModel.unpack = some .lt :=
    decide_eq_true_iff.trans beq_iff_eq
  have equal : (a == b) = (a.toModel.unpack.compare b.toModel.unpack == some .eq) := rfl
  rw [compare?]
  simp only [less, equal, dual_compareUnpacked a.toModel.unpack b.toModel.unpack]
  cases a.toModel.unpack.compare b.toModel.unpack with
  | none => rfl
  | some order => cases order <;> rfl

/-- Numbers exchanged stand the other way round, and NaN in no order either way. -/
theorem dual_compare? : Dual compare? := by
  intro a b
  rw [compare?_eq, compare?_eq]
  exact dual_compareUnpacked _ _

/-! ### Lists -/

/-- Two lists are equal at every position that both have, below a given one. -/
def EqualBelow {α : Type} (cmp : α → α → Option Ordering) (xs ys : List α) (n : Nat) : Prop :=
  ∀ j < n, ∀ x y, xs[j]? = some x → ys[j]? = some y → cmp x y = some .eq

/-- The first position at which two lists are not equal. -/
structure FirstDifference {α : Type} (cmp : α → α → Option Ordering) (xs ys : List α) (i : Nat)
    (x y : α) : Prop where
  left : xs[i]? = some x
  right : ys[i]? = some y
  before : EqualBelow cmp xs ys i
  differs : cmp x y ≠ some .eq

variable {α : Type} {cmp : α → α → Option Ordering}

theorem EqualBelow.tail {x y : α} {xs ys : List α} {n : Nat}
    (equal : EqualBelow cmp (x :: xs) (y :: ys) (n + 1)) :
    cmp x y = some .eq ∧ EqualBelow cmp xs ys n :=
  ⟨equal 0 n.succ_pos x y rfl rfl, fun j below => equal (j + 1) (Nat.succ_lt_succ below)⟩

theorem compareLists?_cons_of_eq {x y : α} (equal : cmp x y = some .eq) (xs ys : List α) :
    compareLists? cmp (x :: xs) (y :: ys) = compareLists? cmp xs ys := by
  rw [compareLists?, equal]

theorem compareLists?_cons_of_ne {x y : α} (differs : cmp x y ≠ some .eq) (xs ys : List α) :
    compareLists? cmp (x :: xs) (y :: ys) = cmp x y := by
  rw [compareLists?]
  split
  · rename_i equal
    exact absurd equal differs
  · rfl

/-- Lists exchanged stand the other way round if their elements do. -/
theorem dual_compareLists? (dual : Dual cmp) : Dual (compareLists? cmp) := by
  intro xs ys
  induction xs generalizing ys with
  | nil => cases ys <;> rfl
  | cons x xs inductionHypothesis =>
    cases ys with
    | nil => rfl
    | cons y ys =>
      have turned := dual x y
      by_cases equal : cmp x y = some .eq
      · rw [equal] at turned
        rw [compareLists?_cons_of_eq equal, compareLists?_cons_of_eq turned, inductionHypothesis]
      · have differs : cmp y x ≠ some .eq := by
          intro same
          have back := dual y x
          rw [same] at back
          exact equal back
        rw [compareLists?_cons_of_ne equal, compareLists?_cons_of_ne differs, turned]

/-- The first position at which two lists are not equal decides. -/
theorem compareLists?_of_firstDifference {xs ys : List α} {i : Nat} {x y : α}
    (first : FirstDifference cmp xs ys i x y) : compareLists? cmp xs ys = cmp x y := by
  obtain ⟨left, right, before, differs⟩ := first
  induction i generalizing xs ys with
  | zero =>
    obtain ⟨xs, rfl⟩ := List.head?_eq_some_iff.mp (List.head?_eq_getElem? ▸ left)
    obtain ⟨ys, rfl⟩ := List.head?_eq_some_iff.mp (List.head?_eq_getElem? ▸ right)
    exact compareLists?_cons_of_ne differs xs ys
  | succ i inductionHypothesis =>
    match xs, ys with
    | u :: xs, v :: ys =>
      obtain ⟨equal, rest⟩ := before.tail
      rw [compareLists?_cons_of_eq equal]
      exact inductionHypothesis left right rest

/-- Where two lists are equal at all positions that both have, the longer one continues the other,
and the lengths decide. -/
theorem compareLists?_of_equal {xs ys : List α} (equal : ∀ n, EqualBelow cmp xs ys n) :
    (compareLists? cmp xs ys = some .lt ↔ xs.length < ys.length) ∧
      (compareLists? cmp xs ys = some .eq ↔ xs.length = ys.length) ∧
      (compareLists? cmp xs ys = some .gt ↔ ys.length < xs.length) := by
  induction xs generalizing ys with
  | nil => cases ys <;> simp [compareLists?]
  | cons x xs inductionHypothesis =>
    cases ys with
    | nil => simp [compareLists?]
    | cons y ys =>
      have lengths := inductionHypothesis fun n => (equal (n + 1)).tail.2
      rw [compareLists?_cons_of_eq (equal 1).tail.1]
      simpa using lengths

end Number

/-! ### Comparisons -/

namespace Comparison

variable (order : Option Ordering)

theorem holds_ne : ne.holds order = !eq.holds order := rfl

/-- A comparison of things exchanged is the opposite comparison. -/
theorem holds_lt_swap : lt.holds (order.map Ordering.swap) = gt.holds order := by
  rcases order with _ | _ | _ | _ <;> rfl

theorem holds_eq_swap : eq.holds (order.map Ordering.swap) = eq.holds order := by
  rcases order with _ | _ | _ | _ <;> rfl

theorem holds_exclusive :
    ¬ (lt.holds order = true ∧ eq.holds order = true) ∧
      ¬ (lt.holds order = true ∧ gt.holds order = true) ∧
      ¬ (eq.holds order = true ∧ gt.holds order = true) := by
  rcases order with _ | _ | _ | _ <;> decide

/-- Of things that stand in no order, all that holds is that they are not equal. -/
theorem holds_none (op : Comparison) : op.holds none = decide (op = .ne) := by
  cases op <;> rfl

end Comparison

namespace Primitive

/-- Verdicts of the six comparisons on payloads that fit together and go by a given comparison of
numbers. -/
structure Consistent (cmp : Float → Float → Option Ordering)
    (verdict : Comparison → Primitive → Primitive → Bool) : Prop where
  ne : ∀ a b, verdict .ne a b = !verdict .eq a b
  eq : ∀ a b, verdict .eq a b = verdict .eq b a
  lt : ∀ a b, verdict .lt a b = verdict .gt b a
  le : ∀ a b, verdict .le a b = (verdict .lt a b || verdict .eq a b)
  ge : ∀ a b, verdict .ge a b = (verdict .gt a b || verdict .eq a b)
  exclusive : ∀ a b, ¬ (verdict .lt a b = true ∧ verdict .eq a b = true) ∧
    ¬ (verdict .lt a b = true ∧ verdict .gt a b = true) ∧
    ¬ (verdict .eq a b = true ∧ verdict .gt a b = true)
  numbers : ∀ op x y, verdict op (.number x) (.number y) = op.holds (cmp x y)
  /-- Truth values count as one and zero. -/
  truths : ∀ op p a, verdict op (.bool p) a = verdict op (.number (if p then 1 else 0)) a ∧
    verdict op a (.bool p) = verdict op a (.number (if p then 1 else 0))
  /-- The first position at which lists are not equal decides. -/
  differing : ∀ op xs ys i x y, Number.FirstDifference cmp xs ys i x y →
    verdict op (.list xs) (.list ys) = verdict op (.number x) (.number y)
  unordered : ∀ xs ys i x y, Number.FirstDifference cmp xs ys i x y → cmp x y = none →
    verdict .lt (.list xs) (.list ys) = false ∧ verdict .eq (.list xs) (.list ys) = false ∧
      verdict .gt (.list xs) (.list ys) = false
  /-- Without such a position the lengths decide. -/
  continuing : ∀ xs ys, (∀ n, Number.EqualBelow cmp xs ys n) →
    (verdict .lt (.list xs) (.list ys) = true ↔ xs.length < ys.length) ∧
      (verdict .eq (.list xs) (.list ys) = true ↔ xs.length = ys.length) ∧
      (verdict .gt (.list xs) (.list ys) = true ↔ ys.length < xs.length)
  /-- A list and a scalar are not equal and stand in no order. -/
  mixed : ∀ op a xs, a.scalar?.isSome = true →
    verdict op a (.list xs) = decide (op = .ne) ∧ verdict op (.list xs) a = decide (op = .ne)

variable {cmp : Float → Float → Option Ordering}

/-- Payloads exchanged stand the other way round if numbers do. -/
theorem dual_compareBy? (dual : Number.Dual cmp) : Number.Dual (compareBy? cmp) := by
  intro a b
  rw [compareBy?, compareBy?]
  cases a.scalar? with
  | none =>
    cases b.scalar? with
    | none => exact Number.dual_compareLists? dual _ _
    | some y => rfl
  | some x =>
    cases b.scalar? with
    | none => rfl
    | some y => exact dual x y

theorem consistent_of_dual (dual : Number.Dual cmp) :
    Consistent cmp fun op a b => op.holds (compareBy? cmp a b) where
  ne a b := Comparison.holds_ne _
  eq a b := by rw [dual_compareBy? dual a b, Comparison.holds_eq_swap]
  lt a b := by rw [dual_compareBy? dual b a, Comparison.holds_lt_swap]
  le a b := rfl
  ge a b := rfl
  exclusive a b := Comparison.holds_exclusive _
  numbers op x y := rfl
  truths op p a := ⟨rfl, rfl⟩
  differing op xs ys i x y first :=
    congrArg op.holds (Number.compareLists?_of_firstDifference first)
  unordered xs ys i x y first none := by
    have order : compareBy? cmp (.list xs) (.list ys) = .none :=
      (Number.compareLists?_of_firstDifference first).trans none
    rw [order]
    exact ⟨rfl, rfl, rfl⟩
  continuing xs ys equal := by
    obtain ⟨less, same, greater⟩ := Number.compareLists?_of_equal equal
    exact ⟨beq_iff_eq.trans less, beq_iff_eq.trans same, beq_iff_eq.trans greater⟩
  mixed op a xs scalar := by
    obtain ⟨x, known⟩ := Option.isSome_iff_exists.mp scalar
    have left : compareBy? cmp a (.list xs) = none := by
      rw [compareBy?, known]
      rfl
    have right : compareBy? cmp (.list xs) a = none := by
      rw [compareBy?, known]
      rfl
    rw [left, right]
    exact ⟨op.holds_none, op.holds_none⟩

end Primitive

namespace Value

/-- The six comparisons of values always come to a truth value, and their verdicts on payloads fit
together. All that this takes of the comparison of numbers is that its answer turns around when its
arguments are exchanged, as it does with NaN among the numbers. -/
theorem comparisons_consistent :
    (∀ cmp, Number.Dual cmp → Primitive.Consistent cmp fun op a b =>
        op.holds (Primitive.compareBy? cmp a b)) ∧
      Number.Dual Number.compare? ∧
      ∀ op v w, ∃ expression, combine (.comparison op) v w =
        .ok ⟨.bool (op.holds (Primitive.compareBy? Number.compare? v.payload w.payload)),
          expression, false⟩ :=
  ⟨fun _ => Primitive.consistent_of_dual, Number.dual_compare?, fun _ _ _ => ⟨_, rfl⟩⟩

/-- Of two lists with NaN against a number at the first position where they are not equal, neither
is less, and they are not equal, although one is longer. -/
theorem comparisons_consistent_nan :
    let left := ofPrimitive (.list [1, 0 / 0])
    let right := ofPrimitive (.list [1, 2, 5])
    (combine (.comparison .lt) left right).map payload = .ok (.bool false) ∧
      (combine (.comparison .eq) left right).map payload = .ok (.bool false) ∧
      (combine (.comparison .gt) left right).map payload = .ok (.bool false) ∧
      (combine (.comparison .ne) left right).map payload = .ok (.bool true) := by
  obtain ⟨consistent, dual, combines⟩ := comparisons_consistent
  have verdicts := consistent Number.compare? dual
  have unordered : Number.compare? (0 / 0) 2 = none := by decide +kernel
  have first : Number.FirstDifference Number.compare? [1, 0 / 0] [1, 2, 5] 1 (0 / 0) 2 := by
    refine ⟨rfl, rfl, ?_, by simp [unordered]⟩
    intro j below x y left right
    obtain rfl : j = 0 := by omega
    cases left
    cases right
    decide +kernel
  obtain ⟨notLess, notEqual, notGreater⟩ := verdicts.unordered _ _ _ _ _ first unordered
  have different := verdicts.ne (.list [1, 0 / 0]) (.list [1, 2, 5])
  rw [notEqual] at different
  have comes {op : Comparison} {b : Bool} {v w : Value}
      (verdict : op.holds (Primitive.compareBy? Number.compare? v.payload w.payload) = b) :
      (combine (.comparison op) v w).map payload = .ok (.bool b) := by
    obtain ⟨_, outcome⟩ := combines op v w
    rw [outcome, verdict]
    rfl
  exact ⟨comes notLess, comes notEqual, comes notGreater, comes different⟩

end Value

end FormulaNet
