/-
**The order of values.**

The comparisons ask one order: numbers stand by their exact values, integers of any size among
floats and between the infinities, and texts by their characters. A NaN stands nowhere, and a
number and a text have no order, but they differ.

* `order?` — how two values stand to each other;
* `combine_ordered` — what a comparison gives, from how the values stand;
* `order?_swap`, `order?_eq_none_iff`, `order?_trans` — the order is one;
* `comparisons_agree` — so are the six comparisons.
-/

import LineBasic.Session.Evaluate

namespace LineBasic

/-! ### Exact values and texts -/

namespace Exact

theorem order_isLE (a b : Dyadic) : (order a b).isLE = true ↔ a ≤ b := by
  rw [← Dyadic.not_le]
  unfold order
  split
  · next below =>
    exact iff_of_true rfl fun above => Dyadic.not_le.mpr (Std.le_of_lt above) below
  · split
    · next above => exact iff_of_false Bool.false_ne_true (not_not_intro above)
    · next notAbove => exact iff_of_true rfl notAbove

/-- Exact values that stand one after the other stand in one row. -/
theorem compare?_trans {a b c : Exact} (first : (a.compare? b).any Ordering.isLE = true)
    (next : (b.compare? c).any Ordering.isLE = true) :
    (a.compare? c).any Ordering.isLE = true := by
  cases a <;> cases b <;> cases c
  case finite.finite.finite a b c =>
    simp only [compare?, Option.any_some, order_isLE] at first next ⊢
    exact Dyadic.le_trans first next
  all_goals simp_all [compare?]

theorem compare?_eq_none_iff (a b : Exact) :
    a.compare? b = none ↔ a = notANumber ∨ b = notANumber := by
  cases a <;> cases b <;> simp [compare?]

theorem ofFloat_eq_notANumber_iff (x : Float) : ofFloat x = notANumber ↔ x.isNaN = true := by
  have byUnpacking : x.isNaN = x.toModel.unpack.isNaN := rfl
  rw [byUnpacking]
  unfold ofFloat
  rcases x.toModel.unpack with sign | _ | sign | ⟨sign, mantissa, exponent, positive⟩
  · cases sign <;> exact iff_of_false (by rintro ⟨⟩) Bool.false_ne_true
  · exact iff_of_true rfl rfl
  · cases sign <;> exact iff_of_false (by rintro ⟨⟩) Bool.false_ne_true
  · cases sign <;> exact iff_of_false (by rintro ⟨⟩) Bool.false_ne_true

end Exact

namespace Value

/-- How two texts stand to each other. -/
def textOrder (s t : String) : Ordering :=
  if s < t then .lt else if t < s then .gt else .eq

theorem textOrder_swap (s t : String) : (textOrder s t).swap = textOrder t s := by
  unfold textOrder
  by_cases below : s < t
  · simp [below, String.lt_asymm below]
  · by_cases above : t < s <;> simp [below, above]

theorem textOrder_isEq (s t : String) : (textOrder s t).isEq = (s == t) := by
  unfold textOrder
  by_cases below : s < t
  · have other : s ≠ t := fun same => String.lt_irrefl t (same ▸ below)
    simp [below, other]
  · by_cases above : t < s
    · have other : s ≠ t := fun same => String.lt_irrefl t (same ▸ above)
      simp [below, above, other]
    · have same : s = t := String.le_antisymm (String.not_lt.mp above) (String.not_lt.mp below)
      simp [same]

theorem textOrder_isLT (s t : String) : (textOrder s t).isLT = decide (s < t) := by
  unfold textOrder
  by_cases below : s < t
  · simp [below]
  · by_cases above : t < s <;> simp [below, above]

theorem textOrder_isLE (s t : String) : (textOrder s t).isLE = !decide (t < s) := by
  rw [← textOrder_isLT, ← textOrder_swap t s]
  cases textOrder t s <;> rfl

/-! ### How values stand to each other -/

/-- Whether a value is a text. -/
def isText : Value → Bool
  | number _ => false
  | text _ => true

/-- A value is a NaN. -/
def IsNaN (value : Value) : Prop :=
  ∃ x : Float, value = real x ∧ x.isNaN = true

/-- **How two values stand to each other**, if they do. -/
def order? : Value → Value → Option Ordering
  | number a, number b => a.compare? b
  | text s, text t => some (textOrder s t)
  | _, _ => none

theorem order?_swap (a b : Value) : (order? a b).map Ordering.swap = order? b a := by
  cases a with
  | number m =>
    cases b with
    | number n => exact Exact.compare?_swap _ _
    | text t => rfl
  | text s =>
    cases b with
    | number n => rfl
    | text t => exact congrArg some (textOrder_swap s t)

theorem exact_eq_notANumber_iff (n : Number) : n.exact = .notANumber ↔ (number n).IsNaN := by
  cases n with
  | int n => exact iff_of_false nofun (by rintro ⟨x, ⟨⟩, _⟩)
  | real x =>
    refine (Exact.ofFloat_eq_notANumber_iff x).trans ⟨fun isNaN => ⟨x, rfl, isNaN⟩, ?_⟩
    rintro ⟨_, ⟨⟩, isNaN⟩
    exact isNaN

theorem not_isNaN_text (s : String) : ¬(text s).IsNaN := by
  rintro ⟨x, ⟨⟩, _⟩

/-- Two numbers or two texts have no order only if one of them is a NaN. -/
theorem order?_eq_none_iff {a b : Value} (alike : a.isText = b.isText) :
    order? a b = none ↔ a.IsNaN ∨ b.IsNaN := by
  cases a with
  | number m =>
    cases b with
    | number n =>
      rw [← exact_eq_notANumber_iff, ← exact_eq_notANumber_iff]
      exact Exact.compare?_eq_none_iff _ _
    | text t => cases alike
  | text s =>
    cases b with
    | number n => cases alike
    | text t => exact iff_of_false nofun (not_or_intro (not_isNaN_text s) (not_isNaN_text t))

/-- **Values that stand one after the other stand in one row.** -/
theorem order?_trans {a b c : Value} (first : (order? a b).any Ordering.isLE = true)
    (next : (order? b c).any Ordering.isLE = true) :
    (order? a c).any Ordering.isLE = true := by
  cases a <;> cases b
  all_goals try cases first
  all_goals cases c
  all_goals try cases next
  case number.number.number => exact Exact.compare?_trans first next
  case text.text.text s t u =>
    simp only [order?, Option.any_some, textOrder_isLE, Bool.not_eq_true', decide_eq_false_iff_not,
      String.not_lt] at first next ⊢
    exact String.le_trans first next

/-! ### What comparisons give -/

/-- The operators that ask how two values stand to each other. -/
def orderings : List String :=
  ["<", ">", "<=", ">="]

/-- The ways to stand to each other with which a comparison holds. -/
def accepts : String → Ordering → Bool
  | "=" => Ordering.isEq
  | "<" => Ordering.isLT
  | ">" => Ordering.isGT
  | "<=" => Ordering.isLE
  | ">=" => Ordering.isGE
  | _ => fun _ => false

theorem same_order (a b : Value) : same a b = (order? a b).any Ordering.isEq := by
  cases a <;> cases b
  case number.number m n =>
    change (m.compare? n == some .eq) = (m.compare? n).any Ordering.isEq
    rcases m.compare? n with _ | _ | _ | _ <;> rfl
  case text.text s t => exact (textOrder_isEq s t).symm
  all_goals rfl

theorem below_order (m n : Number) : m.below n = (m.compare? n).any Ordering.isLT := by
  unfold Number.below
  rcases m.compare? n with _ | _ | _ | _ <;> rfl

theorem atMost_order (m n : Number) : m.atMost n = (m.compare? n).any Ordering.isLE := by
  unfold Number.atMost Number.below Number.same
  rcases m.compare? n with _ | _ | _ | _ <;> rfl

/-- The order of two numbers the other way round. -/
theorem compare?_any_swap (m n : Number) (accept : Ordering → Bool) :
    (n.compare? m).any accept = (m.compare? n).any fun order => accept order.swap := by
  have back : (m.compare? n).map Ordering.swap = n.compare? m := Exact.compare?_swap _ _
  rw [← back]
  rcases m.compare? n with _ | order <;> rfl

theorem compared_order {numbers : Number → Number → Bool} {texts : String → String → Bool}
    {accept : Ordering → Bool} (onNumbers : ∀ m n, numbers m n = (m.compare? n).any accept)
    (onTexts : ∀ s t, texts s t = accept (textOrder s t)) {a b : Value}
    (alike : a.isText = b.isText) :
    compared numbers texts a b = .ok (ofBool ((order? a b).any accept)) := by
  cases a <;> cases b
  case number.number m n => exact congrArg (Except.ok ∘ ofBool) (onNumbers m n)
  case text.text s t => exact congrArg (Except.ok ∘ ofBool) (onTexts s t)
  all_goals cases alike

/-- **What a comparison gives** depends on how the values stand to each other. -/
theorem combine_ordered {operator : String} (member : operator ∈ "=" :: orderings) {a b : Value}
    (alike : a.isText = b.isText) :
    combine operator a b = .ok (ofBool ((order? a b).any (accepts operator))) := by
  simp only [orderings, List.mem_cons, List.not_mem_nil, or_false] at member
  rcases member with rfl | rfl | rfl | rfl | rfl
  · exact congrArg (Except.ok ∘ ofBool) (same_order a b)
  · exact compared_order below_order (fun s t => (textOrder_isLT s t).symm) alike
  · refine compared_order (fun m n => ?_) (fun s t => ?_) alike
    · rw [below_order, compare?_any_swap]
      rcases m.compare? n with _ | _ | _ | _ <;> rfl
    · rw [← textOrder_isLT, ← textOrder_swap s t]
      cases textOrder s t <;> rfl
  · exact compared_order atMost_order (fun s t => (textOrder_isLE s t).symm) alike
  · refine compared_order (fun m n => ?_) (fun s t => ?_) alike
    · rw [atMost_order, compare?_any_swap]
      rcases m.compare? n with _ | _ | _ | _ <;> rfl
    · rw [← textOrder_isLE, ← textOrder_swap s t]
      cases textOrder s t <;> rfl

/-- A number and a text have no order, but they differ. -/
theorem combine_unlike {a b : Value} (unlike : a.isText ≠ b.isText) :
    combine "=" a b = .ok (int 0) ∧
      ∀ operator ∈ orderings, combine operator a b = .error .typeMismatch := by
  simp only [orderings, List.forall_mem_cons]
  cases a <;> cases b
  case number.number => exact absurd rfl unlike
  case text.text => exact absurd rfl unlike
  all_goals exact ⟨rfl, rfl, rfl, rfl, rfl, nofun⟩

/-- A comparison gives one. -/
def Holds (operator : String) (a b : Value) : Prop :=
  combine operator a b = .ok (int 1)

/-- A comparison gives zero. -/
def Fails (operator : String) (a b : Value) : Prop :=
  combine operator a b = .ok (int 0)

section Comparisons

variable {operator : String} {a b c : Value}

theorem ofBool_eq_one_iff (holds : Bool) :
    (Except.ok (ofBool holds) : Except Cause Value) = .ok (int 1) ↔ holds = true := by
  cases holds
  · exact iff_of_false (by simp [ofBool]) Bool.false_ne_true
  · exact iff_of_true rfl rfl

theorem ofBool_eq_zero_iff (holds : Bool) :
    (Except.ok (ofBool holds) : Except Cause Value) = .ok (int 0) ↔ holds = false := by
  cases holds
  · exact iff_of_true rfl rfl
  · exact iff_of_false (by simp [ofBool]) Bool.true_eq_false.mp

theorem holds_iff (member : operator ∈ "=" :: orderings) (alike : a.isText = b.isText) :
    Holds operator a b ↔ (order? a b).any (accepts operator) = true := by
  unfold Holds
  rw [combine_ordered member alike]
  exact ofBool_eq_one_iff _

theorem fails_iff (member : operator ∈ "=" :: orderings) (alike : a.isText = b.isText) :
    Fails operator a b ↔ (order? a b).any (accepts operator) = false := by
  unfold Fails
  rw [combine_ordered member alike]
  exact ofBool_eq_zero_iff _

/-- A comparison holds only between two numbers or between two texts. -/
theorem Holds.alike (holds : Holds operator a b) (member : operator ∈ "=" :: orderings) :
    a.isText = b.isText := by
  by_cases alike : a.isText = b.isText
  · exact alike
  · obtain ⟨equal, refused⟩ := combine_unlike alike
    unfold Holds at holds
    rcases List.mem_cons.mp member with rfl | member
    · rw [equal] at holds
      cases holds
    · rw [refused operator member] at holds
      cases holds

/-- A comparison holds only between two numbers or between two texts that stand so. -/
theorem holds_iff_order (member : operator ∈ "=" :: orderings) :
    Holds operator a b ↔ a.isText = b.isText ∧ (order? a b).any (accepts operator) = true :=
  ⟨fun holds => ⟨holds.alike member, (holds_iff member (holds.alike member)).mp holds⟩,
    fun ⟨alike, accepted⟩ => (holds_iff member alike).mpr accepted⟩

theorem atMost_trans (first : Holds "<=" a b) (next : Holds "<=" b c) : Holds "<=" a c := by
  have member : "<=" ∈ "=" :: orderings := by decide
  rw [holds_iff_order member] at first next ⊢
  exact ⟨first.1.trans next.1, order?_trans first.2 next.2⟩

/-- Values are equal if each is at most the other. -/
theorem equal_iff_atMost : Holds "=" a b ↔ Holds "<=" a b ∧ Holds "<=" b a := by
  have member : "=" ∈ "=" :: orderings := by decide
  have member' : "<=" ∈ "=" :: orderings := by decide
  have back := order?_swap a b
  rw [holds_iff_order member, holds_iff_order member', holds_iff_order member', ← back]
  rcases order? a b with _ | _ | _ | _ <;> simp [accepts, eq_comm]

theorem equal_trans (first : Holds "=" a b) (next : Holds "=" b c) : Holds "=" a c := by
  rw [equal_iff_atMost] at first next ⊢
  exact ⟨atMost_trans first.1 next.1, atMost_trans next.2 first.2⟩

/-- Values differ if they are not equal. -/
theorem different_of_equal : ∃ n : Int, (n = 0 ∨ n = 1) ∧ combine "=" a b = .ok (int n) ∧
    combine "<>" a b = .ok (int (1 - n)) := by
  have equal : combine "=" a b = .ok (ofBool (same a b)) := rfl
  have different : combine "<>" a b = .ok (ofBool (!same a b)) := rfl
  rw [equal, different]
  cases same a b
  · exact ⟨0, .inl rfl, rfl, rfl⟩
  · exact ⟨1, .inr rfl, rfl, rfl⟩

/-- The comparisons of two numbers or of two texts. -/
structure Ordered (a b : Value) : Prop where
  decided : ∀ operator ∈ orderings, Holds operator a b ∨ Fails operator a b
  atMost : Holds "<=" a b ↔ Holds "<" a b ∨ Holds "=" a b
  above : combine ">" a b = combine "<" b a
  atLeast : combine ">=" a b = combine "<=" b a
  one : ¬a.IsNaN → ¬b.IsNaN →
    Holds "<" a b ∧ Fails "=" a b ∧ Fails ">" a b ∨
      Fails "<" a b ∧ Holds "=" a b ∧ Fails ">" a b ∨
        Fails "<" a b ∧ Fails "=" a b ∧ Holds ">" a b
  none : a.IsNaN ∨ b.IsNaN → ∀ operator ∈ "=" :: orderings, Fails operator a b

theorem ordered (alike : a.isText = b.isText) : Ordered a b := by
  have isLess : "<" ∈ "=" :: orderings := by decide
  have isAtMost : "<=" ∈ "=" :: orderings := by decide
  have isEqual : "=" ∈ "=" :: orderings := by decide
  have isAbove : ">" ∈ "=" :: orderings := by decide
  have isAtLeast : ">=" ∈ "=" :: orderings := by decide
  have back := order?_swap a b
  constructor
  · intro operator member
    have member := List.mem_cons_of_mem "=" member
    rw [holds_iff member alike, fails_iff member alike]
    exact Bool.eq_false_or_eq_true _
  · rw [holds_iff isAtMost alike, holds_iff isLess alike, holds_iff isEqual alike]
    rcases order? a b with _ | _ | _ | _ <;> simp [accepts]
  · rw [combine_ordered isAbove alike, combine_ordered isLess alike.symm, ← back]
    rcases order? a b with _ | _ | _ | _ <;> rfl
  · rw [combine_ordered isAtLeast alike, combine_ordered isAtMost alike.symm, ← back]
    rcases order? a b with _ | _ | _ | _ <;> rfl
  · intro notNaN notNaN'
    have stands := mt (order?_eq_none_iff alike).mp (not_or_intro notNaN notNaN')
    obtain ⟨order, isOrder⟩ := Option.ne_none_iff_exists'.mp stands
    rw [holds_iff isLess alike, holds_iff isEqual alike, holds_iff isAbove alike,
      fails_iff isLess alike, fails_iff isEqual alike, fails_iff isAbove alike, isOrder]
    cases order <;> simp [accepts]
  · intro isNaN operator member
    rw [fails_iff member alike, (order?_eq_none_iff alike).mpr isNaN]
    rfl

/-- Only a number and a text have no order. -/
theorem mismatch_iff (member : operator ∈ orderings) :
    combine operator a b = .error .typeMismatch ↔ a.isText ≠ b.isText := by
  constructor
  · intro refused alike
    rw [combine_ordered (List.mem_cons_of_mem _ member) alike] at refused
    cases refused
  · intro unlike
    exact (combine_unlike unlike).2 operator member

end Comparisons

/-- **The comparisons agree on one order.** Values are different if they are not equal. Only a
number and a text have no order, and they are not equal; two numbers or two texts, none of them a
NaN, stand to each other in one of three ways, and each comparison says so. Being equal and being
at most as large carry over from one value to the next. -/
theorem comparisons_agree (a b c : Value) :
    (∃ n : Int, (n = 0 ∨ n = 1) ∧ combine "=" a b = .ok (int n) ∧
      combine "<>" a b = .ok (int (1 - n))) ∧
    (∀ operator ∈ orderings,
      combine operator a b = .error .typeMismatch ↔ a.isText ≠ b.isText) ∧
    (a.isText ≠ b.isText → Fails "=" a b) ∧
    (a.isText = b.isText → Ordered a b) ∧
    (Holds "<=" a b → Holds "<=" b c → Holds "<=" a c) ∧
    (Holds "=" a b → Holds "=" b c → Holds "=" a c) :=
  ⟨different_of_equal, fun _ => mismatch_iff, fun unlike => (combine_unlike unlike).1, ordered,
    atMost_trans, equal_trans⟩

/-- An integer that is no float stands between a float and the infinity. -/
theorem comparisons_agree_between :
    Holds "<=" (real 1.5) (int 9007199254740993) ∧
      Holds "<=" (int 9007199254740993) (real (1.0 / 0.0)) ∧
      Holds "<=" (real 1.5) (real (1.0 / 0.0)) := by
  have below : Holds "<=" (real 1.5) (int 9007199254740993) :=
    (ofBool_eq_one_iff _).mpr (by decide +kernel)
  have above : Holds "<=" (int 9007199254740993) (real (1.0 / 0.0)) :=
    (ofBool_eq_one_iff _).mpr (by decide +kernel)
  obtain ⟨-, -, -, -, transitive, -⟩ :=
    comparisons_agree (real 1.5) (int 9007199254740993) (real (1.0 / 0.0))
  exact ⟨below, above, transitive below above⟩

end Value

end LineBasic
