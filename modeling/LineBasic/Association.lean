/-
**Association lists.**

Programs and variables are lists of pairs in which a key occurs once. These are the laws of
looking a key up in such a list, and of putting a value under a key: in the place of an older one,
or at the end.

* `lookup_cons` — the first pair decides, or the rest of the list does;
* `lookup_put`, `lookup_filter` — what is found after a value was put, or the pairs of a key left out;
* `lookup_eq_some_iff` — where the keys differ, a pair is found exactly if it is there;
* `lookup_perm` — where the keys differ, the order of the pairs does not matter.
-/

namespace LineBasic.Association

section Pairs

variable {K V : Type} [DecidableEq K]

/-- The pairs with the value of a key replaced in its place, or added at the end. -/
def put (key : K) (value : V) : List (K × V) → List (K × V)
  | [] => [(key, value)]
  | pair :: rest => if pair.1 = key then (key, value) :: rest else pair :: put key value rest

/-- The first pair decides, or the rest of the list does. -/
theorem lookup_cons (key : K) (pair : K × V) (rest : List (K × V)) :
    (pair :: rest).lookup key = if key = pair.1 then some pair.2 else rest.lookup key := by
  obtain ⟨first, value⟩ := pair
  rw [List.lookup_cons]
  by_cases same : key = first
  · simp [same]
  · have : (key == first) = false := by simpa using same
    simp [this, same]

/-- What is found after a value is put under a key. -/
theorem lookup_put (key other : K) (value : V) (pairs : List (K × V)) :
    (put key value pairs).lookup other = if other = key then some value else pairs.lookup other := by
  induction pairs with
  | nil => simp [put, lookup_cons]
  | cons pair rest hypothesis =>
    rw [put]
    split
    · next same =>
      rw [lookup_cons, lookup_cons, ← same]
      split <;> rfl
    · next different =>
      rw [lookup_cons, lookup_cons, hypothesis]
      by_cases same : other = pair.1
      · simp [same, different]
      · simp [same]

/-- What is found after the pairs of a key are left out. -/
theorem lookup_filter (key other : K) (pairs : List (K × V)) :
    (pairs.filter fun pair => pair.1 != key).lookup other =
      if other = key then none else pairs.lookup other := by
  induction pairs with
  | nil => simp
  | cons first later hypothesis =>
    rw [List.filter_cons, lookup_cons]
    split
    · next kept =>
      have : first.1 ≠ key := by simpa using kept
      rw [lookup_cons, hypothesis]
      by_cases same : other = first.1
      · simp [same, this]
      · simp [same]
    · next dropped =>
      have : first.1 = key := by simpa using dropped
      rw [hypothesis, this]
      split <;> rfl

/-! ### Pairs whose keys differ -/

/-- What is there after a value is put under a key is the new pair or an old one. -/
theorem mem_put {key : K} {value : V} {pairs : List (K × V)} {pair : K × V}
    (member : pair ∈ put key value pairs) : pair = (key, value) ∨ pair ∈ pairs := by
  induction pairs with
  | nil => simpa [put] using member
  | cons first rest hypothesis =>
    rw [put] at member
    split at member
    · exact (List.mem_cons.mp member).imp id (List.mem_cons_of_mem _)
    · rcases List.mem_cons.mp member with same | old
      · exact .inr (same ▸ List.mem_cons_self)
      · exact (hypothesis old).imp id (List.mem_cons_of_mem _)

/-- Putting a value under a key leaves the keys different. -/
theorem apart_put (key : K) (value : V) {pairs : List (K × V)}
    (apart : pairs.Pairwise fun pair other => pair.1 ≠ other.1) :
    (put key value pairs).Pairwise fun pair other => pair.1 ≠ other.1 := by
  induction pairs with
  | nil => exact List.pairwise_singleton _ _
  | cons first rest hypothesis =>
    obtain ⟨differs, others⟩ := List.pairwise_cons.mp apart
    rw [put]
    split
    · next same => exact List.pairwise_cons.mpr ⟨same ▸ differs, others⟩
    · next different =>
      refine List.pairwise_cons.mpr ⟨fun pair member => ?_, hypothesis others⟩
      rcases mem_put member with new | old
      · rw [new]
        exact different
      · exact differs pair old

/-- Where the keys differ, a value is found under a key exactly if the pair is there. -/
theorem lookup_eq_some_iff {pairs : List (K × V)}
    (apart : pairs.Pairwise fun pair other => pair.1 ≠ other.1) {key : K} {value : V} :
    pairs.lookup key = some value ↔ (key, value) ∈ pairs := by
  constructor
  · intro found
    obtain ⟨before, after, shape, _⟩ := List.lookup_eq_some_iff.mp found
    rw [shape]
    exact List.mem_append_right _ List.mem_cons_self
  · intro member
    obtain ⟨before, after, rfl⟩ := List.append_of_mem member
    have differs := (List.pairwise_append.mp apart).2.2
    exact List.lookup_eq_some_iff.mpr ⟨before, after, rfl, fun pair earlier => by
      simpa using (differs pair earlier (key, value) List.mem_cons_self).symm⟩

/-- **Where the keys differ, the order of the pairs does not matter** to what is found. -/
theorem lookup_perm {pairs others : List (K × V)} (same : pairs.Perm others)
    (apart : others.Pairwise fun pair other => pair.1 ≠ other.1) (key : K) :
    pairs.lookup key = others.lookup key := by
  have apart' := same.symm.pairwise apart Ne.symm
  refine Option.ext fun value => ?_
  rw [lookup_eq_some_iff apart', lookup_eq_some_iff apart, same.mem_iff]

end Pairs

end LineBasic.Association
