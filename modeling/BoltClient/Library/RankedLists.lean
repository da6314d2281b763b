import Mathlib.Data.List.Basic

/-!
# Ranked lists of candidates

Candidates are kept in lists under keys, the keys are ranked by an order of
preference, and a choice takes a candidate of the best-ranked list that has
any.  A key can be useless in two ways: it is not bound, or its list is empty.

Main results:

- Theorem {lit}`firstUsable_eq_some_iff`: the choice is the first key of the
  order with a non-empty list.
- Theorem {lit}`firstUsable_eq_none_iff`: there is no choice exactly when every
  key of the order is useless.
- Theorems {lit}`firstUsable_congr` and {lit}`firstUsable_congr_of_choice`: the
  choice depends only on the ranked keys, and of these only on the chosen one
  and the ones above it.

Current gaps:

- None for total orders of preference given as lists.
-/

namespace BoltClient.Library.RankedLists

variable {Key Candidate : Type*}

/-- A key offers nothing: it is unbound or bound to the empty list. -/
def Useless (find : Key → Option (List Candidate)) (key : Key) : Prop :=
  find key = none ∨ find key = some []

/-- The non-empty list bound to a key, if there is one. -/
def usable (find : Key → Option (List Candidate)) (key : Key) : Option (Key × List Candidate) :=
  match find key with
  | some (v :: vs) => some (key, v :: vs)
  | _ => none

/-- The best-ranked key with a non-empty list, together with that list. -/
def firstUsable (find : Key → Option (List Candidate)) (order : List Key) :
    Option (Key × List Candidate) :=
  order.findSome? (usable find)

variable {find find' : Key → Option (List Candidate)} {order : List Key} {key : Key}
  {candidates : List Candidate}

theorem usable_eq_none_iff : usable find key = none ↔ Useless find key := by
  unfold usable Useless
  split
  next v vs hfind => simp [hfind]
  next hother =>
    cases hfind : find key with
    | none => simp
    | some l =>
        cases l with
        | nil => simp
        | cons v vs => exact absurd hfind (hother v vs)

theorem usable_eq_some_iff {chosen : Key} :
    usable find key = some (chosen, candidates) ↔
      chosen = key ∧ find key = some candidates ∧ candidates ≠ [] := by
  unfold usable
  split
  next v vs hfind =>
    simp only [Option.some.injEq, Prod.mk.injEq, hfind]
    constructor
    · rintro ⟨rfl, rfl⟩
      simp
    · rintro ⟨rfl, rfl, -⟩
      simp
  next hother =>
    simp only [reduceCtorEq, false_iff, not_and, not_not]
    intro _ hfind
    cases candidates with
    | nil => rfl
    | cons v vs => exact absurd hfind (hother v vs)

/-- A useless key does not take part in the choice. -/
theorem firstUsable_cons_of_useless {keys : List Key} (h : Useless find key) :
    firstUsable find (key :: keys) = firstUsable find keys := by
  simp [firstUsable, usable_eq_none_iff.mpr h]

/-- A key in front with a non-empty list is chosen. -/
theorem firstUsable_cons_of_usable {keys : List Key} (hfind : find key = some candidates)
    (hne : candidates ≠ []) :
    firstUsable find (key :: keys) = some (key, candidates) := by
  simp [firstUsable, usable_eq_some_iff.mpr ⟨rfl, hfind, hne⟩]

/-- The choice is the first key of the order with a non-empty list. -/
theorem firstUsable_eq_some_iff :
    firstUsable find order = some (key, candidates) ↔
      ∃ above below, order = above ++ key :: below ∧ find key = some candidates ∧
        candidates ≠ [] ∧ ∀ k ∈ above, Useless find k := by
  unfold firstUsable
  rw [List.findSome?_eq_some_iff]
  constructor
  · rintro ⟨above, k, below, horder, hk, habove⟩
    rcases usable_eq_some_iff.mp hk with ⟨rfl, hfind, hne⟩
    have huseless : ∀ j ∈ above, Useless find j := by
      intro j hj
      exact usable_eq_none_iff.mp (habove j hj)
    exact ⟨above, below, horder, hfind, hne, huseless⟩
  · rintro ⟨above, below, horder, hfind, hne, huseless⟩
    have hkey : usable find key = some (key, candidates) :=
      usable_eq_some_iff.mpr ⟨rfl, hfind, hne⟩
    have habove : ∀ j ∈ above, usable find j = none := by
      intro j hj
      exact usable_eq_none_iff.mpr (huseless j hj)
    exact ⟨above, key, below, horder, hkey, habove⟩

/-- There is no choice exactly when no key of the order offers anything. -/
theorem firstUsable_eq_none_iff :
    firstUsable find order = none ↔ ∀ k ∈ order, Useless find k := by
  unfold firstUsable
  simp only [List.findSome?_eq_none_iff, usable_eq_none_iff]

/-- Lookups that agree on the ranked keys give the same choice. -/
theorem firstUsable_congr (hagree : ∀ k ∈ order, find' k = find k) :
    firstUsable find' order = firstUsable find order := by
  induction order with
  | nil => rfl
  | cons k keys ih =>
      have hkey : usable find' k = usable find k := by
        simp [usable, hagree k (by simp)]
      have hkeys := ih fun j hj => hagree j (by simp [hj])
      unfold firstUsable at hkeys ⊢
      rw [List.findSome?_cons, List.findSome?_cons, hkey, hkeys]

/-- Lookups that agree down to the chosen key give the same choice. -/
theorem firstUsable_congr_of_choice {above below : List Key}
    (horder : order = above ++ key :: below) (hchoice : find key = some candidates)
    (hne : candidates ≠ []) (habove : ∀ k ∈ above, Useless find k)
    (hagree : ∀ k ∈ above ++ [key], find' k = find k) :
    firstUsable find' order = some (key, candidates) := by
  rw [firstUsable_eq_some_iff]
  refine ⟨above, below, horder, ?_, hne, ?_⟩
  · rw [hagree key (by simp), hchoice]
  · intro k hk
    unfold Useless
    rw [hagree k (by simp [hk])]
    exact habove k hk

end BoltClient.Library.RankedLists
