import Mathlib.Data.Fintype.BigOperators
import Mathlib.Data.Nat.Count
import Mathlib.Tactic.Ring

/-!
# Picking elements with remainders

A random element of a list is often picked at the remainder of a random number by
the length.  This file counts, for random numbers below a bound, how often each
element comes up.  All elements come up equally often in full rounds; the numbers
left over favour the front of the list.

Main results:

- Theorem {lit}`count_pick`: how many numbers below a bound pick an element.
- Theorem {lit}`count_pick_bounds`: the counts differ by one round at most.
- Theorem {lit}`card_picks`: how many tuples of numbers pick a word, letter by
  letter.

Current gaps:

- Numbers are counted, not weighed: a source that is not uniform is not described.
-/

namespace BoltClient.Library.Draws

variable {Element : Type*}

/-- The number picks the element. -/
def Picks (list : List Element) (a : Element) (n : Nat) : Prop :=
  list[n % list.length]? = some a

instance [DecidableEq Element] (list : List Element) (a : Element) : DecidablePred (Picks list a) :=
  fun n => inferInstanceAs (Decidable (list[n % list.length]? = some a))

variable (list : List Element) (a : Element)

/-- A whole round later the same element is picked. -/
theorem picks_add_length (n : Nat) : Picks list a (list.length + n) ↔ Picks list a n := by
  unfold Picks
  rw [Nat.add_mod_left]

variable [DecidableEq Element]

/-- In a part of the first round elements come up as they stand in the list. -/
theorem count_pick_of_le {n : Nat} (hn : n ≤ list.length) :
    Nat.count (Picks list a) n = (list.take n).count a := by
  induction n with
  | zero => simp
  | succ n ih =>
      have hlt : n < list.length := hn
      have hpick : Picks list a n ↔ list[n] = a := by
        unfold Picks
        rw [Nat.mod_eq_of_lt hlt, List.getElem?_eq_getElem hlt, Option.some.injEq]
      rw [Nat.count_succ, ih hlt.le, List.take_succ_eq_append_getElem hlt, List.count_append,
        List.count_singleton]
      simp only [hpick, beq_iff_eq]

/-- Full rounds bring up every element as often as it stands in the list. -/
theorem count_pick_add (rounds n : Nat) :
    Nat.count (Picks list a) (list.length * rounds + n) =
      rounds * list.count a + Nat.count (Picks list a) n := by
  induction rounds with
  | zero => simp
  | succ rounds ih =>
      have hsplit : list.length * (rounds + 1) + n =
          list.length + (list.length * rounds + n) := by
        ring
      have hround : Nat.count (Picks list a) list.length = list.count a := by
        rw [count_pick_of_le list a le_rfl, List.take_length]
      rw [hsplit, Nat.count_add, hround]
      simp only [picks_add_length]
      rw [ih]
      ring

/-- How many numbers below {lit}`bound` pick an element: in every full round as many
as it stands in the list, and in the last, started round as many as it stands in
the beginning of the list. -/
theorem count_pick (hne : list ≠ []) (bound : Nat) :
    Nat.count (Picks list a) bound =
      bound / list.length * list.count a + (list.take (bound % list.length)).count a := by
  have hpos : 0 < list.length := List.length_pos_iff.mpr hne
  have hrest : bound % list.length ≤ list.length := (Nat.mod_lt _ hpos).le
  calc Nat.count (Picks list a) bound
      = Nat.count (Picks list a)
          (list.length * (bound / list.length) + bound % list.length) := by
        rw [Nat.div_add_mod]
    _ = bound / list.length * list.count a +
          Nat.count (Picks list a) (bound % list.length) := count_pick_add list a _ _
    _ = _ := by rw [count_pick_of_le list a hrest]

/-- Every element comes up once for each place it stands at in every full round, and
at most once more. -/
theorem count_pick_bounds (hne : list ≠ []) (bound : Nat) :
    bound / list.length * list.count a ≤ Nat.count (Picks list a) bound ∧
      Nat.count (Picks list a) bound ≤ (bound / list.length + 1) * list.count a := by
  rw [count_pick list a hne bound]
  have hrest : (list.take (bound % list.length)).count a ≤ list.count a :=
    (List.take_sublist _ _).count_le a
  constructor
  · exact Nat.le_add_right _ _
  · rw [Nat.add_one_mul]
    exact Nat.add_le_add_left hrest _

/-- How many tuples of numbers below {lit}`bound` pick the letters of a word: the
choices for its letters multiply. -/
theorem card_picks {length : Nat} (word : Fin length → Element) (bound : Nat) :
    ((Fintype.piFinset fun _ : Fin length => Finset.range bound).filter fun draws =>
        ∀ i, Picks list (word i) (draws i)).card =
      ∏ i, Nat.count (Picks list (word i)) bound := by
  have hpi : ((Fintype.piFinset fun _ : Fin length => Finset.range bound).filter fun draws =>
      ∀ i, Picks list (word i) (draws i)) =
      Fintype.piFinset fun i => (Finset.range bound).filter (Picks list (word i)) := by
    ext draws
    simp only [Finset.mem_filter, Fintype.mem_piFinset, forall_and]
  rw [hpi, Fintype.card_piFinset]
  refine Finset.prod_congr rfl fun i _ => ?_
  rw [Nat.count_eq_card_filter_range]

end BoltClient.Library.Draws
