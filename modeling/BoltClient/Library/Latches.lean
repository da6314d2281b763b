import BoltClient.Library.Runs

/-!
# Latches

A latch holds a value, which may be blank.  It is offered values from time to time,
and takes an offer only while it is blank.  Values can also be assigned to it from
outside, whatever it holds.

Main results:

- Theorem {lit}`run_offers`: offers alone leave the first value that is not blank.
- Theorem {lit}`taken_offers_blank`: all offers that are taken, but the last, are
  blank.

Current gaps:

- Offers do not depend on what the latch holds.
-/

namespace BoltClient.Library.Latches

open BoltClient.Library.Runs

variable {Value : Type*} [DecidableEq Value]

/-- Operations on a latch. -/
inductive LatchOp (Value : Type*) where
  | offer (v : Value)
  | assign (v : Value)

/-- The value held after an operation. -/
def latchStep (blank held : Value) : LatchOp Value → Value
  | .offer v => if held = blank then v else held
  | .assign v => v

/-- The offer, if the latch takes it. -/
def takenOffer (blank held : Value) : LatchOp Value → List Value
  | .offer v => if held = blank then [v] else []
  | .assign _ => []

/-- The first value that is not blank, or a blank. -/
def firstFilled (blank : Value) (values : List Value) : Value :=
  (values.find? fun v => v ≠ blank).getD blank

variable {blank held : Value}

@[simp] theorem latchStep_offer_of_filled (hheld : held ≠ blank) (v : Value) :
    latchStep blank held (.offer v) = held := by
  simp [latchStep, hheld]

@[simp] theorem latchStep_offer_blank (v : Value) :
    latchStep blank blank (.offer v) = v := by
  simp [latchStep]

theorem firstFilled_of_filled (hheld : held ≠ blank) (values : List Value) :
    firstFilled blank (held :: values) = held := by
  simp [firstFilled, hheld]

theorem firstFilled_blank (values : List Value) :
    firstFilled blank (blank :: values) = firstFilled blank values := by
  simp [firstFilled]

/-- Offers leave the first value that is not blank, starting with the one held. -/
theorem run_offers (offers : List Value) :
    run (latchStep blank) held (offers.map .offer) = firstFilled blank (held :: offers) := by
  induction offers generalizing held with
  | nil =>
      by_cases hheld : held = blank
      · subst hheld
        rw [firstFilled_blank]
        rfl
      · rw [firstFilled_of_filled hheld]
        rfl
  | cons v offers ih =>
      rw [List.map_cons, run_cons]
      by_cases hheld : held = blank
      · subst hheld
        rw [latchStep_offer_blank, ih, firstFilled_blank]
      · rw [latchStep_offer_of_filled hheld, ih, firstFilled_of_filled hheld,
          firstFilled_of_filled hheld]

/-- A latch that holds a value takes no offer. -/
theorem taken_offers_of_filled (hheld : held ≠ blank) (offers : List Value) :
    collect (latchStep blank) (takenOffer blank) held (offers.map .offer) = [] := by
  induction offers with
  | nil => rfl
  | cons v offers ih =>
      rw [List.map_cons, collect_cons, latchStep_offer_of_filled hheld, ih]
      simp [takenOffer, hheld]

/-- All offers that are taken, but the last, are blank. -/
theorem taken_offers_blank (offers : List Value) :
    ∀ v ∈ (collect (latchStep blank) (takenOffer blank) held (offers.map .offer)).dropLast,
      v = blank := by
  induction offers generalizing held with
  | nil => simp
  | cons v offers ih =>
      by_cases hheld : held = blank
      · subst hheld
        rw [List.map_cons, collect_cons, latchStep_offer_blank]
        by_cases hv : v = held
        · subst hv
          cases hrest : collect (latchStep v) (takenOffer v) v (offers.map .offer) with
          | nil => simp [takenOffer]
          | cons w ws =>
              intro u hu
              have hsplit : u = v ∨ u ∈ (w :: ws).dropLast := by simpa [takenOffer] using hu
              rcases hsplit with rfl | hlater
              · rfl
              · rw [← hrest] at hlater
                exact ih u hlater
        · rw [taken_offers_of_filled hv]
          simp [takenOffer]
      · rw [taken_offers_of_filled hheld]
        simp

end BoltClient.Library.Latches
