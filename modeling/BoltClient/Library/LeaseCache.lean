import Mathlib.Algebra.Order.Group.Defs
import Mathlib.Algebra.Order.Group.Unbundled.Basic
import BoltClient.Library.Runs

/-!
# Caches with a lease

A lease cache keeps one value and the time until which it may be used.  Every
use looks at the clock; when the lease has run out, or the value is blank, the
source is asked first.  A successful answer replaces the value and starts a
new lease, a failed one leaves the cache alone.

Time is any ordered group, values and errors are arbitrary, and what counts as
a blank value is a parameter.

Main results:

- Theorem {lit}`FilledBy.use`: the relation between the cache and its latest
  fill survives every use whose lease length is in range.
- Theorem {lit}`FilledBy.fill_recent`: a use that does not fail works on a
  value filled at most the longest lease ago.
- Theorems {lit}`FilledBy.not_due` and {lit}`FilledBy.run_use`: within the
  shortest lease after a non-blank fill the source is not asked.

Current gaps:

- The cache has a single entry; eviction is not modelled.
-/

namespace BoltClient.Library.LeaseCache

open BoltClient.Library.Runs

variable {Time Value Err : Type*}

/-! ## The cache and its uses -/

/-- A cached value and the last time at which it may be used unasked. -/
structure Lease (Time Value : Type*) where
  value : Value
  expiry : Time

/-- What one use of the cache meets: the clock reading of the freshness check,
the answer the source would give, the clock reading once it has answered and
the length of the lease it would start. -/
structure Use (Time Value Err : Type*) where
  checkedAt : Time
  answer : Except Err Value
  completedAt : Time
  ttl : Time

/-- A value the source delivered, with the time at which it had answered. -/
structure Fill (Time Value : Type*) where
  value : Value
  completedAt : Time

variable [LinearOrder Time]

/-- The source has to be asked: the lease has run out or the value is blank. -/
def Lease.Due (blank : Value → Prop) (c : Lease Time Value) (u : Use Time Value Err) : Prop :=
  c.expiry < u.checkedAt ∨ blank c.value

instance (blank : Value → Prop) [DecidablePred blank] (c : Lease Time Value)
    (u : Use Time Value Err) : Decidable (c.Due blank u) :=
  inferInstanceAs (Decidable (_ ∨ _))

/-- The fill a use makes, when it asks the source and gets an answer. -/
def Lease.fill? (blank : Value → Prop) [DecidablePred blank] (c : Lease Time Value)
    (u : Use Time Value Err) : Option (Fill Time Value) :=
  if c.Due blank u then u.answer.toOption.map fun v => ⟨v, u.completedAt⟩ else none

section Fill

variable {blank : Value → Prop} {c : Lease Time Value} {u : Use Time Value Err}

/-- A non-blank value is not due before its lease has run out. -/
theorem Lease.not_due_of_le (hblank : ¬blank c.value) (hle : u.checkedAt ≤ c.expiry) :
    ¬c.Due blank u := by
  rintro (hexpired | hb)
  · exact absurd hle (not_le_of_gt hexpired)
  · exact hblank hb

variable [DecidablePred blank]

theorem Lease.fill?_of_not_due (h : ¬c.Due blank u) : c.fill? blank u = none := by
  simp [Lease.fill?, h]

theorem Lease.fill?_of_error {e : Err} (h : u.answer = .error e) :
    c.fill? blank u = none := by
  simp [Lease.fill?, h, Except.toOption]

theorem Lease.fill?_of_ok (hdue : c.Due blank u) {v : Value} (h : u.answer = .ok v) :
    c.fill? blank u = some ⟨v, u.completedAt⟩ := by
  simp [Lease.fill?, hdue, h, Except.toOption]

end Fill

section Use

variable [Add Time]

/-- The cache after one use. -/
def Lease.use (blank : Value → Prop) [DecidablePred blank] (c : Lease Time Value)
    (u : Use Time Value Err) : Lease Time Value :=
  if c.Due blank u then
    match u.answer with
    | .error _ => c
    | .ok v => ⟨v, u.completedAt + u.ttl⟩
  else c

variable {blank : Value → Prop} [DecidablePred blank] {c : Lease Time Value}
  {u : Use Time Value Err}

theorem Lease.use_of_not_due (h : ¬c.Due blank u) : c.use blank u = c := by
  simp [Lease.use, h]

/-- A failed answer leaves the cache as it was. -/
theorem Lease.use_of_error {e : Err} (h : u.answer = .error e) : c.use blank u = c := by
  simp [Lease.use, h]

theorem Lease.use_of_ok (hdue : c.Due blank u) {v : Value} (h : u.answer = .ok v) :
    c.use blank u = ⟨v, u.completedAt + u.ttl⟩ := by
  simp [Lease.use, hdue, h]

/-- Uses that all read the clock within the lease of a non-blank value leave
the cache as it was. -/
theorem run_use_of_not_due (hblank : ¬blank c.value) {uses : List (Use Time Value Err)}
    (hle : ∀ u ∈ uses, u.checkedAt ≤ c.expiry) :
    run (Lease.use blank) c uses = c := by
  refine run_invariant (fun c' => c' = c)
    (fun u : Use Time Value Err => u.checkedAt ≤ c.expiry) ?_ rfl hle
  rintro c' u hu rfl
  have hfresh : ¬c'.Due blank u := Lease.not_due_of_le hblank hu
  exact Lease.use_of_not_due hfresh

end Use

/-! ## The cache and its latest fill -/

variable [AddCommGroup Time]

/-- How the cache relates to the latest fill when every lease is at least
{lit}`lo` and at most {lit}`hi` long: without a fill the value is blank, and
otherwise it is the value filled, leased for a length in that range. -/
structure FilledBy (blank : Value → Prop) (lo hi : Time)
    (last : Option (Fill Time Value)) (c : Lease Time Value) : Prop where
  blank_of_none : last = none → blank c.value
  value_eq : ∀ f, last = some f → c.value = f.value
  expiry_ge : ∀ f, last = some f → f.completedAt + lo ≤ c.expiry
  expiry_le : ∀ f, last = some f → c.expiry ≤ f.completedAt + hi

variable {blank : Value → Prop} {lo hi : Time} {last : Option (Fill Time Value)}
  {c : Lease Time Value} {u : Use Time Value Err}

theorem FilledBy.of_blank (h : blank c.value) :
    FilledBy blank lo hi (none : Option (Fill Time Value)) c where
  blank_of_none := fun _ => h
  value_eq := by simp
  expiry_ge := by simp
  expiry_le := by simp

section Fresh

variable {f : Fill Time Value}

/-- A fill with a non-blank value leaves a non-blank value. -/
theorem FilledBy.not_blank (h : FilledBy blank lo hi (some f) c) (hvalue : ¬blank f.value) :
    ¬blank c.value := by
  rw [h.value_eq f rfl]
  exact hvalue

/-- Within the shortest lease after a non-blank fill the cache is not due. -/
theorem FilledBy.not_due (h : FilledBy blank lo hi (some f) c) (hvalue : ¬blank f.value)
    (hle : u.checkedAt ≤ f.completedAt + lo) : ¬c.Due blank u := by
  have hexpiry : f.completedAt + lo ≤ c.expiry := h.expiry_ge f rfl
  exact Lease.not_due_of_le (h.not_blank hvalue) (hle.trans hexpiry)

/-- Within the shortest lease after a non-blank fill any number of uses leave
the cache as it was. -/
theorem FilledBy.run_use [DecidablePred blank] (h : FilledBy blank lo hi (some f) c)
    (hvalue : ¬blank f.value) {uses : List (Use Time Value Err)}
    (hle : ∀ u ∈ uses, u.checkedAt ≤ f.completedAt + lo) :
    run (Lease.use blank) c uses = c := by
  have hexpiry : f.completedAt + lo ≤ c.expiry := h.expiry_ge f rfl
  refine run_use_of_not_due (h.not_blank hvalue) ?_
  intro u hu
  exact (hle u hu).trans hexpiry

end Fresh

variable [IsOrderedAddMonoid Time] [DecidablePred blank]

/-- One use keeps the relation, with its own fill as the latest one if it makes
one. -/
theorem FilledBy.use (h : FilledBy blank lo hi last c) (hlo : lo ≤ u.ttl)
    (hhi : u.ttl ≤ hi) :
    FilledBy blank lo hi ((c.fill? blank u).or last) (c.use blank u) := by
  by_cases hdue : c.Due blank u
  · cases hanswer : u.answer with
    | error e =>
        rw [Lease.fill?_of_error hanswer, Lease.use_of_error hanswer]
        exact h
    | ok v =>
        rw [Lease.fill?_of_ok hdue hanswer, Lease.use_of_ok hdue hanswer]
        refine ⟨by simp, ?_, ?_, ?_⟩
        · rintro f ⟨rfl⟩
          rfl
        · rintro f ⟨rfl⟩
          exact add_le_add_right hlo _
        · rintro f ⟨rfl⟩
          exact add_le_add_right hhi _
  · rw [Lease.fill?_of_not_due hdue, Lease.use_of_not_due hdue]
    exact h

/-- A use that does not end in a failed answer works on a value filled at most
{lit}`hi` before its freshness check. -/
theorem FilledBy.fill_recent (h : FilledBy blank lo hi last c) (hhi : 0 ≤ hi)
    (hok : c.Due blank u → ∃ v, u.answer = .ok v)
    (hclock : c.Due blank u → u.checkedAt ≤ u.completedAt) :
    ∃ f, (c.fill? blank u).or last = some f ∧ (c.use blank u).value = f.value ∧
      u.checkedAt - hi ≤ f.completedAt := by
  by_cases hdue : c.Due blank u
  · rcases hok hdue with ⟨v, hv⟩
    have hage : u.checkedAt - hi ≤ u.checkedAt := sub_le_self _ hhi
    have hcompleted : u.checkedAt ≤ u.completedAt := hclock hdue
    rw [Lease.fill?_of_ok hdue hv, Lease.use_of_ok hdue hv]
    exact ⟨⟨v, u.completedAt⟩, rfl, rfl, hage.trans hcompleted⟩
  · rw [Lease.fill?_of_not_due hdue, Lease.use_of_not_due hdue]
    have hfresh : u.checkedAt ≤ c.expiry := not_lt.mp fun hlt => hdue (Or.inl hlt)
    cases hlast : last with
    | none =>
        have hblank : blank c.value := h.blank_of_none hlast
        exact absurd (Or.inr hblank) hdue
    | some f =>
        have hexpiry : c.expiry ≤ f.completedAt + hi := h.expiry_le f hlast
        have hage : u.checkedAt ≤ f.completedAt + hi := hfresh.trans hexpiry
        exact ⟨f, by simp, h.value_eq f hlast, sub_le_iff_le_add.mpr hage⟩

end BoltClient.Library.LeaseCache
