import Mathlib.Data.List.Induction
import Mathlib.Data.List.Nodup
import Mathlib.Order.Lattice

/-!
# Maps in the order of their keys

A map is kept as the list of its entries, in the strict order of their keys, and
whoever runs through it meets them in that order.  Entries are emplaced: an entry
whose key is there already is left out.  When a run through the map writes under
names that several keys share, the last of these keys decides.

Main results:

- Theorem {lit}`mem_emplaceAll_iff`: the entries after a list of them was emplaced.
- Theorem {lit}`last_eq_some_iff`: the last entry of a class of keys.
- Theorem {lit}`foldl_writeEntry`: what a run through the map leaves under a name.

Current gaps:

- Entries are not removed and not replaced.
-/

namespace BoltClient.Library.SortedMaps

variable {Key Value : Type*} [LinearOrder Key]

/-- A map, as its entries in the order of their keys. -/
@[ext]
structure SortedMap (Key Value : Type*) [LinearOrder Key] where
  entries : List (Key × Value)
  sorted : entries.Pairwise fun p q => p.1 < q.1

/-- The map without entries. -/
def SortedMap.empty : SortedMap Key Value where
  entries := []
  sorted := List.Pairwise.nil

/-! ## Emplacing entries -/

/-- Put an entry where it belongs, unless its key is there. -/
def emplaceInto (entry : Key × Value) : List (Key × Value) → List (Key × Value)
  | [] => [entry]
  | first :: rest =>
      if entry.1 < first.1 then entry :: first :: rest
      else if entry.1 = first.1 then first :: rest
      else first :: emplaceInto entry rest

/-- Among the entries of the result are the old ones, and the new one if its key is
new. -/
theorem mem_emplaceInto_iff {entry p : Key × Value} {entries : List (Key × Value)}
    (hsorted : entries.Pairwise fun p q => p.1 < q.1) :
    p ∈ emplaceInto entry entries ↔
      p ∈ entries ∨ p = entry ∧ ∀ q ∈ entries, q.1 ≠ entry.1 := by
  induction entries with
  | nil => simp [emplaceInto]
  | cons first rest ih =>
      rw [List.pairwise_cons] at hsorted
      unfold emplaceInto
      split
      next hlt =>
        -- All keys come behind the new one.
        have hnew : ∀ q ∈ first :: rest, q.1 ≠ entry.1 := by
          intro q hq
          rcases List.mem_cons.mp hq with rfl | hq
          · exact ne_of_gt hlt
          · exact ne_of_gt (lt_trans hlt (hsorted.1 q hq))
        simp only [List.mem_cons (a := p) (b := entry), and_iff_left hnew]
        exact or_comm
      next hnlt =>
        split
        next heq =>
          have hold : ¬∀ q ∈ first :: rest, q.1 ≠ entry.1 := fun h =>
            h first List.mem_cons_self heq.symm
          simp only [hold, and_false, or_false]
        next hne =>
          rw [List.mem_cons, ih hsorted.2, List.mem_cons, List.forall_mem_cons, or_assoc,
            and_iff_right (Ne.symm hne)]

/-- Emplacing keeps the order. -/
theorem emplaceInto_sorted (entry : Key × Value) {entries : List (Key × Value)}
    (hsorted : entries.Pairwise fun p q => p.1 < q.1) :
    (emplaceInto entry entries).Pairwise fun p q => p.1 < q.1 := by
  induction entries with
  | nil => exact List.pairwise_singleton _ _
  | cons first rest ih =>
      have hcons := List.pairwise_cons.mp hsorted
      unfold emplaceInto
      split
      next hlt =>
        refine List.pairwise_cons.mpr ⟨fun q hq => ?_, hsorted⟩
        rcases List.mem_cons.mp hq with rfl | hq
        · exact hlt
        · exact lt_trans hlt (hcons.1 q hq)
      next hnlt =>
        split
        next heq => exact hsorted
        next hne =>
          refine List.pairwise_cons.mpr ⟨fun q hq => ?_, ih hcons.2⟩
          rcases (mem_emplaceInto_iff hcons.2).mp hq with hq | ⟨rfl, -⟩
          · exact hcons.1 q hq
          · exact lt_of_le_of_ne (not_lt.mp hnlt) (Ne.symm hne)

/-- Emplace an entry. -/
def SortedMap.emplace (m : SortedMap Key Value) (entry : Key × Value) : SortedMap Key Value where
  entries := emplaceInto entry m.entries
  sorted := emplaceInto_sorted entry m.sorted

theorem SortedMap.mem_emplace_iff {m : SortedMap Key Value} {entry p : Key × Value} :
    p ∈ (m.emplace entry).entries ↔
      p ∈ m.entries ∨ p = entry ∧ ∀ q ∈ m.entries, q.1 ≠ entry.1 :=
  mem_emplaceInto_iff m.sorted

/-- Emplace entries one after the other. -/
def SortedMap.emplaceAll (m : SortedMap Key Value) (entries : List (Key × Value)) :
    SortedMap Key Value :=
  entries.foldl SortedMap.emplace m

/-- After entries with different keys were emplaced, there are the old ones and those
with new keys. -/
theorem SortedMap.mem_emplaceAll_iff {m : SortedMap Key Value} {entries : List (Key × Value)}
    (hkeys : (entries.map Prod.fst).Nodup) {p : Key × Value} :
    p ∈ (m.emplaceAll entries).entries ↔
      p ∈ m.entries ∨ p ∈ entries ∧ ∀ q ∈ m.entries, q.1 ≠ p.1 := by
  induction entries generalizing m with
  | nil => simp [SortedMap.emplaceAll]
  | cons entry entries ih =>
      rw [List.map_cons, List.nodup_cons] at hkeys
      have hstep : m.emplaceAll (entry :: entries) = (m.emplace entry).emplaceAll entries := rfl
      rw [hstep, ih hkeys.2]
      simp only [SortedMap.mem_emplace_iff]
      constructor
      · rintro ((hold | ⟨rfl, hnew⟩) | ⟨hmem, hnew⟩)
        · exact Or.inl hold
        · exact Or.inr ⟨List.mem_cons_self, hnew⟩
        · exact Or.inr ⟨List.mem_cons_of_mem entry hmem, fun q hq => hnew q (Or.inl hq)⟩
      · rintro (hold | ⟨hmem, hnew⟩)
        · exact Or.inl (Or.inl hold)
        rcases List.mem_cons.mp hmem with rfl | hrest
        · exact Or.inl (Or.inr ⟨rfl, hnew⟩)
        · refine Or.inr ⟨hrest, ?_⟩
          rintro q (hq | ⟨rfl, -⟩)
          · exact hnew q hq
          · intro hsame
            exact hkeys.1 (hsame ▸ List.mem_map_of_mem hrest)

/-! ## The last entry of a class of keys -/

/-- The last entry whose key is in a class. -/
def SortedMap.last (m : SortedMap Key Value) (p : Key → Prop) [DecidablePred p] :
    Option (Key × Value) :=
  m.entries.reverse.find? fun entry => p entry.1

variable {m m' : SortedMap Key Value} {p : Key → Prop} [DecidablePred p]

theorem SortedMap.last_eq_none_iff : m.last p = none ↔ ∀ entry ∈ m.entries, ¬p entry.1 := by
  unfold SortedMap.last
  simp only [List.find?_eq_none, List.mem_reverse, decide_eq_true_eq]

/-- Two entries with one key are the same. -/
theorem SortedMap.eq_of_key_eq {q r : Key × Value} (hq : q ∈ m.entries) (hr : r ∈ m.entries)
    (hkey : q.1 = r.1) : q = r := by
  have hnodup : (m.entries.map Prod.fst).Nodup :=
    List.pairwise_map.mpr (m.sorted.imp ne_of_lt)
  exact List.inj_on_of_nodup_map hnodup hq hr hkey

/-- The last entry of a class has the greatest key. -/
theorem SortedMap.greatest_of_last {entry : Key × Value} (h : m.last p = some entry) :
    entry ∈ m.entries ∧ p entry.1 ∧ ∀ q ∈ m.entries, p q.1 → q.1 ≤ entry.1 := by
  rcases List.find?_eq_some_iff_append.mp h with ⟨hp, behind, before, hsplit, hbehind⟩
  have hmem : ∀ q, q ∈ m.entries ↔ q ∈ behind ++ entry :: before := by
    intro q
    rw [← hsplit, List.mem_reverse]
  have hsorted : (behind ++ entry :: before).Pairwise fun q r => r.1 < q.1 := by
    rw [← hsplit, List.pairwise_reverse]
    exact m.sorted
  refine ⟨(hmem entry).mpr (by simp), by simpa using hp, fun q hq hpq => ?_⟩
  rcases List.mem_append.mp ((hmem q).mp hq) with hq | hq
  · simpa [hpq] using hbehind q hq
  rcases List.mem_cons.mp hq with rfl | hq
  · exact le_refl _
  · exact le_of_lt (List.rel_of_pairwise_cons (List.pairwise_append.mp hsorted).2.1 hq)

/-- The last entry of a class is the one with the greatest key. -/
theorem SortedMap.last_eq_some_iff {entry : Key × Value} :
    m.last p = some entry ↔
      entry ∈ m.entries ∧ p entry.1 ∧ ∀ q ∈ m.entries, p q.1 → q.1 ≤ entry.1 := by
  constructor
  · exact SortedMap.greatest_of_last
  · rintro ⟨hmem, hp, hgreatest⟩
    cases hlast : m.last p with
    | none => exact absurd hp (SortedMap.last_eq_none_iff.mp hlast entry hmem)
    | some entry' =>
        rcases SortedMap.greatest_of_last hlast with ⟨hmem', hp', hgreatest'⟩
        have hkey : entry'.1 = entry.1 :=
          le_antisymm (hgreatest entry' hmem' hp') (hgreatest' entry hmem hp)
        rw [SortedMap.eq_of_key_eq hmem' hmem hkey]

/-- What counts of a map is which entries of the class it has. -/
theorem SortedMap.last_congr
    (hsame : ∀ entry : Key × Value, p entry.1 → (entry ∈ m.entries ↔ entry ∈ m'.entries)) :
    m.last p = m'.last p := by
  apply Option.ext
  intro entry
  rw [SortedMap.last_eq_some_iff, SortedMap.last_eq_some_iff]
  constructor
  · rintro ⟨hmem, hp, hgreatest⟩
    exact ⟨(hsame entry hp).mp hmem, hp,
      fun q hq hpq => hgreatest q ((hsame q hpq).mpr hq) hpq⟩
  · rintro ⟨hmem, hp, hgreatest⟩
    exact ⟨(hsame entry hp).mpr hmem, hp,
      fun q hq hpq => hgreatest q ((hsame q hpq).mp hq) hpq⟩

/-! ## Running through a map -/

section Writing

variable {Name : Type*} [DecidableEq Name] (nameOf : Key → Name)

/-- Write the value of an entry under the name of its key. -/
def writeEntry (written : Name → Option Value) (entry : Key × Value) : Name → Option Value :=
  Function.update written (nameOf entry.1) (some entry.2)

/-- A run through the entries leaves under a name the value of the last key of that
name. -/
theorem SortedMap.foldl_writeEntry (m : SortedMap Key Value) (written : Name → Option Value)
    (name : Name) :
    m.entries.foldl (writeEntry nameOf) written name =
      ((m.last fun key => nameOf key = name).map Prod.snd).or (written name) := by
  unfold SortedMap.last
  induction m.entries using List.reverseRecOn with
  | nil => rfl
  | append_singleton entries entry ih =>
      rw [List.foldl_append, List.foldl_cons, List.foldl_nil, List.reverse_append,
        List.reverse_singleton, List.singleton_append]
      by_cases hname : nameOf entry.1 = name
      · subst hname
        simp [writeEntry]
      · rw [List.find?_cons_of_neg (by simpa using hname), ← ih]
        exact Function.update_of_ne (Ne.symm hname) _ _

end Writing

end BoltClient.Library.SortedMaps
