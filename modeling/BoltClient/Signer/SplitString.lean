import BoltClient.Library.Pieces
import BoltClient.Signer

/-!
# The pieces of a string

The bucket of the surrogate request is the first piece that {lit}`splitString`
finds in a path.  The loop of {lit}`splitString` carries the piece begun so far;
it finds the pieces of {lit}`Library.Pieces`.

Main results:

- Theorem {lit}`splitString_eq_pieces`: the loop finds the pieces between the
  separators.
- Theorem {lit}`splitString_contract`: these are the maximal separator-free runs,
  nothing else is lost, and pieces put together with separators are found again.

Current gaps:

- None for strings as sequences of characters.
-/

namespace BoltClient

open BoltClient.Library.Pieces

/-- The loop with a separator-free piece begun finds the pieces of that piece
and the characters still to be read. -/
theorem splitStringFrom_eq_pieces {splitter : Char} (rest : List Char) {current : String}
    (hfree : splitter ∉ current.toList) :
    splitStringFrom splitter current rest =
      (pieces splitter (current.toList ++ rest)).map String.ofList := by
  induction rest generalizing current with
  | nil =>
      rw [List.append_nil, pieces_of_free hfree]
      by_cases hempty : current = ""
      · simp [splitStringFrom, hempty]
      · simp [splitStringFrom, hempty]
  | cons c rest ih =>
      by_cases hc : c = splitter
      · subst hc
        rw [pieces_append_sep hfree]
        have hrest : splitStringFrom c "" rest = (pieces c rest).map String.ofList :=
          ih (by simp)
        by_cases hempty : current = ""
        · simp [splitStringFrom, hempty, hrest]
        · simp [splitStringFrom, hempty, hrest]
      · have hfree' : splitter ∉ (current.push c).toList := by
          simp [hfree, Ne.symm hc]
        have hrest := ih hfree'
        simp [splitStringFrom, hc, hrest]

/-- {lit}`splitString` finds the pieces between the separators. -/
theorem splitString_eq_pieces (str : String) (splitter : Char) :
    splitString str splitter = (pieces splitter str.toList).map String.ofList := by
  unfold splitString
  rw [splitStringFrom_eq_pieces str.toList (by simp)]
  rfl

/-- Strings put one after the other are their characters put one after the
other. -/
theorem join_map_ofList (parts : List (List Char)) :
    String.join (parts.map String.ofList) = String.ofList parts.flatten := by
  apply String.toList_inj.mp
  rw [String.toList_join, List.flatMap_map, String.toList_ofList]
  simp only [String.toList_ofList, List.flatMap_id']

/-- What it means that a string has been split into the given parts. -/
structure SplitsInto (splitter : Char) (str : String) (parts : List String) : Prop where
  /-- The parts are the maximal runs without a separator, all of them and in
  order. -/
  maximal_runs : ∃ runs : List (Stretch Char),
    runs.Pairwise (fun r r' => r.before.length < r'.before.length) ∧
    (∀ r, r ∈ runs ↔ r.IsMaximalRun splitter str.toList) ∧
    parts = runs.map fun r => String.ofList r.run
  /-- Every part is non-empty and free of separators. -/
  nonempty_free : ∀ part ∈ parts, part ≠ "" ∧ splitter ∉ part.toList
  /-- Put one after the other, the parts are the string without its separators. -/
  join_eq : String.join parts = String.ofList (str.toList.filter fun c => c ≠ splitter)
  /-- There are no parts exactly when the string consists of separators. -/
  eq_nil_iff : parts = [] ↔ ∀ c ∈ str.toList, c = splitter

/-- Parts, each after a number of separators, and separators at the end. -/
def spacedString (splitter : Char) (items : List (Nat × String)) (trailing : Nat) : String :=
  String.ofList (spaced splitter (items.map fun item => (item.1, item.2.toList)) trailing)

/-- The result of {lit}`splitString` is what a split should be. -/
theorem splitString_splitsInto (str : String) (splitter : Char) :
    SplitsInto splitter str (splitString str splitter) where
  maximal_runs := by
    rcases exists_maximalRuns splitter str.toList with ⟨runs, hordered, hruns, hpieces⟩
    refine ⟨runs, hordered, hruns, ?_⟩
    rw [splitString_eq_pieces, hpieces, List.map_map]
    rfl
  nonempty_free := by
    intro part hmem
    rw [splitString_eq_pieces] at hmem
    rcases List.mem_map.mp hmem with ⟨piece, hpiece, rfl⟩
    rcases ne_nil_and_free_of_mem_pieces hpiece with ⟨hne, hfree⟩
    exact ⟨by simpa using hne, by simpa using hfree⟩
  join_eq := by
    rw [splitString_eq_pieces, ← flatten_pieces, join_map_ofList]
  eq_nil_iff := by
    rw [splitString_eq_pieces, List.map_eq_nil_iff, pieces_eq_nil_iff]

/-- Parts kept apart by separators are found again. -/
theorem splitString_spacedString {splitter : Char} {items : List (Nat × String)}
    (trailing : Nat)
    (hitems : ∀ item ∈ items, item.2 ≠ "" ∧ splitter ∉ item.2.toList)
    (hgaps : ∀ item ∈ items.tail, 0 < item.1) :
    splitString (spacedString splitter items trailing) splitter = items.map Prod.snd := by
  rw [splitString_eq_pieces, spacedString, String.toList_ofList, pieces_spaced]
  · simp
  · intro item hmem
    rcases List.mem_map.mp hmem with ⟨item', hmem', rfl⟩
    rcases hitems item' hmem' with ⟨hne, hfree⟩
    exact ⟨by simpa using hne, hfree⟩
  · intro item hmem
    rw [← List.map_tail] at hmem
    rcases List.mem_map.mp hmem with ⟨item', hmem', rfl⟩
    exact hgaps item' hmem'

/-- {lit}`splitString` finds exactly the maximal runs without a separator, and
finds the parts of every string that was put together from such parts, with any
positive number of separators between them and any number around them. -/
theorem splitString_contract (splitter : Char) :
    (∀ str, SplitsInto splitter str (splitString str splitter)) ∧
      ∀ (items : List (Nat × String)) (trailing : Nat),
        (∀ item ∈ items, item.2 ≠ "" ∧ splitter ∉ item.2.toList) →
        (∀ item ∈ items.tail, 0 < item.1) →
        splitString (spacedString splitter items trailing) splitter = items.map Prod.snd :=
  ⟨fun str => splitString_splitsInto str splitter,
    fun _ trailing hitems hgaps => splitString_spacedString trailing hitems hgaps⟩

end BoltClient
