import Mathlib.Data.List.Basic

/-!
# Pieces of a text between separators

A text over any alphabet falls into pieces at the occurrences of a separator.
Leading, doubled and trailing separators leave nothing between them, so only the
non-empty pieces are kept.

Main results:

- Theorem {lit}`separator_induction`: every text is built from separator-free
  stretches and separators.
- Theorem {lit}`exists_maximalRuns`: the pieces are the maximal separator-free
  runs of the text, from left to right.
- Theorem {lit}`pieces_spaced`: pieces put together with any separators between
  them, and any around them, are found again.
- Theorems {lit}`flatten_pieces` and {lit}`pieces_eq_nil_iff`: nothing but
  separators is lost, and texts of separators alone have no pieces.

Current gaps:

- The separator is a single symbol.
-/

namespace BoltClient.Library.Pieces

variable {Symbol : Type*} {sep : Symbol} {piece rest text : List Symbol}

/-! ## Separators in a text -/

/-- What holds of every separator-free stretch, and is preserved by putting such
a stretch and a separator in front, holds of every text. -/
theorem separator_induction {P : List Symbol → Prop} (sep : Symbol)
    (hlast : ∀ piece, sep ∉ piece → P piece)
    (hmore : ∀ piece rest, sep ∉ piece → P rest → P (piece ++ sep :: rest))
    (text : List Symbol) : P text := by
  have hfrom : ∀ piece, sep ∉ piece → P (piece ++ text) := by
    induction text with
    | nil =>
        intro piece hfree
        rw [List.append_nil]
        exact hlast piece hfree
    | cons x text ih =>
        intro piece hfree
        by_cases hx : x = sep
        · subst hx
          exact hmore piece text hfree (ih [] List.not_mem_nil)
        · have hfree' : sep ∉ piece ++ [x] := by simp [hfree, Ne.symm hx]
          have hmoved := ih (piece ++ [x]) hfree'
          rwa [List.append_assoc, List.singleton_append] at hmoved
  exact hfrom [] List.not_mem_nil

/-- Pieces, each after a number of separators, and separators at the end. -/
def spaced (sep : Symbol) (items : List (Nat × List Symbol)) (trailing : Nat) : List Symbol :=
  items.flatMap (fun item => List.replicate item.1 sep ++ item.2) ++ List.replicate trailing sep

/-- With a separator in front of its first piece, a spaced text starts with a
separator if with anything. -/
theorem spaced_head? {items : List (Nat × List Symbol)}
    (hgaps : ∀ item ∈ items, 0 < item.1) (trailing : Nat) :
    ∀ x ∈ (spaced sep items trailing).head?, x = sep := by
  intro x hx
  cases items with
  | nil =>
      have hmem : x ∈ List.replicate trailing sep := List.mem_of_mem_head? hx
      exact List.eq_of_mem_replicate hmem
  | cons item items =>
      rcases item with ⟨n, piece⟩
      have hpos : 0 < n := hgaps (n, piece) List.mem_cons_self
      obtain ⟨m, rfl⟩ : ∃ m, n = m + 1 := ⟨n - 1, by omega⟩
      simpa [spaced, List.replicate_succ, eq_comm] using hx

/-! ## Maximal runs -/

/-- A stretch of a text, with what stands before and after it. -/
structure Stretch (Symbol : Type*) where
  before : List Symbol
  run : List Symbol
  after : List Symbol

/-- The same stretch after more text in front. -/
def Stretch.prepend (front : List Symbol) (r : Stretch Symbol) : Stretch Symbol :=
  { r with before := front ++ r.before }

/-- The stretch is a maximal run: it is non-empty and free of separators, and it
reaches from a separator or the start of the text to a separator or its end. -/
structure Stretch.IsMaximalRun (sep : Symbol) (text : List Symbol) (r : Stretch Symbol) :
    Prop where
  text_eq : text = r.before ++ r.run ++ r.after
  run_ne_nil : r.run ≠ []
  run_free : sep ∉ r.run
  before_ends : ∀ x ∈ r.before.getLast?, x = sep
  after_starts : ∀ x ∈ r.after.head?, x = sep

/-- Text that ends with a separator if at all, and has none, is empty. -/
theorem eq_nil_of_ends (hends : ∀ x ∈ text.getLast?, x = sep) (hfree : sep ∉ text) :
    text = [] := by
  cases hlast : text.getLast? with
  | none => exact List.getLast?_eq_none_iff.mp hlast
  | some x =>
      have hx : x = sep := hends x hlast
      have hmem : x ∈ text := List.mem_of_getLast? hlast
      rw [hx] at hmem
      exact absurd hmem hfree

/-- Text that starts with a separator if at all, and has none, is empty. -/
theorem eq_nil_of_starts (hstarts : ∀ x ∈ text.head?, x = sep) (hfree : sep ∉ text) :
    text = [] := by
  cases text with
  | nil => rfl
  | cons x text =>
      have hx : x = sep := hstarts x rfl
      exact absurd (hx ▸ List.mem_cons_self) hfree

/-- What stands in front of the first separator of a text is determined, and so
is what follows it. -/
theorem append_sep_inj {piece' rest' : List Symbol} (hfree : sep ∉ piece)
    (hfree' : sep ∉ piece') (h : piece ++ sep :: rest = piece' ++ sep :: rest') :
    piece = piece' ∧ rest = rest' := by
  rcases List.append_eq_append_iff.mp h with ⟨back, hpiece', hback⟩ | ⟨back, hpiece, hback⟩
  · cases back with
    | nil => exact ⟨by simpa using hpiece'.symm, (List.cons.inj hback).2⟩
    | cons x back =>
        have hx : sep = x := (List.cons.inj hback).1
        exact absurd (by simp [hpiece', hx]) hfree'
  · cases back with
    | nil => exact ⟨by simpa using hpiece, (List.cons.inj hback).2.symm⟩
    | cons x back =>
        have hx : sep = x := (List.cons.inj hback).1
        exact absurd (by simp [hpiece, hx]) hfree

/-- The only maximal run of a separator-free text is the whole text. -/
theorem isMaximalRun_of_free (hfree : sep ∉ text) {r : Stretch Symbol} :
    r.IsMaximalRun sep text ↔ text ≠ [] ∧ r = ⟨[], text, []⟩ := by
  rcases r with ⟨before, run, after⟩
  constructor
  · intro h
    have htext : text = before ++ run ++ after := h.text_eq
    have hbefore : before = [] :=
      eq_nil_of_ends h.before_ends fun hmem => hfree (by simp [htext, hmem])
    have hafter : after = [] :=
      eq_nil_of_starts h.after_starts fun hmem => hfree (by simp [htext, hmem])
    subst hbefore hafter
    have hrun : text = run := by simpa using htext
    exact ⟨hrun ▸ h.run_ne_nil, by rw [hrun]⟩
  · rintro ⟨hne, heq⟩
    cases heq
    exact ⟨by simp, hne, hfree, by simp, by simp⟩

/-- A maximal run of a text is the separator-free stretch at its front, or one of
what follows the first separator. -/
theorem isMaximalRun_append_sep (hfree : sep ∉ piece) {r : Stretch Symbol} :
    r.IsMaximalRun sep (piece ++ sep :: rest) ↔
      (piece ≠ [] ∧ r = ⟨[], piece, sep :: rest⟩) ∨
        ∃ r' : Stretch Symbol,
          r'.IsMaximalRun sep rest ∧ r = r'.prepend (piece ++ [sep]) := by
  rcases r with ⟨before, run, after⟩
  constructor
  · intro h
    have htext : piece ++ sep :: rest = before ++ (run ++ after) := by
      simpa using h.text_eq
    by_cases hmem : sep ∈ before
    · -- The run lies behind the first separator.
      right
      rcases List.eq_append_cons_of_mem hmem with ⟨front, back, rfl, hfront⟩
      rw [List.append_assoc, List.cons_append] at htext
      rcases append_sep_inj hfree hfront htext with ⟨rfl, hrest⟩
      refine ⟨⟨back, run, after⟩, ⟨by simp [hrest], h.run_ne_nil, h.run_free, ?_,
        h.after_starts⟩, by simp [Stretch.prepend]⟩
      intro x hx
      apply h.before_ends x
      simp [List.getLast?_cons, Option.mem_def.mp hx]
    · -- The run starts the text, and the first separator ends it.
      left
      have hbefore : before = [] := eq_nil_of_ends h.before_ends hmem
      subst hbefore
      rw [List.nil_append] at htext
      rcases List.append_eq_append_iff.mp htext with ⟨back, hrun, hback⟩ | ⟨back, hpiece, hafter⟩
      · cases back with
        | nil =>
            rw [List.append_nil] at hrun
            rw [List.nil_append] at hback
            subst hrun hback
            exact ⟨h.run_ne_nil, rfl⟩
        | cons x back =>
            have hx : sep = x := (List.cons.inj hback).1
            exact absurd (by simp [hrun, hx]) h.run_free
      · have hnil : back = [] := by
          have hstarts : ∀ x ∈ back.head?, x = sep := by
            intro x hx
            apply h.after_starts x
            simp [hafter, List.head?_append, Option.mem_def.mp hx]
          exact eq_nil_of_starts hstarts fun hmem => hfree (by simp [hpiece, hmem])
        subst hnil
        rw [List.append_nil] at hpiece
        subst hpiece hafter
        exact ⟨h.run_ne_nil, rfl⟩
  · rintro (⟨hne, heq⟩ | ⟨r', h, heq⟩)
    · cases heq
      exact ⟨by simp, hne, hfree, by simp, by simp⟩
    · cases heq
      refine ⟨by simp [h.text_eq], h.run_ne_nil, h.run_free, ?_, h.after_starts⟩
      intro x hx
      rw [Option.mem_def, List.getLast?_append, Option.or_eq_some_iff] at hx
      rcases hx with hx | ⟨-, hx⟩
      · exact h.before_ends x hx
      · simpa [eq_comm] using hx

variable [DecidableEq Symbol]

/-! ## Pieces -/

/-- The non-empty pieces of a text between separators, in order. -/
def pieces (sep : Symbol) (text : List Symbol) : List (List Symbol) :=
  (text.splitOn sep).filter fun piece => piece ≠ []

/-- A separator-free stretch, unless it is empty, is a piece of its own. -/
theorem pieces_of_free (hfree : sep ∉ piece) :
    pieces sep piece = [piece].filter fun piece => piece ≠ [] := by
  rw [pieces, List.splitOn_eq_singleton hfree]

/-- The stretch in front of the first separator, unless it is empty, is the first
piece. -/
theorem pieces_append_sep (hfree : sep ∉ piece) (rest : List Symbol) :
    pieces sep (piece ++ sep :: rest) =
      ([piece].filter fun piece => piece ≠ []) ++ pieces sep rest := by
  rw [pieces, List.splitOn_append_cons_self_of_not_mem hfree, ← List.singleton_append,
    List.filter_append]
  rfl

@[simp] theorem pieces_nil : pieces sep [] = [] := rfl

/-- A separator in front is skipped. -/
@[simp] theorem pieces_cons_sep (rest : List Symbol) :
    pieces sep (sep :: rest) = pieces sep rest := by
  have hsplit : pieces sep ([] ++ sep :: rest) = _ := pieces_append_sep List.not_mem_nil rest
  simpa using hsplit

/-- Any number of separators in front is skipped. -/
@[simp] theorem pieces_replicate_append (n : Nat) (rest : List Symbol) :
    pieces sep (List.replicate n sep ++ rest) = pieces sep rest := by
  induction n with
  | zero => rfl
  | succ n ih => rw [List.replicate_succ, List.cons_append, pieces_cons_sep, ih]

/-- A non-empty separator-free stretch in front is a piece when the rest does not
go on with it. -/
theorem pieces_append_of_stops (hne : piece ≠ []) (hfree : sep ∉ piece)
    (hstops : ∀ x ∈ rest.head?, x = sep) :
    pieces sep (piece ++ rest) = piece :: pieces sep rest := by
  cases rest with
  | nil => simp [pieces_of_free hfree, hne]
  | cons x rest =>
      have hx : x = sep := hstops x rfl
      subst hx
      rw [pieces_append_sep hfree, pieces_cons_sep]
      simp [hne]

/-- Every piece is non-empty and free of separators. -/
theorem ne_nil_and_free_of_mem_pieces (hmem : piece ∈ pieces sep text) :
    piece ≠ [] ∧ sep ∉ piece := by
  induction text using separator_induction sep with
  | hlast front hfree =>
      rw [pieces_of_free hfree] at hmem
      simp only [List.mem_filter, List.mem_singleton, decide_eq_true_eq] at hmem
      rcases hmem with ⟨rfl, hne⟩
      exact ⟨hne, hfree⟩
  | hmore front rest hfree ih =>
      rw [pieces_append_sep hfree, List.mem_append] at hmem
      rcases hmem with hmem | hmem
      · simp only [List.mem_filter, List.mem_singleton, decide_eq_true_eq] at hmem
        rcases hmem with ⟨rfl, hne⟩
        exact ⟨hne, hfree⟩
      · exact ih hmem

/-- A separator-free stretch loses nothing. -/
theorem filter_ne_of_free (hfree : sep ∉ piece) : piece.filter (fun x => x ≠ sep) = piece := by
  apply List.filter_eq_self.mpr
  intro x hx
  have hne : x ≠ sep := ne_of_mem_of_not_mem hx hfree
  simpa using hne

/-- Put one after the other, the pieces are the text without its separators. -/
theorem flatten_pieces (sep : Symbol) (text : List Symbol) :
    (pieces sep text).flatten = text.filter fun x => x ≠ sep := by
  have hpiece : ∀ piece : List Symbol,
      ([piece].filter fun piece => piece ≠ []).flatten = piece := by
    intro piece
    cases piece <;> simp
  induction text using separator_induction sep with
  | hlast piece hfree => rw [pieces_of_free hfree, hpiece, filter_ne_of_free hfree]
  | hmore piece rest hfree ih =>
      rw [pieces_append_sep hfree, List.flatten_append, hpiece, ih, List.filter_append,
        filter_ne_of_free hfree, List.filter_cons_of_neg (by simp)]

/-- There is no piece exactly when the text consists of separators. -/
theorem pieces_eq_nil_iff : pieces sep text = [] ↔ ∀ x ∈ text, x = sep := by
  have hflatten := flatten_pieces sep text
  constructor
  · intro h x hx
    rw [h, List.flatten_nil, eq_comm, List.filter_eq_nil_iff] at hflatten
    simpa using hflatten x hx
  · intro h
    have hnothing : text.filter (fun x => x ≠ sep) = [] := by
      apply List.filter_eq_nil_iff.mpr
      intro x hx
      simp [h x hx]
    rw [hnothing, List.flatten_eq_nil_iff] at hflatten
    apply List.eq_nil_iff_forall_not_mem.mpr
    intro piece hmem
    exact (ne_nil_and_free_of_mem_pieces hmem).1 (hflatten piece hmem)

/-! ## Pieces with separators put around them -/

/-- The pieces of a spaced text are the pieces put into it, provided that none of
them is empty or has a separator and that any two are kept apart. -/
theorem pieces_spaced (trailing : Nat) {items : List (Nat × List Symbol)}
    (hitems : ∀ item ∈ items, item.2 ≠ [] ∧ sep ∉ item.2)
    (hgaps : ∀ item ∈ items.tail, 0 < item.1) :
    pieces sep (spaced sep items trailing) = items.map Prod.snd := by
  induction items with
  | nil =>
      have hskip : pieces sep (List.replicate trailing sep ++ []) = pieces sep [] :=
        pieces_replicate_append trailing []
      simpa [spaced] using hskip
  | cons item items ih =>
      rcases item with ⟨n, piece⟩
      have hne : piece ≠ [] := (hitems (n, piece) List.mem_cons_self).1
      have hfree : sep ∉ piece := (hitems (n, piece) List.mem_cons_self).2
      have hitems' : ∀ item ∈ items, item.2 ≠ [] ∧ sep ∉ item.2 := fun item hmem =>
        hitems item (List.mem_cons_of_mem _ hmem)
      have hgaps' : ∀ item ∈ items.tail, 0 < item.1 := fun item hmem =>
        hgaps item (List.mem_of_mem_tail hmem)
      have hsplit : spaced sep ((n, piece) :: items) trailing =
          List.replicate n sep ++ (piece ++ spaced sep items trailing) := by
        simp [spaced, List.append_assoc]
      have hstops : ∀ x ∈ (spaced sep items trailing).head?, x = sep :=
        spaced_head? hgaps trailing
      rw [hsplit, pieces_replicate_append, pieces_append_of_stops hne hfree hstops,
        ih hitems' hgaps']
      rfl

/-! ## The pieces are the maximal runs -/

/-- The pieces are the maximal separator-free runs of the text, all of them, from
left to right. -/
theorem exists_maximalRuns (sep : Symbol) (text : List Symbol) :
    ∃ runs : List (Stretch Symbol),
      runs.Pairwise (fun r r' => r.before.length < r'.before.length) ∧
      (∀ r, r ∈ runs ↔ r.IsMaximalRun sep text) ∧
      pieces sep text = runs.map Stretch.run := by
  induction text using separator_induction sep with
  | hlast piece hfree =>
      refine ⟨([⟨[], piece, []⟩] : List (Stretch Symbol)).filter fun r => r.run ≠ [], ?_, ?_, ?_⟩
      · exact (List.pairwise_singleton _ _).filter _
      · intro r
        rw [isMaximalRun_of_free hfree]
        simp only [List.mem_filter, List.mem_singleton, decide_eq_true_eq]
        constructor
        · rintro ⟨rfl, hne⟩
          exact ⟨hne, rfl⟩
        · rintro ⟨hne, rfl⟩
          exact ⟨rfl, hne⟩
      · rw [pieces_of_free hfree]
        cases piece <;> rfl
  | hmore piece rest hfree ih =>
      rcases ih with ⟨runs, hordered, hruns, hpieces⟩
      refine ⟨(([⟨[], piece, sep :: rest⟩] : List (Stretch Symbol)).filter fun r => r.run ≠ []) ++
        runs.map (Stretch.prepend (piece ++ [sep])), ?_, ?_, ?_⟩
      · refine List.pairwise_append.mpr ⟨(List.pairwise_singleton _ _).filter _, ?_, ?_⟩
        · refine hordered.map _ ?_
          intro r r' hlt
          simpa [Stretch.prepend] using hlt
        · intro r hr r' hr'
          rcases List.mem_singleton.mp (List.mem_of_mem_filter hr) with rfl
          rcases List.mem_map.mp hr' with ⟨r'', -, rfl⟩
          simp only [Stretch.prepend, List.length_append, List.length_cons, List.length_nil]
          omega
      · intro r
        rw [isMaximalRun_append_sep hfree, List.mem_append]
        simp only [List.mem_filter, List.mem_singleton, decide_eq_true_eq, List.mem_map]
        constructor
        · rintro (⟨rfl, hne⟩ | ⟨r', hr', rfl⟩)
          · exact Or.inl ⟨hne, rfl⟩
          · exact Or.inr ⟨r', (hruns r').mp hr', rfl⟩
        · rintro (⟨hne, rfl⟩ | ⟨r', hr', rfl⟩)
          · exact Or.inl ⟨rfl, hne⟩
          · exact Or.inr ⟨r', (hruns r').mpr hr', rfl⟩
      · rw [pieces_append_sep hfree, hpieces, List.map_append, List.map_map]
        cases piece <;> rfl

end BoltClient.Library.Pieces
