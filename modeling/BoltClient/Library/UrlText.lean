import Mathlib.Data.List.DropRight
import BoltClient.Library.Pieces

/-!
# The text of a URL

A URL is written as scheme, authority, path, query and fragment, in this order,
and each part ends where the mark of a later one stands.  The authority is a
host and possibly a port, after user information that is not looked at here.
This is the generic syntax of a URI with an authority.

Main results:

- Theorem {lit}`readUrl_eq_some_iff`: reading undoes printing; a text is read as
  the well-formed parts it is printed from, and as nothing else.
- Theorem {lit}`readAuthority_text`: host and port are found again in an
  authority.
- Theorem {lit}`parameters_queryText`: the parameters of a query are found again
  in it.

Current gaps:

- Bracketed hosts and percent-encoding are not interpreted.
-/

namespace BoltClient.Library.UrlText

open BoltClient.Library.Pieces

/-! ## Reading up to a stop -/

/-- What is to hold of all members of a list is decided member by member, not by
going through all characters there are. -/
scoped instance (priority := 2000) decidableForallMem {Symbol : Type*} (p : Symbol → Prop)
    [DecidablePred p] (text : List Symbol) : Decidable (∀ x ∈ text, p x) :=
  List.decidableBAll p text

section Stops

variable {stops text front rest : List Char}

/-- The text up to the first of the given stops. -/
def upTo (stops text : List Char) : List Char := text.takeWhile (· ∉ stops)

/-- The text from the first of the given stops on. -/
def startingAt (stops text : List Char) : List Char := text.dropWhile (· ∉ stops)

theorem upTo_append_startingAt (stops text : List Char) :
    upTo stops text ++ startingAt stops text = text :=
  List.takeWhile_append_dropWhile

/-- What is read has no stop in it. -/
theorem free_of_mem_upTo : ∀ x ∈ upTo stops text, x ∉ stops := by
  intro x hx
  simpa using List.mem_takeWhile_imp hx

/-- What is left starts with a stop, if with anything. -/
theorem startingAt_head? : ∀ x ∈ (startingAt stops text).head?, x ∈ stops := by
  intro x hx
  have hnot := List.head?_dropWhile_not (· ∉ stops) text
  unfold startingAt at hx
  rw [Option.mem_def.mp hx] at hnot
  simpa using hnot

/-- Reading on from one of some stops up to others starts, if at all, with one
of the former that is none of the latter. -/
theorem upTo_startingAt_head? {stops' : List Char} :
    ∀ x ∈ (upTo stops' (startingAt stops text)).head?, x ∈ stops ∧ x ∉ stops' := by
  intro x hx
  unfold upTo at hx
  rw [List.head?_takeWhile, Option.mem_def, Option.filter_eq_some_iff] at hx
  exact ⟨startingAt_head? x hx.1, by simpa using hx.2⟩

/-- A stretch without a stop is read up to the stop behind it. -/
theorem upTo_append (hfree : ∀ x ∈ front, x ∉ stops) (hstop : ∀ x ∈ rest.head?, x ∈ stops) :
    upTo stops (front ++ rest) = front := by
  have hfront : ∀ x ∈ front, decide (x ∉ stops) = true := by simpa using hfree
  unfold upTo
  rw [List.takeWhile_append_of_pos hfront]
  cases rest with
  | nil => simp
  | cons x rest => simp [hstop x rfl]

/-- What stands behind a stretch without a stop is left. -/
theorem startingAt_append (hfree : ∀ x ∈ front, x ∉ stops)
    (hstop : ∀ x ∈ rest.head?, x ∈ stops) : startingAt stops (front ++ rest) = rest := by
  have hread : upTo stops (front ++ rest) ++ startingAt stops (front ++ rest) = front ++ rest :=
    upTo_append_startingAt _ _
  rw [upTo_append hfree hstop] at hread
  exact List.append_cancel_left hread

end Stops

/-! ## Marked parts -/

/-- A part behind its mark, if there is one. -/
def marked (mark : Char) : Option (List Char) → List Char
  | none => []
  | some part => mark :: part

/-- A part without its mark. -/
def unmarked : List Char → Option (List Char)
  | [] => none
  | _ :: part => some part

@[simp] theorem unmarked_marked (mark : Char) (part : Option (List Char)) :
    unmarked (marked mark part) = part := by
  cases part <;> rfl

theorem marked_head? (mark : Char) (part : Option (List Char)) :
    ∀ x ∈ (marked mark part).head?, x = mark := by
  intro x hx
  cases part with
  | none => cases hx
  | some part => exact (Option.some.inj hx).symm

/-- Text that starts with the mark is marked again. -/
theorem marked_unmarked {mark : Char} {text : List Char}
    (hmark : ∀ x ∈ text.head?, x = mark) : marked mark (unmarked text) = text := by
  cases text with
  | nil => rfl
  | cons x text =>
      rw [hmark x rfl]
      rfl

theorem mem_of_mem_unmarked {text : List Char} :
    ∀ part ∈ unmarked text, ∀ x ∈ part, x ∈ text := by
  intro part hpart x hx
  cases text with
  | nil => cases hpart
  | cons y text =>
      rcases Option.some.inj hpart with rfl
      exact List.mem_cons_of_mem y hx

/-! ## The parts of a URL -/

/-- The parts of a URL, query and fragment without their marks. -/
structure UrlParts where
  scheme : List Char
  authority : List Char
  path : List Char
  query : Option (List Char)
  fragment : Option (List Char)

/-- Print the parts of a URL. -/
def UrlParts.text (u : UrlParts) : List Char :=
  u.scheme ++ (':' :: '/' :: '/' :: (u.authority ++ (u.path ++
    (marked '?' u.query ++ marked '#' u.fragment))))

/-- No part contains a mark of a later one. -/
structure UrlParts.WellFormed (u : UrlParts) : Prop where
  scheme_free : ∀ x ∈ u.scheme, x ∉ [':', '/', '?', '#']
  authority_free : ∀ x ∈ u.authority, x ∉ ['/', '?', '#']
  path_starts : ∀ x ∈ u.path.head?, x = '/'
  path_free : ∀ x ∈ u.path, x ∉ ['?', '#']
  query_free : ∀ query ∈ u.query, ∀ x ∈ query, x ∉ ['#']

/-- Read what stands behind {lit}`://`. -/
def readBehindScheme (scheme text : List Char) : UrlParts :=
  let behindAuthority := startingAt ['/', '?', '#'] text
  let behindPath := startingAt ['?', '#'] behindAuthority
  { scheme := scheme
    authority := upTo ['/', '?', '#'] text
    path := upTo ['?', '#'] behindAuthority
    query := unmarked (upTo ['#'] behindPath)
    fragment := unmarked (startingAt ['#'] behindPath) }

/-- Read the parts of a URL. -/
def readUrl (text : List Char) : Option UrlParts :=
  match startingAt [':', '/', '?', '#'] text with
  | ':' :: '/' :: '/' :: rest => some (readBehindScheme (upTo [':', '/', '?', '#'] text) rest)
  | _ => none

/-- What stands behind the scheme is read as the parts it is printed from. -/
theorem readBehindScheme_text {u : UrlParts} (h : u.WellFormed) :
    readBehindScheme u.scheme
      (u.authority ++ (u.path ++ (marked '?' u.query ++ marked '#' u.fragment))) = u := by
  have hfragment : ∀ x ∈ (marked '#' u.fragment).head?, x ∈ ['#'] := by
    intro x hx
    simp [marked_head? '#' u.fragment x hx]
  have hquery : ∀ x ∈ (marked '?' u.query ++ marked '#' u.fragment).head?, x ∈ ['?', '#'] := by
    intro x hx
    cases hq : u.query with
    | none =>
        rw [hq] at hx
        simp [marked_head? '#' u.fragment x hx]
    | some query =>
        rw [hq] at hx
        simp [marked_head? '?' (some query) x hx]
  have hqueryFree : ∀ x ∈ marked '?' u.query, x ∉ ['#'] := by
    cases hq : u.query with
    | none => simp [marked]
    | some query => simpa [marked] using h.query_free query hq
  have hpath : ∀ x ∈ (u.path ++ (marked '?' u.query ++ marked '#' u.fragment)).head?,
      x ∈ ['/', '?', '#'] := by
    intro x hx
    cases hp : u.path with
    | nil =>
        rw [hp] at hx
        exact List.mem_cons_of_mem _ (hquery x hx)
    | cons y path =>
        rw [hp] at hx
        have hslash : x = '/' := h.path_starts x (by rw [hp]; exact hx)
        simp [hslash]
  unfold readBehindScheme
  simp only [upTo_append h.authority_free hpath, startingAt_append h.authority_free hpath,
    upTo_append h.path_free hquery, startingAt_append h.path_free hquery,
    upTo_append hqueryFree hfragment, startingAt_append hqueryFree hfragment, unmarked_marked]

/-- A scheme is read up to the marks behind it. -/
theorem readUrl_append {scheme : List Char} (hscheme : ∀ x ∈ scheme, x ∉ [':', '/', '?', '#'])
    (rest : List Char) :
    readUrl (scheme ++ (':' :: '/' :: '/' :: rest)) = some (readBehindScheme scheme rest) := by
  have hstop : ∀ x ∈ (':' :: '/' :: '/' :: rest).head?, x ∈ [':', '/', '?', '#'] := by
    intro x hx
    simp [← Option.some.inj hx]
  unfold readUrl
  rw [startingAt_append hscheme hstop, upTo_append hscheme hstop]
  rfl

/-- Printed parts are read again. -/
theorem readUrl_text {u : UrlParts} (h : u.WellFormed) : readUrl u.text = some u := by
  unfold UrlParts.text
  rw [readUrl_append h.scheme_free]
  exact congrArg some (readBehindScheme_text h)

/-- What stands behind the scheme is printed back by the parts read. -/
theorem text_readBehindScheme (scheme text : List Char) :
    (readBehindScheme scheme text).text = scheme ++ (':' :: '/' :: '/' :: text) := by
  have hquery : ∀ x ∈ (upTo ['#'] (startingAt ['?', '#'] (startingAt ['/', '?', '#'] text))).head?,
      x = '?' := by
    intro x hx
    have hhead := upTo_startingAt_head? x hx
    simp only [List.mem_cons, List.not_mem_nil, or_false] at hhead
    exact hhead.1.resolve_right hhead.2
  have hfragment : ∀ x ∈
      (startingAt ['#'] (startingAt ['?', '#'] (startingAt ['/', '?', '#'] text))).head?,
      x = '#' := by
    intro x hx
    simpa using startingAt_head? x hx
  unfold UrlParts.text readBehindScheme
  simp only [marked_unmarked hquery, marked_unmarked hfragment, upTo_append_startingAt]

/-- The parts read behind a scheme are well-formed. -/
theorem wellFormed_readBehindScheme {scheme : List Char}
    (hscheme : ∀ x ∈ scheme, x ∉ [':', '/', '?', '#']) (text : List Char) :
    (readBehindScheme scheme text).WellFormed where
  scheme_free := hscheme
  authority_free := free_of_mem_upTo
  path_starts := by
    intro x hx
    have hhead := upTo_startingAt_head? x hx
    simp only [List.mem_cons, List.not_mem_nil, or_false] at hhead
    exact hhead.1.resolve_right hhead.2
  path_free := free_of_mem_upTo
  query_free := by
    intro query hquery x hx
    exact free_of_mem_upTo x (mem_of_mem_unmarked query hquery x hx)

/-- A text is read as the well-formed parts it is printed from, and as nothing
else. -/
theorem readUrl_eq_some_iff {text : List Char} {u : UrlParts} :
    readUrl text = some u ↔ u.WellFormed ∧ text = u.text := by
  constructor
  · intro h
    unfold readUrl at h
    split at h
    · next rest hrest =>
      cases h
      refine ⟨wellFormed_readBehindScheme free_of_mem_upTo rest, ?_⟩
      rw [text_readBehindScheme, ← hrest, upTo_append_startingAt]
    · cases h
  · rintro ⟨hwell, rfl⟩
    exact readUrl_text hwell

/-! ## Host and port -/

/-- The host of an authority and the port, if one is written. -/
structure HostPort where
  host : List Char
  port : Option (List Char)

/-- Read host and port of an authority; user information in front is dropped. -/
def readAuthority (text : List Char) : HostPort :=
  let hostPort := text.rtakeWhile (· ≠ '@')
  { host := upTo [':'] hostPort
    port := unmarked (startingAt [':'] hostPort) }

/-- A host and a port are found again. -/
theorem readAuthority_text {host : List Char} {port : Option (List Char)}
    (hhost : ∀ x ∈ host, x ∉ ['@', ':']) (hport : ∀ digits ∈ port, '@' ∉ digits) :
    readAuthority (host ++ marked ':' port) = ⟨host, port⟩ := by
  have hat : (host ++ marked ':' port).rtakeWhile (· ≠ '@') = host ++ marked ':' port := by
    apply List.rtakeWhile_eq_self_iff.mpr
    intro x hx
    rcases List.mem_append.mp hx with hx | hx
    · simpa using fun heq => hhost x hx (by simp [heq])
    · cases port with
      | none => cases hx
      | some digits =>
          rcases List.mem_cons.mp hx with rfl | hx
          · decide
          · simpa using ne_of_mem_of_not_mem hx (hport digits rfl)
  have hfree : ∀ x ∈ host, x ∉ [':'] := fun x hx hmem =>
    hhost x hx (List.mem_cons_of_mem _ hmem)
  have hstop : ∀ x ∈ (marked ':' port).head?, x ∈ [':'] := by
    intro x hx
    simp [marked_head? ':' port x hx]
  unfold readAuthority
  simp only [hat, upTo_append hfree hstop, startingAt_append hfree hstop, unmarked_marked]

/-- The characters of a host are those of the authority, without the marks of
user information and port. -/
theorem mem_host_readAuthority {text : List Char} :
    ∀ x ∈ (readAuthority text).host, x ∈ text ∧ x ∉ ['@', ':'] := by
  intro x hx
  have hmem : x ∈ text.rtakeWhile (· ≠ '@') := (List.takeWhile_sublist _).subset hx
  have hcolon : x ∉ [':'] := free_of_mem_upTo x hx
  have hat : x ≠ '@' := by simpa using List.mem_rtakeWhile_imp hmem
  refine ⟨(List.rtakeWhile_suffix _ _).subset hmem, ?_⟩
  simpa [hat] using hcolon

/-- The port that is meant where none is written. -/
def defaultPort (scheme : List Char) : Option Nat :=
  if scheme = "http".toList then some 80
  else if scheme = "https".toList then some 443
  else none

/-- The host of a URL. -/
def UrlParts.host (u : UrlParts) : List Char := (readAuthority u.authority).host

/-- The port of a URL: the written one or else that of its scheme. -/
def UrlParts.effectivePort (u : UrlParts) : Option Nat :=
  match (readAuthority u.authority).port with
  | some (d :: digits) => some (Nat.ofDigitChars 10 (d :: digits) 0)
  | _ => defaultPort u.scheme

/-- A port in decimal digits, left out where the scheme implies it. -/
def writtenPort (scheme : List Char) (port : Nat) : Option (List Char) :=
  if defaultPort scheme = some port then none else some (Nat.toDigits 10 port)

/-- A written port consists of digits. -/
theorem isDigit_of_mem_writtenPort {scheme : List Char} {port : Nat} :
    ∀ digits ∈ writtenPort scheme port, ∀ x ∈ digits, x.isDigit = true := by
  intro digits hdigits x hx
  unfold writtenPort at hdigits
  split at hdigits
  · cases hdigits
  · rcases Option.some.inj hdigits with rfl
    exact Nat.isDigit_of_mem_toDigits (by decide) (by decide) hx

/-- A written port does not end an authority. -/
theorem marked_writtenPort_free {scheme : List Char} {port : Nat} :
    ∀ x ∈ marked ':' (writtenPort scheme port), x ∉ ['/', '?', '#'] := by
  intro x hx
  cases hwritten : writtenPort scheme port with
  | none =>
      rw [hwritten] at hx
      cases hx
  | some digits =>
      rw [hwritten] at hx
      rcases List.mem_cons.mp hx with rfl | hx
      · decide
      · intro hmem
        have hdigit : x.isDigit = true := isDigit_of_mem_writtenPort digits hwritten x hx
        have hmark : ∀ y ∈ ['/', '?', '#'], y.isDigit = false := by decide
        rw [hmark x hmem] at hdigit
        cases hdigit

/-- The host of a URL has no mark in it. -/
theorem host_free_of_readUrl {text : List Char} {u : UrlParts} (h : readUrl text = some u) :
    ∀ x ∈ u.host, x ∉ ['/', '?', '#', '@', ':'] := by
  intro x hx
  rcases mem_host_readAuthority x hx with ⟨hmem, hmarks⟩
  have hauthority : x ∉ ['/', '?', '#'] :=
    (readUrl_eq_some_iff.mp h).1.authority_free x hmem
  intro hmark
  have hsplit : x ∈ ['/', '?', '#'] ++ ['@', ':'] := hmark
  rcases List.mem_append.mp hsplit with hin | hin
  · exact hauthority hin
  · exact hmarks hin

/-- Host and effective port of a URL are those its authority was written for. -/
theorem host_and_effectivePort_of_authority {u : UrlParts} {host : List Char} {port : Nat}
    (hhost : ∀ x ∈ host, x ∉ ['@', ':'])
    (hauthority : u.authority = host ++ marked ':' (writtenPort u.scheme port)) :
    u.host = host ∧ u.effectivePort = some port := by
  have hread : readAuthority u.authority = ⟨host, writtenPort u.scheme port⟩ := by
    rw [hauthority]
    refine readAuthority_text hhost fun digits hdigits hat => ?_
    exact absurd (isDigit_of_mem_writtenPort digits hdigits '@' hat) (by decide)
  refine ⟨by rw [UrlParts.host, hread], ?_⟩
  unfold UrlParts.effectivePort
  rw [hread]
  unfold writtenPort
  by_cases hdefault : defaultPort u.scheme = some port
  · simp [hdefault]
  · simp only [hdefault, if_false]
    have hvalue : Nat.ofDigitChars 10 (Nat.toDigits 10 port) 0 = port :=
      Nat.ofDigitChars_ten_toDigits
    cases hdigits : Nat.toDigits 10 port with
    | nil => exact absurd hdigits Nat.toDigits_ne_nil
    | cons d digits => exact congrArg some (hdigits ▸ hvalue)

/-! ## Parameters of a query -/

/-- The names and values of a query. -/
def parameters (query : List Char) : List (List Char × List Char) :=
  (pieces '&' query).map fun piece =>
    (upTo ['='] piece, (unmarked (startingAt ['='] piece)).getD [])

/-- The text of one parameter. -/
def parameterText (parameter : List Char × List Char) : List Char :=
  parameter.1 ++ marked '=' (some parameter.2)

/-- Print parameters. -/
def queryText : List (List Char × List Char) → List Char
  | [] => []
  | [parameter] => parameterText parameter
  | parameter :: next :: parameters =>
      parameterText parameter ++ '&' :: queryText (next :: parameters)

/-- The characters of a query are those of its parameters and the marks between
them. -/
theorem mem_queryText {ps : List (List Char × List Char)} :
    ∀ x ∈ queryText ps, x ∈ ['=', '&'] ∨ ∃ p ∈ ps, x ∈ p.1 ∨ x ∈ p.2 := by
  have hparameter : ∀ p : List Char × List Char, ∀ x ∈ parameterText p,
      x ∈ ['=', '&'] ∨ x ∈ p.1 ∨ x ∈ p.2 := by
    intro p x hx
    rcases List.mem_append.mp hx with hx | hx
    · exact Or.inr (Or.inl hx)
    · rcases List.mem_cons.mp hx with rfl | hx
      · exact Or.inl (by decide)
      · exact Or.inr (Or.inr hx)
  induction ps using queryText.induct with
  | case1 => simp [queryText]
  | case2 p => simpa [queryText] using hparameter p
  | case3 p next ps ih =>
      intro x hx
      rw [queryText] at hx
      rcases List.mem_append.mp hx with hx | hx
      · exact (hparameter p x hx).imp_right fun h => ⟨p, List.mem_cons_self, h⟩
      · rcases List.mem_cons.mp hx with rfl | hx
        · exact Or.inl (by decide)
        · rcases ih x hx with h | ⟨q, hq, h⟩
          · exact Or.inl h
          · exact Or.inr ⟨q, List.mem_cons_of_mem p hq, h⟩

/-- A parameter found in its own text. -/
theorem read_parameterText {p : List Char × List Char} (hname : ∀ x ∈ p.1, x ∉ ['=', '&']) :
    (upTo ['='] (parameterText p),
      (unmarked (startingAt ['='] (parameterText p))).getD []) = p := by
  have hfree : ∀ x ∈ p.1, x ∉ ['='] := fun x hx hmem =>
    hname x hx (List.mem_cons.mpr (Or.inl (List.mem_singleton.mp hmem)))
  have hstop : ∀ x ∈ (marked '=' (some p.2)).head?, x ∈ ['='] := by
    intro x hx
    simp [marked_head? '=' _ x hx]
  unfold parameterText
  rw [upTo_append hfree hstop, startingAt_append hfree hstop, unmarked_marked]
  rfl

/-- The pieces of a printed query are the texts of its parameters. -/
theorem pieces_queryText {ps : List (List Char × List Char)}
    (hps : ∀ p ∈ ps, (∀ x ∈ p.1, x ∉ ['=', '&']) ∧ '&' ∉ p.2) :
    pieces '&' (queryText ps) = ps.map parameterText := by
  have hfree : ∀ p ∈ ps, '&' ∉ parameterText p := by
    intro p hp hmem
    rcases List.mem_append.mp hmem with hmem | hmem
    · exact (hps p hp).1 '&' hmem (by decide)
    · rcases List.mem_cons.mp hmem with heq | hmem
      · exact absurd heq (by decide)
      · exact (hps p hp).2 hmem
  have hne : ∀ p, [parameterText p].filter (fun piece => piece ≠ []) = [parameterText p] := by
    intro p
    simp [parameterText, marked]
  clear hps
  induction ps using queryText.induct with
  | case1 => rfl
  | case2 p => rw [queryText, pieces_of_free (hfree p (by simp)), hne, List.map_singleton]
  | case3 p next ps ih =>
      rw [queryText, pieces_append_sep (hfree p (by simp)), hne,
        ih fun q hq => hfree q (List.mem_cons_of_mem p hq)]
      rfl

/-- The parameters of a query are found again, provided that no name contains a
mark and no value the mark between parameters. -/
theorem parameters_queryText {ps : List (List Char × List Char)}
    (hps : ∀ p ∈ ps, (∀ x ∈ p.1, x ∉ ['=', '&']) ∧ '&' ∉ p.2) :
    parameters (queryText ps) = ps := by
  unfold parameters
  rw [pieces_queryText hps, List.map_map]
  calc ps.map _ = ps.map id :=
        List.map_congr_left fun p hp => read_parameterText (hps p hp).1
    _ = ps := List.map_id ps

end BoltClient.Library.UrlText
