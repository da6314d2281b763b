import BoltClient.Sdk
import BoltClient.Library.UrlText

/-!
# URIs and their texts

The client hands addresses to the SDK as strings and gets them back as URIs, and
it prints URIs where libcurl wants strings.  Parsing and printing belong to the
SDK; this file states what the client relies on in them, and what a URI made by
the client looks like once it is parsed.

Main results:

- Definitions {lit}`ParsesUris` and {lit}`PrintsUris`: the documented behaviour of
  the URI constructor and of {lit}`GetURIString`.
- Theorem {lit}`pathSegments_pathText`: the segments put into a path are found
  again.
- Theorem {lit}`referenceParseUri_parses`: the reference parser behaves as
  documented.

Current gaps:

- Addresses with a port, and hosts in brackets, are not described.
-/

namespace BoltClient

open BoltClient.Library.Pieces
open BoltClient.Library.UrlText

/-! ## Texts of certain characters -/

/-- All characters of the text are such. -/
def AllChars (P : Char → Prop) (text : String) : Prop := ∀ c ∈ text.toList, P c

instance (P : Char → Prop) [DecidablePred P] (text : String) : Decidable (AllChars P text) :=
  decidableForallMem P text.toList

theorem AllChars.append {P : Char → Prop} {text text' : String} (h : AllChars P text)
    (h' : AllChars P text') : AllChars P (text ++ text') := by
  intro c hc
  rw [String.toList_append, List.mem_append] at hc
  exact hc.elim (h c) (h' c)

theorem AllChars.imp {P Q : Char → Prop} {text : String} (h : AllChars P text)
    (himp : ∀ c, P c → Q c) : AllChars Q text :=
  fun c hc => himp c (h c hc)

/-- No character of the text is one of the given ones. -/
abbrev Avoids (delimiters : List Char) (text : String) : Prop :=
  AllChars (· ∉ delimiters) text

/-- Two lists of characters avoided cover what is in one of them. -/
theorem Avoids.cover {delimiters delimiters' marks : List Char} {text : String}
    (h : Avoids delimiters text) (h' : Avoids delimiters' text)
    (hcover : ∀ mark ∈ marks, mark ∈ delimiters ∨ mark ∈ delimiters') : Avoids marks text :=
  fun c hc hmem => (hcover c hmem).elim (h c hc) (h' c hc)

/-! ## Paths and their segments -/

/-- The path with the given segments, each behind a slash. -/
def pathText (segments : List String) : String :=
  String.join (segments.map ("/" ++ ·))

/-- {lit}`URI::GetPathSegments`: what stands between the slashes of the path. -/
def Uri.pathSegments (uri : Uri) : List String :=
  (pieces '/' uri.path.toList).map String.ofList

theorem pathText_toList (segments : List String) :
    (pathText segments).toList = segments.flatMap fun segment => '/' :: segment.toList := by
  simp [pathText, String.toList_join, List.flatMap_map]

/-- The pieces of a path are its segments, if none of these is empty or contains a
slash, whatever slashes stand behind them. -/
theorem pieces_pathText {segments : List String} (trailing : Nat)
    (hsegments : ∀ segment ∈ segments, segment ≠ "" ∧ '/' ∉ segment.toList) :
    pieces '/' ((pathText segments).toList ++ List.replicate trailing '/') =
      segments.map String.toList := by
  have hspaced : (pathText segments).toList ++ List.replicate trailing '/' =
      spaced '/' (segments.map fun segment => (1, segment.toList)) trailing := by
    rw [pathText_toList]
    simp [spaced, List.flatMap_map]
  rw [hspaced, pieces_spaced]
  · simp
  · intro item hmem
    rcases List.mem_map.mp hmem with ⟨segment, hsegment, rfl⟩
    rcases hsegments segment hsegment with ⟨hne, hfree⟩
    exact ⟨by simpa using hne, hfree⟩
  · intro item hmem
    rcases List.mem_map.mp (List.mem_of_mem_tail hmem) with ⟨segment, -, rfl⟩
    exact Nat.one_pos

/-- Segments that are none of them empty and contain no slash are found again in
their path. -/
theorem pathSegments_pathText {uri : Uri} {segments : List String}
    (hpath : uri.path = pathText segments)
    (hsegments : ∀ segment ∈ segments, segment ≠ "" ∧ Avoids ['/', '?'] segment) :
    uri.pathSegments = segments := by
  have hpieces : pieces '/' (pathText segments).toList = segments.map String.toList := by
    have hplain := pieces_pathText 0 fun segment hsegment =>
      ⟨(hsegments segment hsegment).1,
        fun hslash => (hsegments segment hsegment).2 '/' hslash (by decide)⟩
    simpa using hplain
  unfold Uri.pathSegments
  rw [hpath, hpieces, List.map_map]
  simp

/-! ## Parsing -/

/-- The URI constructor takes an HTTPS address apart: its host up to the path,
its path up to the query. -/
def ParsesUris (E : Externals) : Prop :=
  ∀ (host : String) (segments : List String) (query : String),
    host ≠ "" → Avoids ['/', '?', ':'] host → host.toList.head? ≠ some '[' →
    segments ≠ [] → (∀ segment ∈ segments, segment ≠ "" ∧ Avoids ['/', '?'] segment) →
    (∀ c ∈ query.toList.head?, c = '?') →
    E.parseUri ("https://" ++ host ++ pathText segments ++ query) =
      { scheme := .https
        authority := host
        port := httpsDefaultPort
        path := pathText segments
        queryString := query }

/-- The scheme of an HTTPS address is split off. -/
theorem splitAtSeparator_https (rest : List Char) :
    splitAtSeparator ("https://".toList ++ rest) = some ("https".toList, rest) := by
  simp [splitAtSeparator]

/-- The reference parser takes HTTPS addresses apart. -/
theorem referenceParseUri_parses (decode : String → Except String BoltEndpoints) :
    ParsesUris (referenceExternals decode) := by
  intro host segments query _ hhost _ hne hsegments hquery
  obtain ⟨path, hpath⟩ : ∃ path, (pathText segments).toList = '/' :: path := by
    rw [pathText_toList]
    cases segments with
    | nil => exact absurd rfl hne
    | cons segment segments => exact ⟨_, rfl⟩
  have hpathFree : ∀ x ∈ '/' :: path, x ∉ ['?'] := by
    rw [← hpath, pathText_toList]
    intro x hx
    rcases List.mem_flatMap.mp hx with ⟨segment, hsegment, hx⟩
    rcases List.mem_cons.mp hx with rfl | hx
    · decide
    · exact fun hmem => (hsegments segment hsegment).2 x hx (List.mem_cons_of_mem _ hmem)
  have hqueryStop : ∀ x ∈ query.toList.head?, x ∈ ['?'] := by
    intro x hx
    simp [hquery x hx]
  have htext : ("https://" ++ host ++ pathText segments ++ query).toList =
      "https://".toList ++ (host.toList ++ ('/' :: path ++ query.toList)) := by
    simp [hpath]
  have hhostFree : ∀ x ∈ host.toList, x ∉ [':', '/', '?'] := by
    intro x hx
    have havoids := hhost x hx
    simp only [List.mem_cons, List.not_mem_nil, or_false, not_or] at havoids ⊢
    exact ⟨havoids.2.2, havoids.1, havoids.2.1⟩
  have hauthority : (host.toList ++ ('/' :: path ++ query.toList)).takeWhile
      (fun c => c ∉ [':', '/', '?']) = host.toList :=
    upTo_append hhostFree (by simp)
  have hbehind : ('/' :: path ++ query.toList).dropWhile (fun c => c ∉ ['/', '?']) =
      '/' :: path ++ query.toList := by
    simp
  have hpathPart : ('/' :: path ++ query.toList).takeWhile (· ≠ '?') = '/' :: path := by
    simpa [upTo] using upTo_append hpathFree hqueryStop
  have hscheme : "https".toList = ['h', 't', 't', 'p', 's'] := rfl
  have hpathString : String.ofList ('/' :: path) = pathText segments := by
    rw [← hpath, String.ofList_toList]
  simp only [referenceExternals, referenceParseUri, htext, splitAtSeparator_https, hauthority,
    List.drop_left, hbehind, hpathPart, hscheme, hpathString, String.ofList_toList]
  simp

/-! ## Printing -/

/-- {lit}`SchemeMapper::ToString`. -/
def Scheme.text : Scheme → String
  | .http => "http"
  | .https => "https"

/-- The port a URI string leaves out. -/
def Scheme.defaultPort : Scheme → Nat
  | .http => httpDefaultPort
  | .https => httpsDefaultPort

/-- The port in a URI string, printed when it is not the scheme's default. -/
def Uri.portText (uri : Uri) : String :=
  if uri.port = uri.scheme.defaultPort then "" else ":" ++ uri.port.repr

/-- {lit}`GetURIString` prints scheme, authority and port, and behind them some
text made from path and query, which is empty or starts with the mark of one of
the two. -/
structure PrintsUris (E : Externals) (target : String → String → String) : Prop where
  target_starts : ∀ path query, ∀ c ∈ (target path query).toList.head?, c ∈ ['/', '?']
  uriString_eq : ∀ uri, E.uriString uri =
    uri.scheme.text ++ "://" ++ uri.authority ++ uri.portText ++ target uri.path uri.queryString

/-- The port is printed as it is written in a URL. -/
theorem portText_toList (uri : Uri) :
    uri.portText.toList =
      marked ':' (writtenPort uri.scheme.text.toList uri.port) := by
  have hdefault : defaultPort uri.scheme.text.toList = some uri.scheme.defaultPort := by
    cases uri.scheme <;> rfl
  unfold Uri.portText writtenPort
  rw [hdefault]
  by_cases hport : uri.port = uri.scheme.defaultPort
  · simp [hport, marked]
  · have hne : ¬uri.scheme.defaultPort = uri.port := fun h => hport h.symm
    simp [hport, hne, marked]

/-- A printed URI is read with its authority as host and its port as effective
port, unless the authority contains a mark. -/
theorem readUrl_uriString {E : Externals} {target : String → String → String}
    (hprint : PrintsUris E target) {uri : Uri}
    (hauthority : Avoids ['/', '?', '#', '@', ':'] uri.authority) :
    ∃ u, readUrl (E.uriString uri).toList = some u ∧ u.host = uri.authority.toList ∧
      u.effectivePort = some uri.port := by
  let scheme := uri.scheme.text.toList
  let port := marked ':' (writtenPort scheme uri.port)
  let rest := (target uri.path uri.queryString).toList
  have htext : (E.uriString uri).toList =
      scheme ++ (':' :: '/' :: '/' :: (uri.authority.toList ++ port ++ rest)) := by
    rw [hprint.uriString_eq]
    simp [scheme, port, rest, portText_toList]
  have hscheme : ∀ x ∈ scheme, x ∉ [':', '/', '?', '#'] := by
    cases hs : uri.scheme <;> simp [scheme, hs, Scheme.text]
  have hfree : ∀ x ∈ uri.authority.toList ++ port, x ∉ ['/', '?', '#'] := by
    intro x hx
    rcases List.mem_append.mp hx with hx | hx
    · exact fun hmem => hauthority x hx (List.mem_append_left ['@', ':'] hmem)
    · exact marked_writtenPort_free x hx
  have hstop : ∀ x ∈ rest.head?, x ∈ ['/', '?', '#'] := fun x hx =>
    List.mem_append_left ['#'] (hprint.target_starts _ _ x hx)
  refine ⟨readBehindScheme scheme (uri.authority.toList ++ port ++ rest), ?_, ?_⟩
  · rw [htext, readUrl_append hscheme]
  · refine host_and_effectivePort_of_authority ?_ (upTo_append hfree hstop)
    exact fun x hx hmem => hauthority x hx (List.mem_append_right ['/', '?', '#'] hmem)

end BoltClient
