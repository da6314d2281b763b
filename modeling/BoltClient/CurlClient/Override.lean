import BoltClient.CurlClient
import BoltClient.Sdk.UriText

/-!
# Where an overridden connection goes

The override gives libcurl two strings: a URL with the Bolt host name, and an
entry that resolves this name on one port to the selected address.  libcurl uses
the entry for connections to its host and port only.  The entry is written for
port 443, the URL keeps scheme and port of the stored endpoint.

Main results:

- Theorem {lit}`readResolveEntry_resolveEntry`: what libcurl reads in the entry.
- Theorem {lit}`override_connects_iff`: the entry applies to the URL exactly when
  the stored endpoint is on port 443 and the host name contains no mark.

Current gaps:

- libcurl's own check of the URL is left out.
-/

namespace BoltClient

open BoltClient.Library.UrlText

/-! ## Entries of the resolver -/

/-- An entry of {lit}`CURLOPT_RESOLVE`: connections to host and port go to the
address. -/
structure ResolveEntry where
  host : List Char
  port : Nat
  address : List Char

/-- Read an entry {lit}`HOST:PORT:ADDRESS`. -/
def readResolveEntry (entry : List Char) : ResolveEntry :=
  let behindHost := (unmarked (startingAt [':'] entry)).getD []
  { host := upTo [':'] entry
    port := Nat.ofDigitChars 10 (upTo [':'] behindHost) 0
    address := (unmarked (startingAt [':'] behindHost)).getD [] }

/-- The entry of the override stands for port 443 of the host name. -/
theorem readResolveEntry_resolveEntry {hostName : String} (authority : String)
    (hname : Avoids ['/', ':'] hostName) :
    readResolveEntry (resolveEntry hostName authority).toList =
      { host := hostName.toList
        port := 443
        address := authority.toList } := by
  have htext : (resolveEntry hostName authority).toList =
      hostName.toList ++ (':' :: ("443".toList ++ (':' :: authority.toList))) := by
    have hport : ":443:".toList = ':' :: ("443".toList ++ [':']) := by decide
    unfold resolveEntry
    rw [String.toList_append, String.toList_append, hport]
    simp
  have hhost : ∀ ch ∈ hostName.toList, ch ∉ [':'] := fun ch hch hmem =>
    hname ch hch (List.mem_cons_of_mem '/' hmem)
  have hport : ∀ ch ∈ "443".toList, ch ∉ [':'] := by decide
  have hstop : ∀ rest : List Char, ∀ ch ∈ (':' :: rest).head?, ch ∈ [':'] := by
    intro rest ch hch
    simp [← Option.some.inj hch]
  unfold readResolveEntry
  simp only [htext, upTo_append hhost (hstop _), startingAt_append hhost (hstop _), unmarked,
    Option.getD_some, upTo_append hport (hstop _), startingAt_append hport (hstop _)]
  rfl

/-! ## The override -/

/-- The entry set on the handle applies to the connection its URL opens, which
goes to the selected address, and the URL is the request's up to the authority. -/
structure ConnectsToSelected (s : Statics) (requestUrl : String) (handle : CurlHandle) :
    Prop where
  entry_applies : ∃ entry u, handle.resolve = [entry] ∧ readUrl handle.url.toList = some u ∧
    (readResolveEntry entry.toList).host = u.host ∧
    u.effectivePort = some (readResolveEntry entry.toList).port ∧
    (readResolveEntry entry.toList).address = s.selectedBoltEndpoint.authority.toList
  authority_only : ∃ back,
    requestUrl = s.selectedBoltEndpoint.scheme.text ++ "://" ++
      s.selectedBoltEndpoint.authority ++ back ∧
    handle.url = s.selectedBoltEndpoint.scheme.text ++ "://" ++ s.config.boltHostName ++ back

/-- Whenever the override is made, it connects to the selected endpoint. -/
def OverrideConnects (E : Externals) (s : Statics) (requestUrl : String) (handle : CurlHandle) :
    Prop :=
  E.uriString s.selectedBoltEndpoint = requestUrl →
    ConnectsToSelected s requestUrl
      (overrideOptionsOnConnectionHandle E s (some requestUrl) handle)

variable {E : Externals} {target : String → String → String} {s : Statics}

/-- The URL of the override is read with host name and stored port, unless the
host name contains a mark. -/
theorem readUrl_overridden (hprint : PrintsUris E target)
    (hname : Avoids ['/', ':'] s.config.boltHostName)
    (hmarks : Avoids ['?', '#', '@'] s.config.boltHostName) :
    ∃ u, readUrl (E.uriString
        (s.selectedBoltEndpoint.setAuthority s.config.boltHostName)).toList = some u ∧
      u.host = s.config.boltHostName.toList ∧
      u.effectivePort = some s.selectedBoltEndpoint.port := by
  have hall : Avoids ['/', '?', '#', '@', ':'] s.config.boltHostName :=
    hname.cover hmarks (by decide)
  rw [← Uri.setAuthority_authority s.selectedBoltEndpoint s.config.boltHostName] at hall
  exact readUrl_uriString hprint hall

/-- Both URLs are scheme, authority, and the same text behind it. -/
theorem uriString_setAuthority (hprint : PrintsUris E target) (uri : Uri) (hostName : String) :
    ∃ back, E.uriString uri = uri.scheme.text ++ "://" ++ uri.authority ++ back ∧
      E.uriString (uri.setAuthority hostName) = uri.scheme.text ++ "://" ++ hostName ++ back := by
  refine ⟨uri.portText ++ target uri.path uri.queryString, ?_, ?_⟩
  · rw [hprint.uriString_eq, String.append_assoc]
  · rw [hprint.uriString_eq, String.append_assoc]
    rfl

/-- A made override connects exactly when the stored endpoint is on port 443 and
the host name contains no mark. -/
theorem connectsToSelected_iff (hprint : PrintsUris E target)
    (hname : Avoids ['/', ':'] s.config.boltHostName) :
    ConnectsToSelected s (E.uriString s.selectedBoltEndpoint)
        { url := E.uriString (s.selectedBoltEndpoint.setAuthority s.config.boltHostName)
          resolve :=
            [resolveEntry s.config.boltHostName s.selectedBoltEndpoint.authority] } ↔
      s.selectedBoltEndpoint.port = 443 ∧ Avoids ['?', '#', '@'] s.config.boltHostName := by
  have hentry := readResolveEntry_resolveEntry s.selectedBoltEndpoint.authority hname
  constructor
  · intro h
    rcases h.entry_applies with ⟨entry, u, hresolve, hread, hhost, hport, -⟩
    have heq : resolveEntry s.config.boltHostName s.selectedBoltEndpoint.authority = entry :=
      (List.cons.inj hresolve).1
    rw [← heq, hentry] at hhost hport
    -- The host read is the whole host name, and no host that is read contains a mark.
    have hmarks : Avoids ['?', '#', '@'] s.config.boltHostName := by
      have hsubset : ∀ mark ∈ ['?', '#', '@'], mark ∈ ['/', '?', '#', '@', ':'] := by decide
      intro ch hch hmem
      exact host_free_of_readUrl hread ch (hhost ▸ hch) (hsubset ch hmem)
    rcases readUrl_overridden hprint hname hmarks with ⟨u', hread', -, hport'⟩
    have hu : u = u' := Option.some.inj (hread.symm.trans hread')
    rw [hu, hport'] at hport
    exact ⟨Option.some.inj hport, hmarks⟩
  · rintro ⟨hport, hmarks⟩
    rcases readUrl_overridden hprint hname hmarks with ⟨u, hread, hhost, heffective⟩
    refine ⟨⟨_, u, rfl, hread, ?_, ?_, ?_⟩, uriString_setAuthority hprint _ _⟩
    · rw [hentry, hhost]
    · rw [hentry, heffective, hport]
    · rw [hentry]

/-- The override connects to the selected endpoint exactly when, where it is made,
the stored endpoint is on port 443 and the host name contains no mark. -/
theorem override_connects_iff (hprint : PrintsUris E target)
    (hname : Avoids ['/', ':'] s.config.boltHostName) (requestUrl : String)
    (handle : CurlHandle) :
    OverrideConnects E s requestUrl handle ↔
      (E.uriString s.selectedBoltEndpoint = requestUrl →
        s.selectedBoltEndpoint.port = 443 ∧ Avoids ['?', '#', '@'] s.config.boltHostName) := by
  unfold OverrideConnects
  refine forall_congr' fun hmatch => ?_
  rw [override_of_match handle hmatch, ← hmatch]
  exact connectsToSelected_iff hprint hname

/-! ## Sample inputs -/

/-- A text behind its mark, which is added where it is missing. -/
def withMark (mark : Char) (text : String) : String :=
  if text.toList.head?.all (· = mark) then text else String.ofList (mark :: text.toList)

/-- Path and query as they are printed. -/
def sampleTarget (path queryString : String) : String :=
  withMark '/' path ++ withMark '?' queryString

/-- The libraries with a printer that puts marks in front of path and query. -/
def printingExternals : Externals :=
  { sampleExternals with
    uriString := fun uri =>
      uri.scheme.text ++ "://" ++ uri.authority ++ uri.portText ++
        sampleTarget uri.path uri.queryString }

theorem withMark_head? {mark : Char} {text : String} :
    ∀ c ∈ (withMark mark text).toList.head?, c = mark := by
  unfold withMark
  split
  · next h =>
    intro c hc
    rw [Option.mem_def.mp hc] at h
    simpa using h
  · intro c hc
    simpa [eq_comm] using hc

/-- The printer behaves as documented. -/
theorem printingExternals_prints : PrintsUris printingExternals sampleTarget where
  target_starts := by
    intro path queryString c hc
    unfold sampleTarget at hc
    rw [String.toList_append, List.head?_append] at hc
    rcases Option.or_eq_some_iff.mp hc with hpath | ⟨-, hquery⟩
    · simp [withMark_head? c hpath]
    · simp [withMark_head? c hquery]
  uriString_eq := fun _ => rfl

/-- A process that has signed a request for the given endpoint. -/
def sampleStoredStatics (uri : Uri) : Statics where
  config := sampleConfig
  selectedBoltEndpoint := uri

/-- The override for an HTTPS request on the default port is made, and connects to
the selected endpoint. -/
theorem sample_override_connects :
    printingExternals.uriString ⟨.https, "10.0.0.1", 443, "/bucket/key", "?versionId=7"⟩ =
        "https://10.0.0.1/bucket/key?versionId=7" ∧
      OverrideConnects printingExternals
        (sampleStoredStatics ⟨.https, "10.0.0.1", 443, "/bucket/key", "?versionId=7"⟩)
        "https://10.0.0.1/bucket/key?versionId=7"
        (.forUrl "https://10.0.0.1/bucket/key?versionId=7") :=
  ⟨by decide, (override_connects_iff printingExternals_prints (by decide) _ _).mpr
    fun _ => ⟨rfl, by decide⟩⟩

/-- An HTTP request keeps its port, for which there is no entry. -/
theorem http_override_not_connected :
    ¬OverrideConnects printingExternals
      (sampleStoredStatics ⟨.http, "10.0.0.1", 80, "/bucket/key", ""⟩)
      "http://10.0.0.1/bucket/key" (.forUrl "http://10.0.0.1/bucket/key") := by
  intro h
  have hmatch : printingExternals.uriString ⟨.http, "10.0.0.1", 80, "/bucket/key", ""⟩ =
      "http://10.0.0.1/bucket/key" := by decide
  have hconnects := h hmatch
  rw [override_of_match _ hmatch, ← hmatch] at hconnects
  have hport := ((connectsToSelected_iff printingExternals_prints (by decide)).mp hconnects).1
  exact absurd hport (by decide)

end BoltClient
