import BoltClient.Signer

/-!
# BoltCurlHttpClient: the connection override

This file translates {lit}`bolt_s3_curl_client.cpp`.  Before a request is sent
the client may redirect its connection: the URL gets the Bolt host name, for the
certificate, and the resolver is told to take that name for the selected
endpoint.  Whether the connection belongs to a Bolt request is found out by
comparing its URL with the shared variable {lit}`selectedBoltEndpoint`.

Main results:

- Theorems {lit}`override_of_match` and {lit}`override_of_mismatch`: the override
  is made for the URL stored in the shared variable and for no other.

Current gaps:

- Other options of a curl handle are left out.
-/

namespace BoltClient

/-- The options of a curl handle that the override sets: {lit}`CURLOPT_URL` and
{lit}`CURLOPT_RESOLVE`. -/
structure CurlHandle where
  url : String
  resolve : List String
deriving DecidableEq, Repr

/-- A handle on which only the URL has been set. -/
def CurlHandle.forUrl (url : String) : CurlHandle := ⟨url, []⟩

/-- The resolver entry that takes a host name for an address on port 443. -/
def resolveEntry (hostName authority : String) : String := hostName ++ ":443:" ++ authority

/-- {lit}`BoltCurlHttpClient::OverrideOptionsOnConnectionHandle`, given what
{lit}`curl_easy_getinfo` reports as the effective URL: nothing when it fails or
reports the null pointer. -/
def overrideOptionsOnConnectionHandle (E : Externals) (s : Statics)
    (effectiveUrl : Option String) (connectionHandle : CurlHandle) : CurlHandle :=
  let boltHostName := s.config.boltHostName
  let boltEndpoint := s.selectedBoltEndpoint
  match effectiveUrl with
  | none => connectionHandle
  | some requestUrl =>
      if E.uriString boltEndpoint = requestUrl then
        { connectionHandle with
          resolve := [resolveEntry boltHostName boltEndpoint.authority]
          url := E.uriString (boltEndpoint.setAuthority boltHostName) }
      else connectionHandle

variable {E : Externals} {s : Statics} {requestUrl : String}

/-- The override is made for the stored endpoint. -/
theorem override_of_match (handle : CurlHandle)
    (h : E.uriString s.selectedBoltEndpoint = requestUrl) :
    overrideOptionsOnConnectionHandle E s (some requestUrl) handle =
      { url := E.uriString (s.selectedBoltEndpoint.setAuthority s.config.boltHostName)
        resolve := [resolveEntry s.config.boltHostName s.selectedBoltEndpoint.authority] } := by
  simp [overrideOptionsOnConnectionHandle, h]

/-- Every other connection is left alone. -/
theorem override_of_mismatch (handle : CurlHandle)
    (h : E.uriString s.selectedBoltEndpoint ≠ requestUrl) :
    overrideOptionsOnConnectionHandle E s (some requestUrl) handle = handle := by
  simp [overrideOptionsOnConnectionHandle, h]

/-- A connection is changed exactly when its URL is that of the stored endpoint. -/
theorem override_ne_iff (E : Externals) (s : Statics) (url : String) :
    overrideOptionsOnConnectionHandle E s (some url) (.forUrl url) ≠ .forUrl url ↔
      E.uriString s.selectedBoltEndpoint = url := by
  constructor
  · intro hchanged
    by_contra hurl
    exact hchanged (override_of_mismatch _ hurl)
  · intro hurl hsame
    rw [override_of_match _ hurl] at hsame
    cases congrArg CurlHandle.resolve hsame

/-- The override that a request signed as {lit}`uri` needs: its address pinned
under the Bolt host name, and that name in its URL. -/
def pinnedHandle (E : Externals) (hostName : String) (uri : Uri) : CurlHandle where
  url := E.uriString (uri.setAuthority hostName)
  resolve := [resolveEntry hostName uri.authority]

/-- The two URIs look the same to the override: they print alike, name the same
address, and print alike once that is replaced by the host name. -/
def Interchangeable (E : Externals) (hostName : String) (stored uri : Uri) : Prop :=
  E.uriString stored = E.uriString uri ∧ stored.authority = uri.authority ∧
    E.uriString (stored.setAuthority hostName) = E.uriString (uri.setAuthority hostName)

/-- Entries for one host name differ as their addresses do. -/
theorem resolveEntry_inj {hostName authority authority' : String} :
    resolveEntry hostName authority = resolveEntry hostName authority' ↔
      authority = authority' := by
  unfold resolveEntry
  exact String.append_right_inj _

/-- A connection opened for {lit}`uri` is pinned to the address of {lit}`uri`
exactly when the stored endpoint is interchangeable with it. -/
theorem override_pins_iff (E : Externals) (s : Statics) (uri : Uri) :
    overrideOptionsOnConnectionHandle E s (some (E.uriString uri))
        (.forUrl (E.uriString uri)) = pinnedHandle E s.config.boltHostName uri ↔
      Interchangeable E s.config.boltHostName s.selectedBoltEndpoint uri := by
  by_cases hmatch : E.uriString s.selectedBoltEndpoint = E.uriString uri
  · rw [override_of_match _ hmatch]
    simp only [pinnedHandle, CurlHandle.mk.injEq, List.cons.injEq, and_true, resolveEntry_inj,
      Interchangeable, hmatch, true_and]
    exact and_comm
  · rw [override_of_mismatch _ hmatch]
    refine iff_of_false ?_ fun h => hmatch h.1
    intro h
    have hresolve := congrArg CurlHandle.resolve h
    cases hresolve

end BoltClient
