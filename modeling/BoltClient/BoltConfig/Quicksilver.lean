import BoltClient.BoltConfig.Refresh
import BoltClient.Sdk.UriText
import BoltClient.Library.PercentEncoding

/-!
# Asking quicksilver

A refresh asks quicksilver for the endpoint map: it puts zone and failing address
into an address, and judges the answer.  The address is put together by two
functions, of which the second always appends with {lit}`&`; the answer is judged
by transport error and body, not by its status code.

Main results:

- Theorem {lit}`refresh_installsUsableOnly_iff`: a refresh installs usable answers
  only exactly when it asks an address and the answer is not an error with a body
  that decodes.
- Theorem {lit}`request_asksQuicksilver_iff`: the address asked reads as intended
  exactly when no failing address is to be reported without a zone.

Current gaps:

- Redirects and retries of the transport are part of its answer.
-/

namespace BoltClient

open BoltClient.Library.UrlText
open BoltClient.Library.PercentEncoding

variable {E : Externals} {c : BoltConfig} {x : SelectInput} {errIp url : String}

/-! ## Judging the answer -/

/-- The status codes of success. -/
def Response.IsSuccess (r : Response) : Prop := 200 ≤ r.statusCode ∧ r.statusCode < 300

instance (r : Response) : Decidable r.IsSuccess :=
  inferInstanceAs (Decidable (_ ∧ _))

/-- The answer arrived, reports success, and decodes to the map. -/
structure Response.Usable (E : Externals) (r : Response) (endpoints : BoltEndpoints) : Prop where
  transport : r.errorCode = .ok
  status : r.IsSuccess
  body : E.decodeEndpoints r.text = .ok endpoints

/-- The answer arrived and decodes, but reports an error. -/
def Response.IsDecodableError (E : Externals) (r : Response) : Prop :=
  r.errorCode = .ok ∧ ¬r.IsSuccess ∧ ∃ endpoints, E.decodeEndpoints r.text = .ok endpoints

/-- {lit}`ExecuteRequest` returns a map when the answer arrived and decodes to
it. -/
theorem executeRequest_eq_ok_iff {http : String → Response} {endpoints : BoltEndpoints} :
    executeRequest E http url = .ok endpoints ↔
      (http url).errorCode = .ok ∧ E.decodeEndpoints (http url).text = .ok endpoints := by
  unfold executeRequest
  by_cases hcode : (http url).errorCode = .ok
  · cases hdecode : E.decodeEndpoints (http url).text <;> simp [hcode, hdecode]
  · simp [hcode]

/-- The address a refresh asks, if it asks one. -/
def BoltConfig.requestUrl (c : BoltConfig) (errIp : String) : String :=
  if errIp.length > 0 then c.quicksilverUrl ++ ("&err=" ++ errIp) else c.quicksilverUrl

/-- With an address and a region a fetch returns what {lit}`ExecuteRequest` does. -/
theorem getBoltEndpoints_of_set {http : String → Response} (hurl : c.quicksilverUrl ≠ "")
    (hregion : c.region ≠ "") :
    getBoltEndpoints E c http errIp =
      { request := some (c.requestUrl errIp)
        result := executeRequest E http (c.requestUrl errIp) } := by
  simp [getBoltEndpoints, hurl, hregion, BoltConfig.requestUrl]

/-- Without one of them it asks nobody and returns the empty map. -/
theorem getBoltEndpoints_of_unset {http : String → Response}
    (hunset : c.quicksilverUrl = "" ∨ c.region = "") :
    getBoltEndpoints E c http errIp = { request := none, result := .ok ∅ } := by
  simp [getBoltEndpoints, hunset]

/-- A refresh installs usable answers only: it installs the map of a usable answer
to the address it asks and sets the next refresh time; in every other case
{lit}`ExecuteRequest` throws, and map and refresh time are as before. -/
def InstallsUsableOnly (E : Externals) (c : BoltConfig) (x : SelectInput) (errIp : String) :
    Prop :=
  let after := (refreshBoltEndpoints E c x errIp).1
  let refresh := (refreshBoltEndpoints E c x errIp).2
  (∀ url endpoints, refresh.request = some url → (x.http url).Usable E endpoints →
    after.boltEndpoints = endpoints ∧
      after.refreshTime = x.refreshClock + E.seconds (60 + x.refreshRand % 120)) ∧
  ((∀ url endpoints, refresh.request = some url → ¬(x.http url).Usable E endpoints) →
    (∃ url e, refresh.request = some url ∧ executeRequest E x.http url = .error e ∧
      refresh.result = .error e) ∧
    after.boltEndpoints = c.boltEndpoints ∧ after.refreshTime = c.refreshTime)

/-- A refresh hands on the fetch it makes. -/
theorem refreshBoltEndpoints_refresh (E : Externals) (c : BoltConfig) (x : SelectInput)
    (errIp : String) :
    (refreshBoltEndpoints E c x errIp).2 = getBoltEndpoints E c x.http errIp := by
  unfold refreshBoltEndpoints
  cases hget : (getBoltEndpoints E c x.http errIp).result <;> simp [hget]

/-- A refresh that asks nobody does not throw. -/
theorem not_installsUsableOnly_of_unset (hunset : c.quicksilverUrl = "" ∨ c.region = "") :
    ¬InstallsUsableOnly E c x errIp := by
  intro h
  have hrefresh := refreshBoltEndpoints_refresh E c x errIp
  rw [getBoltEndpoints_of_unset hunset] at hrefresh
  have hnobody : ∀ url endpoints, (refreshBoltEndpoints E c x errIp).2.request = some url →
      ¬(x.http url).Usable E endpoints := by
    intro url endpoints hrequest
    rw [hrefresh] at hrequest
    cases hrequest
  rcases (h.2 hnobody).1 with ⟨url, e, hrequest, -, -⟩
  rw [hrefresh] at hrequest
  cases hrequest

section Asked

variable (hurl : c.quicksilverUrl ≠ "") (hregion : c.region ≠ "")
include hurl hregion

/-- A decodable error is installed like a usable answer. -/
theorem not_installsUsableOnly_of_error
    (herror : (x.http (c.requestUrl errIp)).IsDecodableError E) :
    ¬InstallsUsableOnly E c x errIp := by
  rcases herror with ⟨hcode, hstatus, endpoints, hdecode⟩
  intro h
  have hrefresh := refreshBoltEndpoints_refresh E c x errIp
  rw [getBoltEndpoints_of_set hurl hregion] at hrefresh
  have hunusable : ∀ url endpoints, (refreshBoltEndpoints E c x errIp).2.request = some url →
      ¬(x.http url).Usable E endpoints := by
    intro url endpoints hrequest husable
    rw [hrefresh] at hrequest
    rcases Option.some.inj hrequest with rfl
    exact hstatus husable.status
  rcases (h.2 hunusable).1 with ⟨url, e, hrequest, hthrew, -⟩
  rw [hrefresh] at hrequest
  rcases Option.some.inj hrequest with rfl
  rw [executeRequest_eq_ok_iff.mpr ⟨hcode, hdecode⟩] at hthrew
  cases hthrew

/-- Every other answer is installed if it is usable, and thrown away if it is not. -/
theorem installsUsableOnly_of_not_error
    (hnot : ¬(x.http (c.requestUrl errIp)).IsDecodableError E) :
    InstallsUsableOnly E c x errIp := by
  have hget : getBoltEndpoints E c x.http errIp =
      { request := some (c.requestUrl errIp)
        result := executeRequest E x.http (c.requestUrl errIp) } :=
    getBoltEndpoints_of_set hurl hregion
  have hrefresh := refreshBoltEndpoints_refresh E c x errIp
  rw [hget] at hrefresh
  constructor
  · intro url endpoints hrequest husable
    rw [hrefresh] at hrequest
    rcases Option.some.inj hrequest with rfl
    have hok := executeRequest_eq_ok_iff.mpr ⟨husable.transport, husable.body⟩
    simp [refreshBoltEndpoints, hget, hok]
  · intro hunusable
    rw [hrefresh] at hunusable ⊢
    cases hexecute : executeRequest E x.http (c.requestUrl errIp) with
    | error e =>
        refine ⟨⟨_, e, rfl, hexecute, rfl⟩, ?_⟩
        simp [refreshBoltEndpoints, hget, hexecute]
    | ok endpoints =>
        -- The answer was taken, so it arrived and decodes: its status is at fault.
        rcases executeRequest_eq_ok_iff.mp hexecute with ⟨hcode, hdecode⟩
        have hstatus : ¬(x.http (c.requestUrl errIp)).IsSuccess := fun hsuccess =>
          hunusable _ endpoints rfl ⟨hcode, hsuccess, hdecode⟩
        exact absurd ⟨hcode, hstatus, endpoints, hdecode⟩ hnot

end Asked

/-- A refresh installs usable answers only, exactly when there are an address and a
region, so that it asks, and the answer it gets is not an error with a body that
decodes. -/
theorem refresh_installsUsableOnly_iff (E : Externals) (c : BoltConfig) (x : SelectInput)
    (errIp : String) :
    InstallsUsableOnly E c x errIp ↔
      c.quicksilverUrl ≠ "" ∧ c.region ≠ "" ∧
        ¬(x.http (c.requestUrl errIp)).IsDecodableError E := by
  constructor
  · intro h
    have hset : c.quicksilverUrl ≠ "" ∧ c.region ≠ "" := by
      by_contra hunset
      rw [not_and_or, not_not, not_not] at hunset
      exact not_installsUsableOnly_of_unset hunset h
    refine ⟨hset.1, hset.2, fun herror => ?_⟩
    exact not_installsUsableOnly_of_error hset.1 hset.2 herror h
  · rintro ⟨hurl, hregion, hnot⟩
    exact installsUsableOnly_of_not_error hurl hregion hnot

/-- An error answer with an empty object as its body wipes a map that was
cached. -/
theorem error_answer_wipes_cache :
    ¬InstallsUsableOnly sampleExternals
      { sampleConfig with
        boltEndpoints := [⟨"main_read_endpoints", ["10.0.0.1"]⟩].toAList }
      (sampleInput 200000 { sampleResponse 3 with statusCode := 503 }) "" := by
  intro h
  have hstatus : ¬({ sampleResponse 3 with statusCode := 503 } : Response).IsSuccess := by decide
  have hkept := (h.2 fun _ _ _ husable => hstatus husable.status).2.1
  have hlost := congrArg (fun m : BoltEndpoints => m.entries.length) hkept
  exact absurd hlost (by decide)

/-! ## The address asked -/

/-- All characters of the text are unreserved. -/
abbrev AllUnreserved (text : String) : Prop := AllChars (fun ch => unreserved ch = true) text

/-- An unreserved text contains no mark. -/
theorem AllUnreserved.avoids {text : String} (h : AllUnreserved text) {marks : List Char}
    (hmarks : ∀ mark ∈ marks, unreserved mark = false) : Avoids marks text := by
  refine AllChars.imp h ?_
  intro ch hunreserved hmem
  rw [hmarks ch hmem] at hunreserved
  cases hunreserved

/-- The host of quicksilver. -/
def quicksilverHost (c : BoltConfig) : String :=
  "quicksilver." ++ c.region ++ "." ++ c.customDomain

/-- The parameters quicksilver is to be asked with: the zone and the failing
address, each if there is one. -/
def quicksilverParameters (zoneId errIp : String) : List (List Char × List Char) :=
  (if zoneId = "" then [] else [("az".toList, zoneId.toList)]) ++
    (if errIp = "" then [] else [("err".toList, errIp.toList)])

/-- The address asks quicksilver for the endpoints of a zone and reports a failing
address. -/
structure AsksQuicksilver (c : BoltConfig) (errIp : String) (u : UrlParts) : Prop where
  scheme : u.scheme = "https".toList
  host : u.host = (quicksilverHost c).toList
  path : u.path = "/services/bolt".toList
  parameters : parameters (u.query.getD []) = quicksilverParameters c.zoneId errIp

/-- The parts the address is put together from, when {lit}`stray` follows its path
and {lit}`query` is its query. -/
def quicksilverParts (c : BoltConfig) (stray : List Char) (query : Option (List Char)) :
    UrlParts where
  scheme := "https".toList
  authority := (quicksilverHost c).toList
  path := "/services/bolt".toList ++ stray
  query := query
  fragment := none

/-- The address that {lit}`CreateQuicksilverUrl` makes, and what is appended. -/
theorem quicksilverParts_text (c : BoltConfig) (stray : List Char) (query : Option (List Char)) :
    (quicksilverParts c stray query).text =
      (createQuicksilverUrl c.region "" c.customDomain).toList ++ stray ++ marked '?' query := by
  have hfront : "https://quicksilver.".toList =
      "https".toList ++ (':' :: '/' :: '/' :: "quicksilver.".toList) := by decide
  unfold createQuicksilverUrl UrlParts.text quicksilverParts quicksilverHost
  simp only [if_true, String.toList_append, hfront]
  simp [marked]

/-- What follows the path in the address asked. -/
def strayText (zoneId errIp : String) : List Char :=
  if zoneId = "" ∧ errIp ≠ "" then "&err=".toList ++ errIp.toList else []

/-- The query of the address asked. -/
def askedQuery (zoneId errIp : String) : Option (List Char) :=
  if zoneId = "" then none else some (queryText (quicksilverParameters zoneId errIp))

/-- The address asked, part by part: a failing address without a zone follows the
path. -/
theorem request_toList {http : String → Response}
    (hderived : c.quicksilverUrl = createQuicksilverUrl c.region c.zoneId c.customDomain)
    (hrequest : (getBoltEndpoints E c http errIp).request = some url) :
    url.toList = (quicksilverParts c (strayText c.zoneId errIp)
      (askedQuery c.zoneId errIp)).text := by
  have hlength : errIp.length > 0 ↔ errIp ≠ "" := by
    rw [gt_iff_lt, Nat.pos_iff_ne_zero, ne_eq, String.length_eq_zero_iff]
  rw [quicksilverParts_text]
  unfold getBoltEndpoints at hrequest
  split at hrequest
  · cases hrequest
  · rcases Option.some.inj hrequest with rfl
    rw [hderived]
    unfold createQuicksilverUrl strayText askedQuery quicksilverParameters
    have haz : "?az=".toList = '?' :: "az".toList ++ ['='] := by decide
    have herr : "&err=".toList = '&' :: "err".toList ++ ['='] := by decide
    by_cases hzone : c.zoneId = "" <;> by_cases hfailing : errIp = ""
    · simp [hzone, hfailing, marked]
    · simp [hlength, hzone, hfailing, marked]
    · simp [hzone, hfailing, marked, queryText, parameterText]
    · simp only [hlength, hzone, hfailing, if_true, if_false, ne_eq, not_false_eq_true,
        false_and, String.toList_append, String.toList_empty, haz, herr]
      simp [marked, queryText, parameterText]

section Reading

variable (hregion : AllUnreserved c.region) (hdomain : AllUnreserved c.customDomain)
include hregion hdomain

/-- The host has no mark in it. -/
theorem quicksilverHost_allUnreserved : AllUnreserved (quicksilverHost c) := by
  have hfront : AllUnreserved "quicksilver." := by decide
  have hdot : AllUnreserved "." := by decide
  exact ((hfront.append hregion).append hdot).append hdomain

/-- The parts are read again. -/
theorem readUrl_quicksilverParts {stray : List Char} {query : Option (List Char)}
    (hstray : ∀ ch ∈ stray, ch ∉ ['?', '#']) (hquery : ∀ q ∈ query, ∀ ch ∈ q, ch ∉ ['#']) :
    readUrl (quicksilverParts c stray query).text = some (quicksilverParts c stray query) ∧
      (quicksilverParts c stray query).host = (quicksilverHost c).toList := by
  have hhost := quicksilverHost_allUnreserved hregion hdomain
  constructor
  · refine readUrl_text
      { scheme_free := fun ch hch hmem => ?_
        authority_free := hhost.avoids (by decide)
        path_starts := fun ch hch => ?_
        path_free := fun ch hch => ?_
        query_free := hquery }
    · have hfree : ∀ ch ∈ "https".toList, ch ∉ [':', '/', '?', '#'] := by decide
      exact hfree ch hch hmem
    · have hslash : "/services/bolt".toList = '/' :: "services/bolt".toList := by decide
      have hstarts : ∀ ch ∈ ("/services/bolt".toList ++ stray).head?, ch = '/' := by
        rw [hslash]
        exact fun ch hch => (Option.some.inj hch).symm
      exact hstarts ch hch
    · have hfree : ∀ ch ∈ "/services/bolt".toList, ch ∉ ['?', '#'] := by decide
      exact (List.mem_append.mp hch).elim (hfree ch) (hstray ch)
  · have hread : readAuthority ((quicksilverHost c).toList ++ marked ':' none) =
        ⟨(quicksilverHost c).toList, none⟩ :=
      readAuthority_text (hhost.avoids (by decide)) (by simp)
    rw [marked, List.append_nil] at hread
    exact congrArg HostPort.host hread

end Reading

section Values

variable {zoneId : String} (herr : AllUnreserved errIp)
include herr

theorem strayText_free : ∀ ch ∈ strayText zoneId errIp, ch ∉ ['?', '#'] := by
  intro ch hch
  unfold strayText at hch
  split at hch
  · have hfree : ∀ ch ∈ "&err=".toList, ch ∉ ['?', '#'] := by decide
    exact (List.mem_append.mp hch).elim (hfree ch) (herr.avoids (by decide) ch)
  · cases hch

variable (hzone : AllUnreserved zoneId)
include hzone

/-- The parameters can be found again in the query. -/
theorem quicksilverParameters_free :
    ∀ p ∈ quicksilverParameters zoneId errIp,
      (∀ ch ∈ p.1, ch ∉ ['=', '&', '#']) ∧ ∀ ch ∈ p.2, ch ∉ ['&', '#'] := by
  have haz : ∀ ch ∈ "az".toList, ch ∉ ['=', '&', '#'] := by decide
  have herrName : ∀ ch ∈ "err".toList, ch ∉ ['=', '&', '#'] := by decide
  intro p hp
  rcases List.mem_append.mp hp with hp | hp
  · split at hp
    · cases hp
    · rcases List.mem_singleton.mp hp with rfl
      exact ⟨haz, hzone.avoids (by decide)⟩
  · split at hp
    · cases hp
    · rcases List.mem_singleton.mp hp with rfl
      exact ⟨herrName, herr.avoids (by decide)⟩

theorem askedQuery_free : ∀ q ∈ askedQuery zoneId errIp, ∀ ch ∈ q, ch ∉ ['#'] := by
  intro q hq ch hch hmem
  rcases List.mem_singleton.mp hmem with rfl
  unfold askedQuery at hq
  split at hq
  · cases hq
  · rcases Option.some.inj hq with rfl
    rcases mem_queryText '#' hch with hmark | ⟨p, hp, hname | hvalue⟩
    · exact absurd hmark (by decide)
    · exact (quicksilverParameters_free herr hzone p hp).1 '#' hname (by decide)
    · exact (quicksilverParameters_free herr hzone p hp).2 '#' hvalue (by decide)

/-- Zone and failing address are found in the query asked, unless the failing
address is left out of it. -/
theorem parameters_askedQuery (hreported : errIp = "" ∨ zoneId ≠ "") :
    parameters ((askedQuery zoneId errIp).getD []) = quicksilverParameters zoneId errIp := by
  unfold askedQuery
  by_cases hnone : zoneId = ""
  · have hfailing : errIp = "" := hreported.resolve_right fun h => h hnone
    simp [hnone, hfailing, quicksilverParameters, parameters]
  · rw [if_neg hnone]
    refine parameters_queryText fun p hp => ?_
    rcases quicksilverParameters_free herr hzone p hp with ⟨hname, hvalue⟩
    refine ⟨fun ch hch hmem => hname ch hch (List.mem_append_left ['#'] hmem), ?_⟩
    exact fun hmem => hvalue '&' hmem (by decide)

end Values

/-- Whenever quicksilver is asked after a reset, the address reads as intended. -/
def RequestAsksQuicksilver (E : Externals) (c : BoltConfig) (http : String → Response)
    (errIp : String) : Prop :=
  ∀ url, (getBoltEndpoints E c http errIp).request = some url →
    ∃ u, readUrl url.toList = some u ∧ AsksQuicksilver c errIp u

section AfterReset

variable {http : String → Response}
  (hderived : c.quicksilverUrl = createQuicksilverUrl c.region c.zoneId c.customDomain)
  (hregion : AllUnreserved c.region) (hdomain : AllUnreserved c.customDomain)
  (hzone : AllUnreserved c.zoneId) (herr : AllUnreserved errIp)
include hderived hregion hdomain hzone herr

/-- The address asked is read as the parts it is put together from. -/
theorem readUrl_request (hrequest : (getBoltEndpoints E c http errIp).request = some url) :
    readUrl url.toList =
        some (quicksilverParts c (strayText c.zoneId errIp) (askedQuery c.zoneId errIp)) ∧
      (quicksilverParts c (strayText c.zoneId errIp) (askedQuery c.zoneId errIp)).host =
        (quicksilverHost c).toList := by
  have hstray : ∀ ch ∈ strayText c.zoneId errIp, ch ∉ ['?', '#'] := strayText_free herr
  rw [request_toList hderived hrequest]
  exact readUrl_quicksilverParts hregion hdomain hstray (askedQuery_free herr hzone)

/-- Quicksilver is asked as intended when no failing address is to be reported
without a zone. -/
theorem asksQuicksilver_of_reported (hreported : errIp = "" ∨ c.zoneId ≠ "") :
    RequestAsksQuicksilver E c http errIp := by
  intro url hrequest
  rcases readUrl_request hderived hregion hdomain hzone herr hrequest with ⟨hread, hhost⟩
  have hstray : strayText c.zoneId errIp = [] := by
    rcases hreported with hfailing | hnamed
    · simp [strayText, hfailing]
    · simp [strayText, hnamed]
  exact ⟨_, hread,
    { scheme := rfl
      host := hhost
      path := by
        rw [hstray]
        rfl
      parameters := parameters_askedQuery herr hzone hreported }⟩

/-- A failing address that is to be reported without a zone is appended to the
path. -/
theorem not_asksQuicksilver_of_unreported (hset : c.region ≠ "") (hfailing : errIp ≠ "")
    (hnone : c.zoneId = "") : ¬RequestAsksQuicksilver E c http errIp := by
  intro h
  have hurl : c.quicksilverUrl ≠ "" := by
    rw [hderived]
    exact createQuicksilverUrl_ne_empty _ _ _
  obtain ⟨url, hrequest⟩ : ∃ url, (getBoltEndpoints E c http errIp).request = some url := by
    simp [getBoltEndpoints, hset, hurl]
  rcases h url hrequest with ⟨u, hu, hasks⟩
  rw [(readUrl_request hderived hregion hdomain hzone herr hrequest).1] at hu
  have hpath : "/services/bolt".toList ++ strayText c.zoneId errIp = "/services/bolt".toList :=
    (congrArg UrlParts.path (Option.some.inj hu)).trans hasks.path
  have hstray : strayText c.zoneId errIp = [] := List.append_right_eq_self.mp hpath
  simp [strayText, hnone, hfailing] at hstray

end AfterReset

/-- After a reset, quicksilver is asked as intended exactly when no failing
address is to be reported without a zone, or nothing is asked because there is no
region. -/
theorem request_asksQuicksilver_iff {http : String → Response} {answers : InstanceMetadata}
    (hregion : AllUnreserved (c.reset answers).region)
    (hdomain : AllUnreserved (c.reset answers).customDomain)
    (hzone : AllUnreserved (c.reset answers).zoneId) (herr : AllUnreserved errIp) :
    RequestAsksQuicksilver E (c.reset answers) http errIp ↔
      (c.reset answers).region = "" ∨ errIp = "" ∨ (c.reset answers).zoneId ≠ "" := by
  have hderived := (c.reset_derived answers).2
  constructor
  · intro h
    by_contra hbad
    simp only [not_or, not_not] at hbad
    rcases hbad with ⟨hset, hfailing, hnone⟩
    exact not_asksQuicksilver_of_unreported hderived hregion hdomain hzone herr hset hfailing
      hnone h
  · rintro (hunset | hreported)
    · intro url hrequest
      simp [getBoltEndpoints, hunset] at hrequest
    · exact asksQuicksilver_of_reported hderived hregion hdomain hzone herr hreported

/-- In a zone, the address reports a failing one as intended. -/
theorem sample_request_asksQuicksilver :
    RequestAsksQuicksilver sampleExternals (sampleConfig.reset ⟨"us-west-2", "usw2-az1"⟩)
      (fun _ => sampleResponse 0) "10.0.0.1" :=
  (request_asksQuicksilver_iff (by decide) (by decide) (by decide) (by decide)).mpr (by decide)

/-- Without a zone the failing address ends up in the path. -/
theorem failing_address_in_path :
    ¬RequestAsksQuicksilver sampleExternals
      (({ sampleConfig with zoneId := "" } : BoltConfig).reset ⟨"us-west-2", ""⟩)
      (fun _ => sampleResponse 0) "10.0.0.1" := by
  intro h
  rcases h "https://quicksilver.us-east-1.example.com/services/bolt&err=10.0.0.1" (by rfl) with
    ⟨u, hu, hasks⟩
  have hpath : (readUrl
      "https://quicksilver.us-east-1.example.com/services/bolt&err=10.0.0.1".toList).map
        UrlParts.path = some "/services/bolt&err=10.0.0.1".toList := by decide
  rw [hu, Option.map_some, hasks.path] at hpath
  exact absurd hpath (by decide)

end BoltClient
