import BoltClient.Signer.SplitString
import BoltClient.Sdk.UriText

/-!
# The object the surrogate request names

The signer recovers the bucket from a path that also holds the key, puts it into
the text of an address and has the SDK parse that text again.  A key is whatever
the caller's user chose, so nothing in it may reach the address.

Main results:

- Theorem {lit}`sourceBucket_of_pathStyle`: the bucket of a path-style path is
  found, whatever its key.
- Theorem {lit}`createBoltHeadRequest_contract`: the surrogate request names the
  object of that bucket, or of the configured one, and depends on nothing else
  but prefix and token.

Current gaps:

- Addresses in which a bucket contains a slash or a question mark are not
  described.
-/

namespace BoltClient

open BoltClient.Library.Pieces
open BoltClient.Library.UrlText

/-! ## The bucket of a path -/

/-- A path that starts with the bucket, alone or with a key behind it. -/
def PathStyle (bucket path : String) : Prop :=
  path = "/" ++ bucket ∨ ∃ key, path = "/" ++ bucket ++ "/" ++ key

/-- Behind the bucket the path ends or goes on with a slash. -/
theorem PathStyle.toList_eq {bucket path : String} (h : PathStyle bucket path) :
    ∃ rest : List Char, path.toList = '/' :: (bucket.toList ++ rest) ∧
      ∀ x ∈ rest.head?, x = '/' := by
  rcases h with rfl | ⟨key, rfl⟩
  · exact ⟨[], by simp, by simp⟩
  · exact ⟨'/' :: key.toList, by simp, by simp [eq_comm]⟩

/-- The surrogate request names the object under the prefix in the given bucket:
on the host of the region, with these path segments and without a query. -/
def NamesObject (E : Externals) (c : BoltConfig) (request : HttpRequest)
    (authPrefix bucket : String) : Prop :=
  let uri := (createBoltHeadRequest E c request authPrefix).uri
  uri.authority = "s3." ++ c.region ++ ".amazonaws.com" ∧
    uri.pathSegments = [bucket, authPrefix, "auth"] ∧ uri.queryString = ""

variable {E : Externals} {c : BoltConfig} {bucket path authPrefix : String}

/-- The first piece of a path-style path is its bucket, whatever the key. -/
theorem sourceBucket_of_pathStyle (hauth : c.authBucket = "") (hne : bucket ≠ "")
    (hfree : Avoids ['/', '?'] bucket) (hpath : PathStyle bucket path) :
    sourceBucket c path = bucket := by
  rcases hpath.toList_eq with ⟨rest, htext, hstops⟩
  have hslash : '/' ∉ bucket.toList := fun hmem => hfree '/' hmem (by decide)
  have hpieces : splitString path '/' = bucket :: (pieces '/' rest).map String.ofList := by
    rw [splitString_eq_pieces, htext, pieces_cons_sep,
      pieces_append_of_stops (by simpa using hne) hslash hstops]
    simp
  simp [sourceBucket, hauth, hpieces]

/-- A path without segments stands for the dummy bucket. -/
theorem sourceBucket_of_no_segment {uri : Uri} (hauth : c.authBucket = "")
    (hnone : uri.pathSegments = []) : sourceBucket c uri.path = "n-auth-dummy" := by
  have hpieces : splitString uri.path '/' = [] := by
    rw [splitString_eq_pieces]
    exact hnone
  simp [sourceBucket, hauth, hpieces]

/-- There always is a source bucket. -/
theorem sourceBucket_ne_empty (c : BoltConfig) (path : String) : sourceBucket c path ≠ "" := by
  unfold sourceBucket
  split
  · next hauth => exact hauth
  · split
    · next first rest hpieces =>
      have hmem : first ∈ splitString path '/' := by simp [hpieces]
      exact ((splitString_splitsInto path '/').nonempty_free first hmem).1
    · decide

/-! ## The address, printed and parsed -/

/-- The host of the surrogate request. -/
def headObjectHost (c : BoltConfig) : String := "s3." ++ c.region ++ ".amazonaws.com"

/-- The host has no mark in it unless the region has. -/
theorem headObjectHost_avoids (hregion : Avoids ['/', '?', ':'] c.region) :
    Avoids ['/', '?', ':'] (headObjectHost c) := by
  have hfront : Avoids ['/', '?', ':'] "s3." := by decide
  have hback : Avoids ['/', '?', ':'] ".amazonaws.com" := by decide
  exact (hfront.append hregion).append hback

/-- The address is the text of a host and three segments. -/
theorem headObjectUrl_eq_text (c : BoltConfig) (path authPrefix : String) :
    headObjectUrl c path authPrefix = "https://" ++ headObjectHost c ++
      pathText [sourceBucket c path, authPrefix, "auth"] ++ "" := by
  have hfront : "https://s3." = "https://" ++ "s3." := by decide
  have hhost : ".amazonaws.com/" = ".amazonaws.com" ++ "/" := by decide
  have hauth : "/auth" = "/" ++ "auth" := by decide
  unfold headObjectUrl headObjectHost
  rw [hfront, hhost, hauth]
  simp only [pathText, List.map_cons, List.map_nil, String.join_cons, String.join_nil,
    String.append_assoc, String.append_empty]

/-- The segments of the address can be found again when those that vary can. -/
theorem headObject_segments (hbucket : bucket ≠ "" ∧ Avoids ['/', '?'] bucket)
    (hletters : authPrefix ≠ "" ∧ Avoids ['/', '?'] authPrefix) :
    ∀ segment ∈ [bucket, authPrefix, "auth"], segment ≠ "" ∧ Avoids ['/', '?'] segment := by
  intro segment hmem
  simp only [List.mem_cons, List.not_mem_nil, or_false] at hmem
  rcases hmem with rfl | rfl | rfl
  · exact hbucket
  · exact hletters
  · decide

section Parsed

variable {request : HttpRequest} (hparse : ParsesUris E)
  (hregion : Avoids ['/', '?', ':'] c.region)
  (hbucket : sourceBucket c request.uri.path = bucket)
  (hfree : bucket ≠ "" ∧ Avoids ['/', '?'] bucket)
  (hletters : authPrefix ≠ "" ∧ Avoids ['/', '?'] authPrefix)
include hparse hregion hbucket hfree hletters

/-- The address of the surrogate request parses as what it was put together
from. -/
theorem createBoltHeadRequest_uri_eq :
    (createBoltHeadRequest E c request authPrefix).uri =
      { scheme := .https
        authority := headObjectHost c
        port := httpsDefaultPort
        path := pathText [bucket, authPrefix, "auth"]
        queryString := "" } := by
  have hne : headObjectHost c ≠ "" := by
    intro h
    have hnil := congrArg String.toList h
    simp [headObjectHost] at hnil
  have hbracket : (headObjectHost c).toList.head? ≠ some '[' := by
    simp [headObjectHost]
  rw [createBoltHeadRequest_uri, headObjectUrl_eq_text, hbucket]
  exact hparse _ _ _ hne (headObjectHost_avoids hregion) hbracket (List.cons_ne_nil _ _)
    (headObject_segments hfree hletters) (by simp)

/-- The surrogate request names the object in its source bucket. -/
theorem namesObject_of_sourceBucket : NamesObject E c request authPrefix bucket := by
  have huri := createBoltHeadRequest_uri_eq hparse hregion hbucket hfree hletters
  unfold NamesObject
  rw [huri]
  exact ⟨rfl, pathSegments_pathText rfl (headObject_segments hfree hletters), rfl⟩

end Parsed

/-! ## What the surrogate request depends on -/

/-- A prefix of lower-case letters, as {lit}`getRandomString` makes them. -/
def IsAuthPrefix (authPrefix : String) : Prop :=
  authPrefix ≠ "" ∧ AllChars (fun ch => ch.isLower = true) authPrefix

theorem IsAuthPrefix.avoids (h : IsAuthPrefix authPrefix) :
    authPrefix ≠ "" ∧ Avoids ['/', '?'] authPrefix := by
  have hmark : ∀ mark ∈ ['/', '?'], mark.isLower = false := by decide
  refine ⟨h.1, h.2.imp ?_⟩
  intro ch hlower hmem
  rw [hmark ch hmem] at hlower
  cases hlower

/-- The prefixes the signer draws are such prefixes. -/
theorem getRandomString_isAuthPrefix (rand : Nat → Nat) :
    IsAuthPrefix (getRandomString rand) := by
  have halpha : ∀ ch ∈ alpha, ch.isLower = true := by decide
  constructor
  · intro h
    have hlength := congrArg String.length h
    simp [getRandomString] at hlength
  · intro ch hch
    simp only [getRandomString, String.toList_ofList, List.mem_map] at hch
    rcases hch with ⟨i, -, rfl⟩
    exact halpha _ (List.get_mem _ _)

/-- Requests for the same bucket with the same token have the same surrogate
request. -/
theorem createBoltHeadRequest_congr {request request' : HttpRequest}
    (hbucket : sourceBucket c request.uri.path = sourceBucket c request'.uri.path)
    (htoken : request.headers "x-amz-security-token" = request'.headers "x-amz-security-token") :
    createBoltHeadRequest E c request authPrefix =
      createBoltHeadRequest E c request' authPrefix := by
  unfold createBoltHeadRequest headObjectUrl copyHeader
  rw [hbucket, htoken]

/-- What the surrogate request names: without a configured bucket the bucket of a
path-style path, whatever its key, and the dummy bucket for a path without
segments; otherwise the configured bucket; and nothing of a request but bucket
and token goes into it. -/
structure SurrogateContract (E : Externals) (c : BoltConfig) (authPrefix : String) : Prop where
  path_bucket : c.authBucket = "" → ∀ request bucket, bucket ≠ "" → Avoids ['/', '?'] bucket →
    PathStyle bucket request.uri.path → NamesObject E c request authPrefix bucket
  auth_bucket : c.authBucket ≠ "" → Avoids ['/', '?'] c.authBucket →
    ∀ request, NamesObject E c request authPrefix c.authBucket
  dummy_bucket : c.authBucket = "" → ∀ request : HttpRequest, request.uri.pathSegments = [] →
    NamesObject E c request authPrefix "n-auth-dummy"
  same_request : ∀ (request request' : HttpRequest) (bucket : String), bucket ≠ "" →
    Avoids ['/', '?'] bucket → PathStyle bucket request.uri.path →
    PathStyle bucket request'.uri.path →
    request.headers "x-amz-security-token" = request'.headers "x-amz-security-token" →
    createBoltHeadRequest E c request authPrefix = createBoltHeadRequest E c request' authPrefix

/-- The surrogate request names the object of the request's bucket, or of the
configured one, and nothing in a key changes it. -/
theorem createBoltHeadRequest_contract (hparse : ParsesUris E)
    (hregion : Avoids ['/', '?', ':'] c.region) (hletters : IsAuthPrefix authPrefix) :
    SurrogateContract E c authPrefix where
  path_bucket := by
    intro hauth request bucket hne hfree hpath
    have hbucket := sourceBucket_of_pathStyle hauth hne hfree hpath
    exact namesObject_of_sourceBucket hparse hregion hbucket ⟨hne, hfree⟩ hletters.avoids
  auth_bucket := by
    intro hauth hfree request
    have hbucket : sourceBucket c request.uri.path = c.authBucket := by
      simp [sourceBucket, hauth]
    exact namesObject_of_sourceBucket hparse hregion hbucket ⟨hauth, hfree⟩ hletters.avoids
  dummy_bucket := by
    intro hauth request hnone
    have hbucket := sourceBucket_of_no_segment hauth hnone
    exact namesObject_of_sourceBucket hparse hregion hbucket (by decide) hletters.avoids
  same_request := by
    intro request request' bucket hne hfree hpath hpath' htoken
    refine createBoltHeadRequest_congr ?_ htoken
    by_cases hauth : c.authBucket = ""
    · rw [sourceBucket_of_pathStyle hauth hne hfree hpath,
        sourceBucket_of_pathStyle hauth hne hfree hpath']
    · simp [sourceBucket, hauth]

/-- The surrogate requests of the sample configuration, with the reference
parser. -/
theorem sample_surrogateContract : SurrogateContract sampleExternals sampleConfig "abcd" :=
  createBoltHeadRequest_contract (referenceParseUri_parses _) (by decide)
    ⟨by decide, by decide⟩

end BoltClient
