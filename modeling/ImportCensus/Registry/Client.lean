/-
ImportCensus/Registry/Client.lean

Asking a registry about a package.

A registry has two addresses, one for documents and one for download counts.  A request is the URL of
one of them with the package behind it.  What carries the request is left open: it answers with a status
and the bytes of a body, or it does not answer.
-/
import ImportCensus.Json.Reader
import ImportCensus.Registry.Document
import ImportCensus.Registry.DownloadPoint
import ImportCensus.Registry.Source
import ImportCensus.Text.Utf8
import ImportCensus.Url.Reader

namespace ImportCensus.Registry

open Text

/-- An answer to a request. -/
structure Response where
  status : Nat
  body : Bytes
  deriving DecidableEq, Repr

/-- What carries requests: the answer from a URL, if there is one. -/
abbrev Transport : Type :=
  Url → Option Response

/-- The transport of a computer that is on its own: nobody answers. -/
def noTransport : Transport :=
  fun _ => none

/-! ### Addresses -/

/-- The addresses of a registry, without slashes at their ends. -/
structure Addresses where
  documents : String
  downloads : String
  deriving DecidableEq, Repr

/-- A text without slashes at its end. -/
def trimSlashes (s : List Char) : List Char :=
  (s.reverse.dropWhile (· == '/')).reverse

/-- An address as requests start with it. -/
def address (base : String) : Except Failure String :=
  match Url.read base.toList with
  | .ok url => .ok (String.ofList (trimSlashes url.toText))
  | .error fault => .error (.badUrl fault)

/-- The addresses that two base URLs stand for; the first one that is no URL is reported. -/
def Addresses.ofBases (documents downloads : String) : Except Failure Addresses := do
  return ⟨← address documents, ← address downloads⟩

/-- A base URL with a path behind it. -/
def below (base path : String) : String :=
  String.ofList (trimSlashes base.toList) ++ "/" ++ path

/-- Where the document of a package is. -/
def documentUrl (base : String) (name : PackageName) : String :=
  below base name.encoded

/-- Where the download count of a package is. -/
def downloadsUrl (base : String) (name : PackageName) : String :=
  below base ("downloads/point/last-week/" ++ name.text)

/-! ### Pace -/

/-- How many requests a client sends within a second at most; it sends one at least.  The others wait, and are
answered all the same. -/
def pace (requestsPerSecond : UInt32) : UInt32 :=
  if requestsPerSecond = 0 then 1 else requestsPerSecond

/-! ### Requests -/

/-- The answer from a URL given as text. -/
def send (transport : Transport) (url : String) : Except TransportFault Response :=
  match Url.read url.toList with
  | .error _ => .error .unreadable
  | .ok target =>
    if !target.hasHost || !Url.isFetchable target.scheme then
      .error (.unusable (String.ofList target.toText))
    else
      match transport target.withoutUser with
      | some response => .ok response
      | none => .error (.unanswered (String.ofList target.withoutUser.toText))

/-- The body of the answer from a URL, if the status says that all went well. -/
def fetchBody (transport : Transport) (url : String) : Except Failure Bytes := do
  let response ← (send transport url).mapError .transport
  if response.status = 429 then .error (.rateLimited url)
  else if 200 ≤ response.status ∧ response.status < 300 then return response.body
  else .error (.status response.status url)

/-- The data of a body. -/
def bodyDatum (body : Bytes) : Except Failure Datum :=
  let characters := decodeEach body
  (Json.readWhole (some Json.nestingLimit) characters).mapError fun f =>
    .body (.placed (.fault f.cause) (f.position (Json.filled characters)))

/-- The download count in a body. -/
def bodyDownloads (body : Bytes) : Except Failure Nat :=
  let characters := decodeEach body
  let text := Json.filled characters
  (downloadsOf (Json.gaps characters) text).mapError fun o => .body (.placed o.complaint (o.position text))

/-- What the registry says about a package. -/
def fetchMetadata (transport : Transport) (addresses : Addresses) (name : PackageName) :
    Except Failure PackageMetadata := do
  let body ← fetchBody transport (documentUrl addresses.documents name)
  metadataOf name (← bodyDatum body)

/-- How often a package was downloaded in the last week. -/
def fetchDownloads (transport : Transport) (addresses : Addresses) (name : PackageName) :
    Except Failure Nat := do
  bodyDownloads (← fetchBody transport (downloadsUrl addresses.downloads name))

/-- A registry as what answers questions about packages. -/
def source (transport : Transport) (addresses : Addresses) : Source :=
  ⟨fetchMetadata transport addresses, fetchDownloads transport addresses⟩

end ImportCensus.Registry
