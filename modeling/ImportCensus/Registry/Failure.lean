/-
ImportCensus/Registry/Failure.lean

Why a request to a registry fails, from the base URL that cannot be read to the answer that does not say
what it should.
-/
import ImportCensus.Json.Direct
import ImportCensus.Package.Name
import ImportCensus.Url.Host

namespace ImportCensus.Registry

/-- Why there is no answer at all. -/
inductive TransportFault where
  /-- The text is no URL. -/
  | unreadable
  /-- Nothing can be fetched from a URL of this kind. -/
  | unusable (url : String)
  /-- The request was sent, and nobody answered. -/
  | unanswered (url : String)
  deriving DecidableEq, Repr

/-- The wording of a transport fault. -/
def TransportFault.message : TransportFault → String
  | unreadable => "builder error"
  | unusable url => "builder error for url (" ++ url ++ ")"
  | unanswered url => "error sending request for url (" ++ url ++ ")"

/-- Why the body of an answer is of no use. -/
inductive BodyFault where
  /-- Something is wrong at a place in its text. -/
  | placed (message : Json.Complaint) (position : Json.Position)
  /-- It is JSON, but not a document. -/
  | misfit (cause : Cause)
  deriving DecidableEq, Repr

/-- The wording of a fault of a body. -/
def BodyFault.message : BodyFault → String
  | placed complaint position => Json.located complaint.message position
  | misfit cause => cause.message .scientific

/-- Why a request fails. -/
inductive Failure where
  | transport (fault : TransportFault)
  | body (fault : BodyFault)
  | status (code : Nat) (url : String)
  | rateLimited (url : String)
  /-- The document of the package names no latest version. -/
  | noLatestVersion (name : String)
  /-- The base URL of the registry is none. -/
  | badUrl (fault : Url.Fault)
  deriving DecidableEq, Repr

/-- The wording of a failure. -/
def Failure.message : Failure → String
  | transport fault => "HTTP request failed: " ++ fault.message
  | body fault => "Failed to parse JSON response: " ++ fault.message
  | status code url => "HTTP " ++ toString code ++ " from " ++ url
  | rateLimited url => "Rate limit exceeded for URL: " ++ url
  | noLatestVersion name => "Package '" ++ name ++ "' has no latest version"
  | badUrl fault => "Invalid URL: " ++ fault.message

/-- Does the failure say that there is no such package? -/
def Failure.isNotFound : Failure → Bool
  | status code _ => code == 404
  | _ => false

end ImportCensus.Registry
