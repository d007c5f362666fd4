/-
ImportCensus/Config.lean

The settings that a user can make: where the registry is, and how hard it may be asked.
-/
import ImportCensus.Url.Reader

namespace ImportCensus

/-- Where the registry is, and how hard it may be asked. -/
structure RegistrySettings where
  /-- Where the documents of packages are. -/
  registryUrl : String
  /-- Where download counts are. -/
  downloadsUrl : String
  /-- How many packages may be asked about together. -/
  maxConcurrentRequests : UInt64
  requestsPerSecond : UInt32
  requestTimeoutSecs : UInt64
  deriving DecidableEq, Repr

/-- All settings. -/
structure Config where
  /-- The version of the layout of the settings. -/
  version : String
  registry : RegistrySettings
  deriving DecidableEq, Repr

/-- The settings of a registry as long as nobody changes them. -/
def RegistrySettings.standard : RegistrySettings where
  registryUrl := "https://registry.npmjs.org"
  downloadsUrl := "https://api.npmjs.org"
  maxConcurrentRequests := 8
  requestsPerSecond := 10
  requestTimeoutSecs := 30

/-- The settings as long as nobody changes them. -/
def Config.standard : Config where
  version := "1.0"
  registry := .standard

namespace Config

/-! ### Validity -/

/-- Why settings are of no use. -/
inductive Problem where
  | badUrl (field value : String) (fault : Url.Fault)
  /-- Nothing can be fetched by this scheme. -/
  | unsupportedScheme (field scheme : String)
  | zeroLimit (field : String)
  deriving DecidableEq, Repr

/-- The wording of a problem. -/
def Problem.message : Problem → String
  | badUrl field value fault => field ++ ": " ++ fault.message ++ " (" ++ value ++ ")"
  | unsupportedScheme field scheme => field ++ ": unsupported scheme '" ++ scheme ++ "'"
  | zeroLimit field => field ++ " must be at least 1"

/-- A base URL has to be one from which something can be fetched. -/
def checkUrl (field value : String) : Except Problem Unit :=
  match Url.read value.toList with
  | .error fault => .error (.badUrl field value fault)
  | .ok url =>
    if Url.isFetchable url.scheme then .ok ()
    else .error (.unsupportedScheme field (String.ofList url.scheme))

/-- A limit must not be zero. -/
def checkLimit (field : String) (isZero : Bool) : Except Problem Unit :=
  if isZero then .error (.zeroLimit field) else .ok ()

/-- Are the settings of use?  If not, the first problem is reported, URLs before limits. -/
def validate (c : Config) : Except Problem Unit := do
  checkUrl "registry.registry_url" c.registry.registryUrl
  checkUrl "registry.downloads_url" c.registry.downloadsUrl
  checkLimit "registry.max_concurrent_requests" (c.registry.maxConcurrentRequests == 0)
  checkLimit "registry.requests_per_second" (c.registry.requestsPerSecond == 0)
  checkLimit "registry.request_timeout_secs" (c.registry.requestTimeoutSecs == 0)

end Config

end ImportCensus
