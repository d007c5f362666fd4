/-
ImportCensus/Config/Format.lean

Settings as data, and as the TOML text in which they are stored.  Every setting may be left out, and
then it is as it would be without the text.  Entries with other keys do not matter.
-/
import ImportCensus.Config
import ImportCensus.Datum.Decoder
import ImportCensus.Toml.Reader

namespace ImportCensus

namespace Decoder

/-- The settings of a registry. -/
def registrySettings (surplus : Surplus) : Decoder RegistrySettings :=
  let standard := RegistrySettings.standard
  record "struct RegistrySettings"
    (RegistrySettings.mk
      <$> field "registry_url" text (.always standard.registryUrl)
      <*> field "downloads_url" text (.always standard.downloadsUrl)
      <*> UInt64.ofNat <$> field "max_concurrent_requests" (unsigned .size)
        (.always standard.maxConcurrentRequests.toNat)
      <*> UInt32.ofNat <$> field "requests_per_second" (unsigned .word32)
        (.always standard.requestsPerSecond.toNat)
      <*> UInt64.ofNat <$> field "request_timeout_secs" (unsigned .word64)
        (.always standard.requestTimeoutSecs.toNat))
    surplus

/-- All settings. -/
def config (surplus : Surplus) : Decoder Config :=
  record "struct TallyConfig"
    (Config.mk
      <$> field "version" text (.always Config.standard.version)
      <*> field "registry" (registrySettings surplus) (.always Config.standard.registry))
    surplus

end Decoder

namespace Config

/-- Settings from data in which no list is longer than what it stands for. -/
def ofDatum (d : Datum) : Except Mismatch Config :=
  Decoder.config .refused d

/-! ### Reading -/

/-- Why a text holds no settings. -/
inductive TextFault where
  /-- It is no TOML. -/
  | malformed (fault : Toml.Fault)
  /-- Its data do not fit; the part of the text and what is wrong with it. -/
  | misfit (span : Toml.Span) (cause : Cause)
  deriving DecidableEq, Repr

/-- The wording of a fault in the whole text. -/
def TextFault.message (text : String) : TextFault → String
  | malformed fault => fault.message text.toList
  | misfit span cause => Toml.excerpt text.toList span (cause.message .positional)

/-- Settings from the data of a TOML text, where surplus items of a list do not matter. -/
def ofItem (item : Toml.Item) : Except TextFault Config :=
  (Decoder.config .ignored item.toDatum).mapError fun m =>
    .misfit (item.reach m.place).span m.cause

/-- Settings from a TOML text. -/
def ofText (text : String) : Except TextFault Config := do
  ofItem (← (Toml.read text.toList).mapError .malformed)

/-! ### Writing -/

/-- A line that gives a key a text. -/
def textLine (key value : String) : List Char :=
  key.toList ++ " = ".toList ++ Toml.writeText value.toList ++ ['\n']

/-- A line that gives a key a number. -/
def numberLine (key : String) (value : Nat) : List Char :=
  key.toList ++ " = ".toList ++ Nat.toDigits 10 value ++ ['\n']

/-- The TOML text of settings.  All settings have one: no field may be missing, no key depends on data, and each
number that a field can hold is written with all its digits. -/
def toText (c : Config) : String :=
  String.ofList
    (textLine "version" c.version ++ ['\n']
      ++ "[registry]\n".toList
      ++ textLine "registry_url" c.registry.registryUrl
      ++ textLine "downloads_url" c.registry.downloadsUrl
      ++ numberLine "max_concurrent_requests" c.registry.maxConcurrentRequests.toNat
      ++ numberLine "requests_per_second" c.registry.requestsPerSecond.toNat
      ++ numberLine "request_timeout_secs" c.registry.requestTimeoutSecs.toNat)

end Config

/-- The settings of a registry as data. -/
def RegistrySettings.toDatum (r : RegistrySettings) : Datum :=
  .table
    [("registry_url", .text r.registryUrl), ("downloads_url", .text r.downloadsUrl),
     ("max_concurrent_requests", .int r.maxConcurrentRequests.toNat),
     ("requests_per_second", .int r.requestsPerSecond.toNat),
     ("request_timeout_secs", .int r.requestTimeoutSecs.toNat)]

/-- Settings as data. -/
def Config.toDatum (c : Config) : Datum :=
  .table [("version", .text c.version), ("registry", c.registry.toDatum)]

end ImportCensus
