/-
ImportCensus/Url.lean

URLs, taken apart, and how they are spelled.
-/
import ImportCensus.Url.Host

namespace ImportCensus

/-- A URL.  Its parts are spelled as they stand in its text. -/
structure Url where
  /-- What stands before the first colon, in small letters. -/
  scheme : List Char
  userName : List Char
  password : List Char
  host : Option Url.Host
  /-- The port, if it is not the one that goes with the scheme. -/
  port : Option Nat
  path : List Char
  /-- What stands behind the question mark. -/
  query : Option (List Char)
  /-- What stands behind the hash sign. -/
  fragment : Option (List Char)
  deriving DecidableEq, Repr

namespace Url

/-! ### Schemes -/

/-- The schemes of the web, which always have a host, and the ports that go with them. -/
def webSchemes : List (String × Nat) :=
  [("http", 80), ("https", 443), ("ws", 80), ("wss", 443), ("ftp", 21)]

/-- The port that goes with a scheme. -/
def defaultPort? (scheme : List Char) : Option Nat :=
  (webSchemes.find? fun e => e.1.toList == scheme).map (·.2)

/-- Is this the scheme of local files? -/
def isFileScheme (scheme : List Char) : Bool :=
  scheme == "file".toList

/-- Is a scheme one of the web or that of local files? -/
def isKnownScheme (scheme : List Char) : Bool :=
  (defaultPort? scheme).isSome || isFileScheme scheme

/-- Can something be fetched from a URL of this scheme? -/
def isFetchable (scheme : List Char) : Bool :=
  scheme == "http".toList || scheme == "https".toList

/-! ### Spelling -/

/-- The user name and the password with the sign behind them. -/
def userText (u : Url) : List Char :=
  if u.userName.isEmpty ∧ u.password.isEmpty then []
  else u.userName ++ (if u.password.isEmpty then [] else ':' :: u.password) ++ ['@']

/-- The host with what belongs to it.  A path that would be taken for a host is kept off by a dot. -/
def authorityText (u : Url) : List Char :=
  match u.host with
  | some host =>
    '/' :: '/' :: u.userText ++ host.toText
      ++ (u.port.elim [] fun port => ':' :: Nat.toDigits 10 port)
  | none => if ['/', '/'].isPrefixOf u.path then ['/', '.'] else []

/-- The part of a text behind a sign. -/
def partText (sign : Char) (part : Option (List Char)) : List Char :=
  part.elim [] (sign :: ·)

/-- The text of a URL. -/
def toText (u : Url) : List Char :=
  u.scheme ++ ':' :: u.authorityText ++ u.path ++ partText '?' u.query ++ partText '#' u.fragment

/-- Does the URL name a host? -/
def hasHost (u : Url) : Bool :=
  u.host.any (· != .name [])

/-- The URL without user name and password. -/
def withoutUser (u : Url) : Url :=
  { u with userName := [], password := [] }

end Url

end ImportCensus
