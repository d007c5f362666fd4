/-
ImportCensus/Url/Reader.lean

Reading URLs as browsers do.  Blanks and controls around a URL and line breaks and tabs inside it do not
count.  In a URL of the web a backslash is as good as a slash, any number of slashes may stand before the
host, and the port that goes with the scheme is dropped.  Segments of one or two dots are resolved, also
if the dots are escaped.
-/
import ImportCensus.Url

namespace ImportCensus.Url

open Text

/-! ### Schemes -/

/-- May a character stand in a scheme behind its first letter? -/
def isSchemeChar (c : Char) : Bool :=
  c.isAlphanum || c == '+' || c == '-' || c == '.'

/-- The scheme in small letters, and what stands behind its colon. -/
def readScheme (s : List Char) : Option (List Char × List Char) :=
  match s with
  | [] => none
  | c :: r =>
    if c.isAlpha then
      match r.dropWhile isSchemeChar with
      | ':' :: rest => some (((c :: r.takeWhile isSchemeChar).map Char.toLower), rest)
      | _ => none
    else none

/-! ### User name and password -/

/-- Does a character end the part of a URL that names its host? -/
def endsAuthority (web : Bool) (c : Char) : Bool :=
  c == '/' || c == '?' || c == '#' || (web && c == '\\')

/-- The text before the last sign of a kind and the text behind it. -/
def splitAtLast (sign : Char) : List Char → Option (List Char × List Char)
  | [] => none
  | c :: r =>
    match splitAtLast sign r with
    | some (before, behind) => some (c :: before, behind)
    | none => if c = sign then some ([], r) else none

/-- User name, password, and what stands behind them. -/
def readUser (web : Bool) (s : List Char) :
    Except Fault (List Char × List Char × List Char) :=
  let authority := s.takeWhile (!endsAuthority web ·)
  let rest := s.dropWhile (!endsAuthority web ·)
  match splitAtLast '@' authority with
  | none => .ok ([], [], s)
  | some (before, behind) =>
    if before.isEmpty ∧ behind.isEmpty ∧ !rest.isEmpty then .error .emptyHost
    else
      let userName := before.takeWhile (· != ':')
      .ok (escape userSet userName, escape userSet (before.drop (userName.length + 1)),
        behind ++ rest)

/-! ### Host and port -/

/-- The text of a host, where a colon between brackets belongs to it, and what stands behind it. -/
def splitHost (web : Bool) (bracketed : Bool) : List Char → List Char × List Char
  | [] => ([], [])
  | c :: r =>
    if (c == ':' && !bracketed) || endsAuthority web c then ([], c :: r)
    else
      let (host, rest) :=
        splitHost web (if c = '[' then true else if c = ']' then false else bracketed) r
      (c :: host, rest)

/-- A port behind its colon, and what stands behind it. -/
def readPort (scheme s : List Char) : Except Fault (Option Nat × List Char) :=
  let digits := s.takeWhile Char.isDigit
  let rest := s.dropWhile Char.isDigit
  let port := (number? 10 digits).getD 0
  if 65535 < port ∨ rest.head?.any (!endsAuthority true ·) then .error .badPort
  else if digits.isEmpty ∨ some port = defaultPort? scheme then .ok (none, rest)
  else .ok (some port, rest)

/-! ### Paths -/

/-- The spellings of a dot. -/
def dotSpellings : List (List Char) :=
  [['.'], ['%', '2', 'e'], ['%', '2', 'E']]

/-- Is a segment one dot? -/
def isDot (segment : List Char) : Bool :=
  dotSpellings.contains segment

/-- Is a segment two dots? -/
def isDoubleDot (segment : List Char) : Bool :=
  dotSpellings.any fun a => dotSpellings.any fun b => segment == a ++ b

/-- Does a segment name a drive: a letter and a colon or a bar? -/
def isDrive (segment : List Char) : Bool :=
  match segment with
  | [c, sign] => c.isAlpha && (sign == ':' || sign == '|')
  | _ => false

/-- The segments behind a `..`, the last one first.  The drive of a local file stays. -/
def leave (isFile : Bool) (reached : List (List Char)) : List (List Char) :=
  match reached with
  | [segment] => if isFile && isDrive segment then [segment] else []
  | reached => reached.tail

/-- A segment as it is kept: the drive of a local file is written with a colon. -/
def settle (isFile : Bool) (reached : List (List Char)) (segment : List Char) : List Char :=
  if isFile && reached.isEmpty && isDrive segment then segment.take 1 ++ [':'] else segment

/-- Follows segments; those reached so far are given with the last one first. -/
def follow (isFile : Bool) (reached : List (List Char)) : List (List Char) → List (List Char)
  | [] => reached
  | segment :: more =>
    if isDoubleDot segment then
      let reached := leave isFile reached
      follow isFile (if more.isEmpty then [] :: reached else reached) more
    else if isDot segment then follow isFile (if more.isEmpty then [] :: reached else reached) more
    else follow isFile (settle isFile reached segment :: reached) more

/-- A path without its first slash, as it is kept. -/
def readPath (scheme s : List Char) : List Char :=
  let isFile := isFileScheme scheme
  let s := if isKnownScheme scheme then s.map fun c => if c = '\\' then '/' else c else s
  let segments := (follow isFile [] ((split '/' s).map (escape pathSet))).reverse
  '/' :: join '/' (if isFile then segments.dropWhile (·.isEmpty) else segments)

/-- A path with what may stand before it: known schemes have one always, others if there is any. -/
def readWholePath (scheme s : List Char) : List Char :=
  match s with
  | [] => if isKnownScheme scheme then ['/'] else []
  | c :: r =>
    if c = '/' ∨ (c = '\\' ∧ isKnownScheme scheme) then readPath scheme r
    else readPath scheme (c :: r)

/-! ### Whole URLs -/

/-- The three parts at the end of a URL: path, query and fragment. -/
structure Ending where
  path : List Char
  query : Option (List Char)
  fragment : Option (List Char)

/-- Cuts off the end of a URL. -/
def splitEnding (scheme s : List Char) : Ending :=
  let body := s.takeWhile (· != '#')
  let fragment := (s.drop body.length).tail?
  let path := body.takeWhile (· != '?')
  let query := (body.drop path.length).tail?
  { path
    query := query.map (escape (if isKnownScheme scheme then webQuerySet else querySet))
    fragment := fragment.map (escape fragmentSet) }

/-- A URL of which only the end is left to be read; `readPath` says how its path is kept. -/
def finish (url : Url) (path : List Char → List Char) (s : List Char) : Url :=
  let ending := splitEnding url.scheme s
  { url with path := path ending.path, query := ending.query, fragment := ending.fragment }

/-- A URL with nothing but a scheme. -/
def ofScheme (scheme : List Char) : Url :=
  ⟨scheme, [], [], none, none, [], none, none⟩

/-- What stands behind the slashes before a host. -/
def readAuthority (scheme s : List Char) : Except Fault Url := do
  let web := isKnownScheme scheme
  let (userName, password, rest) ← readUser web s
  let (hostText, rest) := splitHost web false rest
  if web ∧ hostText.isEmpty then .error .emptyHost
  let host ← if web then readHost hostText else readOpaqueHost hostText
  if hostText.isEmpty ∧
      (rest.head? = some ':' ∨ !userName.isEmpty ∨ !password.isEmpty) then .error .emptyHost
  let (port, rest) ←
    match rest with
    | ':' :: r => readPort scheme r
    | rest => pure (none, rest)
  return finish { ofScheme scheme with userName, password, host, port } (readWholePath scheme) rest

/-- The host of a local file, if it is not this computer. -/
def readFileHost (s : List Char) : Except Fault (Option Host) := do
  if s.isEmpty then return none
  let host ← readHost s
  return if host = .name "localhost".toList then none else some host

/-- Is a character a slash of either kind? -/
def isSlash (c : Char) : Bool :=
  c == '/' || c == '\\'

/-- The URL of a local file, behind its colon. -/
def readFile (scheme s : List Char) : Except Fault Url := do
  let nowhere := { ofScheme scheme with host := some (.name []) }
  if (s.take 2).length = 2 ∧ (s.take 2).all isSlash then
    let rest := s.drop 2
    let hostText := rest.takeWhile (!endsAuthority true ·)
    if isDrive hostText then return finish nowhere (readWholePath scheme) rest
    else
      let host ← readFileHost hostText
      let url := { nowhere with host := some (host.getD (.name [])) }
      return finish url (readWholePath scheme) (rest.drop hostText.length)
  else return finish nowhere (readWholePath scheme) s

/-- What stands behind the colon of a scheme. -/
def readBehindScheme (scheme s : List Char) : Except Fault Url :=
  if isFileScheme scheme then readFile scheme s
  else if isKnownScheme scheme then readAuthority scheme (s.dropWhile isSlash)
  else
    match s with
    | '/' :: '/' :: r => readAuthority scheme r
    | '/' :: r => .ok (finish (ofScheme scheme) (readWholePath scheme) ('/' :: r))
    | s => .ok (finish (ofScheme scheme) (escape []) s)

/-- Is a character a control or a space? -/
def isOutside (c : Char) : Bool :=
  c.toNat ≤ 0x20

/-- Is a character ignored inside a URL? -/
def isIgnored (c : Char) : Bool :=
  c == '\t' || c == '\n' || c == '\r'

/-- The characters of a text that count in a URL. -/
def relevant (s : List Char) : List Char :=
  (((s.dropWhile isOutside).reverse.dropWhile isOutside).reverse).filter (!isIgnored ·)

/-- Reads a URL. -/
def read (s : List Char) : Except Fault Url :=
  match readScheme (relevant s) with
  | some (scheme, rest) => readBehindScheme scheme rest
  | none => .error .noBase

end ImportCensus.Url
