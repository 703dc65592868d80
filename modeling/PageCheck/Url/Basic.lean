import PageCheck.Text.Blank
import PageCheck.Url.Host
import PageCheck.Url.Path

/-!
# URLs

A URL is read from a text in the manner of browsers, without a base: control
characters and spaces at the ends and all tabs and line ends are ignored, the
parts are brought into a normal form, and a text without a scheme is refused.
-/

namespace PageCheck

/-- Who and where a URL addresses. -/
structure Url.Authority where
  user : Text := []
  password : Option Text := none
  host : Text := []
  port : Option Nat := none
deriving DecidableEq, Repr, Inhabited

/-- A URL in normal form. -/
structure Url where
  scheme : Text
  authority : Option Url.Authority
  path : Text
  query : Option Text
  fragment : Option Text
deriving DecidableEq, Repr, Inhabited

namespace Url

/-! ## Writing -/

/-- The written form of an authority. -/
def Authority.toText (authority : Authority) : Text :=
  let password := match authority.password with
    | some password => ':' :: password
    | none => []
  let credentials := authority.user ++ password
  (if credentials.isEmpty then [] else credentials ++ ['@']) ++ authority.host ++
    match authority.port with
    | some port => ':' :: Text.ofNat port
    | none => []

/-- The written form of a URL. -/
def href (url : Url) : Text :=
  let front := match url.authority with
    | some authority => '/' :: '/' :: authority.toText
    | none => if ['/', '/'].isPrefixOf url.path then ['/', '.'] else []
  let part (mark : Char) : Option Text → Text
    | some text => mark :: text
    | none => []
  url.scheme ++ [':'] ++ front ++ url.path ++ part '?' url.query ++ part '#' url.fragment

/-! ## Schemes -/

/-- The kind of a scheme. -/
def kindOf (scheme : Text) : SchemeKind :=
  if scheme = ("file" : Text) then
    .file
  else if [("http" : Text), "https", "ws", "wss", "ftp"].contains scheme then
    .network
  else
    .other

/-- The port that a scheme implies. -/
def defaultPort? (scheme : Text) : Option Nat :=
  match String.ofList scheme with
  | "http" | "ws" => some 80
  | "https" | "wss" => some 443
  | "ftp" => some 21
  | _ => none

/-- Splits off a scheme, in lower case. -/
def readScheme? (text : Text) : Option (Text × Text) :=
  match text with
  | first :: _ =>
      if first.isAlpha then
        match Text.splitFirst? ':' text with
        | some (scheme, rest) =>
            if scheme.all fun c => c.isAlphanum || c == '+' || c == '-' || c == '.' then
              some (scheme.map Char.toLower, rest)
            else
              none
        | none => none
      else
        none
  | [] => none

/-! ## Authorities -/

/-- Splits a text at the last separator. -/
def splitLast? (separator : Char) (text : Text) : Option (Text × Text) :=
  (Text.splitFirst? separator text.reverse).map fun parts =>
    (parts.2.reverse, parts.1.reverse)

/-- Reads a user name with an optional password. -/
def readCredentials (text : Text) : Authority :=
  match Text.splitFirst? ':' text with
  | some (user, password) =>
      { user := percentEncode escapesInUser user
        password :=
          if password.isEmpty then none else some (percentEncode escapesInUser password) }
  | none => { user := percentEncode escapesInUser text }

/-- Splits an authority behind its host, at the first colon outside brackets. -/
def splitHost (inBrackets : Bool) : Text → Text × Text
  | [] => ([], [])
  | c :: rest =>
      if c = ':' ∧ !inBrackets then
        ([], c :: rest)
      else
        let inside := if c = '[' then true else if c = ']' then false else inBrackets
        let (host, after) := splitHost inside rest
        (c :: host, after)

/-- Reads a port behind its colon, and gives back what follows it. -/
def readPort (kind : SchemeKind) (scheme text : Text) :
    Except Error (Option Nat × Text) :=
  let digits := text.takeWhile Char.isDigit
  let rest := text.dropWhile Char.isDigit
  let value := (digitsValue? 10 digits).getD 0
  if 65535 < value then
    .error .invalidPort
  else if !rest.isEmpty && !(kind = .other && rest.head? = some '\\') then
    .error .invalidPort
  else if digits.isEmpty || defaultPort? scheme = some value then
    .ok (none, rest)
  else
    .ok (some value, rest)

/-- Reads a host with an optional port, and gives back what follows them. -/
def readHostAndPort (kind : SchemeKind) (scheme : Text) (credentials : Authority)
    (text : Text) : Except Error (Authority × Text) := do
  let (hostText, rest) := splitHost false text
  let host <-
    if kind = .other then
      readPlainHost hostText
    else if hostText.isEmpty then
      .error .emptyHost
    else
      readSpecialHost hostText
  match rest with
  | ':' :: portText =>
      if host.isEmpty then
        .error .emptyHost
      else
        let (port, after) <- readPort kind scheme portText
        return ({ credentials with host, port }, after)
  | _ => return ({ credentials with host }, rest)

/-- Reads an authority.  The flag tells whether more of the URL follows it. -/
def readAuthority (kind : SchemeKind) (scheme : Text) (isFollowed : Bool) (text : Text) :
    Except Error (Authority × Text) := do
  let (credentials, hostPart) <-
    match splitLast? '@' text with
    | some (user, rest) =>
        if user.isEmpty && rest.isEmpty && isFollowed then
          .error .emptyHost
        else
          pure (readCredentials user, rest)
    | none => pure (({} : Authority), text)
  let (authority, after) <- readHostAndPort kind scheme credentials hostPart
  if authority.host.isEmpty && !(authority.user.isEmpty && authority.password.isNone) then
    .error .emptyHost
  else
    return (authority, after)

/-! ## Whole URLs -/

/-- Reads the query and the fragment behind a path. -/
def finish (kind : SchemeKind) (scheme : Text) (authority : Option Authority)
    (path rest : Text) : Url :=
  let beforeFragment := rest.takeWhile (· != '#')
  let fragment := match rest.dropWhile (· != '#') with
    | _ :: text => some (percentEncode escapesInFragment text)
    | [] => none
  let query := match beforeFragment with
    | _ :: text => some (percentEncode (escapesInQuery kind.isSpecial) text)
    | [] => none
  { scheme, authority, path, query, fragment }

/-- Reads what follows the two slashes before an authority. -/
def readBehindSlashes (kind : SchemeKind) (scheme text : Text) : Except Error Url := do
  let isEnd (c : Char) : Bool := kind.isSlash c || c == '?' || c == '#'
  let authorityText := text.takeWhile fun c => !isEnd c
  let rest := text.dropWhile fun c => !isEnd c
  let (authority, after) <- readAuthority kind scheme (!rest.isEmpty) authorityText
  let pathText := after ++ rest.takeWhile fun c => c != '?' && c != '#'
  let further := rest.dropWhile fun c => c != '?' && c != '#'
  let path :=
    if kind = .other ∧ pathText.isEmpty then
      []
    else
      (readSegments kind (dropSlash kind pathText)).toText kind
  return finish kind scheme (some authority) path further

/-- Reads the rest of a URL whose scheme is not special. -/
def readOther (scheme text : Text) : Except Error Url :=
  match text with
  | '/' :: '/' :: rest => readBehindSlashes .other scheme rest
  | _ =>
      let pathText := text.takeWhile fun c => c != '?' && c != '#'
      let further := text.dropWhile fun c => c != '?' && c != '#'
      let path := match pathText with
        | '/' :: rest => (readSegments .other rest).toText .other
        | _ => percentEncode escapesControl pathText
      .ok (finish .other scheme none path further)

/-- Reads the host of a file.  A drive letter is no host but begins the path. -/
def readFileHost (text : Text) : Except Error Text :=
  if text.isEmpty || isDriveLetter text then
    .ok []
  else
    (readSpecialHost text).map fun host =>
      if host = ("localhost" : Text) then [] else host

/-- Reads the rest of a URL for a file. -/
def readFile (text : Text) : Except Error Url := do
  let scheme : Text := "file"
  let isSlash := SchemeKind.file.isSlash
  let close (host : Text) (path : PathState) (further : Text) : Url :=
    let host := if path.dropsHost then [] else host
    finish .file scheme (some { host }) (path.toText .file) further
  let pathOf (t : Text) : Text := t.takeWhile fun c => c != '?' && c != '#'
  let furtherOf (t : Text) : Text := t.dropWhile fun c => c != '?' && c != '#'
  match text with
  | c :: d :: rest =>
      if isSlash c && isSlash d then
        let isEnd (e : Char) : Bool := isSlash e || e == '?' || e == '#'
        let hostText := rest.takeWhile fun e => !isEnd e
        let host <- readFileHost hostText
        let behind := if isDriveLetter hostText then rest else rest.dropWhile fun e => !isEnd e
        let pathText :=
          if host.isEmpty then pathOf behind else dropSlash .file (pathOf behind)
        return close host (readSegments .file pathText) (furtherOf behind)
      else
        return close [] (readSegments .file (dropSlash .file (pathOf text))) (furtherOf text)
  | _ => return close [] (readSegments .file (dropSlash .file (pathOf text))) (furtherOf text)

/-- Reads a URL. -/
def read (text : Text) : Except Error Url :=
  let isOuter (c : Char) : Bool := c.toNat ≤ 0x20
  let inner := ((text.dropWhile isOuter).reverse.dropWhile isOuter).reverse
  let kept := inner.filter fun c => c != '\t' && c != '\n' && c != '\r'
  match readScheme? kept with
  | none => .error .missingScheme
  | some (scheme, rest) =>
      match kindOf scheme with
      | .file => readFile rest
      | .other => readOther scheme rest
      | .network =>
          readBehindSlashes .network scheme (rest.dropWhile fun c => c == '/' || c == '\\')

end Url
end PageCheck
