import ExchangeTap.Url.Host
import ExchangeTap.Url.Path
import ExchangeTap.Url.Redact

/-! Absolute URLs as browsers read them. Those of the web come apart into their parts; of any other
URL nothing but the scheme is kept. -/

namespace ExchangeTap.Url

/-- A URL whose scheme names a service of an internet host. -/
structure Web where
  scheme : List Char
  user : List Char
  password : Option (List Char)
  host : Host
  /-- The port, unless it is the scheme's own. -/
  port : Option Nat
  path : List (List Char)
  query : Option (List Char)
  fragment : Option (List Char)
  deriving DecidableEq, Repr

inductive Address where
  | web (parts : Web)
  | other (scheme : List Char)
  deriving DecidableEq, Repr

/-- The URL as text. Who uses it is left out. -/
def Web.anonymous (w : Web) : List Char :=
  let port :=
    match w.port with
    | none => []
    | some port => ':' :: Digits.write port
  let part (mark : Char) (text : Option (List Char)) :=
    match text with
    | none => []
    | some text => mark :: text
  w.scheme ++ [':', '/', '/'] ++ w.host.text ++ port ++ pathText w.path ++ part '?' w.query ++
    part '#' w.fragment

def servicePort? (scheme : List Char) : Option Nat :=
  [("http", 80), ("https", 443), ("ws", 80), ("wss", 443), ("ftp", 21)].lookup
    (String.ofList scheme)

/-- Controls and spaces around a URL do not count, nor do tabs and line ends inside. -/
def clean (text : List Char) : List Char :=
  let trim (text : List Char) := text.dropWhile fun c => c ≤ ' '
  (trim (trim text).reverse).reverse.filter fun c => c != '\t' && c != '\n' && c != '\r'

def lowerCase (c : Char) : Char :=
  if 'A' ≤ c ∧ c ≤ 'Z' then Char.ofNat (c.toNat + 32) else c

def readScheme (text : List Char) : Option (List Char × List Char) :=
  match splitFirst ':' [] text with
  | some (first :: more, rest) =>
    let goesOn (c : Char) :=
      isLetter c || ('0' ≤ c && c ≤ '9') || c == '+' || c == '-' || c == '.'
    if isLetter first && more.all goesOn then some ((first :: more).map lowerCase, rest) else none
  | _ => none

/-- The characters that end the authority of a URL; in a URL of the web a backslash does as well. -/
def endsAuthority (web : Bool) (c : Char) : Bool :=
  c == '/' || c == '?' || c == '#' || (web && c == '\\')

structure User where
  name : List Char
  password : Option (List Char)
  deriving DecidableEq, Repr

def User.isNobody (user : User) : Bool :=
  user.name.isEmpty && user.password.isNone

/-- The user stands before the last at sign of the authority, and an empty password is none. -/
def readUser (web : Bool) (text : List Char) : Except Fault (User × List Char) :=
  let authority := text.takeWhile (!endsAuthority web ·)
  let rest := text.drop authority.length
  match splitLast '@' authority with
  | none => .ok (⟨[], none⟩, text)
  | some (userinfo, host) =>
    if userinfo.isEmpty && host.isEmpty && !rest.isEmpty then .error .emptyHost
    else
      match splitFirst ':' [] userinfo with
      | none => .ok (⟨userinfo, none⟩, host ++ rest)
      | some (name, password) =>
        .ok (⟨name, if password.isEmpty then none else some password⟩, host ++ rest)

/-- The length of the host, which has colons only between brackets. -/
def hostLength (web inside : Bool) : List Char → Nat
  | [] => 0
  | c :: rest =>
    if (c == ':' && !inside) || endsAuthority web c then 0
    else hostLength web (if c = '[' then true else if c = ']' then false else inside) rest + 1

/-- The digits of a port, read so far as `port`, and what follows. A colon may have no port behind
it. -/
def readPort (port : Option Nat) : List Char → Except Fault (Option Nat × List Char)
  | [] => .ok (port, [])
  | c :: rest =>
    if '0' ≤ c ∧ c ≤ '9' then
      let next := port.getD 0 * 10 + Digits.value c
      if next < 2 ^ 16 then readPort (some next) rest else .error .invalidPort
    else if endsAuthority true c then .ok (port, c :: rest)
    else .error .invalidPort

def readHostPort : List Char → Except Fault (Option Nat × List Char)
  | ':' :: rest => readPort none rest
  | rest => .ok (none, rest)

def readTail (text : List Char) : Option (List Char) × Option (List Char) :=
  let (before, fragment) :=
    match splitFirst '#' [] text with
    | none => (text, none)
    | some (before, fragment) => (before, some (encode .fragment fragment))
  match before with
  | '?' :: query => (some (encode .query query), fragment)
  | _ => (none, fragment)

def readWeb (scheme : List Char) (ownPort : Nat) (text : List Char) : Except Fault Web :=
  match readUser true text with
  | .error e => .error e
  | .ok (user, text) =>
    let length := hostLength true false text
    if length = 0 then .error .emptyHost
    else
      match Host.parse (text.take length) with
      | .error e => .error e
      | .ok host =>
        match readHostPort (text.drop length) with
        | .error e => .error e
        | .ok (port, text) =>
          let path := text.takeWhile fun c => c != '?' && c != '#'
          let (query, fragment) := readTail (text.drop path.length)
          .ok ⟨scheme, user.name, user.password, host, if port = some ownPort then none else port,
            readPath path, query, fragment⟩

/-- The authority of any other URL. It names a host only if it names a user or a port. -/
def checkAuthority (text : List Char) : Except Fault Unit :=
  match readUser false text with
  | .error e => .error e
  | .ok (user, text) =>
    let length := hostLength false false text
    let rest := text.drop length
    match Host.parseOpaque (text.take length) with
    | .error e => .error e
    | .ok _ =>
      if length = 0 && rest.head? == some ':' then .error .emptyHost
      else
        match readHostPort rest with
        | .error e => .error e
        | .ok _ => if length = 0 && !user.isNobody then .error .emptyHost else .ok ()

/-- The host of a file, behind two slashes; a drive is no host. -/
def checkFileHost (text : List Char) : Except Fault Unit :=
  let host := text.takeWhile (!endsAuthority true ·)
  if host.isEmpty || isDrive host then .ok () else (Host.parse host).map fun _ => ()

def parseChars (text : List Char) : Except Fault Address :=
  match readScheme (clean text) with
  | none => .error .relative
  | some (scheme, rest) =>
    match servicePort? scheme with
    | some ownPort =>
      (readWeb scheme ownPort (rest.dropWhile fun c => c == '/' || c == '\\')).map .web
    | none =>
      let checked : Except Fault Unit :=
        if scheme = "file".toList then
          match rest with
          | a :: b :: rest =>
            if (a == '/' || a == '\\') && (b == '/' || b == '\\') then checkFileHost rest else .ok ()
          | _ => .ok ()
        else
          match rest with
          | '/' :: '/' :: rest => checkAuthority rest
          | _ => .ok ()
      checked.map fun _ => .other scheme

def parse (text : String) : Except Fault Address :=
  parseChars text.toList

end ExchangeTap.Url
