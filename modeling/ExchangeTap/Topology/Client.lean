import ExchangeTap.Text.Base64
import ExchangeTap.Topology.Gathering
import ExchangeTap.Url.Parse

namespace ExchangeTap.Topology

structure Client where
  /-- The URL of the interface, without credentials and without a slash at its end. -/
  baseUrl : String
  username : Option String
  password : Option String
  deriving DecidableEq, Repr

structure Request where
  url : String
  authorization : Option String
  deriving DecidableEq, Repr

/-- Carries a request to the interface and the response back, or tells why it could not. `m` are the effects
of that. -/
abbrev Carrier (m : Type → Type) := Request → m (Except String Response)

abbrev Transport := Carrier Id

namespace Client

def decodeCredential (uri : String) (written : List Char) : Except TapError String :=
  match Utf8.decode (Url.decode (Utf8.encodeChars written)) with
  | .ok plain => .ok plain
  | .error defect =>
    .error (.invalidUri (uri ++ ": credentials are not UTF-8: " ++ defect.message))

def trimSlashes (url : List Char) : List Char :=
  (url.reverse.dropWhile (· == '/')).reverse

/-- An empty user name is none. -/
def ofWeb (uri : String) (web : Url.Web) : Except TapError Client :=
  match decodeCredential uri web.user with
  | .error e => .error e
  | .ok username =>
    let client (password : Option String) : Client :=
      ⟨String.ofList (trimSlashes web.anonymous), if username = "" then none else some username,
        password⟩
    match web.password with
    | none => .ok (client none)
    | some password => (decodeCredential uri password).map fun password => client (some password)

def ofUri (uri : String) : Except TapError Client :=
  match Url.parse uri with
  | .error fault => .error (.invalidUri (uri ++ ": " ++ fault.message))
  | .ok (.web web) =>
    if web.scheme = "http".toList ∨ web.scheme = "https".toList then ofWeb uri web
    else .error (.invalidUri (uri ++ ": expected an http or https URI"))
  | .ok (.other _) => .error (.invalidUri (uri ++ ": expected an http or https URI"))

/-- Without a user name, a password is of no use. -/
def authorization (c : Client) : Option String :=
  c.username.map fun username =>
    "Basic " ++ Base64.encode (Utf8.encode (username ++ ":" ++ c.password.getD ""))

def request (c : Client) (resource : Resource) : Request :=
  ⟨c.baseUrl ++ "/" ++ resource.name, c.authorization⟩

variable {m : Type → Type} [Monad m]

def fetch (c : Client) (carry : Carrier m) (resource : Resource) :
    m (Except TapError resource.Records) := do
  return resource.read (← carry (c.request resource))

def overview (c : Client) (carry : Carrier m) : m (Except TapError Overview) :=
  c.fetch carry .overview

def exchanges (c : Client) (carry : Carrier m) : m (Except TapError (List Exchange)) :=
  c.fetch carry .exchanges

def queues (c : Client) (carry : Carrier m) : m (Except TapError (List Queue)) :=
  c.fetch carry .queues

def bindings (c : Client) (carry : Carrier m) : m (Except TapError (List Binding)) :=
  c.fetch carry .bindings

def consumers (c : Client) (carry : Carrier m) : m (Except TapError (List Consumer)) :=
  c.fetch carry .consumers

/-- Everything there is to tell, or one of the failures. All requests are made at once, and the calls come
to their ends in some order. -/
def brokerInfoIn (order : Order) (c : Client) (carry : Carrier m) : m (Except TapError BrokerInfo) := do
  let overview ← c.overview carry
  let exchanges ← c.exchanges carry
  let queues ← c.queues carry
  let bindings ← c.bindings carry
  let consumers ← c.consumers carry
  return order.outcome fun
    | .overview => overview
    | .exchanges => exchanges
    | .queues => queues
    | .bindings => bindings
    | .consumers => consumers

def brokerInfo (c : Client) (carry : Carrier m) : m (Except TapError BrokerInfo) :=
  brokerInfoIn .asked c carry

end Client

end ExchangeTap.Topology
