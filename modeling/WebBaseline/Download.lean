import WebBaseline.Failure
import WebBaseline.Journal
import WebBaseline.Json.Reader
import WebBaseline.Text.Encoding

/-!
Downloads. A request is made on a client, which has a timeout. A connection that fails is tried once more;
all other faults end the download. Inside a scope with a shared client, requests with the usual timeout use
that client; every other request gets a client of its own.

The network is given by the outcomes of the requests to come, in order, so that a run is a function of
them. When none is left, no connection is made.
-/

namespace WebBaseline.Download

/-- The faults that can end a request without an answer. -/
inductive Fault where
  | request
  | transport
  | timeout
  | connectTimeout
  | readTimeout
  | writeTimeout
  | poolTimeout
  | network
  | connect
  | read
  | write
  | close
  | protocol
  | localProtocol
  | remoteProtocol
  | proxy
  | unsupportedProtocol
  | decoding
  | tooManyRedirects
  /-- A fault that is none of a request, such as an address that cannot be asked, by its name. -/
  | other (name : Text)
deriving DecidableEq, Repr

namespace Fault

def name : Fault → Text
  | request => "RequestError"
  | transport => "TransportError"
  | timeout => "TimeoutException"
  | connectTimeout => "ConnectTimeout"
  | readTimeout => "ReadTimeout"
  | writeTimeout => "WriteTimeout"
  | poolTimeout => "PoolTimeout"
  | network => "NetworkError"
  | connect => "ConnectError"
  | read => "ReadError"
  | write => "WriteError"
  | close => "CloseError"
  | protocol => "ProtocolError"
  | localProtocol => "LocalProtocolError"
  | remoteProtocol => "RemoteProtocolError"
  | proxy => "ProxyError"
  | unsupportedProtocol => "UnsupportedProtocol"
  | decoding => "DecodingError"
  | tooManyRedirects => "TooManyRedirects"
  | other name => name

/-- The faults of requests. -/
def ofRequests : List Fault :=
  [request, transport, timeout, connectTimeout, readTimeout, writeTimeout, poolTimeout, network, connect,
    read, write, close, protocol, localProtocol, remoteProtocol, proxy, unsupportedProtocol, decoding,
    tooManyRedirects]

/-- The fault of a name. -/
def ofName (s : Text) : Fault :=
  (ofRequests.find? fun fault => fault.name = s).getD (.other s)

/-- Whether a fault is one of a request. Timeouts and failed connections are. -/
def isRequest : Fault → Bool
  | other _ => false
  | _ => true

/-- Whether a fault is a timeout, of the connection or of another part of the request. -/
def isTimeout : Fault → Bool
  | timeout | connectTimeout | readTimeout | writeTimeout | poolTimeout => true
  | _ => false

end Fault

inductive Outcome where
  /-- An answer: its status, its body, and the address that gave it if it is not the one asked. -/
  | answer (status : Int) (body : List UInt8) (url : Option Text)
  /-- A fault, with its wording. -/
  | fault (fault : Fault) (message : Text)
deriving DecidableEq, Repr

/-- The outcome of a request when none is left. -/
def Outcome.unconnected : Outcome := .fault .connect []

/-- A client for requests. Its number is the number of clients that were constructed before it. -/
structure Client where
  number : Nat
  timeout : Double
deriving DecidableEq, Repr

namespace Client

def headers : List (Text × Text) :=
  [("User-Agent", "pybaseline-lite/0.1.0"), ("Accept", "application/json")]

def followsRedirects : Bool := true

end Client

/-- The timeout of a request that does not say otherwise, in seconds. -/
def usualTimeout : Double := Double.ofDecimal false 30 0

/-- A request that was made: the address asked, the client it was made on, and what it came to. -/
structure Request where
  url : Text
  client : Client
  outcome : Outcome
deriving DecidableEq, Repr

/-- Reads the body of an answer, in the encoding that it is in. Numbers of too many digits are refused here. -/
def readBody (body : List UInt8) : Reading Json :=
  match Text.Encoding.decode? body with
  | some text => (Json.reading text).refusing "ValueError"
  | none => .refused "invalid encoding"

/-- The state of the network side: the outcomes to come, the requests made, the clients constructed in
order, the shared clients of the open scopes with the innermost one first, the notes, and what reads the
bodies of answers. -/
structure Network where
  outcomes : List Outcome := []
  requests : List Request := []
  clients : List Client := []
  shared : List Client := []
  notes : Journal := []
  read : List UInt8 → Reading Json := readBody

namespace Network

def nextClient (net : Network) (timeout : Double) : Client :=
  ⟨net.clients.length, timeout⟩

def addClient (net : Network) (timeout : Double) : Client × Network :=
  let client := net.nextClient timeout
  (client, { net with clients := net.clients ++ [client] })

/-- Opens a scope with a shared client. -/
def enter (net : Network) (timeout : Double) : Network :=
  let (client, net) := net.addClient timeout
  { net with shared := client :: net.shared }

/-- Closes the innermost scope. -/
def leave (net : Network) : Network :=
  { net with shared := net.shared.drop 1 }

/-- The client for a request of this timeout: the innermost shared one if there is one and the timeout is
the usual one, and else a new one. -/
def clientFor (net : Network) (timeout : Double) : Client × Network :=
  match net.shared with
  | [] => net.addClient timeout
  | client :: _ => if timeout = usualTimeout then (client, net) else net.addClient timeout

def ask (net : Network) (client : Client) (url : Text) : Outcome × Network :=
  let outcome := net.outcomes.head?.getD .unconnected
  (outcome, { net with
    outcomes := net.outcomes.drop 1
    requests := net.requests ++ [⟨url, client, outcome⟩] })

def noting (net : Network) (note : Note) : Network :=
  { net with notes := net.notes ++ [note] }

end Network

/-- Asks for an address up to `attempts` times; only a failed connection is tried again. The answer is
its status, its body and the address that gave it. -/
def attempt (client : Client) (url : Text) : (attempts : Nat) → Network →
    Except Failure (Int × List UInt8 × Text) × Network
  | 0, net => (.error (.network url none), net)
  | attempts + 1, net =>
    match net.ask client url with
    | (.answer status body final, net) => (.ok (status, body, final.getD url), net)
    | (.fault fault message, net) =>
      if fault.isTimeout then (.error (.timeout url), net)
      else if fault = .connect then
        if attempts = 0 then (.error (.network url (some fault.name)), net)
        else attempt client url attempts (net.noting (.retrying url))
      else if fault.isRequest then (.error (.network url (some fault.name)), net)
      else (.error (.foreign fault.name message), net)

/-- A byte that is white space. -/
def isSpaceByte (b : UInt8) : Bool :=
  b = 32 || (9 ≤ b && b ≤ 13)

/-- The value of an answer's body. -/
def decode (read : List UInt8 → Reading Json) (status : Int) (body : List UInt8) (url : Text) :
    Except Failure Json :=
  if status ≠ 200 then .error (.status status url)
  else if body.all isSpaceByte then .error (.content url "an empty response".toList)
  else (read body).result fun _ => .invalidContent url

/-- Downloads a JSON document. -/
def fetch (url : Text) (timeout : Double) (net : Network) : Except Failure Json × Network :=
  let (client, net) := net.clientFor timeout
  match attempt client url 2 net with
  | (.error f, net) => (.error f, net)
  | (.ok (status, body, final), net) =>
    match decode net.read status body final with
    | .error f => (.error f, net)
    | .ok value => (.ok value, net.noting (.downloaded body.length final))

end WebBaseline.Download
