import ObjectStore.Exchange
import ObjectStore.Request.Signature
import ObjectStore.Settings.Client
import ObjectStore.Url.Basic

/-!
# Clients

A client signs operations and sends them to the service at its endpoint. An
operation is sent only if the path that would arrive is the path that was
signed. An answer with a status of success gives a response, with a body if one
is wanted. Any other answer is a failure, told by the error document in its
body, of which a limited number of bytes is read.
-/

namespace ObjectStore

/-- A client: who signs, where the service is, and how much of an error
document is read. -/
structure Client where
  credentials : Credentials
  endpoint : Url
  errorLimit : Nat

structure Response where
  status : Nat
  headers : HeaderMap
  body : Option IncomingBody

namespace Client

/-- The client with these settings, if their endpoint is a base URL. -/
def ofSettings (credentials : Credentials) (s : ClientSettings) : Except Failure Client :=
  match Url.parse s.endpoint with
  | .ok endpoint => .ok ⟨credentials, endpoint, s.errorLimit⟩
  | .error reason => .error (.request (.endpoint s.endpoint reason))

def shown (c : Client) : String :=
  let inner := Quoted.record "RequestExecutor"
    [("credentials", c.credentials.shown), ("endpoint", Quoted.text c.endpoint.text),
      ("max_error_body", toString c.errorLimit)]
  Quoted.record "Client" [("executor", inner)]

/-! ## Requests -/

/-- The headers that are sent: those of the operation, the date, the
signature, and the length of a stream. -/
def sentHeaders (c : Client) (op : Operation) (now : Instant) : SortedMap String :=
  let signed := (op.headers.insert "date" (HttpDate.format now)).insert "authorization"
    (Signature.authorization c.credentials op now)
  match op.body with
  | .stream _ length => signed.insert "content-length" (toString length)
  | _ => signed

/-- The signed request for an operation. -/
def prepare (c : Client) (op : Operation) (now : Instant) : Except Failure Request :=
  match HeaderMap.ofTexts (c.sentHeaders op now).entries with
  | .error e => .error (.header e)
  | .ok headers =>
    let placed := c.endpoint.withPath op.path
    if placed.path = op.path then
      .ok ⟨op.verb, placed.withParameters op.query.entries, headers, op.body⟩
    else .error (.request (.pathChanged op.path placed.path))

/-! ## Answers -/

/-- The first bytes of a body, at most `limit` of them. Nothing is read beyond
them, so a failure after them does not matter. -/
def firstBytes : Nat → List Chunk → Except IoError Bytes
  | 0, _ => .ok []
  | _, [] => .ok []
  | _, .error e :: _ => .error e
  | limit, .ok bs :: rest =>
    (firstBytes (limit - bs.length) rest).map (bs.take limit ++ ·)

/-- What an answer without success means. -/
def refusal (resource : String) (status : Nat) : Except IoError Bytes → Failure
  | .error e => .transport resource ⟨"failed to read error body", some e.text⟩
  | .ok [] => .protocol resource (.noErrorDocument status)
  | .ok document =>
    .service { Refusal.ofBody document with status := some status, resource := some resource }

/-- Settles an operation by what became of its request. -/
def settle (c : Client) (resource : String) (wantsBody : Bool) :
    Except DeliveryError Answer → Settled Response
  | .error e => ⟨.error (.transport resource e), none⟩
  | .ok a =>
    if isSuccess a.status then
      if wantsBody then ⟨.ok ⟨a.status, a.headers, some ⟨a.body, a.connection⟩⟩, none⟩
      else ⟨.ok ⟨a.status, a.headers, none⟩, some a.connection.release⟩
    else
      let document := firstBytes c.errorLimit (a.body.getD [])
      ⟨.error (refusal resource a.status document), some a.connection.release⟩

def send (c : Client) (op : Operation) (wantsBody : Bool) (now : Instant) :
    Exchange Response :=
  match c.prepare op now with
  | .error e => .refused e
  | .ok request => .sending request (c.settle op.path wantsBody)

/-- Carries out an operation. The response has a body unless the verb is
HEAD. -/
def ask (c : Client) (op : Operation) (now : Instant) : Exchange Response :=
  c.send op (op.verb ≠ .head) now

def command (c : Client) (op : Operation) (now : Instant) : Exchange Response :=
  c.send op false now

end Client
end ObjectStore
