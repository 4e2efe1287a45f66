import Gateway.Outbound

/-!
# Requests on a connection

What a backend receives: the request line, the header fields that name the host and the
length of the body, and the body.
-/

namespace Gateway

structure WireRequest where
  method : Method
  target : String
  headers : Headers
  body : Bytes
  deriving DecidableEq, Repr

namespace WireRequest

def line (w : WireRequest) : String :=
  w.method.name ++ " " ++ w.target ++ " HTTP/1.1"

end WireRequest

namespace Uri

/-- The port to connect to. -/
def effectivePort (u : Uri) : Nat :=
  (u.port?.orElse fun _ => u.scheme.bind defaultPort?).getD 80

/-- Scheme, host and port of the server. -/
def origin (u : Uri) : String :=
  u.scheme.getD "http" ++ "://" ++ u.host?.getD "" ++ ":" ++ toString u.effectivePort

/-- The host as a header field names it; the usual port of the scheme is left out. -/
def hostField (u : Uri) : String :=
  let host := u.host?.getD ""
  match u.port? with
  | some p => if u.scheme.bind defaultPort? = some p then host else host ++ ":" ++ toString p
  | none => host

end Uri

namespace Outbound

/-- A tunnel is asked for by its authority, everything else by path and query. -/
def wireTarget (o : Outbound) : String :=
  if o.method = .connect then o.uri.authority.getD "" else o.uri.target.originForm

def wireHeaders (o : Outbound) : Headers :=
  let h := if o.headers.contains .host then o.headers
    else o.headers.append .host (Utf8.encode o.uri.hostField)
  if o.body.isEmpty then h
  else h.append .contentLength (Utf8.encode (toString o.body.length))

def wire (o : Outbound) : WireRequest :=
  ⟨o.method, o.wireTarget, o.wireHeaders, o.body⟩

end Outbound

end Gateway
