import Gateway.Error.Basic
import Gateway.Json.Writer

/-!
# Rejections as documents

How a rejection is written for the client: its status with a body of some content type.
-/

namespace Gateway

structure Formatted where
  status : Status
  body : Bytes
  contentType : String
  deriving DecidableEq, Repr

abbrev Formatter := Rejection → Formatted

namespace Formatter

def encode (j : Json) : Bytes :=
  Utf8.encode j.write

/-- The body of a rejection if it has one, else an object with its message and, for a
retry, the seconds to wait. -/
def json : Formatter
  | .http s _ (some body) => ⟨s, body, "application/json"⟩
  | .http s m none => ⟨s, encode (.ofFields [("error", .str m)]), "application/json"⟩
  | .retry n =>
      ⟨.tooManyRequests,
        encode (.ofFields [("error", .str (Rejection.retry n).message), ("retry-seconds", .ofNat n)]),
        "application/json"⟩

/-- The message alone, under a given content type. -/
def message (contentType : String) : Formatter :=
  fun r => ⟨r.status, Utf8.encode r.message, contentType⟩

end Formatter

end Gateway
