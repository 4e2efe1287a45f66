import Gateway.Http.Headers
import Gateway.Http.Status

/-!
# Responses

The body of a response may still be on its way when its head is there: it comes complete
after some time, or breaks off.
-/

namespace Gateway

/-- Why a body broke off: it ended too early, or its chunks are malformed. -/
inductive BodyError where
  | endOfFile
  | endOfChunkLine
  | missingSize
  | size
  | sizeOverflow
  | sizeBlanks
  | sizeEnd
  | extension
  | chunkReturn
  | chunkEnd
  | trailerEnd
  | finalEnd
  deriving DecidableEq, Repr

namespace BodyError

def cause : BodyError → String
  | .endOfFile => "end of file before message length reached"
  | .endOfChunkLine => "unexpected EOF during chunk size line"
  | .missingSize => "Invalid chunk size line: missing size digit"
  | .size => "Invalid chunk size line: Invalid Size"
  | .sizeOverflow => "invalid chunk size: overflow"
  | .sizeBlanks => "Invalid chunk size linear white space"
  | .sizeEnd => "Invalid chunk size LF"
  | .extension => "invalid chunk extension contains newline"
  | .chunkReturn => "Invalid chunk body CR"
  | .chunkEnd => "Invalid chunk body LF"
  | .trailerEnd => "Invalid trailer end LF"
  | .finalEnd => "Invalid chunk end LF"

def message (e : BodyError) : String :=
  "error reading a body from connection: " ++ e.cause

end BodyError

/-- The octets that arrive, how they end, and at what time they are all there. -/
structure Payload where
  data : Bytes := []
  error : Option BodyError := none
  ready : Nat := 0
  deriving DecidableEq, Repr

structure Response where
  status : Status
  headers : Headers
  payload : Payload
  deriving DecidableEq, Repr

def Response.ofBody (s : Status) (h : Headers) (body : Bytes) : Response :=
  ⟨s, h, { data := body }⟩

end Gateway
