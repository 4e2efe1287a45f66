/-!
# Status codes

A status is a three-digit number from 100 to 999. Registered codes have a reason
phrase, all others have none.
-/

namespace Gateway

structure Status where
  code : Nat
  lower : 100 ≤ code
  upper : code ≤ 999
  deriving DecidableEq, Repr

namespace Status

def ofNat? (n : Nat) : Option Status :=
  if h : 100 ≤ n ∧ n ≤ 999 then some ⟨n, h.1, h.2⟩ else none

theorem ofNat?_code (s : Status) : ofNat? s.code = some s := by
  simp [ofNat?, s.lower, s.upper]

def ok : Status := ⟨200, by decide, by decide⟩
def badRequest : Status := ⟨400, by decide, by decide⟩
def requestTimeout : Status := ⟨408, by decide, by decide⟩
def payloadTooLarge : Status := ⟨413, by decide, by decide⟩
def tooManyRequests : Status := ⟨429, by decide, by decide⟩
def internalServerError : Status := ⟨500, by decide, by decide⟩
def badGateway : Status := ⟨502, by decide, by decide⟩
def serviceUnavailable : Status := ⟨503, by decide, by decide⟩

def isServerError (s : Status) : Bool :=
  500 ≤ s.code && s.code < 600

def phrases : List (Nat × String) :=
  [(100, "Continue"), (101, "Switching Protocols"), (102, "Processing"),
   (200, "OK"), (201, "Created"), (202, "Accepted"),
   (203, "Non Authoritative Information"), (204, "No Content"), (205, "Reset Content"),
   (206, "Partial Content"), (207, "Multi-Status"), (208, "Already Reported"),
   (226, "IM Used"),
   (300, "Multiple Choices"), (301, "Moved Permanently"), (302, "Found"),
   (303, "See Other"), (304, "Not Modified"), (305, "Use Proxy"),
   (307, "Temporary Redirect"), (308, "Permanent Redirect"),
   (400, "Bad Request"), (401, "Unauthorized"), (402, "Payment Required"),
   (403, "Forbidden"), (404, "Not Found"), (405, "Method Not Allowed"),
   (406, "Not Acceptable"), (407, "Proxy Authentication Required"),
   (408, "Request Timeout"), (409, "Conflict"), (410, "Gone"),
   (411, "Length Required"), (412, "Precondition Failed"), (413, "Payload Too Large"),
   (414, "URI Too Long"), (415, "Unsupported Media Type"), (416, "Range Not Satisfiable"),
   (417, "Expectation Failed"), (418, "I'm a teapot"), (421, "Misdirected Request"),
   (422, "Unprocessable Entity"), (423, "Locked"), (424, "Failed Dependency"),
   (426, "Upgrade Required"), (428, "Precondition Required"), (429, "Too Many Requests"),
   (431, "Request Header Fields Too Large"), (451, "Unavailable For Legal Reasons"),
   (500, "Internal Server Error"), (501, "Not Implemented"), (502, "Bad Gateway"),
   (503, "Service Unavailable"), (504, "Gateway Timeout"),
   (505, "HTTP Version Not Supported"), (506, "Variant Also Negotiates"),
   (507, "Insufficient Storage"), (508, "Loop Detected"), (510, "Not Extended"),
   (511, "Network Authentication Required")]

/-- The reason phrase, empty for codes that are not registered. -/
def reason (s : Status) : String :=
  ((phrases.find? (·.1 = s.code)).map (·.2)).getD ""

/-- The code followed by its reason phrase. -/
def text (s : Status) : String :=
  toString s.code ++ " " ++ s.reason

end Status

end Gateway
