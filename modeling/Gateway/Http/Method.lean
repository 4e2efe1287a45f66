import Gateway.Http.Token

/-!
# Request methods

A method is a token and is compared with its case. Some methods are idempotent: a
request that may have been carried out can be sent once more without harm.
-/

namespace Gateway

structure Method where
  name : String
  deriving DecidableEq, Repr

namespace Method

def get : Method := ⟨"GET"⟩
def head : Method := ⟨"HEAD"⟩
def connect : Method := ⟨"CONNECT"⟩

def parse? (s : String) : Option Method :=
  if Token.isToken s.toList then some ⟨s⟩ else none

def idempotentNames : List String :=
  ["GET", "HEAD", "OPTIONS", "TRACE", "PUT", "DELETE"]

def isIdempotent (m : Method) : Bool :=
  idempotentNames.contains m.name

end Method

end Gateway
