/-!
# Tokens

Methods and field names are tokens: one or more visible ASCII characters that are
letters, digits or one of a few marks.
-/

namespace Gateway.Token

def marks : List Char :=
  ['!', '#', '$', '%', '&', '\x27', '*', '+', '-', '.', '^', '_', '\x60', '|', '~']

def isTokenChar (c : Char) : Bool :=
  c.isAlphanum || marks.contains c

def isToken (cs : List Char) : Bool :=
  !cs.isEmpty && cs.all isTokenChar

end Gateway.Token
