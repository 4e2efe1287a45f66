import Gateway.Url.Percent

/-!
# Paths of URLs

A path is a list of segments. Single dots are dropped and double dots remove the segment
before them, also when the dots are percent-encoded. Paths of files keep a drive letter
at their front.
-/

namespace Gateway.UrlPath

def isDot (seg : List Char) : Bool :=
  seg = ['.'] || String.ofList (seg.map Char.toLower) = "%2e"

def isDoubleDot (seg : List Char) : Bool :=
  ["..", ".%2e", "%2e.", "%2e%2e"].contains (String.ofList (seg.map Char.toLower))

/-- A letter followed by a colon or a bar. -/
def isDrive : List Char → Bool
  | [c, d] => c.isAlpha && (d = ':' || d = '|')
  | _ => false

def isNormalDrive : List Char → Bool
  | [c, d] => c.isAlpha && d = ':'
  | _ => false

/-- The path without its last segment. The drive letter of a file stays. -/
def shorten (isFile : Bool) (segs : List (List Char)) : List (List Char) :=
  match segs with
  | [seg] => if isFile && isNormalDrive seg then segs else []
  | _ => segs.dropLast

/-- Adds a segment, which is the last of the path unless a slash follows it. -/
def push (isFile slashFollows : Bool) (segs : List (List Char)) (seg : List Char) :
    List (List Char) :=
  let behind := if slashFollows then [] else [[]]
  if isDoubleDot seg then shorten isFile segs ++ behind
  else if isDot seg then segs ++ behind
  else if isFile && segs.isEmpty && isDrive seg then [seg.take 1 ++ [':']]
  else segs ++ [Percent.encode Percent.path seg]

def isEnd (backslash : Bool) (c : Char) : Bool :=
  c = '/' || (backslash && c = '\\')

/-- Adds the segments of `cs`, which has no query and no fragment. -/
def pushAll (isFile backslash : Bool) (segs : List (List Char)) (cs : List Char) :
    List (List Char) :=
  let seg := cs.takeWhile (!isEnd backslash ·)
  match _h : cs.dropWhile (!isEnd backslash ·) with
  | [] => push isFile false segs seg
  | _ :: rest =>
      have : rest.length < cs.length := by
        have hle := (List.dropWhile_sublist (!isEnd backslash ·) (l := cs)).length_le
        simp only [_h, List.length_cons] at hle
        omega
      pushAll isFile backslash (push isFile true segs seg) rest
termination_by cs.length

def text (segs : List (List Char)) : List Char :=
  segs.flatMap ('/' :: ·)

end Gateway.UrlPath
