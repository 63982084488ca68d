import CallTransfer.Text.Search
import CallTransfer.Url.Percent

/-!
    Paths. A path is a list of segments, each after a slash, or a text that is not taken apart. Dot
    segments are resolved when a path is read, in all their spellings: a single dot is left out and
    a double dot takes the segment before it away; at the end either leaves an empty segment.
-/

namespace CallTransfer.Url

/-- The path of a URL. -/
inductive Path where
  | segments (ss : List (List Char))
  | rootless (text : List Char)
  deriving DecidableEq, Repr

namespace Path

/-- The written form of a path. -/
def render : Path → List Char
  | segments ss => ss.flatMap ('/' :: ·)
  | rootless text => text

/-- A spelling of a single dot. -/
def isSingleDot (s : List Char) : Bool :=
  let s := s.map Char.toLower
  s == ['.'] || s == "%2e".toList

/-- A spelling of a double dot. -/
def isDoubleDot (s : List Char) : Bool :=
  let s := s.map Char.toLower
  s == ['.', '.'] || s == ".%2e".toList || s == "%2e.".toList || s == "%2e%2e".toList

/-- Resolves the dot segments behind `done`, which holds the segments before them, last first. -/
def resolveAfter (done : List (List Char)) : List (List Char) → List (List Char)
  | [] => done.reverse
  | [s] =>
    if isDoubleDot s then ([] :: done.tail).reverse
    else if isSingleDot s then ([] :: done).reverse
    else (s :: done).reverse
  | s :: ss =>
    if isDoubleDot s then resolveAfter done.tail ss
    else if isSingleDot s then resolveAfter done ss
    else resolveAfter (s :: done) ss

/-- A list of segments without dot segments. -/
def resolve (ss : List (List Char)) : List (List Char) := resolveAfter [] ss

/-- The path of segments as they are written. -/
def ofSegments (ss : List (List Char)) : Path :=
  segments ((resolve ss).map (Percent.encode Percent.path))

/-- A path that is not taken apart. -/
def ofRootless (s : List Char) : Path := rootless (Percent.encode Percent.control s)

/-- A drive: a letter and a colon or bar. -/
def isDrive : List Char → Bool
  | [c, d] => c.isAlpha && (d == ':' || d == '|')
  | _ => false

/-- Whether the segments written for a file start with a drive. -/
def startsWithDrive (ss : List (List Char)) : Bool := ss.head?.any isDrive

/-- The path of a file: a drive in front is written with a colon and cannot be taken away, and no
    empty segments precede another. -/
def ofFile (ss : List (List Char)) : Path :=
  let resolved := match ss with
    | [c, d] :: ss =>
      if isDrive [c, d] then
        [c, ':'] :: (if ss.isEmpty then [] else resolve ss)
      else resolve ([c, d] :: ss)
    | ss => resolve ss
  let kept := resolved.dropWhile (·.isEmpty)
  segments ((if kept.isEmpty then [[]] else kept).map (Percent.encode Percent.path))

end Path

end CallTransfer.Url
