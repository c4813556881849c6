/-
Dot segments of a hierarchical path: `.` names the segment that it stands in and `..` takes the
one before it away.
-/
import AmqpSession.Text.Pieces

namespace AmqpSession.Uri

/-- A dot as it may be written in a dot segment: plain or escaped. -/
def dots : List Char → Option Nat
  | [] => some 0
  | '.' :: rest => (dots rest).map (· + 1)
  | '%' :: '2' :: 'e' :: rest => (dots rest).map (· + 1)
  | '%' :: '2' :: 'E' :: rest => (dots rest).map (· + 1)
  | _ => none

/-- A letter and a colon or bar, alone or before a backslash. It is never taken away. -/
def isDriveLetter : List Char → Bool
  | [c, d] => c.isAlpha && (d == ':' || d == '|')
  | c :: d :: '\\' :: _ => c.isAlpha && (d == ':' || d == '|')
  | _ => false

/-- The segments left open for more after one more of them; the latest comes first. -/
def pushSegment (done : List (List Char)) (segment : List Char) : List (List Char) :=
  match dots segment with
  | some 1 => done
  | some 2 =>
    match done with
    | [] => []
    | last :: before => if isDriveLetter last then last :: before else before
  | _ => segment :: done

/-- The last segment of a path has no slash after it; a dot segment there leaves it empty. -/
def closeSegments (done : List (List Char)) (segment : List Char) : List (List Char) :=
  match dots segment with
  | some 1 => [] :: done
  | some 2 => [] :: pushSegment done segment
  | _ => segment :: done

/-- The segments of a path without its dot segments, the latest first. -/
def reduceSegments (done : List (List Char)) : List (List Char) → List (List Char)
  | [] => done
  | [last] => closeSegments done last
  | segment :: rest => reduceSegments (pushSegment done segment) rest

/-- The path after its leading slash, with dot segments carried out. -/
def reducePath (isSlash : Char → Bool) (cs : List Char) : List Char :=
  (reduceSegments [] (Text.pieces isSlash cs)).reverse.flatMap ('/' :: ·)

end AmqpSession.Uri
