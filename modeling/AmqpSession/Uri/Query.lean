/-
The key and value pairs of a query, in order. A plus sign stands for a space.
-/
import AmqpSession.Text.Percent
import AmqpSession.Text.Pieces
import AmqpSession.Text.Utf8
import AmqpSession.Uri

namespace AmqpSession.Uri

/-- A key or a value as text. What is ill-formed is replaced. -/
def formText (bs : Bytes) : String :=
  Utf8.decodeLossy (Percent.decode (bs.map fun b => if b = 0x2b then 0x20 else b))

/-- The pairs between ampersands; an empty stretch is none, and a value may be missing. -/
def formPairs (bs : Bytes) : List (String × String) :=
  ((Text.pieces (· == 0x26) bs).filter (!·.isEmpty)).map fun pair =>
    (formText (pair.takeWhile (· != 0x3d)), formText (pair.dropWhile (· != 0x3d)).tail)

/-- The pairs of a URI; one without a query has none. -/
def queryPairs (u : Uri) : List (String × String) :=
  match u.query with
  | some query => formPairs (Utf8.encode query)
  | none => []

end AmqpSession.Uri
