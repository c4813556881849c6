/-
Options from a connection URI: credentials, the virtual host as its path, and limits as query
parameters. What the URI leaves out stays as it was.
-/
import AmqpSession.Options
import AmqpSession.Text.Quoted
import AmqpSession.Uri.Parse
import AmqpSession.Uri.Query

namespace AmqpSession.Options

/-- Why a URI gives no options. -/
inductive UriError where
  | malformed (fault : UriFault)
  | scheme
  | virtualHost
  | query (key value : String)
deriving DecidableEq, Repr

/-- The wording of a URI that gives no options. -/
def UriError.message : UriError → String
  | .malformed fault => fault.message
  | .scheme => "Invalid scheme. Only \"amqp\" and \"amqps\" are supported."
  | .virtualHost => "Invalid virtual host"
  | .query key value =>
    "Invalid value " ++ Text.quote value ++ " for query parameter " ++ Text.quote key

/-- A number below `bound` in decimal digits, with a plus sign at most. -/
def decimal? (bound : Nat) (s : String) : Option Nat :=
  let digits := match s.toList with
    | '+' :: rest => rest
    | cs => cs
  if digits.isEmpty || !digits.all Char.isDigit then none
  else
    let n := digits.foldl (fun n c => n * 10 + (c.toNat - '0'.toNat)) 0
    if n < bound then some n else none

/-- One query parameter. Unknown ones count for nothing. -/
def applyPair (o : Options) (pair : String × String) : Except UriError Options :=
  let refused : Except UriError Options := .error (.query pair.1 pair.2)
  match pair.1 with
  | "heartbeat" =>
    match decimal? UInt16.size pair.2 with
    | some n => .ok { o with heartbeat := UInt16.ofNat n }
    | none => refused
  | "channel_max" =>
    match decimal? UInt16.size pair.2 with
    | some n => .ok { o with channelMax := UInt16.ofNat n }
    | none => refused
  | "frame_max" =>
    match decimal? UInt32.size pair.2 with
    | some n => .ok (o.withFrameMax (UInt32.ofNat n))
    | none => refused
  | _ => .ok o

/-- The virtual host is the path without its leading slash; an empty one is no choice. -/
def applyPath (o : Options) (path : String) : Except UriError Options :=
  let name := match path.toList with
    | '/' :: rest => String.ofList rest
    | _ => path
  if name = "" then .ok o
  else match Login.unescape? name with
    | some virtualHost => .ok { o with virtualHost := virtualHost }
    | none => .error .virtualHost

/-- Options as a URI changes them: the login first, then the path, then each query parameter in its
order. -/
def applyUri (o : Options) (u : Uri) : Except UriError Options := do
  if u.scheme ≠ "amqp" ∧ u.scheme ≠ "amqps" then throw .scheme
  let o := match Login.ofUri? u with
    | some login => { o with login := login }
    | none => o
  u.queryPairs.foldlM applyPair (← o.applyPath u.path)

/-- Options from the text of a URI. -/
def applyText (o : Options) (text : String) : Except UriError Options :=
  match Uri.parse text with
  | .ok u => o.applyUri u
  | .error fault => .error (.malformed fault)

end AmqpSession.Options
