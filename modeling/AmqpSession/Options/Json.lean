/-
Options as JSON. An object names the options it sets; an array gives them in order. Names that are
not options are passed over, and a name that is one may come only once.
-/
import AmqpSession.Options
import AmqpSession.Text.Json

namespace AmqpSession

open AmqpSession.Text (Json)

/-- An unsigned integer below `bound`. -/
def Text.Json.natBelow? (bound : Nat) : Json → Option Nat
  | .number (some n) => if n < bound then some n else none
  | _ => none

/-- The text of a string. -/
def Text.Json.string? : Json → Option String
  | .string s => s
  | _ => none

/-- The values of the named fields of an object, or the items of an array in the order of the
names; a field that is left out has none. -/
def Text.Json.record? (names : List String) : Json → Option (List (Option Json))
  | .object fields =>
    if fields.all (·.1.isSome) then
      names.mapM fun name =>
        match fields.filter (·.1 == some name) with
        | [] => some none
        | [(_, value)] => some (some value)
        | _ => none
    else none
  | .array items =>
    if items.length ≤ names.length then
      some (items.map some ++ List.replicate (names.length - items.length) none)
    else none
  | _ => none

/-- Credentials have no part that may be left out. -/
def Login.ofJson? (j : Json) : Option Login :=
  match j.record? ["username", "password"] with
  | some [some username, some password] => return ⟨← username.string?, ← password.string?⟩
  | _ => none

namespace Options

/-- A value that is left out keeps its default. -/
def valueOr {α : Type} (default : α) (read : Json → Option α) : Option Json → Option α
  | none => some default
  | some j => read j

/-- Options from a value of JSON. What is left out keeps its default, and a limit on frames is taken as
it is, without being raised to the least one. -/
def ofJson? (j : Json) : Option Options :=
  match j.record? ["login", "virtual_host", "channel_max", "max_frame_size", "heartbeat"] with
  | some [login, virtualHost, channelMax, maxFrameSize, heartbeat] =>
    return {
      login := ← valueOr standard.login Login.ofJson? login
      virtualHost := ← valueOr standard.virtualHost Text.Json.string? virtualHost
      channelMax := ← valueOr standard.channelMax
        (fun j => (j.natBelow? UInt16.size).map UInt16.ofNat) channelMax
      maxFrameSize := ← valueOr standard.maxFrameSize
        (fun j => (j.natBelow? UInt32.size).map UInt32.ofNat) maxFrameSize
      heartbeat := ← valueOr standard.heartbeat
        (fun j => (j.natBelow? UInt16.size).map UInt16.ofNat) heartbeat }
  | _ => none

/-- Options from the text of a value. -/
def parseJson? (text : String) : Option Options := (Json.parse? text).bind ofJson?

/-- Options as an object with every field, in the order in which an array gives them. -/
def toJson (o : Options) : String :=
  "\x7b\"login\":\x7b\"username\":" ++ Json.quote o.login.username ++
    ",\"password\":" ++ Json.quote o.login.password ++
    "\x7d,\"virtual_host\":" ++ Json.quote o.virtualHost ++
    ",\"channel_max\":" ++ toString o.channelMax.toNat ++
    ",\"max_frame_size\":" ++ toString o.maxFrameSize.toNat ++
    ",\"heartbeat\":" ++ toString o.heartbeat.toNat ++ "\x7d"

end Options

end AmqpSession
