/-
Credentials and the answer to the server's choice of security mechanisms.
-/
import AmqpSession.Text.Percent
import AmqpSession.Text.Utf8
import AmqpSession.Uri

namespace AmqpSession

/-- A user name with its password. -/
structure Login where
  username : String
  password : String
deriving DecidableEq, Repr

namespace Login

/-- The default login. -/
def guest : Login := ⟨"guest", "guest"⟩

/-- The only security mechanism in use. -/
def mechanism : String := "PLAIN"

/-- User name and password, each after a zero octet. -/
def initialResponse (l : Login) : Bytes :=
  0 :: Utf8.encode l.username ++ 0 :: Utf8.encode l.password

/-- The text behind percent escapes. -/
def unescape? (s : String) : Option String := Utf8.decode? (Percent.decode (Utf8.encode s))

/-- A URI has credentials only if it has both parts and both are text. -/
def ofUri? (u : Uri) : Option Login :=
  match u.username, u.password with
  | "", _ => none
  | _, none => none
  | username, some password => return ⟨← unescape? username, ← unescape? password⟩

end Login

end AmqpSession
