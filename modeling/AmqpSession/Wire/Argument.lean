/-
The argument types that methods are made of. `Reader` takes arguments off the front of a payload;
`Draft` is what a writer has put down so far, so that a frame that cannot be encoded still shows
which octets were written before the fault.
-/
import AmqpSession.Text.Utf8
import AmqpSession.Wire.Fault

namespace AmqpSession.Wire

/-- An encoded field table without its leading size. Its entries are not interpreted. -/
structure FieldTable where
  entries : Bytes
deriving DecidableEq, Repr

namespace FieldTable

/-- A table without entries. -/
def empty : FieldTable := ⟨[]⟩

/-- The table has no entries. -/
def isEmpty (t : FieldTable) : Bool := t.entries.isEmpty

end FieldTable

/-! ## Reading -/

/-- Reads a value off the front of a payload and leaves what follows it. -/
abbrev Reader := StateT Bytes (Except DecodeFault)

namespace Reader

/-- So many octets, which have to be there. -/
def octets (count : Nat) : Reader Bytes := fun payload =>
  if payload.length < count then .error .truncated
  else .ok (payload.take count, payload.drop count)

/-- Everything that is left. -/
def rest : Reader Bytes := fun payload => .ok (payload, [])

/-- An unsigned number in so many octets, the highest one first. -/
def unsigned (width : Nat) : Reader Nat := ofBigEndian <$> octets width

/-- A number in one octet. -/
def octet : Reader UInt8 := UInt8.ofNat <$> unsigned 1

/-- A number in two octets. -/
def short : Reader UInt16 := UInt16.ofNat <$> unsigned 2

/-- A number in four octets. -/
def long : Reader UInt32 := UInt32.ofNat <$> unsigned 4

/-- A number in eight octets. -/
def longLong : Reader UInt64 := UInt64.ofNat <$> unsigned 8

/-- Only the low bit of the octet counts. -/
def bit : Reader Bool := (fun b => b &&& 1 == 1) <$> octet

/-- A text of up to 255 octets after its size. It has to be well-formed. -/
def shortString : Reader String := do
  let size ← octet
  let text ← octets size.toNat
  match Utf8.decode? text with
  | some s => return s
  | none => throw .invalidUtf8

/-- Octets after their size. They may be anything. -/
def longString : Reader Bytes := do
  let size ← long
  octets size.toNat

/-- A field table. It is taken as a long string, and its entries are left as they are. -/
def table : Reader FieldTable := FieldTable.mk <$> longString

end Reader

/-! ## Writing -/

/-- The octets written so far and the fault that writing stopped at, if any. -/
structure Draft where
  octets : Bytes
  fault : Option EncodeFault
deriving DecidableEq, Repr

namespace Draft

/-- Nothing is written after a fault. -/
def append (a b : Draft) : Draft :=
  match a.fault with
  | none => ⟨a.octets ++ b.octets, b.fault⟩
  | some _ => a

instance : Append Draft := ⟨append⟩

/-- Octets that are written as they are. -/
def raw (bs : Bytes) : Draft := ⟨bs, none⟩

/-- Nothing is written yet. -/
def empty : Draft := raw []

/-- Writing stops before the first octet. -/
def stop (fault : EncodeFault) : Draft := ⟨[], some fault⟩

/-- One octet. -/
def octet (n : UInt8) : Draft := raw [n]

/-- A number in two octets, the highest one first. -/
def short (n : UInt16) : Draft := raw (bigEndian 2 n.toNat)

/-- A number in four octets, the highest one first. -/
def long (n : UInt32) : Draft := raw (bigEndian 4 n.toNat)

/-- A number in eight octets, the highest one first. -/
def longLong (n : UInt64) : Draft := raw (bigEndian 8 n.toNat)

/-- A truth value, in an octet of its own. -/
def bit (b : Bool) : Draft := octet (if b then 1 else 0)

/-- A text after its size, which has to fit into one octet. -/
def shortString (s : String) : Draft :=
  if s.utf8ByteSize < 256 then raw (UInt8.ofNat s.utf8ByteSize :: Utf8.encode s)
  else stop (.shortStringTooLong s.utf8ByteSize)

/-- Octets after their size, which has to fit into four octets. -/
def longString (bs : Bytes) : Draft :=
  if bs.length < UInt32.size then raw (bigEndian 4 bs.length ++ bs)
  else stop (.payloadTooLarge bs.length)

/-- A field table, its entries as they are. -/
def table (t : FieldTable) : Draft := longString t.entries

/-- The octets of a draft that was finished. -/
def result (d : Draft) : Except EncodeFault Bytes :=
  match d.fault with
  | none => .ok d.octets
  | some fault => .error fault

end Draft

end AmqpSession.Wire
