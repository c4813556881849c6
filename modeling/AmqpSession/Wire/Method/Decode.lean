/-
Reading a method payload. Reserved arguments are read and dropped; the spelled-out classes leave
no octet over.
-/
import AmqpSession.Wire.Method

namespace AmqpSession.Wire

namespace Reader

/-- The arguments of a close, of a connection or of a channel. -/
def close : Reader Close := return ⟨← short, ← shortString, ← short, ← short⟩

/-- The arguments of a proposal of limits, or of the answer to one. -/
def tune : Reader Tune := return ⟨← short, ← long, ← short⟩

/-- The arguments of a method of the class `connection`. -/
def connectionMethod (methodId : UInt16) : Reader ConnectionMethod :=
  match methodId.toNat with
  | 10 => return .start ⟨← octet, ← octet, ← table, ← longString, ← longString⟩
  | 11 => return .startOk ⟨← table, ← shortString, ← longString, ← shortString⟩
  | 20 => .secure <$> longString
  | 21 => .secureOk <$> longString
  | 30 => .tune <$> tune
  | 31 => .tuneOk <$> tune
  | 40 => do
    let virtualHost ← shortString
    let _capabilities ← shortString
    let _insist ← bit
    return .openRequest virtualHost
  | 41 => do
    let _knownHosts ← shortString
    return .openOk
  | 50 => .close <$> close
  | 51 => return .closeOk
  | 60 => .blocked <$> shortString
  | 61 => return .unblocked
  | _ => throw (.unknownMethod connectionClass methodId)

/-- The arguments of a method of the class `channel`. -/
def channelMethod (methodId : UInt16) : Reader ChannelMethod :=
  match methodId.toNat with
  | 10 => do
    let _outOfBand ← shortString
    return .openRequest
  | 11 => do
    let _channelId ← longString
    return .openOk
  | 20 => .flow <$> bit
  | 21 => .flowOk <$> bit
  | 40 => .close <$> close
  | 41 => return .closeOk
  | _ => throw (.unknownMethod channelClass methodId)

/-- Refuses octets that are left over. -/
def atEnd : Reader Unit := fun payload =>
  if payload.isEmpty then .ok ((), []) else .error (.trailingBytes payload.length)

/-- A method: its class, its number and its arguments. -/
def method : Reader Method := do
  let classId ← short
  let methodId ← short
  if classId = connectionClass then
    let m ← connectionMethod methodId
    atEnd
    return .connection m
  else if classId = channelClass then
    let m ← channelMethod methodId
    atEnd
    return .channel m
  else
    return .other classId methodId (← rest)

end Reader

/-- The method that a payload carries. -/
def Method.decode (payload : Bytes) : Except DecodeFault Method :=
  Prod.fst <$> Reader.method payload

end AmqpSession.Wire
