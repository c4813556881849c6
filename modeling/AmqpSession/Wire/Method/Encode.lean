/-
The payload of a method: class number, method number, arguments. Reserved arguments are written
empty.
-/
import AmqpSession.Wire.Method

namespace AmqpSession.Wire

/-- The arguments of a close. -/
def Close.encode (c : Close) : Draft :=
  .short c.replyCode ++ .shortString c.replyText ++ .short c.classId ++ .short c.methodId

/-- The arguments of a proposal of limits, or of the answer to one. -/
def Tune.encode (t : Tune) : Draft :=
  .short t.channelMax ++ .long t.frameMax ++ .short t.heartbeat

/-- The arguments of a method of the class `connection`. Reserved ones are empty. -/
def ConnectionMethod.encode : ConnectionMethod → Draft
  | .start offer =>
    .octet offer.versionMajor ++ .octet offer.versionMinor ++ .table offer.serverProperties ++
      .longString offer.mechanisms ++ .longString offer.locales
  | .startOk choice =>
    .table choice.clientProperties ++ .shortString choice.mechanism ++
      .longString choice.response ++ .shortString choice.locale
  | .secure challenge => .longString challenge
  | .secureOk response => .longString response
  | .tune limits => limits.encode
  | .tuneOk limits => limits.encode
  | .openRequest virtualHost => .shortString virtualHost ++ .shortString "" ++ .bit false
  | .openOk => .shortString ""
  | .close reason => reason.encode
  | .closeOk => .empty
  | .blocked reason => .shortString reason
  | .unblocked => .empty

/-- The arguments of a method of the class `channel`. Reserved ones are empty. -/
def ChannelMethod.encode : ChannelMethod → Draft
  | .openRequest => .shortString ""
  | .openOk => .longString []
  | .flow active => .bit active
  | .flowOk active => .bit active
  | .close reason => reason.encode
  | .closeOk => .empty

/-- A method: its class, its number and its arguments. -/
def Method.encode (m : Method) : Draft :=
  .short m.classId ++ .short m.methodId ++
    match m with
    | .connection m => m.encode
    | .channel m => m.encode
    | .other _ _ arguments => .raw arguments

end AmqpSession.Wire
