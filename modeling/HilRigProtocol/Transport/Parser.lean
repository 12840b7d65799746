/-
  The delimited-body accumulator (`transport_parser.c`).
-/
import HilRigProtocol.Transport.Types

namespace HilRigProtocol.Transport

/-- `HIL_Transport_Parser_Result_T` -/
inductive ParserResult
  | needMoreData
  | bodyReady
  | discarding
  | discardedBody
  | error
  deriving DecidableEq, Repr, Inhabited

namespace Parser

/-- `HIL_TRANSPORT_Parser_State_Is_Valid`; the scratch pointer is set by `init`. -/
def stateIsValid (parser : Parser) : Bool :=
  parser.scratchBufferSize != 0
    && decide (parser.accumulated.length ≤ parser.scratchBufferSize)
    && decide (parser.bodyReady ≤ 1) && decide (parser.discarding ≤ 1)
    && !(parser.bodyReady != 0 && parser.discarding != 0)
    && !(parser.bodyReady != 0 && parser.accumulated.length == 0)
    && !(parser.discarding != 0 && parser.accumulated.length != 0)

/-- `HIL_TRANSPORT_Parser_Init`; `scratchBuffer` is the address of the region. -/
def init (scratchBuffer scratchBufferSize : Nat) : Status × Parser :=
  let cleared : Parser :=
    { scratchBufferSize := scratchBufferSize, accumulated := [], bodyReady := 0, discarding := 0 }
  if scratchBuffer = 0 ∨ scratchBufferSize = 0 then
    (.invalidArgument, { cleared with scratchBufferSize := 0 })
  else (.ok, cleared)

/-- `HIL_TRANSPORT_Parser_Push_Byte` -/
def pushByte (parser : Parser) (byte : UInt8) : ParserResult × Parser :=
  if ¬ parser.stateIsValid then (.error, parser)
  else if parser.bodyReady ≠ 0 then (.bodyReady, parser)
  else if parser.discarding ≠ 0 then
    if byte = 0 then (.discardedBody, { parser with discarding := 0 })
    else (.discarding, parser)
  else if byte = 0 then
    if parser.accumulated.length = 0 then (.needMoreData, parser)
    else (.bodyReady, { parser with bodyReady := 1 })
  else if parser.accumulated.length = parser.scratchBufferSize then
    (.discarding, { parser with accumulated := [], discarding := 1 })
  else (.needMoreData, { parser with accumulated := parser.accumulated ++ [byte] })

/-- The loop of `HIL_TRANSPORT_Parser_Push_Bytes`: the result of the last byte
    pushed, the parser, and the number of bytes consumed. -/
def pushBytesLoop : ParserResult → Parser → List UInt8 → ParserResult × Parser × Nat
  | result, parser, [] => (result, parser, 0)
  | _, parser, byte :: rest =>
      let (result, parser) := parser.pushByte byte
      match result with
      | .error => (.error, parser, 0)
      | .bodyReady => (.bodyReady, parser, 1)
      | .discardedBody => (.discardedBody, parser, 1)
      | result =>
          let (result, parser, consumed) := pushBytesLoop result parser rest
          (result, parser, consumed + 1)

/-- `HIL_TRANSPORT_Parser_Push_Bytes` -/
def pushBytes (parser : Parser) (data : List UInt8) : ParserResult × Parser × Nat :=
  if ¬ parser.stateIsValid then (.error, parser, 0)
  else if parser.bodyReady ≠ 0 then (.bodyReady, parser, 0)
  else pushBytesLoop .needMoreData parser data

/-- `HIL_TRANSPORT_Parser_Peek_Body` -/
def peekBody (parser : Parser) : Status × List UInt8 :=
  if ¬ parser.stateIsValid then (.internalError, [])
  else if parser.bodyReady = 0 then (.notReady, [])
  else (.ok, parser.accumulated)

/-- `HIL_TRANSPORT_Parser_Consume_Body` -/
def consumeBody (parser : Parser) : Status × Parser :=
  if ¬ parser.stateIsValid then (.internalError, parser)
  else if parser.bodyReady = 0 then (.notReady, parser)
  else (.ok, { parser with bodyReady := 0, accumulated := [] })

/-- `HIL_TRANSPORT_Parser_Reset` -/
def reset (parser : Parser) : Parser :=
  { parser with accumulated := [], bodyReady := 0, discarding := 0 }

end Parser

end HilRigProtocol.Transport
