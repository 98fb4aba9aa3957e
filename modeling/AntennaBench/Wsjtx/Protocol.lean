import AntennaBench.Core.Ieee
import AntennaBench.Core.Result

/-!
# WSJT-X datagrams

The network messages of WSJT-X: big-endian numbers and length-prefixed UTF-8 text after a
magic number, a schema and the type of the message. What a message has after the fields
that are read is counted and not looked at.
-/

namespace AntennaBench

def wsjtxMagic : ℕ := 0xadbccbda
def minSupportedSchema : ℕ := 2
def maxSupportedSchema : ℕ := 3

def heartbeatMessageType : ℕ := 0
def statusMessageType : ℕ := 1
def closeMessageType : ℕ := 6
def wsprDecodeMessageType : ℕ := 10
def nullByteArrayLength : ℕ := 2 ^ 32 - 1
def millisPerDay : ℕ := 86400000

structure HeartbeatMessage where
  clientId : String
  maximumSchema : ℕ
  version : String
  revision : String
  deriving DecidableEq

structure StatusMessage where
  clientId : String
  dialFrequencyHz : ℕ
  mode : String
  dxCall : String
  report : String
  txMode : String
  txEnabled : Bool
  transmitting : Bool
  decoding : Bool
  rxDfHz : ℕ
  txDfHz : ℕ
  deCall : String
  deGrid : String
  deriving DecidableEq

structure WsprDecodeMessage where
  clientId : String
  isNew : Bool
  timeMillis : ℕ
  snrDb : ℤ
  deltaTimeSeconds : IeeeFloat
  frequencyHz : ℕ
  driftHzPerMinute : ℤ
  callsign : String
  grid : String
  powerDbm : ℤ
  offAir : Bool

structure CloseMessage where
  clientId : String
  deriving DecidableEq

structure UnsupportedMessage where
  clientId : String
  messageType : ℕ
  deriving DecidableEq

inductive WsjtxMessage where
  | heartbeat (message : HeartbeatMessage)
  | status (message : StatusMessage)
  | wsprDecode (message : WsprDecodeMessage)
  | close (message : CloseMessage)
  | unsupported (message : UnsupportedMessage)

namespace WsjtxMessage

def clientId : WsjtxMessage → String
  | heartbeat message => message.clientId
  | status message => message.clientId
  | wsprDecode message => message.clientId
  | close message => message.clientId
  | unsupported message => message.clientId

def messageType : WsjtxMessage → ℕ
  | heartbeat _ => heartbeatMessageType
  | status _ => statusMessageType
  | wsprDecode _ => wsprDecodeMessageType
  | close _ => closeMessageType
  | unsupported message => message.messageType

def unsupported? : WsjtxMessage → Option UnsupportedMessage
  | unsupported message => some message
  | _ => none

end WsjtxMessage

structure ParsedDatagram where
  schema : ℕ
  message : WsjtxMessage
  trailingBytes : ℕ

inductive DatagramParseError where
  | invalidMagic (actual : ℕ)
  | unsupportedSchema (actual : ℕ)
  | truncated (field : String) (needed remaining : ℕ)
  | invalidUtf8 (field : String)
  | invalidBool (field : String) (actual : UInt8)
  | invalidTime (actual : ℕ)
  | nonFiniteFloat (field : String)
  deriving DecidableEq

/-- `f64::from_bits`. -/
def f64FromBits (bits : ℕ) : IeeeFloat :=
  let negative := decide (2 ^ 63 ≤ bits)
  let exponent : ℕ := bits / 2 ^ 52 % 2 ^ 11
  let fraction : ℕ := bits % 2 ^ 52
  if exponent = 2047 then if fraction = 0 then .infinite negative else .nan
  else
    let magnitude : ℚ :=
      if exponent = 0 then fraction * 2 ^ (-1074 : ℤ)
      else (2 ^ 52 + fraction) * 2 ^ ((exponent : ℤ) - 1075)
    if magnitude = 0 then if negative then .negativeZero else .finite 0
    else .finite (if negative then -magnitude else magnitude)

/-- A reading of the bytes the cursor has before it. -/
abbrev Cursor := StateT (List UInt8) (Except DatagramParseError)

namespace Cursor

def fail {α : Type} (error : DatagramParseError) : Cursor α := fun _ => .error error

def readExact (length : ℕ) (field : String) : Cursor (List UInt8) := fun bytes =>
  if bytes.length < length then .error (.truncated field length bytes.length)
  else .ok (bytes.take length, bytes.drop length)

def bigEndian (bytes : List UInt8) : ℕ :=
  bytes.foldl (fun value byte => value * 256 + byte.toNat) 0

def readUnsigned (width : ℕ) (field : String) : Cursor ℕ := do
  return bigEndian (← readExact width field)

def readU32 (field : String) : Cursor ℕ := readUnsigned 4 field

def readU64 (field : String) : Cursor ℕ := readUnsigned 8 field

def readI32 (field : String) : Cursor ℤ := do
  let value ← readU32 field
  return if value < 2 ^ 31 then value else value - 2 ^ 32

def readF64 (field : String) : Cursor IeeeFloat := do
  return f64FromBits (← readU64 field)

def readBool (field : String) : Cursor Bool := do
  match ← readExact 1 field with
  | [0] => return false
  | [1] => return true
  | bytes => fail (.invalidBool field (bytes.headD 0))

def readUtf8 (field : String) : Cursor String := do
  let length ← readU32 field
  if length = nullByteArrayLength then return ""
  let bytes ← readExact length field
  match String.fromUTF8? ⟨bytes.toArray⟩ with
  | some text => return text
  | none => fail (.invalidUtf8 field)

end Cursor

open Cursor

def readHeartbeat (schema : ℕ) (clientId : String) : Cursor WsjtxMessage := do
  let maximumSchema ← if 3 ≤ schema then readU32 "heartbeat maximum schema" else pure 2
  let version ← readUtf8 "heartbeat version"
  let revision ← readUtf8 "heartbeat revision"
  return .heartbeat { clientId, maximumSchema, version, revision }

def readStatus (clientId : String) : Cursor WsjtxMessage := do
  let dialFrequencyHz ← readU64 "status dial frequency"
  let mode ← readUtf8 "status mode"
  let dxCall ← readUtf8 "status DX call"
  let report ← readUtf8 "status report"
  let txMode ← readUtf8 "status TX mode"
  let txEnabled ← readBool "status TX enabled"
  let transmitting ← readBool "status transmitting"
  let decoding ← readBool "status decoding"
  let rxDfHz ← readU32 "status RX DF"
  let txDfHz ← readU32 "status TX DF"
  let deCall ← readUtf8 "status DE call"
  let deGrid ← readUtf8 "status DE grid"
  return .status {
    clientId, dialFrequencyHz, mode, dxCall, report, txMode, txEnabled, transmitting, decoding,
    rxDfHz, txDfHz, deCall, deGrid }

def readWsprDecode (clientId : String) : Cursor WsjtxMessage := do
  let isNew ← readBool "WSPR decode new"
  let timeMillis ← readU32 "WSPR decode time"
  if millisPerDay ≤ timeMillis then fail (.invalidTime timeMillis)
  let snrDb ← readI32 "WSPR decode SNR"
  let deltaTimeSeconds ← readF64 "WSPR decode delta time"
  if !deltaTimeSeconds.isFinite then fail (.nonFiniteFloat "WSPR decode delta time")
  let frequencyHz ← readU64 "WSPR decode frequency"
  let driftHzPerMinute ← readI32 "WSPR decode drift"
  let callsign ← readUtf8 "WSPR decode callsign"
  let grid ← readUtf8 "WSPR decode grid"
  let powerDbm ← readI32 "WSPR decode power"
  let offAir ← readBool "WSPR decode off air"
  return .wsprDecode {
    clientId, isNew, timeMillis, snrDb, deltaTimeSeconds, frequencyHz, driftHzPerMinute,
    callsign, grid, powerDbm, offAir }

def readMessage (schema messageType : ℕ) (clientId : String) : Cursor WsjtxMessage :=
  if messageType = heartbeatMessageType then readHeartbeat schema clientId
  else if messageType = statusMessageType then readStatus clientId
  else if messageType = closeMessageType then pure (.close ⟨clientId⟩)
  else if messageType = wsprDecodeMessageType then readWsprDecode clientId
  else pure (.unsupported ⟨clientId, messageType⟩)

def readDatagram : Cursor ParsedDatagram := do
  let magic ← readU32 "magic"
  if magic ≠ wsjtxMagic then fail (.invalidMagic magic)
  let schema ← readU32 "schema"
  if schema < minSupportedSchema ∨ maxSupportedSchema < schema then
    fail (.unsupportedSchema schema)
  let messageType ← readU32 "message type"
  let clientId ← readUtf8 "client id"
  let message ← readMessage schema messageType clientId
  let rest ← get
  return { schema, message, trailingBytes := rest.length }

def parseWsjtxDatagram (datagram : List UInt8) : Except DatagramParseError ParsedDatagram :=
  (readDatagram datagram).map (·.1)

end AntennaBench
