import Ssim.Secs2.Codec
import Ssim.Secs2.Message

/-!
# HSMS frames

A frame is a four-byte big-endian length, a ten-byte header and a body; the
length counts the header and the body.  The frame decoder turns a stream of
bytes, cut in any way, into frames.  A framing error is final for the decoder.
-/

namespace Ssim.Hsms

open Ssim.Core (Error Result)
open Library.BigEndian

def kLengthFieldSize : Nat := 4
def kHeaderSize : Nat := 10
def kControlSessionId : UInt16 := 0xFFFF

inductive SType where
  | data
  | selectReq
  | selectRsp
  | deselectReq
  | deselectRsp
  | linktestReq
  | linktestRsp
  | rejectReq
  | separateReq
  deriving Repr, DecidableEq

namespace SType

def toByte : SType → UInt8
  | data => 0
  | selectReq => 1
  | selectRsp => 2
  | deselectReq => 3
  | deselectRsp => 4
  | linktestReq => 5
  | linktestRsp => 6
  | rejectReq => 7
  | separateReq => 9

def toString : SType → String
  | data => "Data"
  | selectReq => "Select.req"
  | selectRsp => "Select.rsp"
  | deselectReq => "Deselect.req"
  | deselectRsp => "Deselect.rsp"
  | linktestReq => "Linktest.req"
  | linktestRsp => "Linktest.rsp"
  | rejectReq => "Reject.req"
  | separateReq => "Separate.req"

end SType

/-- The SType of a raw header byte; HSMS defines no other values. -/
def stypeFromByte (byte : UInt8) : Option SType :=
  match byte.toNat with
  | 0 => some .data
  | 1 => some .selectReq
  | 2 => some .selectRsp
  | 3 => some .deselectReq
  | 4 => some .deselectRsp
  | 5 => some .linktestReq
  | 6 => some .linktestRsp
  | 7 => some .rejectReq
  | 9 => some .separateReq
  | _ => none

structure Header where
  sessionId : UInt16
  byte2 : UInt8
  byte3 : UInt8
  ptype : UInt8
  stype : UInt8
  systemBytes : UInt32
  deriving Repr, DecidableEq

namespace Header

def wBit (header : Header) : Bool :=
  header.byte2 &&& 0x80 ≠ 0

def stream (header : Header) : UInt8 :=
  header.byte2 &&& 0x7F

def function (header : Header) : UInt8 :=
  header.byte3

end Header

structure Frame where
  header : Header
  body : List UInt8
  deriving Repr, DecidableEq

def makeControlFrame (stype : SType) (systemBytes : UInt32) (byte2 byte3 : UInt8) : Frame :=
  { header := ⟨kControlSessionId, byte2, byte3, 0, stype.toByte, systemBytes⟩, body := [] }

def makeDataFrame (sessionId : UInt16) (stream function : UInt8) (wBit : Bool)
    (systemBytes : UInt32) (body : List UInt8) : Frame :=
  { header := ⟨sessionId, (stream &&& 0x7F) ||| (if wBit then 0x80 else 0), function, 0,
      SType.data.toByte, systemBytes⟩
    body := body }

def kErrFrameTooShort : Nat := 400
def kErrFrameTooLong : Nat := 401
def kErrFrameTooBig : Nat := 402
def kErrNotADataFrame : Nat := 403

/-- The ten header bytes. -/
def headerBytes (header : Header) : List UInt8 :=
  storeBe 2 header.sessionId.toNat ++
    [header.byte2, header.byte3, header.ptype, header.stype] ++
    storeBe 4 header.systemBytes.toNat

def encodeFrame (frame : Frame) : Result (List UInt8) :=
  let length := kHeaderSize + frame.body.length
  if length > 0xFFFFFFFF then
    .error ⟨kErrFrameTooBig, "frame does not fit a 32-bit length"⟩
  else
    .ok (storeBe 4 length ++ headerBytes frame.header ++ frame.body)

/-- Fails if the frame is no data message or its body is not exactly one item. -/
def toMessage (frame : Frame) : Result Secs2.Message :=
  if frame.header.stype ≠ SType.data.toByte then
    .error ⟨kErrNotADataFrame, "frame is not a data message"⟩
  else if frame.body.isEmpty then
    .ok ⟨frame.header.stream, frame.header.function, frame.header.wBit, none⟩
  else
    match Secs2.decodeBody frame.body with
    | .error reason => .error reason
    | .ok body =>
        .ok ⟨frame.header.stream, frame.header.function, frame.header.wBit, some body⟩

/-! ## The frame decoder -/

structure FrameDecoder where
  maxFrameBytes : Nat
  buffer : List UInt8
  failed : Bool
  error : Error
  deriving DecidableEq

namespace FrameDecoder

def fresh (maxFrameBytes : Nat) : FrameDecoder :=
  ⟨maxFrameBytes, [], false, ⟨0, ""⟩⟩

/-- True while part of an unfinished frame is buffered. -/
def hasPartial (decoder : FrameDecoder) : Bool :=
  !decoder.buffer.isEmpty

/-- The header in the ten bytes after the length field. -/
def headerFrom (bytes : List UInt8) : Header where
  sessionId := UInt16.ofNat (loadBe (bytes.take 2))
  byte2 := bytes.getD 2 0
  byte3 := bytes.getD 3 0
  ptype := bytes.getD 4 0
  stype := bytes.getD 5 0
  systemBytes := UInt32.ofNat (loadBe ((bytes.drop 6).take 4))

/--
One round of the decoding loop on what is left of the buffer: wait for more
bytes (`none`), or the next frame and what is left after it.
-/
def nextFrame (maxFrameBytes : Nat) (buffer : List UInt8) :
    Result (Option (Frame × List UInt8)) :=
  if buffer.length < kLengthFieldSize then
    .ok none
  else
    let length := loadBe (buffer.take kLengthFieldSize)
    if length < kHeaderSize then
      .error ⟨kErrFrameTooShort, "frame length is below the 10-byte header"⟩
    else if length > maxFrameBytes then
      .error ⟨kErrFrameTooLong, "frame length is above the configured maximum"⟩
    else if buffer.length < kLengthFieldSize + length then
      .ok none
    else
      let bytes := (buffer.drop kLengthFieldSize).take length
      .ok (some (⟨headerFrom bytes, bytes.drop kHeaderSize⟩,
        buffer.drop (kLengthFieldSize + length)))

/-- The decoding loop.  Every frame takes bytes, so it runs at most once a byte. -/
def decodeLoop (maxFrameBytes : Nat) : Nat → List UInt8 → Result (List Frame × List UInt8)
  | 0, buffer => .ok ([], buffer)
  | rounds + 1, buffer =>
      match nextFrame maxFrameBytes buffer with
      | .error reason => .error reason
      | .ok none => .ok ([], buffer)
      | .ok (some (frame, rest)) =>
          match decodeLoop maxFrameBytes rounds rest with
          | .error reason => .error reason
          | .ok (frames, rest) => .ok (frame :: frames, rest)

/-- Every frame the new bytes complete, in order.  After an error nothing is decoded. -/
def feed (decoder : FrameDecoder) (bytes : List UInt8) : Result (List Frame) × FrameDecoder :=
  if decoder.failed then
    (.error decoder.error, decoder)
  else
    let buffer := decoder.buffer ++ bytes
    match decodeLoop decoder.maxFrameBytes buffer.length buffer with
    | .error reason =>
        (.error reason, { decoder with buffer := buffer, failed := true, error := reason })
    | .ok (frames, rest) => (.ok frames, { decoder with buffer := rest })

end FrameDecoder

end Ssim.Hsms
