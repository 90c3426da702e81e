import Ssim.Secs2.Item

/-!
# SECS-II messages and the message factory

A message is a stream, a function, the reply-wanted bit and an optional body.
A factory knows which messages a side understands and how their bodies look.
-/

namespace Ssim.Secs2

structure Message where
  stream : UInt8
  function : UInt8
  wBit : Bool
  body : Option Item
  deriving DecidableEq

namespace Message

/-- The message with every `BOOLEAN` element of its body replaced by 0 or 1. -/
def normalize (message : Message) : Message :=
  { message with body := message.body.map Item.normalize }

end Message

inductive Validation where
  | ok
  | unknownStream
  | unknownFunction
  | illegalData
  deriving Repr, DecidableEq

abbrev BodyCheck := Option Item → Bool

/-- One registered message: its stream and function, its name and its body check. -/
structure Entry where
  stream : UInt8
  function : UInt8
  name : String
  check : BodyCheck

structure MessageFactory where
  entries : List Entry

namespace MessageFactory

def empty : MessageFactory := ⟨[]⟩

/-- Registering the same stream and function again replaces the entry. -/
def registerMessage (factory : MessageFactory) (stream function : UInt8) (name : String)
    (check : BodyCheck) : MessageFactory :=
  ⟨⟨stream, function, name, check⟩ ::
    factory.entries.filter fun entry => !(entry.stream = stream && entry.function = function)⟩

def find? (factory : MessageFactory) (stream function : UInt8) : Option Entry :=
  factory.entries.find? fun entry => entry.stream = stream && entry.function = function

def check (factory : MessageFactory) (message : Message) : Validation :=
  match factory.find? message.stream message.function with
  | some entry => if entry.check message.body then .ok else .illegalData
  | none =>
      if factory.entries.any fun entry => entry.stream = message.stream then
        .unknownFunction
      else
        .unknownStream

end MessageFactory

end Ssim.Secs2
