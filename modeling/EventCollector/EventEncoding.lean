import EventCollector.Validation

/-!
The canonical proto3 encoding of the message of `proto/event.proto`: fields in the
order of their numbers, the default values left out.
-/

namespace EventCollector

/-- Groups of seven bits, the lowest first; `left` more bytes may follow. -/
def varintGroups : Nat → Nat → Bytes
  | 0, value => [UInt8.ofNat value]
  | left + 1, value =>
      if value < 128 then [UInt8.ofNat value]
      else UInt8.ofNat (value % 128 + 128) :: varintGroups left (value / 128)

def varint (value : UInt64) : Bytes := varintGroups 9 value.toNat

def lengthDelimited (number : UInt8) (content : Bytes) : Bytes :=
  if content.isEmpty then []
  else (number <<< 3 ||| 2) :: varint (UInt64.ofNat content.length) ++ content

def varintField (number : UInt8) (value : UInt64) : Bytes :=
  if value = 0 then [] else (number <<< 3) :: varint value

def encodeEvent (evt : Event) : Bytes :=
  lengthDelimited 1 evt.eventId ++ lengthDelimited 2 evt.userId ++ lengthDelimited 3 evt.platform ++
    lengthDelimited 4 evt.eventType ++ varintField 5 evt.ts.toUInt64 ++
    lengthDelimited 6 evt.payload

/-- A small event that is valid at clock 1. -/
def eventOf (payload : Bytes) : Event where
  eventId := []
  userId := [117]
  platform := []
  eventType := [99]
  ts := 1000
  payload := payload

/-- What `ParseFromString` answers for two such events and for a stray byte. -/
def sampleParse (data : Bytes) : Option Event :=
  if data = encodeEvent (eventOf [7]) then some (eventOf [7])
  else if data = encodeEvent (eventOf [8]) then some (eventOf [8])
  else none

end EventCollector
