import MeshSat.Library.Bytes

/-!
# Packets

The header of a Reticulum packet and its wire form.
-/

namespace MeshSat.Reticulum

open Library

def mtu : Nat := 500
def headerMinSize : Nat := 19
def headerMaxSize : Nat := 35
def ifacMinSize : Nat := 1
def truncatedHashLen : Nat := 16
def fullHashLen : Nat := 32
def nameHashLen : Nat := 10
def signatureLen : Nat := 64
def identityKeySize : Nat := 64
def encryptionPubLen : Nat := 32
def ratchetKeyLen : Nat := 32
def randomHashLen : Nat := 10
def pathfinderM : Nat := 128

abbrev TruncatedHash := FixedBytes truncatedHashLen
abbrev FullHash := FixedBytes fullHashLen

inductive HeaderType
  | type1 | type2
  deriving DecidableEq

inductive TransportType
  | broadcast | transport
  deriving DecidableEq

inductive DestType
  | single | group | plain | link
  deriving DecidableEq

inductive PacketType
  | data | announce | linkRequest | proof
  deriving DecidableEq

def HeaderType.code : HeaderType → UInt8
  | type1 => 0x00
  | type2 => 0x01

def TransportType.code : TransportType → UInt8
  | broadcast => 0x00
  | transport => 0x01

def DestType.code : DestType → UInt8
  | single => 0x00
  | group => 0x01
  | plain => 0x02
  | link => 0x03

def PacketType.code : PacketType → UInt8
  | data => 0x00
  | announce => 0x01
  | linkRequest => 0x02
  | proof => 0x03

def contextNone : UInt8 := 0x00
def contextResource : UInt8 := 0x01
def contextResourceAdv : UInt8 := 0x02
def contextResourceReq : UInt8 := 0x03
def contextResourceHMU : UInt8 := 0x04
def contextResourcePRF : UInt8 := 0x05
def contextResourceICL : UInt8 := 0x06
def contextResourceRCL : UInt8 := 0x07
def contextPathResponse : UInt8 := 0x0B
def contextKeepalive : UInt8 := 0xFA
def contextLinkIdentify : UInt8 := 0xFB
def contextLinkClose : UInt8 := 0xFC
def contextLRRTT : UInt8 := 0xFE
def contextLRProof : UInt8 := 0xFF

inductive PacketError
  | tooShort
  | tooShortType2 (length : Nat)
  | maxHops | emptyData
  deriving DecidableEq

def PacketError.text : PacketError → String
  | tooShort => "reticulum: packet too short"
  | tooShortType2 length =>
    s!"reticulum: packet too short: need {headerMaxSize} bytes for type 2 " ++
      s!"header, got {length}"
  | maxHops => "reticulum: max hops exceeded"
  | emptyData => "reticulum: zero-length data field"

structure Header where
  headerType : HeaderType
  contextFlag : Bool
  transportType : TransportType
  destType : DestType
  packetType : PacketType
  hops : UInt8
  /-- Only meaningful for a type 2 header. -/
  (transportID destHash : TruncatedHash)
  context : UInt8
  data : List UInt8
  deriving DecidableEq

def flagCode (flag : Bool) : UInt8 :=
  if flag then 1 else 0

def Header.packFlags (h : Header) : UInt8 :=
  h.headerType.code <<< 6 ||| flagCode h.contextFlag <<< 5 |||
    h.transportType.code <<< 4 ||| h.destType.code <<< 2 ||| h.packetType.code

def Header.marshal (h : Header) : List UInt8 :=
  [h.packFlags, h.hops] ++ (if h.headerType = .type2 then h.transportID.bytes else []) ++
    h.destHash.bytes ++ [h.context] ++ h.data

section
variable (flags : UInt8)

def unpackHeaderType : HeaderType :=
  if flags &&& 0x40 = 0 then .type1 else .type2

def unpackTransportType : TransportType :=
  if flags &&& 0x10 = 0 then .broadcast else .transport

def unpackDestType : DestType :=
  match (flags &&& 0x0C) >>> 2 with
  | 0 => .single
  | 1 => .group
  | 2 => .plain
  | _ => .link

def unpackPacketType : PacketType :=
  match flags &&& 0x03 with
  | 0 => .data
  | 1 => .announce
  | 2 => .linkRequest
  | _ => .proof

end

def unmarshalHeader (data : List UInt8) : Except PacketError Header :=
  let flags := data.getD 0 0
  let hops := data.getD 1 0
  let headerType := unpackHeaderType flags
  let start := if headerType = .type2 then 2 + truncatedHashLen else 2
  let rest := data.drop (start + truncatedHashLen + 1)
  if data.length < headerMinSize then .error .tooShort
  else if hops.toNat ≥ pathfinderM then .error .maxHops
  else if headerType = .type2 ∧ data.length < headerMaxSize then
    .error (.tooShortType2 data.length)
  else if rest = [] then .error .emptyData
  else
    .ok
      { headerType := headerType
        contextFlag := flags &&& 0x20 != 0
        transportType := unpackTransportType flags
        destType := unpackDestType flags
        packetType := unpackPacketType flags
        hops := hops
        transportID :=
          if headerType = .type2 then
            FixedBytes.copy _ ((data.drop 2).take truncatedHashLen)
          else FixedBytes.zero _
        destHash := FixedBytes.copy _ ((data.drop start).take truncatedHashLen)
        context := data.getD (start + truncatedHashLen) 0
        data := rest }

end MeshSat.Reticulum
