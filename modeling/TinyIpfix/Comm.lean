import TinyIpfix.Header

/-! The network side of the aggregator, comm.c: the receive callback and the send. -/

namespace TinyIpfix
open CMem

/-- A received datagram, inside the receive buffer it is read from. -/
structure Datagram where
  data : Region
  nonempty : 0 < data.size
  short : data.size < 65536

def Datagram.datalen (datagram : Datagram) : UInt16 := UInt16.ofNat datagram.data.size

abbrev Message := List UInt8

def borderComm : Nat := 0

/-- The first byte without the two bits of the length is that of a template. -/
def isTemplate (datagram : Datagram) : Bool := (datagram.data.byteAt 0 &&& 0xfc) == 0x04

def receiver {σ : Type} (calcAggrPayload : Datagram → σ → Checked (σ × List Message)) (datagram : Datagram)
    (state : σ) : Checked (σ × List Message) :=
  if isTemplate datagram then .ok (state, []) else calcAggrPayload datagram state

/-- The datagrams handed to the network, at most one. -/
def msgSend (commMode : Nat) (data : Region) (datalen : UInt16) : List Message :=
  if commMode = borderComm then [data.view datalen.toNat] else []

theorem Datagram.datalen_toNat (datagram : Datagram) : datagram.datalen.toNat = datagram.data.size :=
  UInt16.toNat_ofNat_of_lt' datagram.short

end TinyIpfix
