import TinyIpfix.Lib.Printf

/-! The border router's end of the serial line: slip-bridge.c, and the process in
border-router.c that asks for a prefix before it turns the radio on. The IP buffer is as
Contiki hands it over; what is done on the line is emitted in order. -/

namespace TinyIpfix
open Printf

inductive LineOp
  | print (text : List UInt8)
  | slipSend (packet : List UInt8)

/-- What the bridge uses of Contiki: the bytes that `slip_send` writes for a packet, the text
of `uip_debug_ipaddr_print`, and `uip_lladdr`. -/
structure Contiki where
  slipSend : List UInt8 → List UInt8
  ipaddrPrint : List UInt8 → List UInt8
  lladdr : Fin 8 → UInt8

structure SerialLine where
  debugFrame : Bool
  written : List UInt8

def slipEnd : UInt8 := 192

def SerialLine.writeb (line : SerialLine) (c : UInt8) : SerialLine := { line with written := line.written ++ [c] }

def putchar (c : UInt8) (line : SerialLine) : SerialLine :=
  -- Start of debug output.
  let line := if line.debugFrame then line else { (line.writeb slipEnd).writeb 13 with debugFrame := true }
  let line := line.writeb c
  if c = 10 then { line.writeb slipEnd with debugFrame := false } else line

def writeOp (contiki : Contiki) (line : SerialLine) : LineOp → SerialLine
  | .print text => text.foldl (fun line c => putchar c line) line
  | .slipSend packet => { line with written := line.written ++ contiki.slipSend packet }

def serialLine (contiki : Contiki) (ops : List LineOp) : SerialLine := ops.foldl (writeOp contiki) ⟨false, []⟩

inductive RouterPhase
  | pausing
  | requesting
  | serving
  deriving DecidableEq

structure Router where
  uipBuf : Nat → UInt8
  uipLen : Nat
  lastSender : List UInt8
  dagPrefix : List UInt8
  prefixSet : Bool
  phase : RouterPhase
  /-- The arguments of the calls of `NETSTACK_MAC.off`. -/
  macOff : List UInt8

/-- When the process has begun and pauses. -/
def routerStart (uipBuf : Nat → UInt8) : Router :=
  ⟨uipBuf, 0, List.replicate 16 0, List.replicate 16 0, false, .pausing, [0]⟩

def bufferBytes (uipBuf : Nat → UInt8) (start count : Nat) : List UInt8 := (List.range count).map fun i => uipBuf (start + i)

def Router.packet (router : Router) : List UInt8 := bufferBytes router.uipBuf 0 router.uipLen

def Router.srcipaddr (router : Router) : List UInt8 := bufferBytes router.uipBuf 8 16

def Router.destipaddr (router : Router) : List UInt8 := bufferBytes router.uipBuf 24 16

def storeAt (start : Nat) (bytes : List UInt8) (uipBuf : Nat → UInt8) : Nat → UInt8 := fun i =>
  if start ≤ i then bytes.getD (i - start) (uipBuf i) else uipBuf i

def setPrefix64 (prefix64 : List UInt8) (router : Router) : Router := { router with dagPrefix := prefix64, prefixSet := true }

def hexchar (digit : UInt8) : UInt8 := (ascii "0123456789abcdef").getD digit.toNat 0

def hexDigits (lladdr : Fin 8 → UInt8) : List UInt8 :=
  (List.finRange 8).flatMap fun j => [hexchar (lladdr j >>> 4), hexchar (lladdr j &&& 15)]

/-- `uip_buf[0] == '!'`. -/
def configurationMessage (contiki : Contiki) (router : Router) : Router × List LineOp :=
  let kind := router.uipBuf 1
  let ops := [LineOp.print (ascii "Got configuration message of type " ++ [kind] ++ ascii "\n")]
  let router := { router with uipLen := 0 }
  if kind = 80 then
    let prefix64 := bufferBytes router.uipBuf 2 8 ++ List.replicate 8 0
    (setPrefix64 prefix64 router,
      ops ++ [.print (ascii "Setting prefix "), .print (contiki.ipaddrPrint prefix64), .print (ascii "\n")])
  else (router, ops)

/-- `uip_buf[0] == '?'`. -/
def requestMessage (contiki : Contiki) (router : Router) : Router × List LineOp :=
  let kind := router.uipBuf 1
  let ops := [LineOp.print (ascii "Got request message of type " ++ [kind] ++ ascii "\n")]
  if kind = 77 then
    let uipBuf := storeAt 2 (hexDigits contiki.lladdr) (storeAt 0 [33] router.uipBuf)
    let router := { router with uipBuf, uipLen := 18 }
    ({ router with uipLen := 0 }, ops ++ [.slipSend router.packet])
  else ({ router with uipLen := 0 }, ops)

def slipInputCallback (contiki : Contiki) (router : Router) : Router × List LineOp :=
  let (router, ops) :=
    if router.uipBuf 0 = 33 then configurationMessage contiki router
    else if router.uipBuf 0 = 63 then requestMessage contiki router
    else (router, [])
  ({ router with lastSender := router.srcipaddr }, ops)

def output (contiki : Contiki) (router : Router) : Router × List LineOp :=
  if router.lastSender = router.srcipaddr then
    (router, [.print (ascii "slip-bridge: Destination off-link but no route src="),
      .print (contiki.ipaddrPrint router.srcipaddr), .print (ascii " dst="),
      .print (contiki.ipaddrPrint router.destipaddr), .print (ascii "\n")])
  else (router, [.slipSend router.packet])

def requestPrefix (router : Router) : Router × List LineOp :=
  let router := { router with uipBuf := storeAt 0 (ascii "?P") router.uipBuf, uipLen := 2 }
  ({ router with uipLen := 0 }, [.slipSend router.packet])

/-- The addresses in use that are tentative or preferred. -/
def printLocalAddresses (contiki : Contiki) (addresses : List (List UInt8)) : List LineOp :=
  .print (ascii "Server IPv6 addresses:\n") ::
    addresses.flatMap fun ipaddr => [.print (ascii " "), .print (contiki.ipaddrPrint ipaddr), .print (ascii "\n")]

/-- The process goes on behind the pause, and then each time its timer expires. -/
def borderRouterProcess (contiki : Contiki) (addresses : List (List UInt8)) (router : Router) : Router × List LineOp :=
  match router.phase with
  | .serving => (router, [])
  | _ =>
    if router.prefixSet then
      ({ router with phase := .serving, macOff := router.macOff ++ [1] }, printLocalAddresses contiki addresses)
    else
      let (router, ops) := requestPrefix router
      ({ router with phase := .requesting }, ops)

/-- A packet from the line, a packet for the line, a wake-up of the process, or a line that
the rest of the program prints. -/
inductive RouterEvent
  | received (uipBuf : Nat → UInt8) (uipLen : Nat)
  | outgoing (uipBuf : Nat → UInt8) (uipLen : Nat)
  | resume (addresses : List (List UInt8))
  | debug (text : List UInt8)

def routerStep (contiki : Contiki) (event : RouterEvent) (router : Router) : Router × List LineOp :=
  match event with
  | .received uipBuf uipLen => slipInputCallback contiki { router with uipBuf, uipLen }
  | .outgoing uipBuf uipLen => output contiki { router with uipBuf, uipLen }
  | .resume addresses => borderRouterProcess contiki addresses router
  | .debug text => (router, [.print (text ++ ascii "\n")])

end TinyIpfix
