import TinyIpfix.Lib.Printf

/-! The page of the border router, border-router.c: the neighbors and the routes, printed
into one static buffer that is sent whenever it may not hold the next entry. -/

namespace TinyIpfix
open CMem Printf

/-- `uip_ipaddr_t`. -/
structure IpAddr where
  u8 : Fin 16 → UInt8

/-- An entry of the routing table. The next hop is a neighbor, if it is still known. -/
structure Route where
  ipaddr : IpAddr
  length : UInt8
  nexthop : Option IpAddr
  lifetime : UInt32

def top : List UInt8 := ascii "<html><head><title>ContikiRPL</title></head><body>\n"

def bottom : List UInt8 := ascii "</body></html>\n"

/-- `static char buf[256]`. -/
def pageSize : Nat := 256

/-- The two octets at `2 * i` as one number. -/
def IpAddr.word (addr : IpAddr) (i : Fin 8) : UInt16 :=
  ((addr.u8 ⟨2 * i.val, by omega⟩).toUInt16 <<< 8) + (addr.u8 ⟨2 * i.val + 1, by omega⟩).toUInt16

/-- What stands before a word that is printed. -/
def ipaddrSeparator (i : Nat) (f : Int) (buffer : TextBuffer) : Checked (Int × TextBuffer) :=
  if f > 0 then .ok (-1, buffer)
  else if i > 0 then do
    let buffer ← buffer.add (ascii ":")
    return (f, buffer)
  else .ok (f, buffer)

/-- One pass of the loop. The flag counts the zero words of the first run of zeros, and is
negative behind it. -/
def ipaddrStep (i : Nat) (a : UInt16) (f : Int) (buffer : TextBuffer) : Checked (Int × TextBuffer) :=
  if a = 0 ∧ f ≥ 0 then do
    let buffer ← if f = 0 then buffer.add (ascii "::") else .ok buffer
    return (f + 1, buffer)
  else do
    let (f, buffer) ← ipaddrSeparator i f buffer
    let buffer ← buffer.add (printed 16 a.toNat)
    return (f, buffer)

def ipaddrAdd (addr : IpAddr) (buffer : TextBuffer) : Checked TextBuffer := do
  let (_, buffer) ← (List.finRange 8).foldlM
    (fun (state : Int × TextBuffer) (i : Fin 8) => ipaddrStep i.val (addr.word i) state.1 state.2) (0, buffer)
  return buffer

/-- One neighbor. The buffer is sent unless the longest address fits behind it. -/
def neighborAdd (output : Output) (nbr : IpAddr) : Checked Output := do
  let output ← output.print (ipaddrAdd nbr)
  let output ← output.print (TextBuffer.add (ascii "\n"))
  if output.buffer.blen > pageSize - 45 then
    let output ← output.sendString
    return output.restart
  else
    return output

/-- One route, sent on its own. -/
def routeAdd (output : Output) (r : Route) : Checked Output := do
  let output ← output.print (ipaddrAdd r.ipaddr)
  let output ← output.print (TextBuffer.add (ascii "/" ++ printed 10 r.length.toNat ++ ascii " (via "))
  let nexthop ← deref r.nexthop
  let output ← output.print (ipaddrAdd nexthop)
  let output ← output.print (TextBuffer.add (ascii ") " ++ printed 10 r.lifetime.toNat ++ ascii "s\n"))
  let output ← output.sendString
  return output.restart

/-- The page as one connection is sent it. What the buffer holds before does not matter. -/
def generateRoutes (neighbors : List IpAddr) (routes : List Route) (buf : Region) : Checked (List UInt8) := do
  let output : Output := ⟨⟨buf, 0⟩, top⟩
  let output ← output.print (TextBuffer.add (ascii "Neighbors<pre>"))
  let output ← neighbors.foldlM neighborAdd output
  let output ← output.print (TextBuffer.add (ascii "</pre>Routes<pre>\n"))
  let output ← output.sendString
  let output ← routes.foldlM routeAdd output.restart
  let output ← output.print (TextBuffer.add (ascii "</pre>"))
  let output ← output.sendString
  return output.sent ++ bottom

end TinyIpfix
