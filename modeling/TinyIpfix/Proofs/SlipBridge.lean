import TinyIpfix.SlipBridge
import TinyIpfix.Lib.Slip
import TinyIpfix.Lib.Transducer
import TinyIpfix.Proofs.RoutesPage
import Mathlib.Tactic.IntervalCases

/-! What a host reads on the border router's line: every debug line and every packet, one by
one, however the two are mixed. -/

namespace TinyIpfix
open Printf Transducer

/-- Needs no escape on the line. -/
def Plain (byte : UInt8) : Prop := byte ≠ Slip.endByte ∧ byte ≠ Slip.escByte

/-- What the host has been shown, and the line that is being printed. -/
structure Screen where
  pending : List UInt8
  messages : List (List UInt8)

def showChar (c : UInt8) (screen : Screen) : Screen :=
  if c = 10 then ⟨[], screen.messages ++ [13 :: (screen.pending ++ [10])]⟩
  else ⟨screen.pending ++ [c], screen.messages⟩

def showOp (screen : Screen) : LineOp → Screen
  | .print text => text.foldl (fun screen c => showChar c screen) screen
  | .slipSend packet => { screen with messages := screen.messages ++ [packet] }

def shown (ops : List LineOp) : Screen := ops.foldl showOp ⟨[], []⟩

/-- Without its end the line that is being printed stands behind all that is complete. -/
structure Shows (line : SerialLine) (screen : Screen) : Prop where
  frame : line.debugFrame = true ↔ screen.pending ≠ []
  front : ∃ front, Slip.Holds front screen.messages ∧
    line.written = front ++ if screen.pending = [] then [] else Slip.endByte :: 13 :: screen.pending
  plain : ∀ byte ∈ screen.pending, Plain byte

section Printing
variable {line : SerialLine} {screen : Screen}

theorem Plain.stands {body : List UInt8} (plain : ∀ byte ∈ body, Plain byte) (filled : body ≠ []) :
    Slip.Stands body body :=
  Slip.stands_plain filled (fun member => (plain _ member).1 rfl) fun member => (plain _ member).2 rfl

/-- The line with the beginning of a debug frame, if it has none yet. -/
def SerialLine.opened (line : SerialLine) : List UInt8 :=
  if line.debugFrame then line.written else line.written ++ [slipEnd, 13]

private theorem putchar_eq (c : UInt8) (line : SerialLine) : putchar c line =
    if c = 10 then ⟨false, line.opened ++ [c] ++ [slipEnd]⟩ else ⟨true, line.opened ++ [c]⟩ := by
  cases frame : line.debugFrame with
  | false => simp [putchar, SerialLine.writeb, SerialLine.opened, frame]
  | true => simp [putchar, SerialLine.writeb, SerialLine.opened, frame]

theorem Shows.opened (shows : Shows line screen) :
    ∃ front, Slip.Holds front screen.messages ∧ line.opened = front ++ Slip.endByte :: 13 :: screen.pending := by
  obtain ⟨front, holds, written⟩ := shows.front
  refine ⟨front, holds, ?_⟩
  by_cases idle : screen.pending = []
  · have closed : ¬ line.debugFrame = true := fun opened => shows.frame.mp opened idle
    rw [SerialLine.opened, if_neg closed, written, if_pos idle, idle]
    simp [slipEnd, Slip.endByte]
  · rw [SerialLine.opened, if_pos (shows.frame.mpr idle), written, if_neg idle]

theorem Shows.putchar (shows : Shows line screen) {c : UInt8} (plain : Plain c) :
    Shows (putchar c line) (showChar c screen) := by
  obtain ⟨front, holds, opened⟩ := shows.opened
  have printed : ∀ byte ∈ screen.pending ++ [c], Plain byte := by
    intro byte member
    rcases List.mem_append.mp member with before | last
    · exact shows.plain byte before
    · rw [List.mem_singleton.mp last]
      exact plain
  rw [putchar_eq, opened, showChar]
  by_cases newline : c = 10
  · subst newline
    rw [if_pos rfl, if_pos rfl]
    have whole : ∀ byte ∈ (13 : UInt8) :: (screen.pending ++ [10]), Plain byte := by
      intro byte member
      rcases List.mem_cons.mp member with rfl | rest
      · exact ⟨by decide, by decide⟩
      · exact printed byte rest
    refine ⟨by simp, ⟨_, holds.append (Plain.stands whole (List.cons_ne_nil _ _)), ?_⟩, by simp⟩
    simp [Slip.wrapped, slipEnd, Slip.endByte]
  · rw [if_neg newline, if_neg newline]
    exact ⟨by simp, ⟨front, holds, by simp⟩, printed⟩

theorem Shows.print (shows : Shows line screen) {text : List UInt8} (plain : ∀ byte ∈ text, Plain byte) :
    Shows (text.foldl (fun line c => TinyIpfix.putchar c line) line) (text.foldl (fun screen c => showChar c screen) screen) := by
  induction text generalizing line screen with
  | nil => exact shows
  | cons c text ih =>
    exact ih (shows.putchar (plain c (by simp))) fun byte member => plain byte (by simp [member])

/-- Between two debug lines a packet stands on its own. -/
theorem Shows.send (shows : Shows line screen) (idle : screen.pending = []) {packet : List UInt8} (some : packet ≠ []) :
    Shows { line with written := line.written ++ Slip.wrapped (Slip.stuffed packet) }
      { screen with messages := screen.messages ++ [packet] } := by
  obtain ⟨front, holds, written⟩ := shows.front
  refine ⟨shows.frame, ⟨_, holds.append (Slip.stands_stuffed some), ?_⟩, shows.plain⟩
  rw [written]
  simp [idle]

end Printing

/-- Every debug line is finished before the next packet. -/
inductive Tidy : List LineOp → Prop
  | nil : Tidy []
  | packet {packet : List UInt8} {ops : List LineOp} (some : packet ≠ []) (rest : Tidy ops) : Tidy (.slipSend packet :: ops)
  | line {ops : List LineOp} (texts : List (List UInt8)) (last : List UInt8)
      (plain : ∀ text ∈ texts, ∀ byte ∈ text, Plain byte) (ending : ∀ byte ∈ last, Plain byte) (rest : Tidy ops) :
      Tidy (texts.map LineOp.print ++ .print (last ++ ascii "\n") :: ops)

section Runs
variable {contiki : Contiki}

theorem Tidy.append {first second : List LineOp} (head : Tidy first) (tail : Tidy second) : Tidy (first ++ second) := by
  induction head with
  | nil => exact tail
  | packet some rest ih => exact .packet some ih
  | line texts last plain ending rest ih =>
    rw [List.append_assoc, List.cons_append]
    exact .line texts last plain ending ih

private theorem ascii_plain {text : String} (low : text.toList.all (fun char => char.toNat < 128) = true) :
    ∀ byte ∈ ascii text, Plain byte := by
  intro byte member
  obtain ⟨char, inside, rfl⟩ := List.mem_map.mp member
  have small : char.toNat < 128 := by simpa using List.all_eq_true.mp low char inside
  have value : (UInt8.ofNat char.toNat).toNat = char.toNat := by
    rw [UInt8.toNat_ofNat']
    omega
  constructor
  · intro same
    rw [same] at value
    simp [Slip.endByte] at value
    omega
  · intro same
    rw [same] at value
    simp [Slip.escByte] at value
    omega

private theorem shown_line (texts : List (List UInt8)) (last : List UInt8) (screen : Screen) :
    ((texts.map LineOp.print ++ [LineOp.print (last ++ ascii "\n")]).foldl showOp screen).pending = [] := by
  have newline : ascii "\n" = [10] := by simp [ascii]
  simp only [List.foldl_append, List.foldl_cons, List.foldl_nil, showOp, newline, showChar, if_true]

private theorem Tidy.shows {ops : List LineOp} (tidy : Tidy ops)
    (framed : ∀ packet, contiki.slipSend packet = Slip.wrapped (Slip.stuffed packet)) {line : SerialLine} {screen : Screen}
    (shows : Shows line screen) (idle : screen.pending = []) :
    Shows (ops.foldl (writeOp contiki) line) (ops.foldl showOp screen) ∧ (ops.foldl showOp screen).pending = [] := by
  induction tidy generalizing line screen with
  | nil => exact ⟨shows, idle⟩
  | packet some rest ih =>
    have sent := shows.send idle some
    rw [List.foldl_cons, List.foldl_cons, writeOp, framed]
    exact ih sent idle
  | @line ops texts last plain ending rest ih =>
    have printed : ∀ (texts : List (List UInt8)) {line screen}, Shows line screen → (∀ text ∈ texts, ∀ byte ∈ text, Plain byte) →
        Shows ((texts.map LineOp.print).foldl (writeOp contiki) line) ((texts.map LineOp.print).foldl showOp screen) := by
      intro texts
      induction texts with
      | nil => exact fun shows _ => shows
      | cons text texts later =>
        intro line screen shows plain
        exact later (shows.print (plain text (by simp))) fun other member => plain other (by simp [member])
    have whole : ∀ byte ∈ last ++ ascii "\n", Plain byte := by
      intro byte member
      rcases List.mem_append.mp member with before | after
      · exact ending byte before
      · exact ascii_plain rfl byte after
    have ended := shown_line texts last screen
    rw [List.foldl_append, List.foldl_cons, List.foldl_nil] at ended
    rw [List.foldl_append, List.foldl_append, List.foldl_cons, List.foldl_cons]
    exact ih ((printed texts shows plain).print whole) ended

end Runs

/-- No byte that the line reserves is printed, and what is handed over for the line are IPv6
packets. -/
def RouterEvent.Sound : RouterEvent → Prop
  | .received uipBuf _ => uipBuf 0 = 33 ∨ uipBuf 0 = 63 → Plain (uipBuf 1)
  | .outgoing uipBuf uipLen => 0 < uipLen ∧ uipBuf 0 >>> 4 = 6
  | .resume _ => True
  | .debug text => ∀ byte ∈ text, Plain byte

/-- The address of the router as the host is told it. -/
def addressReply (contiki : Contiki) : List UInt8 := 33 :: 77 :: hexDigits contiki.lladdr

def packets (ops : List LineOp) : List (List UInt8) := ops.filterMap fun op =>
  match op with
  | .slipSend packet => some packet
  | .print _ => none

section Steps
variable {contiki : Contiki}

private theorem packets_append (first second : List LineOp) : packets (first ++ second) = packets first ++ packets second :=
  List.filterMap_append

private theorem hexDigits_length (lladdr : Fin 8 → UInt8) : (hexDigits lladdr).length = 16 := by
  simp [hexDigits, List.length_flatMap]

private theorem requestMessage_packet (contiki : Contiki) {uipBuf : Nat → UInt8} (kind : uipBuf 1 = 77) :
    bufferBytes (storeAt 2 (hexDigits contiki.lladdr) (storeAt 0 [33] uipBuf)) 0 18 = addressReply contiki := by
  apply List.ext_getElem
  · simp [bufferBytes, addressReply, hexDigits_length]
  · intro i inside _
    have width : i < 18 := by simpa [bufferBytes] using inside
    have digits := hexDigits_length contiki.lladdr
    rcases i with _ | _ | i
    · simp [bufferBytes, addressReply, storeAt]
    · simp [bufferBytes, addressReply, storeAt, kind]
    · have short : i < (hexDigits contiki.lladdr).length := by omega
      simp [bufferBytes, addressReply, storeAt, short]

private theorem requestPrefix_packet (uipBuf : Nat → UInt8) : bufferBytes (storeAt 0 (ascii "?P") uipBuf) 0 2 = ascii "?P" := by
  simp [bufferBytes, storeAt, ascii, List.range_succ]

/-- What is sent over the line by one event. -/
inductive Sent (contiki : Contiki) : RouterEvent → Router → List (List UInt8) → Prop
  | address {uipBuf uipLen router} (request : uipBuf 0 = 63) (kind : uipBuf 1 = 77) :
      Sent contiki (.received uipBuf uipLen) router [addressReply contiki]
  | accepted {uipBuf uipLen router} (other : ¬(uipBuf 0 = 63 ∧ uipBuf 1 = 77)) :
      Sent contiki (.received uipBuf uipLen) router []
  | bounced {uipBuf uipLen router} (same : router.lastSender = bufferBytes uipBuf 8 16) :
      Sent contiki (.outgoing uipBuf uipLen) router []
  | packet {uipBuf uipLen router} (other : router.lastSender ≠ bufferBytes uipBuf 8 16) :
      Sent contiki (.outgoing uipBuf uipLen) router [bufferBytes uipBuf 0 uipLen]
  | request {addresses router} (waiting : router.phase ≠ .serving) (unset : router.prefixSet = false) :
      Sent contiki (.resume addresses) router [ascii "?P"]
  | begins {addresses router} (known : router.phase = .serving ∨ router.prefixSet = true) :
      Sent contiki (.resume addresses) router []
  | debug {text router} : Sent contiki (.debug text) router []

private theorem routerStep_sent (contiki : Contiki) (event : RouterEvent) (router : Router) :
    Sent contiki event router (packets (routerStep contiki event router).2) := by
  cases event with
  | received uipBuf uipLen =>
    by_cases configuration : uipBuf 0 = 33
    · have none : packets (routerStep contiki (.received uipBuf uipLen) router).2 = [] := by
        simp only [routerStep, slipInputCallback, configuration, if_true, configurationMessage]
        split <;> rfl
      rw [none]
      exact .accepted fun both => by simp [configuration] at both
    · by_cases request : uipBuf 0 = 63
      · by_cases kind : uipBuf 1 = 77
        · have reply : packets (routerStep contiki (.received uipBuf uipLen) router).2 = [addressReply contiki] := by
            simp only [routerStep, slipInputCallback, request, if_true, requestMessage, kind]
            rw [← requestMessage_packet contiki kind]
            rfl
          rw [reply]
          exact .address request kind
        · have none : packets (routerStep contiki (.received uipBuf uipLen) router).2 = [] := by
            simp only [routerStep, slipInputCallback, request, if_true, if_false, requestMessage, kind]
            rfl
          rw [none]
          exact .accepted fun both => kind both.2
      · have none : packets (routerStep contiki (.received uipBuf uipLen) router).2 = [] := by
          simp only [routerStep, slipInputCallback, configuration, request, if_false]
          rfl
        rw [none]
        exact .accepted fun both => request both.1
  | outgoing uipBuf uipLen =>
    by_cases same : router.lastSender = bufferBytes uipBuf 8 16
    · have none : packets (routerStep contiki (.outgoing uipBuf uipLen) router).2 = [] := by
        simp only [routerStep, output, Router.srcipaddr, same, if_true]
        rfl
      rw [none]
      exact .bounced same
    · have sent : packets (routerStep contiki (.outgoing uipBuf uipLen) router).2 = [bufferBytes uipBuf 0 uipLen] := by
        simp only [routerStep, output, Router.srcipaddr, same, if_false]
        rfl
      rw [sent]
      exact .packet same
  | resume addresses =>
    by_cases known : router.phase = .serving ∨ router.prefixSet = true
    · have none : packets (routerStep contiki (.resume addresses) router).2 = [] := by
        rw [routerStep, borderRouterProcess]
        split
        next => rfl
        next waiting =>
          have ready : router.prefixSet = true := known.resolve_left waiting
          rw [if_pos ready]
          simp [printLocalAddresses, packets, List.filterMap_flatMap]
      rw [none]
      exact .begins known
    · rw [not_or] at known
      have request : packets (routerStep contiki (.resume addresses) router).2 = [ascii "?P"] := by
        rw [routerStep, borderRouterProcess]
        split
        next serving => exact absurd serving known.1
        next =>
          rw [if_neg known.2, ← requestPrefix_packet router.uipBuf]
          rfl
      rw [request]
      exact .request known.1 (by simpa using known.2)
  | debug text => exact .debug

end Steps

section Tidiness
variable {contiki : Contiki} (plain : ∀ ipaddr, ∀ byte ∈ contiki.ipaddrPrint ipaddr, Plain byte)

theorem Tidy.single {last : List UInt8} (ending : ∀ byte ∈ last, Plain byte) : Tidy [.print (last ++ ascii "\n")] :=
  .line [] last (by simp) ending .nil

/-- The type of a message is printed as it came. -/
theorem announced_tidy {front : List UInt8} (before : ∀ byte ∈ front, Plain byte) {kind : UInt8} (sound : Plain kind) :
    Tidy [.print (front ++ [kind] ++ ascii "\n")] := by
  apply Tidy.single
  intro byte member
  rcases List.mem_append.mp member with early | last
  · exact before byte early
  · rw [List.mem_singleton.mp last]
    exact sound

private theorem requestMessage_tidy {router : Router} (sound : Plain (router.uipBuf 1)) :
    Tidy (requestMessage contiki router).2 := by
  have first : Tidy [.print (ascii "Got request message of type " ++ [router.uipBuf 1] ++ ascii "\n")] :=
    announced_tidy (ascii_plain rfl) sound
  rw [requestMessage]
  split
  next => exact first.append (.packet (by simp [Router.packet, bufferBytes]) .nil)
  next => exact first

include plain

private theorem configurationMessage_tidy {router : Router} (sound : Plain (router.uipBuf 1)) :
    Tidy (configurationMessage contiki router).2 := by
  have first : Tidy [.print (ascii "Got configuration message of type " ++ [router.uipBuf 1] ++ ascii "\n")] :=
    announced_tidy (ascii_plain rfl) sound
  rw [configurationMessage]
  split
  next =>
    refine first.append (.line [ascii "Setting prefix ", contiki.ipaddrPrint _] [] ?_ (by simp) .nil)
    intro text member
    rcases List.mem_cons.mp member with rfl | member
    · exact ascii_plain rfl
    · rw [List.mem_singleton.mp member]
      exact plain _
  next => exact first

private theorem output_tidy {router : Router} (some : 0 < router.uipLen) : Tidy (output contiki router).2 := by
  rw [output]
  split
  next =>
    refine .line [ascii "slip-bridge: Destination off-link but no route src=", contiki.ipaddrPrint _, ascii " dst=",
      contiki.ipaddrPrint _] [] ?_ (by simp) .nil
    intro text member
    simp only [List.mem_cons, List.not_mem_nil, or_false] at member
    rcases member with rfl | rfl | rfl | rfl
    · exact ascii_plain rfl
    · exact plain _
    · exact ascii_plain rfl
    · exact plain _
  next => exact .packet (by simp [Router.packet, bufferBytes]; omega) .nil

private theorem printLocalAddresses_tidy (addresses : List (List UInt8)) : Tidy (printLocalAddresses contiki addresses) := by
  have first : ascii "Server IPv6 addresses:\n" = ascii "Server IPv6 addresses:" ++ ascii "\n" := by simp [ascii]
  rw [printLocalAddresses, first]
  refine .line [] _ (by simp) (ascii_plain rfl) ?_
  induction addresses with
  | nil => exact .nil
  | cons ipaddr addresses ih =>
    rw [List.flatMap_cons]
    refine .append (.line [ascii " ", contiki.ipaddrPrint ipaddr] [] ?_ (by simp) .nil) ih
    intro text member
    rcases List.mem_cons.mp member with rfl | member
    · exact ascii_plain rfl
    · rw [List.mem_singleton.mp member]
      exact plain ipaddr

private theorem routerStep_tidy {event : RouterEvent} (sound : event.Sound) (router : Router) :
    Tidy (routerStep contiki event router).2 := by
  cases event with
  | received uipBuf uipLen =>
    by_cases configuration : uipBuf 0 = 33
    · simp only [routerStep, slipInputCallback, configuration, if_true]
      exact configurationMessage_tidy plain (sound (.inl configuration))
    · by_cases request : uipBuf 0 = 63
      · have other : ¬(63 : UInt8) = 33 := by decide
        simp only [routerStep, slipInputCallback, request, other, if_true, if_false]
        exact requestMessage_tidy (sound (.inr request))
      · simp only [routerStep, slipInputCallback, configuration, request, if_false]
        exact .nil
  | outgoing uipBuf uipLen => exact output_tidy plain sound.1
  | resume addresses =>
    rw [routerStep, borderRouterProcess]
    split
    next => exact .nil
    next =>
      split
      next => exact printLocalAddresses_tidy plain addresses
      next => exact .packet (by simp [Router.packet, bufferBytes, List.range_succ]) .nil
  | debug text => exact Tidy.single sound

private theorem router_tidy {events : List RouterEvent} (sound : ∀ event ∈ events, event.Sound) (router : Router) :
    Tidy (play (routerStep contiki) events router).2 := by
  induction events using List.reverseRecOn with
  | nil => exact .nil
  | append_singleton events event ih =>
    rw [play_append]
    exact (ih fun other member => sound other (by simp [member])).append (routerStep_tidy plain (sound event (by simp)) _)

end Tidiness

section Sample

/-- The address as `uip_debug_ipaddr_print` writes it. -/
def ipaddrText (ipaddr : List UInt8) : List UInt8 := addressText ((List.range 8).map fun i =>
  ((ipaddr.getD (2 * i) 0).toUInt16 <<< 8) + (ipaddr.getD (2 * i + 1) 0).toUInt16)

def sampleContiki : Contiki := ⟨fun packet => Slip.wrapped (Slip.stuffed packet), ipaddrText, fun _ => 0xc0⟩

/-- The process asks for a prefix, and the host asks for the address before it sends one. -/
def sampleEvents : List RouterEvent :=
  [.resume [], .received (storeAt 0 [63, 77] fun _ => 0) 2,
    .received (storeAt 0 [33, 80, 0xfd, 0, 0, 0, 0, 0, 0, 1] fun _ => 0) 10, .resume []]

private theorem sample_plain : ∀ ipaddr, ∀ byte ∈ sampleContiki.ipaddrPrint ipaddr, Plain byte := by
  intro ipaddr byte member
  constructor
  · rintro rfl
    exact notMem_addressText _ (by decide) rfl member
  · rintro rfl
    exact notMem_addressText _ (by decide) rfl member

private theorem sample_sound : ∀ event ∈ sampleEvents, event.Sound := by
  intro event member
  simp only [sampleEvents, List.mem_cons, List.not_mem_nil, or_false] at member
  rcases member with rfl | rfl | rfl | rfl
  · trivial
  · exact fun _ => ⟨by decide, by decide⟩
  · exact fun _ => ⟨by decide, by decide⟩
  · trivial

end Sample

section Messages
variable {contiki : Contiki}

def isDebug (message : List UInt8) : Bool := message.head? == some 13

private theorem shown_packets (ops : List LineOp) (screen : Screen) :
    (ops.foldl showOp screen).messages.filter (fun message => !isDebug message) =
      screen.messages.filter (fun message => !isDebug message) ++ (packets ops).filter fun message => !isDebug message := by
  have printed : ∀ (text : List UInt8) (screen : Screen),
      (text.foldl (fun screen c => showChar c screen) screen).messages.filter (fun message => !isDebug message) =
        screen.messages.filter fun message => !isDebug message := by
    intro text
    induction text with
    | nil => exact fun _ => rfl
    | cons c text ih =>
      intro screen
      rw [List.foldl_cons, ih, showChar]
      split
      next => simp [isDebug]
      next => rfl
  induction ops generalizing screen with
  | nil => simp [packets]
  | cons op ops ih =>
    rw [List.foldl_cons, ih]
    cases op with
    | print text => simp only [showOp, printed, packets, List.filterMap_cons]
    | slipSend packet =>
      simp only [showOp, packets, List.filterMap_cons, List.filter_append, List.append_assoc]
      rw [← List.filter_append, List.singleton_append]

/-- A packet of this version is none of the messages between the router and its host. -/
theorem packet_other {uipBuf : Nat → UInt8} {uipLen : Nat} (sound : (RouterEvent.outgoing uipBuf uipLen).Sound)
    {byte : UInt8} (other : byte >>> 4 ≠ 6) : (bufferBytes uipBuf 0 uipLen).head? ≠ some byte := by
  obtain ⟨filled, version⟩ := sound
  obtain ⟨count, rfl⟩ : ∃ count, uipLen = count + 1 := ⟨uipLen - 1, by omega⟩
  have head : (bufferBytes uipBuf 0 (count + 1)).head? = some (uipBuf 0) := by
    simp [bufferBytes, List.range_succ_eq_map]
  rw [head]
  intro same
  rw [Option.some.injEq] at same
  exact other (same ▸ version)

private theorem packet_sound {event : RouterEvent} (sound : event.Sound) {router : Router} {sent : List (List UInt8)}
    (steps : Sent contiki event router sent) : ∀ packet ∈ sent, isDebug packet = false := by
  cases steps with
  | address => simp [isDebug, addressReply]
  | accepted => simp
  | bounced => simp
  | packet =>
    have head := packet_other sound (show (13 : UInt8) >>> 4 ≠ 6 by decide)
    simp [isDebug, head]
  | request => simp [isDebug, ascii]
  | begins => simp
  | debug => simp

private theorem router_packets {events : List RouterEvent} (sound : ∀ event ∈ events, event.Sound) (router : Router) :
    (packets (play (routerStep contiki) events router).2).filter (fun message => !isDebug message) =
      packets (play (routerStep contiki) events router).2 := by
  rw [List.filter_eq_self]
  induction events using List.reverseRecOn with
  | nil => simp [packets]
  | append_singleton events event ih =>
    intro packet member
    rw [play_append, packets_append] at member
    rcases List.mem_append.mp member with early | last
    · exact ih (fun other inside => sound other (by simp [inside])) packet early
    · rw [packet_sound (sound event (by simp)) (routerStep_sent contiki event _) packet last]
      rfl

theorem Tidy.reads {ops : List LineOp} (tidy : Tidy ops)
    (framed : ∀ packet, contiki.slipSend packet = Slip.wrapped (Slip.stuffed packet)) :
    Slip.received (serialLine contiki ops).written = some (shown ops).messages ∧
      (serialLine contiki ops).debugFrame = false := by
  have start : Shows ⟨false, []⟩ ⟨[], []⟩ := ⟨by simp, ⟨[], .nil, rfl⟩, by simp⟩
  obtain ⟨shows, idle⟩ := tidy.shows framed start rfl
  obtain ⟨front, holds, written⟩ := shows.front
  rw [if_pos idle, List.append_nil] at written
  constructor
  · rw [serialLine, written]
    exact holds.received
  · rw [← Bool.not_eq_true]
    exact fun opened => shows.frame.mp opened idle

private theorem router_shows {events : List RouterEvent} (sound : ∀ event ∈ events, event.Sound) (router : Router) :
    (shown (play (routerStep contiki) events router).2).messages.filter (fun message => !isDebug message) =
      packets (play (routerStep contiki) events router).2 := by
  rw [shown, shown_packets, router_packets sound]
  rfl

/-- However debug lines and packets are mixed, the host reads every one of them, whole and in
order, as long as no reserved byte is printed as the type of a message. -/
theorem serial_line_reads (contiki : Contiki)
    (framed : ∀ packet, contiki.slipSend packet = Slip.wrapped (Slip.stuffed packet))
    (plain : ∀ ipaddr, ∀ byte ∈ contiki.ipaddrPrint ipaddr, Plain byte) (uipBuf : Nat → UInt8) (events : List RouterEvent)
    (sound : ∀ event ∈ events, event.Sound) :
    let ops := (play (routerStep contiki) events (routerStart uipBuf)).2
    Slip.received (serialLine contiki ops).written = some (shown ops).messages ∧
      (shown ops).messages.filter (fun message => !isDebug message) = packets ops ∧
      (serialLine contiki ops).debugFrame = false := by
  obtain ⟨reads, closed⟩ := (router_tidy plain sound (routerStart uipBuf)).reads framed
  exact ⟨reads, router_shows sound _, closed⟩

theorem sample_line : ∃ messages,
    Slip.received (serialLine sampleContiki (play (routerStep sampleContiki) sampleEvents (routerStart fun _ => 0)).2).written =
      some messages :=
  ⟨_, (serial_line_reads sampleContiki (fun _ => rfl) sample_plain (fun _ => 0) sampleEvents sample_sound).1⟩

end Messages

section Handshake
variable {contiki : Contiki}

/-- The prefix that a configuration message carries. -/
def prefixOf : RouterEvent → Option (List UInt8)
  | .received uipBuf _ =>
    if uipBuf 0 = 33 ∧ uipBuf 1 = 80 then some (bufferBytes uipBuf 2 8 ++ List.replicate 8 0) else none
  | _ => none

def isResume : RouterEvent → Bool
  | .resume _ => true
  | _ => false

def asksAddress : RouterEvent → Bool
  | .received uipBuf _ => uipBuf 0 == 63 && uipBuf 1 == 77
  | _ => false

/-- The process serves with a prefix only, and has then called `NETSTACK_MAC.off` once more
than at its start, with the other argument. -/
structure Handshake (events : List RouterEvent) (router : Router) : Prop where
  known : router.prefixSet = true ↔ events.filterMap prefixOf ≠ []
  latest : router.dagPrefix = (events.filterMap prefixOf).getLast?.getD (List.replicate 16 0)
  serving : router.phase = .serving → router.prefixSet = true
  macOff : router.macOff = if router.phase = .serving then [0, 1] else [0]

private theorem received_router (contiki : Contiki) (uipBuf : Nat → UInt8) (uipLen : Nat) (router : Router) :
    let next := (routerStep contiki (.received uipBuf uipLen) router).1
    next.phase = router.phase ∧ next.macOff = router.macOff ∧
      next.prefixSet = (router.prefixSet || (prefixOf (.received uipBuf uipLen)).isSome) ∧
      next.dagPrefix = (prefixOf (.received uipBuf uipLen)).getD router.dagPrefix := by
  by_cases configuration : uipBuf 0 = 33
  · by_cases kind : uipBuf 1 = 80
    · simp [routerStep, slipInputCallback, configuration, configurationMessage, kind, setPrefix64, prefixOf]
    · simp [routerStep, slipInputCallback, configuration, configurationMessage, kind, prefixOf]
  · by_cases request : uipBuf 0 = 63
    · by_cases kind : uipBuf 1 = 77
      · simp [routerStep, slipInputCallback, request, requestMessage, kind, prefixOf]
      · simp [routerStep, slipInputCallback, request, requestMessage, kind, prefixOf]
    · simp [routerStep, slipInputCallback, configuration, request, prefixOf]

theorem Handshake.kept {events : List RouterEvent} {router next : Router} (handshake : Handshake events router)
    {event : RouterEvent} (none : prefixOf event = none) (same : next.prefixSet = router.prefixSet)
    (unchanged : next.dagPrefix = router.dagPrefix) (serving : next.phase = .serving → next.prefixSet = true)
    (macOff : next.macOff = if next.phase = .serving then [0, 1] else [0]) : Handshake (events ++ [event]) next := by
  have nothing : (events ++ [event]).filterMap prefixOf = events.filterMap prefixOf := by simp [none]
  refine ⟨?_, ?_, serving, macOff⟩
  · rw [nothing, same]
    exact handshake.known
  · rw [nothing, unchanged]
    exact handshake.latest

theorem Handshake.step {events : List RouterEvent} {router : Router} (handshake : Handshake events router)
    (event : RouterEvent) : Handshake (events ++ [event]) (routerStep contiki event router).1 := by
  cases event with
  | received uipBuf uipLen =>
    obtain ⟨phase, macOff, known, latest⟩ := received_router contiki uipBuf uipLen router
    have serving : (routerStep contiki (.received uipBuf uipLen) router).1.phase = .serving →
        (routerStep contiki (.received uipBuf uipLen) router).1.prefixSet = true := by
      intro begun
      rw [known, handshake.serving (phase ▸ begun), Bool.true_or]
    cases carried : prefixOf (.received uipBuf uipLen) with
    | none =>
      rw [carried] at known latest
      exact handshake.kept carried (by simpa using known) latest serving (by rw [macOff, phase]; exact handshake.macOff)
    | some announced =>
      rw [carried] at known latest
      have last : (events ++ [RouterEvent.received uipBuf uipLen]).filterMap prefixOf = events.filterMap prefixOf ++ [announced] := by
        simp [carried]
      refine ⟨?_, ?_, serving, by rw [macOff, phase]; exact handshake.macOff⟩
      · rw [last, known]
        simp
      · rw [last, latest]
        simp
  | outgoing uipBuf uipLen =>
    have same : ∀ field : Router → Prop, (field (routerStep contiki (.outgoing uipBuf uipLen) router).1 ↔
        field { router with uipBuf, uipLen }) := by
      intro field
      rw [routerStep, output]
      split <;> exact Iff.rfl
    refine (same (Handshake _)).mpr ?_
    exact handshake.kept rfl rfl rfl handshake.serving handshake.macOff
  | resume addresses =>
    rw [routerStep, borderRouterProcess]
    split
    next => exact handshake.kept rfl rfl rfl handshake.serving handshake.macOff
    next waiting =>
      split
      next ready =>
        have before := handshake.macOff
        rw [if_neg waiting] at before
        exact handshake.kept rfl rfl rfl (fun _ => ready) (by simp [before])
      next =>
        have before := handshake.macOff
        rw [if_neg waiting] at before
        exact handshake.kept rfl rfl rfl (fun serving => by cases serving) before
  | debug text => exact handshake.kept rfl rfl rfl handshake.serving handshake.macOff

private theorem handshakes (contiki : Contiki) (uipBuf : Nat → UInt8) (events : List RouterEvent) :
    Handshake events (play (routerStep contiki) events (routerStart uipBuf)).1 := by
  induction events using List.reverseRecOn with
  | nil => exact ⟨by simp [routerStart], rfl, by simp [routerStart], by simp [routerStart]⟩
  | append_singleton events event ih =>
    rw [play_append]
    exact ih.step event

/-- The wake-ups before the first prefix. -/
def requestsDue (events : List RouterEvent) : Nat := (events.takeWhile fun event => (prefixOf event).isNone).countP isResume

private theorem requestsDue_append (events : List RouterEvent) (event : RouterEvent) : requestsDue (events ++ [event]) =
    requestsDue events + if events.filterMap prefixOf = [] ∧ isResume event = true then 1 else 0 := by
  induction events with
  | nil =>
    cases event with
    | received uipBuf uipLen =>
      rw [requestsDue, List.nil_append, List.takeWhile_cons]
      split <;> simp [requestsDue, isResume]
    | outgoing => simp [requestsDue, prefixOf, isResume]
    | resume => simp [requestsDue, prefixOf, isResume]
    | debug => simp [requestsDue, prefixOf, isResume]
  | cons first events ih =>
    cases carried : prefixOf first with
    | none =>
      rw [requestsDue] at ih ⊢
      simp only [requestsDue, List.cons_append, List.takeWhile_cons, carried, Option.isNone_none, if_true,
        List.countP_cons, List.filterMap_cons, ih]
      omega
    | some announced =>
      simp only [requestsDue, List.cons_append, List.takeWhile_cons, carried, Option.isNone_some, Bool.false_eq_true,
        if_false, List.countP_nil, List.filterMap_cons, List.cons_ne_nil, false_and, Nat.add_zero]

private theorem requests_sent {events : List RouterEvent} (sound : ∀ event ∈ events, event.Sound) (uipBuf : Nat → UInt8) :
    (packets (play (routerStep contiki) events (routerStart uipBuf)).2).count (ascii "?P") = requestsDue events := by
  induction events using List.reverseRecOn with
  | nil => rfl
  | append_singleton events event ih =>
    have handshake := handshakes contiki uipBuf events
    have inside := sound event (by simp)
    rw [play_append, packets_append, List.count_append, ih fun other member => sound other (by simp [member]),
      requestsDue_append]
    congr 1
    generalize router : (play (routerStep contiki) events (routerStart uipBuf)).1 = state at handshake
    have steps := routerStep_sent contiki event state
    generalize packets (routerStep contiki event state).2 = sent at steps
    cases steps with
    | address => simp [addressReply, ascii, isResume]
    | accepted => simp [isResume]
    | bounced => simp [isResume]
    | @packet buf len _ _ =>
      have head := packet_other inside (show (63 : UInt8) >>> 4 ≠ 6 by decide)
      have different : bufferBytes buf 0 len ≠ ascii "?P" := by
        intro same
        rw [same] at head
        simp [ascii] at head
      simp [isResume, different]
    | request waiting unset =>
      have none : events.filterMap prefixOf = [] := by
        rw [← not_not (a := events.filterMap prefixOf = []), ← ne_eq, ← handshake.known, unset]
        simp
      simp [isResume, none]
    | begins known =>
      have some : events.filterMap prefixOf ≠ [] := by
        rw [← handshake.known]
        exact known.elim handshake.serving id
      simp [some]
    | debug => simp [isResume]

private theorem addresses_told {events : List RouterEvent} (sound : ∀ event ∈ events, event.Sound) (router : Router) :
    (packets (play (routerStep contiki) events router).2).filter (fun message => message.head? == some 33) =
      List.replicate (events.countP asksAddress) (addressReply contiki) := by
  induction events using List.reverseRecOn with
  | nil => rfl
  | append_singleton events event ih =>
    have inside := sound event (by simp)
    rw [play_append, packets_append, List.filter_append, ih fun other member => sound other (by simp [member]),
      List.countP_append, List.replicate_add]
    congr 1
    have steps := routerStep_sent contiki event (play (routerStep contiki) events router).1
    generalize packets (routerStep contiki event (play (routerStep contiki) events router).1).2 = sent at steps
    cases steps with
    | address request kind => simp [addressReply, asksAddress, request, kind]
    | accepted other => simp [asksAddress, other]
    | bounced => simp [asksAddress]
    | packet => simp [asksAddress, packet_other inside (show (33 : UInt8) >>> 4 ≠ 6 by decide)]
    | request => simp [asksAddress, ascii]
    | begins => simp [asksAddress]
    | debug => simp [asksAddress]

end Handshake

section Address

/-- Two hexadecimal digits for every octet. -/
def octetsOf (reply : List UInt8) : Option (List Nat) :=
  (List.finRange 8).mapM fun j => scanned 16 ((reply.drop (2 + 2 * j.val)).take 2)

private theorem hexchar_eq {digit : UInt8} (small : digit.toNat < 16) : hexchar digit = digitByte digit.toNat := by
  have table : ascii "0123456789abcdef" = (List.range 16).map digitByte := by
    simp [ascii]
    decide
  rw [hexchar, table]
  simp [small]

private theorem scanned_octet (octet : UInt8) : scanned 16 [hexchar (octet >>> 4), hexchar (octet &&& 15)] = some octet.toNat := by
  have high : (octet >>> 4).toNat = octet.toNat / 16 := by
    rw [UInt8.toNat_shiftRight]
    exact Nat.shiftRight_eq_div_pow _ _
  have low : (octet &&& 15).toNat = octet.toNat % 16 := by
    rw [UInt8.toNat_and]
    exact Nat.and_two_pow_sub_one_eq_mod octet.toNat 4
  have bound := octet.toNat_lt
  rw [hexchar_eq (by omega), hexchar_eq (by omega), high, low]
  have first := scanDigit_digitByte (show 16 ≤ 16 by decide) (show octet.toNat / 16 < 16 by omega) 0
  have second := scanDigit_digitByte (show 16 ≤ 16 by decide) (show octet.toNat % 16 < 16 by omega) (octet.toNat / 16)
  rw [Nat.zero_mul, Nat.zero_add] at first
  simp [scanned, first, second]
  omega

private theorem octetsOf_addressReply (contiki : Contiki) :
    octetsOf (addressReply contiki) = some ((List.finRange 8).map fun j => (contiki.lladdr j).toNat) := by
  have digits : ∀ j : Fin 8, ((addressReply contiki).drop (2 + 2 * j.val)).take 2 =
      [hexchar (contiki.lladdr j >>> 4), hexchar (contiki.lladdr j &&& 15)] := by
    rintro ⟨j, small⟩
    interval_cases j <;> rfl
  simp only [octetsOf, digits, scanned_octet]
  rfl

end Address

/-- What the host reads of the handshake: one request for every wake-up before the first
prefix and none behind it, and for every question the router's address. The process serves
only with a prefix, and the prefix is the last one that was sent. -/
theorem prefix_handshake (contiki : Contiki)
    (framed : ∀ packet, contiki.slipSend packet = Slip.wrapped (Slip.stuffed packet))
    (plain : ∀ ipaddr, ∀ byte ∈ contiki.ipaddrPrint ipaddr, Plain byte) (uipBuf : Nat → UInt8) (events : List RouterEvent)
    (sound : ∀ event ∈ events, event.Sound) :
    let run := play (routerStep contiki) events (routerStart uipBuf)
    (∃ messages, Slip.received (serialLine contiki run.2).written = some messages ∧
      messages.count (ascii "?P") = requestsDue events ∧
      ∃ reply, messages.filter (fun message => message.head? == some 33) = List.replicate (events.countP asksAddress) reply ∧
        octetsOf reply = some ((List.finRange 8).map fun j => (contiki.lladdr j).toNat)) ∧
    Handshake events run.1 := by
  intro run
  have shows := @router_shows contiki events sound (routerStart uipBuf)
  obtain ⟨reads, -⟩ := (router_tidy plain sound (routerStart uipBuf)).reads framed
  refine ⟨⟨_, reads, ?_, addressReply contiki, ?_, octetsOf_addressReply contiki⟩, handshakes contiki uipBuf events⟩
  · rw [← requests_sent sound uipBuf, ← shows, List.count_filter]
    simp [isDebug, ascii]
  · rw [← addresses_told sound (routerStart uipBuf), ← shows, List.filter_filter]
    congr 1
    funext message
    by_cases told : message.head? = some 33
    · simp [isDebug, told]
    · simp [told]

theorem sample_handshake : (∃ messages,
    Slip.received (serialLine sampleContiki (play (routerStep sampleContiki) sampleEvents (routerStart fun _ => 0)).2).written =
      some messages ∧ messages.count (ascii "?P") = 1 ∧
    ∃ reply, messages.filter (fun message => message.head? == some 33) = [reply] ∧
      octetsOf reply = some (List.replicate 8 0xc0)) ∧
    Handshake sampleEvents (play (routerStep sampleContiki) sampleEvents (routerStart fun _ => 0)).1 := by
  obtain ⟨⟨messages, reads, requested, reply, told, address⟩, handshake⟩ :=
    prefix_handshake sampleContiki (fun _ => rfl) sample_plain (fun _ => 0) sampleEvents sample_sound
  exact ⟨⟨messages, reads, requested.trans rfl, reply, told.trans rfl, address.trans rfl⟩, handshake⟩

end TinyIpfix
