import InvCtrl.Interaction
import InvCtrl.ReadYourWrites

/-! The Modbus server: what `main` asks of libmodbus, under any replies. It answers
register reads at a few addresses in ways of its own, for the tests of the client;
whatever else it receives it hands on, and what it has taken it gives back. -/
namespace InvCtrl
open Interaction

inductive Backend where
  | tcp | tcpPi | rtu
  deriving DecidableEq, Repr

namespace Modbus

def tcpMaxAduLength : Nat := 260
def rtuMaxAduLength : Nat := 256
def slaveOrServerBusy : Nat := 6

/-- `MODBUS_GET_INT16_FROM_INT8`. -/
def getInt16 (tab : ByteMemory) (index : Nat) : Nat :=
  (tab index).toNat * 256 + (tab (index + 1)).toNat

/-- `MODBUS_SET_INT16_TO_INT8`. -/
def setInt16 (tab : ByteMemory) (index : Nat) (value : UInt16) : ByteMemory :=
  (tab.write index (value >>> 8).toUInt8).write (index + 1) (value &&& 0xFF).toUInt8

end Modbus

section Constants

def serverId : Nat := 17
def invalidServerId : UInt8 := 18
def utInputBitsAddress : UInt16 := 0x1C4
def utInputBitsNb : UInt16 := 0x16
def utInputBitsTab : List UInt8 := [0xAC, 0xDB, 0x35]
def utRegistersAddress : UInt16 := 0x160
def utRegistersNbMax : UInt16 := 0x20
def utRegistersAddressSpecial : UInt16 := 0x170
def utRegistersAddressInvalidTidOrSlave : UInt16 := 0x171
def utRegistersAddressSleep500Ms : UInt16 := 0x172
def utRegistersAddressByteSleep5Ms : UInt16 := 0x173
def utRegistersNbSpecial : UInt16 := 0x2
def utInputRegistersAddress : UInt16 := 0x108
def utInputRegistersNb : UInt16 := 0x1
def utInputRegistersTab : List UInt16 := [0x000A]

end Constants

/-- The return value, whether `errno` is `EMBBADCRC`, and the query buffer afterwards. -/
structure Received where
  rc : Int32
  badCrc : Bool
  query : ByteMemory

inductive ServerCall where
  | updateClientTamper (value : Int32)
  | updateServerTamper (value : Int32)
  | modbusNew (backend : Backend)
  | setSlave (slave : Nat)
  /-- The query buffer; the reply is what it happens to hold. -/
  | malloc (size : Nat)
  | getHeaderLength
  | setDebug (flag : Bool)
  /-- A start and a number for each of the four tables. -/
  | mappingNewStartAddress (bits inputBits registers inputRegisters : UInt16 × UInt16)
  | setInputBitsFromBytes (start : Nat) (count : UInt16) (bytes : List UInt8)
  | setInputRegister (i : Nat) (value : UInt16)
  | listen (connections : Nat)
  | accept (socket : Int32)
  | connect
  | receive (query : ByteMemory)
  | replyException (query : ByteMemory) (code : Nat)
  | sendRawRequest (rawReq : List UInt8)
  | usleep (microseconds : Nat)
  | getSocket
  | send (socket : Int32) (byte : UInt8)
  | reply (query : ByteMemory) (length : Int32)
  | close (socket : Int32)
  | mappingFree
  | free
  | modbusClose
  | modbusFree

abbrev ServerCall.Reply : ServerCall → Type
  | .malloc _ => ByteMemory
  | .getHeaderLength => Nat
  | .mappingNewStartAddress .. => Bool
  | .receive _ => Received
  | .listen _ | .accept _ | .connect | .replyException .. | .sendRawRequest _ | .getSocket
  | .send .. | .reply .. => Int32
  | _ => Unit

/-- The calls that put something on the connection. -/
def ServerCall.answers : ServerCall → Bool
  | .replyException .. | .sendRawRequest _ | .send .. | .reply .. => true
  | _ => false

/-- The call that asks for the next query. -/
def ServerCall.asks : ServerCall → Bool
  | .receive _ => true
  | _ => false

abbrev ServerProgram := Program ServerCall ServerCall.Reply

section Main

def tamperFlags (argv : List String) : ServerProgram Unit :=
  match argv[1]? with
  | some "1" => Program.perform (ServerCall.updateClientTamper 1)
  | some "2" => Program.perform (ServerCall.updateServerTamper 1)
  | some "3" => do
    Program.perform (ServerCall.updateClientTamper 1)
    Program.perform (ServerCall.updateServerTamper 1)
  | _ => pure ()

/-- The answer sent byte by byte, until a byte cannot be sent. -/
def sendBytes (socket : Int32) : List UInt8 → ServerProgram Unit
  | [] => pure ()
  | byte :: rest => do
    Program.perform (ServerCall.usleep 5000)
    let rc ← Program.perform (ServerCall.send socket byte)
    if rc = -1 then pure () else sendBytes socket rest

/-- `modbus_reply` at the end of the loop's body: go on, with what the buffer now holds. -/
def replyTo (query : ByteMemory) (rc : Int32) : ServerProgram (Bool × ByteMemory) := do
  let rc ← Program.perform (ServerCall.reply query rc)
  pure (rc ≠ -1, query)

/-- The body of the loop once a query has come in. -/
def answerQuery (backend : Backend) (headerLength : Nat) (query : ByteMemory) (rc : Int32) :
    ServerProgram (Bool × ByteMemory) :=
  let address := Modbus.getInt16 query (headerLength + 1)
  if query headerLength = 0x03 then
    if Modbus.getInt16 query (headerLength + 3) = utRegistersNbSpecial.toNat then
      replyTo (Modbus.setInt16 query (headerLength + 3) (utRegistersNbSpecial - 1)) rc
    else if address = utRegistersAddressSpecial.toNat then do
      let _ ← Program.perform (ServerCall.replyException query Modbus.slaveOrServerBusy)
      pure (true, query)
    else if address = utRegistersAddressInvalidTidOrSlave.toNat then do
      let slave := if backend = .rtu then invalidServerId else 0xFF
      let _ ← Program.perform (ServerCall.sendRawRequest [slave, 0x03, 0x02, 0x00, 0x00])
      pure (true, query)
    else if address = utRegistersAddressSleep500Ms.toNat then do
      Program.perform (ServerCall.usleep 500000)
      replyTo query rc
    else if address = utRegistersAddressByteSleep5Ms.toNat then do
      let socket ← Program.perform ServerCall.getSocket
      if socket = -1 then pure (true, query)
      else
        sendBytes socket
          [0x00, query 1, 0x00, 0x00, 0x00, 0x05, 0xFF, 0x03, 0x02, 0x00, 0x00]
        pure (true, query)
    else replyTo query rc
  else replyTo query rc

/-- `for (;;)`, cut off after so many calls of `modbus_receive`; filtered queries return 0. -/
def serverLoop (backend : Backend) (headerLength : Nat) :
    Nat → ByteMemory → ServerProgram (Option Unit)
  | 0, _ => pure none
  | fuel + 1, query => do
    let received ← Program.perform (ServerCall.receive query)
    if received.rc = 0 then serverLoop backend headerLength fuel received.query
    else if received.rc = -1 ∧ ¬ received.badCrc then pure (some ())
    else
      let (go, query) ← answerQuery backend headerLength received.query received.rc
      if go then serverLoop backend headerLength fuel query else pure (some ())

def setInputRegisters : Nat → List UInt16 → ServerProgram Unit
  | _, [] => pure ()
  | i, value :: rest => do
    Program.perform (ServerCall.setInputRegister i value)
    setInputRegisters (i + 1) rest

/-- The end of `main`, after the loop. -/
def leave (backend : Backend) (socket : Int32) : ServerProgram (Option Int32) := do
  if backend = .tcp ∧ socket ≠ -1 then Program.perform (ServerCall.close socket)
  Program.perform ServerCall.mappingFree
  Program.perform ServerCall.free
  Program.perform ServerCall.modbusClose
  Program.perform ServerCall.modbusFree
  pure (some 0)

/-- `main` from the new mapping on: the read-only inputs, the connection and the loop. -/
def serverRun (backend : Backend) (headerLength : Nat) (query : ByteMemory) (fuel : Nat) :
    ServerProgram (Option Int32) := do
  Program.perform (ServerCall.setInputBitsFromBytes 0 utInputBitsNb utInputBitsTab)
  setInputRegisters 0 (utInputRegistersTab.take utInputRegistersNb.toNat)
  if backend = .rtu then
    let rc ← Program.perform ServerCall.connect
    if rc = -1 then
      Program.perform ServerCall.modbusFree
      pure (some (-1))
    else
      match ← serverLoop backend headerLength fuel query with
      | none => pure none
      | some () => leave backend (-1)
  else
    let socket ← Program.perform (ServerCall.listen 1)
    let socket ← Program.perform (ServerCall.accept socket)
    match ← serverLoop backend headerLength fuel query with
    | none => pure none
    | some () => leave backend socket

def serverMain (argv : List String) (backend : Backend) (fuel : Nat) :
    ServerProgram (Option Int32) := do
  tamperFlags argv
  Program.perform (ServerCall.modbusNew backend)
  if backend = .rtu then Program.perform (ServerCall.setSlave serverId)
  let query ← Program.perform (ServerCall.malloc (match backend with
    | .tcp => Modbus.tcpMaxAduLength + 128
    | .tcpPi => Modbus.tcpMaxAduLength
    | .rtu => Modbus.rtuMaxAduLength))
  let headerLength ← Program.perform ServerCall.getHeaderLength
  Program.perform (ServerCall.setDebug true)
  let mapped ← Program.perform (ServerCall.mappingNewStartAddress (utBitsAddress, utBitsNb)
    (utInputBitsAddress, utInputBitsNb) (utRegistersAddress, utRegistersNbMax)
    (utInputRegistersAddress, utInputRegistersNb))
  if mapped = true then serverRun backend headerLength query fuel
  else
    Program.perform ServerCall.modbusFree
    pure (some (-1))

end Main

abbrev ServerEvent := Program.Event ServerCall ServerCall.Reply

/-- `sending` has the socket and the bytes that are still to go out. -/
inductive ServerPhase where
  | starting | waiting | holding | left
  | sending (socket : Int32) (bytes : List UInt8)
  deriving DecidableEq, Repr

/-- Where the server stands: the query buffer with the length that came in last, how many
times it has asked for a query, its own socket (-1 for none), and what it has taken and
not given back. -/
structure Server where
  phase : ServerPhase
  header : Nat
  query : ByteMemory
  length : Int32
  receives : Nat
  socket : Int32
  context : Bool
  connection : Bool
  mapping : Bool
  buffer : Bool

namespace Server

def start : Server := ⟨.starting, 0, fun _ => 0, 0, 0, -1, false, false, false, false⟩

/-- The query asks for holding registers; coils are read and written by other functions. -/
def AsksRegisters (server : Server) : Prop := server.query server.header = 0x03

/-- It asks for the number of registers that is answered wrongly on purpose. -/
def AsksSpecial (server : Server) : Prop := server.AsksRegisters ∧
  Modbus.getInt16 server.query (server.header + 3) = utRegistersNbSpecial.toNat

/-- It asks for another number of registers, at this address. -/
def AsksAt (server : Server) (address : UInt16) : Prop :=
  server.AsksRegisters ∧ ¬ server.AsksSpecial ∧
    Modbus.getInt16 server.query (server.header + 1) = address.toNat

/-- What `modbus_reply` gets is what came in, but for the number of registers where that
is the special one. -/
def HandsOn (server : Server) (query : ByteMemory) : Prop :=
  (¬ server.AsksSpecial ∧ query = server.query) ∨ (server.AsksSpecial ∧
    query = Modbus.setInt16 server.query (server.header + 3) (utRegistersNbSpecial - 1))

/-- The answer that goes out byte by byte. -/
def slowAnswer (server : Server) : List UInt8 :=
  [0x00, server.query 1, 0x00, 0x00, 0x00, 0x05, 0xFF, 0x03, 0x02, 0x00, 0x00]

def move (server : Server) : ServerEvent → Server
  | ⟨.modbusNew _, _⟩ => { server with context := true }
  | ⟨.malloc _, query⟩ => { server with query, buffer := true }
  | ⟨.getHeaderLength, header⟩ => { server with header }
  | ⟨.mappingNewStartAddress .., mapping⟩ => { server with mapping }
  | ⟨.listen _, socket⟩ => { server with socket }
  -- whether there is a connection is not looked at; the first receive fails if there is none
  | ⟨.accept _, socket⟩ => { server with socket, connection := true }
  | ⟨.connect, rc⟩ => { server with connection := rc ≠ -1 }
  | ⟨.receive _, received⟩ =>
    { server with
      phase := if received.rc = 0 then .waiting
        else if received.rc = -1 ∧ ¬ received.badCrc then .left else .holding
      query := received.query
      length := received.rc
      receives := server.receives + 1 }
  | ⟨.reply query _, rc⟩ => { server with phase := if rc = -1 then .left else .waiting, query }
  | ⟨.replyException .., _⟩ | ⟨.sendRawRequest _, _⟩ => { server with phase := .waiting }
  -- without a socket the query is given up
  | ⟨.getSocket, socket⟩ =>
    { server with phase := if socket = -1 then .waiting else .sending socket server.slowAnswer }
  | ⟨.send socket _, rc⟩ =>
    { server with
      phase := match server.phase with
        | .sending _ (_ :: next :: rest) =>
          if rc = -1 then .waiting else .sending socket (next :: rest)
        | _ => .waiting }
  | ⟨.close _, _⟩ => { server with socket := -1 }
  | ⟨.mappingFree, _⟩ => { server with mapping := false }
  | ⟨.free, _⟩ => { server with buffer := false }
  | ⟨.modbusClose, _⟩ => { server with connection := false }
  | ⟨.modbusFree, _⟩ => { server with context := false }
  | _ => server

/-- Which calls are in order. Each thing is used only between being taken and being given
back, and nothing is given back while the server may go on. There is one buffer for all
queries; a query is answered once, or given up, before the next one is asked for, and only
one for registers is answered in another way than by `modbus_reply`. -/
def Allows (server : Server) : ServerEvent → Prop
  | ⟨.updateClientTamper _, _⟩ | ⟨.updateServerTamper _, _⟩ | ⟨.modbusNew _, _⟩ =>
    server.phase = .starting ∧ server.context = false
  | ⟨.setSlave _, _⟩ | ⟨.getHeaderLength, _⟩ | ⟨.setDebug _, _⟩ =>
    server.phase = .starting ∧ server.context = true
  | ⟨.malloc _, _⟩ => server.phase = .starting ∧ server.buffer = false
  | ⟨.mappingNewStartAddress .., _⟩ => server.phase = .starting ∧ server.mapping = false
  | ⟨.setInputBitsFromBytes .., _⟩ | ⟨.setInputRegister .., _⟩ =>
    server.phase = .starting ∧ server.mapping = true
  | ⟨.listen _, _⟩ => server.phase = .starting ∧ server.context = true ∧ server.socket = -1
  | ⟨.accept socket, _⟩ => server.phase = .starting ∧ server.context = true ∧
      server.connection = false ∧ socket = server.socket
  | ⟨.connect, _⟩ => server.phase = .starting ∧ server.context = true ∧ server.connection = false
  | ⟨.receive query, _⟩ => (server.phase = .starting ∨ server.phase = .waiting) ∧
      server.context = true ∧ server.connection = true ∧ server.buffer = true ∧
      query = server.query
  | ⟨.reply query length, _⟩ => server.phase = .holding ∧ server.HandsOn query ∧
      length = server.length ∧ server.context = true ∧ server.mapping = true
  | ⟨.replyException query code, _⟩ => server.phase = .holding ∧
      server.AsksAt utRegistersAddressSpecial ∧ query = server.query ∧
      code = Modbus.slaveOrServerBusy ∧ server.context = true
  | ⟨.sendRawRequest _, _⟩ => server.phase = .holding ∧
      server.AsksAt utRegistersAddressInvalidTidOrSlave ∧ server.context = true
  | ⟨.getSocket, _⟩ => server.phase = .holding ∧
      server.AsksAt utRegistersAddressByteSleep5Ms ∧ server.context = true
  | ⟨.send socket byte, _⟩ => ∃ rest, server.phase = .sending socket (byte :: rest)
  | ⟨.usleep microseconds, _⟩ =>
    (∃ socket bytes, server.phase = .sending socket bytes ∧ microseconds = 5000) ∨
      (server.phase = .holding ∧ server.AsksAt utRegistersAddressSleep500Ms ∧
        microseconds = 500000)
  | ⟨.close socket, _⟩ => server.phase = .left ∧ socket = server.socket ∧ socket ≠ -1
  | ⟨.mappingFree, _⟩ => server.phase = .left ∧ server.mapping = true
  | ⟨.free, _⟩ => server.phase = .left ∧ server.buffer = true
  | ⟨.modbusClose, _⟩ => server.phase = .left ∧ server.context = true ∧ server.connection = true
  | ⟨.modbusFree, _⟩ => (server.phase = .starting ∨ server.phase = .left) ∧
      server.connection = false ∧ server.context = true

structure Live (server : Server) (headerLength : Nat) (socket : Int32) : Prop where
  header : server.header = headerLength
  socket : server.socket = socket
  context : server.context = true
  connection : server.connection = true
  mapping : server.mapping = true
  buffer : server.buffer = true

/-- About to ask for the next query. -/
structure Serving (server : Server) (headerLength : Nat) (socket : Int32) : Prop extends
    server.Live headerLength socket where
  phase : server.phase = .starting ∨ server.phase = .waiting

structure Leaving (server : Server) (headerLength : Nat) (socket : Int32) : Prop extends
    server.Live headerLength socket where
  phase : server.phase = .left

/-- How `main` stands after so many receives: still in the loop; back with 0 and everything
given back, but for the socket of the backend whose socket is not closed; or back with -1
before the first receive, with the buffer not given back. -/
def Ends (backend : Backend) (fuel : Nat) : Option Int32 → Server → Prop
  | none, server =>
    (∃ headerLength socket, server.Serving headerLength socket) ∧ server.receives = fuel
  | some code, server => server.context = false ∧ server.connection = false ∧
      (code = 0 ∧ server.phase = .left ∧ server.mapping = false ∧ server.buffer = false ∧
          (backend ≠ .tcpPi → server.socket = -1) ∨
        code = -1 ∧ server.phase = .starting ∧ server.receives = 0 ∧ server.buffer = true)

end Server

/-- The rule of the server's calls with a postcondition. -/
abbrev ServerProgram.Keeps (p : ServerProgram α) (post : α → Server → Prop) (server : Server) :
    Prop := p.Obeys Server.move Server.Allows post server

section Loop
variable {headerLength : Nat} {socket : Int32} {server : Server}

theorem Server.Live.moved (live : server.Live headerLength socket) (phase : ServerPhase)
    (query : ByteMemory) : { server with phase, query }.Live headerLength socket :=
  ⟨live.header, live.socket, live.context, live.connection, live.mapping, live.buffer⟩

/-- Byte by byte until one fails; after the last one too the next query is due. -/
theorem sendBytes_keeps (socket : Int32) (byte : UInt8) (rest : List UInt8)
    (phase : server.phase = .sending socket (byte :: rest)) :
    ServerProgram.Keeps (sendBytes socket (byte :: rest))
      (fun _ last => last = { server with phase := .waiting }) server := by
  induction rest generalizing server byte with
  | nil =>
    refine Program.obeys_call fun _ => ⟨.inl ⟨_, _, phase, rfl⟩, ?_⟩
    refine Program.obeys_call fun rc => ⟨⟨_, phase⟩, ?_⟩
    have moved : server.move ⟨.send socket byte, rc⟩ = { server with phase := .waiting } := by
      simp only [Server.move, phase]
    split
    · exact Program.obeys_pure moved
    · exact Program.obeys_pure moved
  | cons next rest ih =>
    refine Program.obeys_call fun _ => ⟨.inl ⟨_, _, phase, rfl⟩, ?_⟩
    refine Program.obeys_call fun rc => ⟨⟨_, phase⟩, ?_⟩
    have moved : server.move ⟨.send socket byte, rc⟩ =
        { server with phase := if rc = -1 then .waiting else .sending socket (next :: rest) } := by
      simp only [Server.move, phase]
    by_cases failed : rc = -1
    · rw [if_pos failed] at moved ⊢
      exact Program.obeys_pure moved
    · rw [if_neg failed] at moved ⊢
      have sends : ServerProgram.Keeps (sendBytes socket (next :: rest))
          (fun _ last => last = { server with phase := .waiting })
          { server with phase := .sending socket (next :: rest) } := ih next rfl
      exact moved ▸ sends

/-- What the body of the loop leads to. -/
def Answered (server : Server) (headerLength : Nat) (socket : Int32) (result : Bool × ByteMemory)
    (last : Server) : Prop :=
  last.receives = server.receives ∧ last.query = result.2 ∧
    if result.1 then last.Serving headerLength socket else last.Leaving headerLength socket

theorem replyTo_keeps (live : server.Live headerLength socket) (phase : server.phase = .holding)
    {query : ByteMemory} (handsOn : server.HandsOn query) :
    ServerProgram.Keeps (replyTo query server.length) (Answered server headerLength socket) server := by
  refine Program.obeys_call fun rc =>
    ⟨⟨phase, handsOn, rfl, live.context, live.mapping⟩, Program.obeys_pure ⟨rfl, rfl, ?_⟩⟩
  by_cases failed : rc = -1
  · subst failed
    exact ⟨live.moved .left query, rfl⟩
  · simp only [ne_eq, failed, not_false_eq_true, decide_true, ↓reduceIte, Server.move]
    exact ⟨live.moved .waiting query, .inr rfl⟩

theorem answerQuery_keeps (live : server.Live headerLength socket) (phase : server.phase = .holding)
    (backend : Backend) :
    ServerProgram.Keeps (answerQuery backend headerLength server.query server.length)
      (Answered server headerLength socket) server := by
  have waits : Answered server headerLength socket (true, server.query)
      { server with phase := .waiting } := ⟨rfl, rfl, live.moved .waiting server.query, .inr rfl⟩
  unfold answerQuery
  have context := live.context
  obtain rfl := live.header
  have verbatim (other : ¬ server.AsksSpecial) := replyTo_keeps live phase (.inl ⟨other, rfl⟩)
  by_cases registers : server.query server.header = 0x03
  case neg => simpa only [registers, ↓reduceIte] using verbatim fun asks => registers asks.1
  simp only [registers, ↓reduceIte]
  by_cases special : Modbus.getInt16 server.query (server.header + 3) = utRegistersNbSpecial.toNat
  · rw [if_pos special]
    exact replyTo_keeps live phase (.inr ⟨⟨registers, special⟩, rfl⟩)
  rw [if_neg special]
  have other : ¬ server.AsksSpecial := fun asks => special asks.2
  have asksAt {address : UInt16}
      (asked : Modbus.getInt16 server.query (server.header + 1) = address.toNat) :
      server.AsksAt address := ⟨registers, other, asked⟩
  by_cases exception : Modbus.getInt16 server.query (server.header + 1) =
      utRegistersAddressSpecial.toNat
  · rw [if_pos exception]
    exact Program.obeys_call fun _ =>
      ⟨⟨phase, asksAt exception, rfl, rfl, context⟩, Program.obeys_pure waits⟩
  rw [if_neg exception]
  by_cases invalid : Modbus.getInt16 server.query (server.header + 1) =
      utRegistersAddressInvalidTidOrSlave.toNat
  · rw [if_pos invalid]
    exact Program.obeys_call fun _ =>
      ⟨⟨phase, asksAt invalid, context⟩, Program.obeys_pure waits⟩
  rw [if_neg invalid]
  by_cases sleep : Modbus.getInt16 server.query (server.header + 1) =
      utRegistersAddressSleep500Ms.toNat
  · rw [if_pos sleep]
    exact Program.obeys_call fun _ => ⟨.inr ⟨phase, asksAt sleep, rfl⟩, verbatim other⟩
  rw [if_neg sleep]
  by_cases byteSleep : Modbus.getInt16 server.query (server.header + 1) =
      utRegistersAddressByteSleep5Ms.toNat
  · rw [if_pos byteSleep]
    refine Program.obeys_call fun socket => ⟨⟨phase, asksAt byteSleep, context⟩, ?_⟩
    by_cases unconnected : socket = -1
    · simp only [unconnected, ↓reduceIte]
      exact Program.obeys_pure waits
    · simp only [unconnected, ↓reduceIte, Server.move]
      refine Program.Obeys.bind ((sendBytes_keeps socket _ _ rfl).mono ?_)
      rintro _ last rfl
      exact Program.obeys_pure waits
  · rw [if_neg byteSleep]
    exact verbatim other

/-- How the loop stands after this many receives in all, cut off or left. -/
def Server.Looped (headerLength : Nat) (socket : Int32) (receives : Nat) :
    Option Unit → Server → Prop
  | none, server => server.Serving headerLength socket ∧ server.receives = receives
  | some (), server => server.Leaving headerLength socket

/-- The loop from one receive to the next, the last query still in the buffer. -/
theorem serverLoop_keeps (backend : Backend) (fuel : Nat)
    (serving : server.Serving headerLength socket) :
    ServerProgram.Keeps (serverLoop backend headerLength fuel server.query)
      (Server.Looped headerLength socket (server.receives + fuel)) server := by
  induction fuel generalizing server with
  | zero => exact Program.obeys_pure ⟨serving, rfl⟩
  | succ fuel ih =>
    have counted : server.receives + 1 + fuel = server.receives + (fuel + 1) := by omega
    obtain ⟨live, phase⟩ := serving
    refine Program.obeys_call fun received =>
      ⟨⟨phase, live.context, live.connection, live.buffer, rfl⟩, ?_⟩
    let holding := server.move ⟨.receive server.query, received⟩
    have moved : holding.Live headerLength socket :=
      ⟨live.header, live.socket, live.context, live.connection, live.mapping, live.buffer⟩
    by_cases filtered : received.rc = 0
    · simp only [filtered, ↓reduceIte]
      have waits : holding.phase = .waiting := if_pos filtered
      rw [← counted]
      exact ih ⟨moved, .inr waits⟩
    simp only [filtered, ↓reduceIte]
    by_cases quit : received.rc = -1 ∧ ¬ received.badCrc = true
    · rw [if_pos quit]
      have left : holding.phase = .left := (if_neg filtered).trans (if_pos quit)
      exact Program.obeys_pure ⟨moved, left⟩
    rw [if_neg quit]
    have holds : holding.phase = .holding := (if_neg filtered).trans (if_neg quit)
    refine Program.Obeys.bind ((answerQuery_keeps moved holds backend).mono ?_)
    rintro ⟨go, buffer⟩ last ⟨receives, rfl, next⟩
    cases go with
    | true =>
      simp only [↓reduceIte] at next ⊢
      have loops := ih next
      rwa [receives, show holding.receives + fuel = server.receives + (fuel + 1) from counted]
        at loops
    | false => exact Program.obeys_pure next

end Loop

section Main
variable {server : Server} {headerLength : Nat} {socket : Int32} {backend : Backend}

theorem leave_keeps (leaving : server.Leaving headerLength socket)
    (unlistened : backend = .rtu → socket = -1) (fuel : Nat) :
    ServerProgram.Keeps (leave backend socket) (Server.Ends backend fuel) server := by
  obtain ⟨live, phase⟩ := leaving
  have frees {last : Server} (same : ∃ socket, last = { server with socket })
      (closed : backend ≠ .tcpPi → last.socket = -1) : ServerProgram.Keeps
      (do
        Program.perform ServerCall.mappingFree
        Program.perform ServerCall.free
        Program.perform ServerCall.modbusClose
        Program.perform ServerCall.modbusFree
        pure (some 0)) (Server.Ends backend fuel) last := by
    obtain ⟨socket, rfl⟩ := same
    refine Program.obeys_call fun _ => ⟨⟨phase, live.mapping⟩, ?_⟩
    refine Program.obeys_call fun _ => ⟨⟨phase, live.buffer⟩, ?_⟩
    refine Program.obeys_call fun _ => ⟨⟨phase, live.context, live.connection⟩, ?_⟩
    refine Program.obeys_call fun _ => ⟨⟨.inr phase, rfl, live.context⟩, ?_⟩
    exact Program.obeys_pure ⟨rfl, rfl, .inl ⟨rfl, phase, rfl, rfl, closed⟩⟩
  unfold leave
  by_cases closes : backend = .tcp ∧ socket ≠ -1
  · rw [if_pos closes]
    exact Program.obeys_call fun _ =>
      ⟨⟨phase, live.socket.symm, closes.2⟩, frees ⟨-1, rfl⟩ fun _ => rfl⟩
  · rw [if_neg closes]
    refine frees ⟨server.socket, rfl⟩ fun other => ?_
    rw [live.socket]
    cases backend with
    | tcp => exact not_not.mp fun opened => closes ⟨rfl, opened⟩
    | tcpPi => exact absurd rfl other
    | rtu => exact unlistened rfl

theorem tamperFlags_keeps (starting : server.phase = .starting) (before : server.context = false)
    (argv : List String) :
    ServerProgram.Keeps (tamperFlags argv) (fun _ last => last = server) server := by
  have allowed := And.intro starting before
  unfold tamperFlags
  split
  · exact fun _ => ⟨allowed, rfl⟩
  · exact fun _ => ⟨allowed, rfl⟩
  · exact Program.obeys_call fun _ => ⟨allowed, fun _ => ⟨allowed, rfl⟩⟩
  · exact Program.obeys_pure rfl

theorem setInputRegisters_keeps (starting : server.phase = .starting)
    (mapped : server.mapping = true) (i : Nat) (values : List UInt16) :
    ServerProgram.Keeps (setInputRegisters i values) (fun _ last => last = server) server := by
  induction values generalizing i with
  | nil => exact Program.obeys_pure rfl
  | cons value rest ih => exact Program.obeys_call fun _ => ⟨⟨starting, mapped⟩, ih (i + 1)⟩

theorem looped_keeps (serving : server.Serving headerLength socket) (before : server.receives = 0)
    (unlistened : backend = .rtu → socket = -1) (fuel : Nat) :
    ServerProgram.Keeps
      (do
        match ← serverLoop backend headerLength fuel server.query with
        | none => pure none
        | some () => leave backend socket) (Server.Ends backend fuel) server := by
  refine Program.Obeys.bind ((serverLoop_keeps backend fuel serving).mono ?_)
  intro result last looped
  cases result with
  | none =>
    obtain ⟨still, receives⟩ := looped
    rw [before, Nat.zero_add] at receives
    exact Program.obeys_pure ⟨⟨headerLength, socket, still⟩, receives⟩
  | some _ => exact leave_keeps looped unlistened fuel

theorem serverRun_keeps (headerLength : Nat) (query : ByteMemory) (backend : Backend)
    (fuel : Nat) :
    ServerProgram.Keeps (serverRun backend headerLength query fuel) (Server.Ends backend fuel)
      ⟨.starting, headerLength, query, 0, 0, -1, true, false, true, true⟩ := by
  unfold serverRun
  refine Program.obeys_call fun _ => ⟨⟨rfl, rfl⟩, ?_⟩
  refine Program.Obeys.bind ((setInputRegisters_keeps rfl rfl 0 _).mono ?_)
  rintro _ _ rfl
  by_cases rtu : backend = .rtu
  · rw [if_pos rtu]
    refine Program.obeys_call fun rc => ⟨⟨rfl, rfl, rfl⟩, ?_⟩
    by_cases unconnected : rc = -1
    · subst unconnected
      exact Program.obeys_call fun _ => ⟨⟨.inl rfl, rfl, rfl⟩,
        Program.obeys_pure ⟨rfl, rfl, .inr ⟨rfl, rfl, rfl, rfl⟩⟩⟩
    · rw [if_neg unconnected]
      exact looped_keeps ⟨⟨rfl, rfl, rfl, decide_eq_true unconnected, rfl, rfl⟩, .inl rfl⟩ rfl
        (fun _ => rfl) fuel
  · rw [if_neg rtu]
    refine Program.obeys_call fun listening => ⟨⟨rfl, rfl, rfl⟩, ?_⟩
    refine Program.obeys_call fun socket => ⟨⟨rfl, rfl, rfl, rfl⟩, ?_⟩
    exact looped_keeps ⟨⟨rfl, rfl, rfl, rfl, rfl, rfl⟩, .inl rfl⟩ rfl
      (fun same => absurd same rtu) fuel

theorem serverMain_keeps (argv : List String) (backend : Backend) (fuel : Nat) :
    ServerProgram.Keeps (serverMain argv backend fuel) (Server.Ends backend fuel)
      Server.start := by
  unfold serverMain
  refine Program.Obeys.bind ((tamperFlags_keeps rfl rfl argv).mono ?_)
  rintro _ _ rfl
  refine Program.obeys_call fun _ => ⟨⟨rfl, rfl⟩, ?_⟩
  extract_lets mapsAndRuns
  have runs : ServerProgram.Keeps (mapsAndRuns ()) (Server.Ends backend fuel)
      { Server.start with context := true } := by
    refine Program.obeys_call fun query => ⟨⟨rfl, rfl⟩, ?_⟩
    refine Program.obeys_call fun headerLength => ⟨⟨rfl, rfl⟩, ?_⟩
    refine Program.obeys_call fun _ => ⟨⟨rfl, rfl⟩, ?_⟩
    refine Program.obeys_call fun mapped => ⟨⟨rfl, rfl⟩, ?_⟩
    cases mapped with
    | true => exact serverRun_keeps headerLength query backend fuel
    | false => exact Program.obeys_call fun _ => ⟨⟨.inl rfl, rfl, rfl⟩,
        Program.obeys_pure ⟨rfl, rfl, .inr ⟨rfl, rfl, rfl, rfl⟩⟩⟩
  by_cases rtu : backend = .rtu
  · rw [if_pos rtu]
    exact Program.obeys_call fun _ => ⟨⟨rfl, rfl⟩, runs⟩
  · rw [if_neg rtu]
    exact runs

/-- Of the calls in order while a query is held that is not for registers, one is left. -/
theorem holding_replies {event : ServerEvent} (phase : server.phase = .holding)
    (other : ¬ server.AsksRegisters) (allowed : server.Allows event) :
    ∃ rc, event = ⟨.reply server.query server.length, rc⟩ := by
  obtain ⟨request, reply⟩ := event
  cases request with
  | reply query length =>
    obtain ⟨_, ⟨_, rfl⟩ | ⟨asks, _⟩, rfl, _⟩ := allowed
    · exact ⟨reply, rfl⟩
    · exact absurd asks.1 other
  | replyException | sendRawRequest | getSocket => exact absurd allowed.2.1.1 other
  | usleep =>
    rcases allowed with ⟨_, _, sends, _⟩ | ⟨_, asks, _⟩
    · simp [phase] at sends
    · exact absurd asks.1 other
  | _ => simp [Server.Allows, phase] at allowed

/-- No query is held or being answered. -/
def Server.Idle (server : Server) : Prop :=
  server.phase = .starting ∨ server.phase = .waiting ∨ server.phase = .left

theorem Server.Idle.step {event : ServerEvent} (idle : server.Idle)
    (allowed : server.Allows event) (asks : event.request.asks = false) :
    event.request.answers = false ∧ (server.move event).Idle := by
  obtain ⟨request, reply⟩ := event
  cases request with
  | receive => exact absurd asks (Bool.noConfusion ·)
  | reply | replyException | sendRawRequest | getSocket =>
    obtain ⟨phase, _⟩ := allowed
    simp [Server.Idle, phase] at idle
  | send =>
    obtain ⟨rest, phase⟩ := allowed
    simp [Server.Idle, phase] at idle
  | _ => exact ⟨rfl, idle⟩

/-- Until the next query is asked for, nothing is answered any more. -/
theorem Server.Idle.silent (idle : server.Idle) (events : List ServerEvent)
    (checked : Checked Server.move Server.Allows server events) :
    ∀ event ∈ events.takeWhile (fun event => ! event.request.asks),
      event.request.answers = false := by
  induction events generalizing server with
  | nil => exact fun _ made => absurd made List.not_mem_nil
  | cons event rest ih =>
    intro later made
    cases asks : event.request.asks with
    | true => simp [List.takeWhile, asks] at made
    | false =>
      obtain ⟨silent, after⟩ := idle.step checked.1 asks
      simp only [List.takeWhile, asks, Bool.not_false, List.mem_cons] at made
      rcases made with rfl | made
      · exact silent
      · exact ih after checked.2 later made

/-- In every run, right after a query for coils has come in, `modbus_reply` gets exactly
what came in, and nothing else is answered before the next query is asked for: the server
drops none of them, alters none and answers none twice. -/
theorem coil_queries_handed_on {S : Type} (handler : Handler ServerCall ServerCall.Reply S) (s : S)
    (argv : List String) (backend : Backend) (fuel : Nat) (before after : List ServerEvent)
    (query : ByteMemory) (received : Received)
    (made : (serverMain argv backend fuel).trace handler s =
      before ++ ⟨.receive query, received⟩ :: after)
    (came : received.rc ≠ 0) (kept : ¬ (received.rc = -1 ∧ ¬ received.badCrc = true))
    (coils : received.query (before.foldl Server.move Server.start).header ≠ 0x03) :
    ∃ rc rest, after = ⟨.reply received.query received.rc, rc⟩ :: rest ∧
      ∀ event ∈ rest.takeWhile (fun event => ! event.request.asks),
        event.request.answers = false := by
  let server := before.foldl Server.move Server.start
  let holding := server.move ⟨.receive query, received⟩
  have phase : holding.phase = .holding := (if_neg came).trans (if_neg kept)
  obtain ⟨checked, ends⟩ := (serverMain_keeps argv backend fuel).trace handler s
  rw [made] at checked ends
  obtain ⟨_, _, following⟩ := (checked_append _ _ _).mp checked
  rw [List.foldl_append] at ends
  cases after with
  | nil =>
    have ends : Server.Ends backend fuel _ holding := ends
    generalize ((serverMain argv backend fuel).run handler s).1 = result at ends
    cases result with
    | none =>
      obtain ⟨⟨_, _, serving⟩, _⟩ := ends
      have idle := serving.phase
      simp [phase] at idle
    | some code =>
      obtain ⟨_, _, ⟨_, left, _⟩ | ⟨_, starting, _⟩⟩ := ends
      · simp [phase] at left
      · simp [phase] at starting
  | cons event rest =>
    obtain ⟨rc, rfl⟩ := holding_replies phase coils following.1
    have replied : (holding.move ⟨.reply holding.query holding.length, rc⟩).Idle := by
      by_cases failed : rc = -1
      · exact .inr (.inr (if_pos failed))
      · exact .inr (.inl (if_neg failed))
    exact ⟨rc, rest, rfl, replied.silent rest following.2⟩

/-- One write of a coil, and then the connection is closed. -/
def ServerCall.once : Handler ServerCall ServerCall.Reply Nat
  | .malloc _, n => (fun _ => 0, n)
  | .getHeaderLength, n => (7, n)
  | .mappingNewStartAddress .., n => (true, n)
  | .receive _, 0 => (⟨140, false, ByteMemory.ofBytes [0, 7, 0, 0, 0, 134, 255, 5]⟩, 1)
  | .receive query, n => (⟨-1, false, query⟩, n)
  | .listen _, n | .accept _, n | .connect, n | .replyException .., n | .sendRawRequest _, n
  | .getSocket, n | .send .., n | .reply .., n => (12, n)
  | .updateClientTamper _, n | .updateServerTamper _, n | .modbusNew _, n | .setSlave _, n
  | .setDebug _, n | .setInputBitsFromBytes .., n | .setInputRegister .., n | .usleep _, n
  | .close _, n | .mappingFree, n | .free, n | .modbusClose, n | .modbusFree, n => ((), n)

theorem coil_queries_handed_on_once :
    let query := ByteMemory.ofBytes [0, 7, 0, 0, 0, 134, 255, 5]
    ∃ before rc rest, (serverMain [] .tcp 2).trace ServerCall.once 0 =
        before ++ ⟨.receive fun _ => 0, ⟨140, false, query⟩⟩ :: ⟨.reply query 140, rc⟩ :: rest ∧
      ∀ event ∈ rest.takeWhile (fun event => ! event.request.asks),
        event.request.answers = false := by
  intro query
  let events := (serverMain [] .tcp 2).trace ServerCall.once 0
  have made : events = events.take 9 ++ ⟨.receive fun _ => 0, ⟨140, false, query⟩⟩ ::
      events.drop 10 := rfl
  obtain ⟨rc, rest, next, silent⟩ := coil_queries_handed_on ServerCall.once 0 [] .tcp 2 _ _ _ _
    made (by decide) (by decide) (by decide)
  rw [next] at made
  exact ⟨_, rc, rest, made, silent⟩

end Main

end InvCtrl
