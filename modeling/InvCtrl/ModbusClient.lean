import InvCtrl.ModbusServer

/-! The Modbus client: one write of the first coil and one read of it, each with the
result that its tamper flag lets one expect. The `goto close` behind them leaves the
rest of `main` unreachable, and with it the line that sets `success`. -/
namespace InvCtrl
open Interaction

def utRegistersNb : UInt16 := 0x3

inductive ClientCall where
  | updateClientTamper (value : Int32)
  | updateServerTamper (value : Int32)
  /-- The reply is whether there is a context. -/
  | modbusNew (backend : Backend)
  | setDebug (flag : Bool)
  | setErrorRecovery (link protocol : Bool)
  | setSlave (slave : Nat)
  | getResponseTimeout
  | connect
  | setResponseTimeout (seconds microseconds : Nat)
  /-- `tab_rp_bits`; the reply is what it happens to hold. -/
  | mallocBits (size : Nat)
  | mallocRegisters (size : Nat)
  | writeBit (address : UInt16) (status : Bool)
  /-- The return value and the destination afterwards. -/
  | readBits (address : UInt16) (nb : Nat) (dest : ByteMemory)
  /-- The flags are variables of libmodbus. -/
  | clientTamper
  | serverTamper
  /-- `ASSERT_TRUE` prints which way its condition goes. -/
  | assertTrue (cond : Bool)
  | freeBits
  | freeRegisters
  | modbusClose
  | modbusFree

abbrev ClientCall.Reply : ClientCall → Type
  | .modbusNew _ => Bool
  | .mallocBits _ => ByteMemory
  | .readBits .. => Int32 × ByteMemory
  | .connect | .writeBit .. | .clientTamper | .serverTamper => Int32
  | _ => Unit

abbrev ClientProgram := Program ClientCall ClientCall.Reply

section Main

/-- The label `close`. -/
def closeAll (success : Bool) : ClientProgram Int32 := do
  Program.perform ClientCall.freeBits
  Program.perform ClientCall.freeRegisters
  Program.perform ClientCall.modbusClose
  Program.perform ClientCall.modbusFree
  pure (if success then 0 else -1)

/-- `ASSERT_TRUE` and what comes after it; `success` is not set before any of them. -/
def assertTrue (cond : Bool) (next : ClientProgram Int32) : ClientProgram Int32 := do
  Program.perform (ClientCall.assertTrue cond)
  if cond then next else closeAll false

def readTest (tabRpBits : ByteMemory) : ClientProgram Int32 := do
  let (rc, tabRpBits) ← Program.perform (ClientCall.readBits utBitsAddress 1 tabRpBits)
  let serverTamper ← Program.perform ClientCall.serverTamper
  if serverTamper ≠ 0 then assertTrue (rc = -1) (closeAll false)
  else assertTrue (rc = 1) (assertTrue (tabRpBits 0 = 1) (closeAll false))

def writeTest (tabRpBits : ByteMemory) : ClientProgram Int32 := do
  let rc ← Program.perform (ClientCall.writeBit utBitsAddress true)
  let clientTamper ← Program.perform ClientCall.clientTamper
  if clientTamper ≠ 0 then assertTrue (rc = -1) (readTest tabRpBits)
  else assertTrue (rc = 1) (readTest tabRpBits)

/-- `main` from the connection on. -/
def clientRun : ClientProgram Int32 := do
  Program.perform ClientCall.getResponseTimeout
  let rc ← Program.perform ClientCall.connect
  if rc = -1 then
    Program.perform ClientCall.modbusFree
    pure (-1)
  else
    Program.perform ClientCall.getResponseTimeout
    Program.perform (ClientCall.setResponseTimeout 5 0)
    let nbPoints := if utBitsNb > utInputBitsNb then utBitsNb else utInputBitsNb
    let tabRpBits ← Program.perform (ClientCall.mallocBits nbPoints.toNat)
    let tabRpBits := tabRpBits.overlay 0 (List.replicate nbPoints.toNat 0)
    let nbPoints := if utRegistersNb > utInputRegistersNb then utRegistersNb else utInputRegistersNb
    Program.perform (ClientCall.mallocRegisters (nbPoints.toNat * 2))
    writeTest tabRpBits

def clientFlags (argv : List String) : ClientProgram Unit :=
  match argv[1]? with
  | some "1" => Program.perform (ClientCall.updateClientTamper 1)
  | some "2" => Program.perform (ClientCall.updateServerTamper 1)
  | some "3" => do
    Program.perform (ClientCall.updateClientTamper 1)
    Program.perform (ClientCall.updateServerTamper 1)
  | _ => pure ()

def clientMain (argv : List String) (backend : Backend) : ClientProgram Int32 := do
  clientFlags argv
  let made ← Program.perform (ClientCall.modbusNew backend)
  if made = true then
    Program.perform (ClientCall.setDebug true)
    Program.perform (ClientCall.setErrorRecovery true true)
    if backend = .rtu then Program.perform (ClientCall.setSlave serverId)
    clientRun
  else pure (-1)

end Main

abbrev ClientEvent := Program.Event ClientCall ClientCall.Reply

/-- What the client holds, whether it was ever connected, what libmodbus has answered and
what was printed so far. -/
structure Tester where
  context : Bool
  connected : Bool
  bits : Bool
  registers : Bool
  linked : Bool
  written : Option Int32
  clientTamper : Option Int32
  read : Option (Int32 × UInt8)
  serverTamper : Option Int32
  verdicts : List Bool

namespace Tester

def start : Tester := ⟨false, false, false, false, false, none, none, none, none, []⟩

def move (tester : Tester) : ClientEvent → Tester
  | ⟨.modbusNew _, made⟩ => { tester with context := made }
  | ⟨.connect, rc⟩ => { tester with connected := rc ≠ -1, linked := rc ≠ -1 }
  | ⟨.mallocBits _, _⟩ => { tester with bits := true }
  | ⟨.mallocRegisters _, _⟩ => { tester with registers := true }
  | ⟨.writeBit .., rc⟩ => { tester with written := some rc }
  | ⟨.readBits .., (rc, tab)⟩ => { tester with read := some (rc, tab 0) }
  | ⟨.clientTamper, flag⟩ => { tester with clientTamper := some flag }
  | ⟨.serverTamper, flag⟩ => { tester with serverTamper := some flag }
  | ⟨.assertTrue cond, _⟩ => { tester with verdicts := tester.verdicts ++ [cond] }
  | ⟨.freeBits, _⟩ => { tester with bits := false }
  | ⟨.freeRegisters, _⟩ => { tester with registers := false }
  | ⟨.modbusClose, _⟩ => { tester with connected := false }
  | ⟨.modbusFree, _⟩ => { tester with context := false }
  | _ => tester

/-- The return value that a request should have under its tamper flag. -/
def expected (tamper : Int32) : Int32 := if tamper ≠ 0 then -1 else 1

/-- The three assertions, in their order: the client's flag is for the write, the
server's for the read. -/
def Asserts (tester : Tester) (cond : Bool) : List Bool → Prop
  | [] => ∃ rc flag, tester.written = some rc ∧ tester.clientTamper = some flag ∧
      cond = (rc = expected flag : Bool)
  | [true] => ∃ rc value flag, tester.read = some (rc, value) ∧
      tester.serverTamper = some flag ∧ cond = (rc = expected flag : Bool)
  | [true, true] => ∃ value, tester.read = some (1, value) ∧ tester.serverTamper = some 0 ∧
      cond = (value = 1 : Bool)
  | _ => False

/-- The coil is written at most once, to on, and read at most once, only after a write
that went as expected; nothing is used before it is there or given back twice. -/
def Allows (tester : Tester) : ClientEvent → Prop
  | ⟨.updateClientTamper _, _⟩ | ⟨.updateServerTamper _, _⟩ | ⟨.modbusNew _, _⟩ =>
    tester.context = false
  | ⟨.setDebug _, _⟩ | ⟨.setErrorRecovery .., _⟩ | ⟨.setSlave _, _⟩ | ⟨.getResponseTimeout, _⟩ =>
    tester.context = true
  | ⟨.connect, _⟩ => tester.context = true ∧ tester.connected = false
  | ⟨.setResponseTimeout .., _⟩ => tester.connected = true
  | ⟨.mallocBits _, _⟩ => tester.bits = false
  | ⟨.mallocRegisters _, _⟩ => tester.registers = false
  | ⟨.writeBit address status, _⟩ => tester.connected = true ∧ tester.written = none ∧
      address = utBitsAddress ∧ status = true
  | ⟨.readBits address nb _, _⟩ => tester.connected = true ∧ tester.verdicts = [true] ∧
      tester.read = none ∧ tester.bits = true ∧ address = utBitsAddress ∧ nb = 1
  | ⟨.clientTamper, _⟩ => tester.connected = true ∧ tester.clientTamper = none
  | ⟨.serverTamper, _⟩ => tester.connected = true ∧ tester.serverTamper = none
  | ⟨.assertTrue cond, _⟩ => tester.Asserts cond tester.verdicts
  | ⟨.freeBits, _⟩ => tester.bits = true
  | ⟨.freeRegisters, _⟩ => tester.registers = true
  | ⟨.modbusClose, _⟩ => tester.connected = true
  | ⟨.modbusFree, _⟩ => tester.context = true ∧ tester.connected = false

/-- The coil was written, and read too unless the write went otherwise than expected. -/
def Tested (tester : Tester) : Prop :=
  tester.written ≠ none ∧
    (tester.verdicts = [false] ∨ tester.read ≠ none ∧ 1 < tester.verdicts.length)

/-- Everything is there that `close` gives back. -/
structure Ready (tester : Tester) : Prop where
  context : tester.context = true
  connected : tester.connected = true
  bits : tester.bits = true
  registers : tester.registers = true

/-- How `main` ends: nothing is held, the exit code is the one of a failure, and where
there was a connection the coil was tested. -/
def Ends (code : Int32) (tester : Tester) : Prop :=
  code = -1 ∧ tester.context = false ∧ tester.connected = false ∧ tester.bits = false ∧
    tester.registers = false ∧ (tester.linked = true → tester.Tested)

end Tester

/-- The rule of the client's calls. -/
abbrev ClientProgram.Keeps (p : ClientProgram Int32) (tester : Tester) : Prop :=
  p.Obeys Tester.move Tester.Allows Tester.Ends tester

section Main
variable {tester : Tester}

theorem closeAll_keeps (ready : tester.Ready) (tested : tester.Tested) :
    ClientProgram.Keeps (closeAll false) tester := by
  refine Program.obeys_call fun _ => ⟨ready.bits, ?_⟩
  refine Program.obeys_call fun _ => ⟨ready.registers, ?_⟩
  refine Program.obeys_call fun _ => ⟨ready.connected, ?_⟩
  refine Program.obeys_call fun _ => ⟨⟨ready.context, rfl⟩, ?_⟩
  exact Program.obeys_pure ⟨rfl, rfl, rfl, rfl, rfl, fun _ => tested⟩

/-- One assertion, and what is left to do where it holds. -/
theorem assertTrue_keeps (ready : tester.Ready) {cond : Bool} {next : ClientProgram Int32}
    (asserts : tester.Asserts cond tester.verdicts)
    (tested : { tester with verdicts := tester.verdicts ++ [false] }.Tested)
    (goesOn : cond = true → next.Keeps { tester with verdicts := tester.verdicts ++ [true] }) :
    ClientProgram.Keeps (assertTrue cond next) tester := by
  refine Program.obeys_call fun _ => ⟨asserts, ?_⟩
  cases cond with
  | true => exact goesOn rfl
  | false =>
    exact closeAll_keeps ⟨ready.context, ready.connected, ready.bits, ready.registers⟩ tested

theorem readTest_keeps (ready : tester.Ready) (passed : tester.verdicts = [true])
    (written : tester.written ≠ none) (unread : tester.read = none)
    (unasked : tester.serverTamper = none) (tabRpBits : ByteMemory) :
    ClientProgram.Keeps (readTest tabRpBits) tester := by
  obtain ⟨context, connected, bits, registers⟩ := ready
  refine Program.obeys_call fun (rc, tab) => ⟨⟨connected, passed, unread, bits, rfl, rfl⟩, ?_⟩
  refine Program.obeys_call fun flag => ⟨⟨connected, unasked⟩, ?_⟩
  let asked (verdicts : List Bool) : Tester :=
    { tester with read := some (rc, tab 0), serverTamper := some flag, verdicts }
  have answered (verdicts : List Bool) : (asked verdicts).Ready :=
    ⟨context, connected, bits, registers⟩
  have tested (verdicts : List Bool) (two : 1 < verdicts.length) : (asked verdicts).Tested :=
    ⟨written, .inr ⟨Option.some_ne_none _, two⟩⟩
  rw [show tester = { tester with verdicts := [true] } by rw [← passed]]
  by_cases tampers : flag ≠ 0
  · rw [if_pos tampers]
    have expects : Tester.expected flag = -1 := if_pos tampers
    refine assertTrue_keeps (answered [true]) ⟨rc, tab 0, flag, rfl, rfl, by rw [expects]⟩
      (tested [true, false] (by decide)) fun _ => ?_
    exact closeAll_keeps (answered [true, true]) (tested [true, true] (by decide))
  · rw [if_neg tampers]
    have expects : Tester.expected flag = 1 := if_neg tampers
    refine assertTrue_keeps (answered [true]) ⟨rc, tab 0, flag, rfl, rfl, by rw [expects]⟩
      (tested [true, false] (by decide)) fun one => ?_
    obtain rfl := of_decide_eq_true one
    obtain rfl := not_ne_iff.mp tampers
    refine assertTrue_keeps (answered [true, true]) ⟨tab 0, rfl, rfl, rfl⟩
      (tested [true, true, false] (by decide)) fun _ => ?_
    exact closeAll_keeps (answered [true, true, true]) (tested [true, true, true] (by decide))

theorem writeTest_keeps (ready : tester.Ready) (fresh : tester.verdicts = [])
    (unwritten : tester.written = none) (unread : tester.read = none)
    (unasked : tester.clientTamper = none ∧ tester.serverTamper = none) (tabRpBits : ByteMemory) :
    ClientProgram.Keeps (writeTest tabRpBits) tester := by
  obtain ⟨context, connected, bits, registers⟩ := ready
  refine Program.obeys_call fun rc => ⟨⟨connected, unwritten, rfl, rfl⟩, ?_⟩
  refine Program.obeys_call fun flag => ⟨⟨connected, unasked.1⟩, ?_⟩
  rw [show tester = { tester with verdicts := [] } by rw [← fresh]]
  let asked (verdicts : List Bool) : Tester :=
    { tester with written := some rc, clientTamper := some flag, verdicts }
  have answered (verdicts : List Bool) : (asked verdicts).Ready :=
    ⟨context, connected, bits, registers⟩
  have reads (cond : Bool) (same : cond = (rc = Tester.expected flag : Bool)) :
      ClientProgram.Keeps (assertTrue cond (readTest tabRpBits)) (asked []) := by
    refine assertTrue_keeps (answered []) ⟨rc, flag, rfl, rfl, same⟩
      ⟨Option.some_ne_none _, .inl rfl⟩ fun _ => ?_
    exact readTest_keeps (answered [true]) rfl (Option.some_ne_none _) unread unasked.2 _
  by_cases tampers : flag ≠ 0
  · rw [if_pos tampers]
    exact reads _ (by rw [show Tester.expected flag = -1 from if_pos tampers])
  · rw [if_neg tampers]
    exact reads _ (by rw [show Tester.expected flag = 1 from if_neg tampers])

theorem clientRun_keeps : ClientProgram.Keeps clientRun { Tester.start with context := true } := by
  refine Program.obeys_call fun _ => ⟨rfl, ?_⟩
  refine Program.obeys_call fun rc => ⟨⟨rfl, rfl⟩, ?_⟩
  by_cases unconnected : rc = -1
  · subst unconnected
    exact Program.obeys_call fun _ => ⟨⟨rfl, rfl⟩,
      Program.obeys_pure ⟨rfl, rfl, rfl, rfl, rfl, fun linked => Bool.noConfusion linked⟩⟩
  · have connected : decide (rc ≠ -1) = true := decide_eq_true unconnected
    rw [if_neg unconnected]
    refine Program.obeys_call fun _ => ⟨rfl, ?_⟩
    refine Program.obeys_call fun _ => ⟨connected, ?_⟩
    refine Program.obeys_call fun tabRpBits => ⟨rfl, ?_⟩
    refine Program.obeys_call fun _ => ⟨rfl, ?_⟩
    exact writeTest_keeps ⟨rfl, connected, rfl, rfl⟩ rfl rfl rfl ⟨rfl, rfl⟩ _

theorem clientMain_keeps (argv : List String) (backend : Backend) :
    ClientProgram.Keeps (clientMain argv backend) Tester.start := by
  unfold clientMain
  have flags : Program.Obeys Tester.move Tester.Allows (fun _ last => last = Tester.start)
      Tester.start (clientFlags argv) := by
    unfold clientFlags
    split
    · exact fun _ => ⟨rfl, rfl⟩
    · exact fun _ => ⟨rfl, rfl⟩
    · exact Program.obeys_call fun _ => ⟨rfl, fun _ => ⟨rfl, rfl⟩⟩
    · exact Program.obeys_pure rfl
  refine Program.Obeys.bind (flags.mono ?_)
  rintro _ _ rfl
  refine Program.obeys_call fun made => ⟨rfl, ?_⟩
  cases made with
  | false =>
    exact Program.obeys_pure ⟨rfl, rfl, rfl, rfl, rfl, fun linked => Bool.noConfusion linked⟩
  | true =>
    refine Program.obeys_call fun _ => ⟨rfl, Program.obeys_call fun _ => ⟨rfl, ?_⟩⟩
    by_cases rtu : backend = .rtu
    · rw [if_pos rtu]
      exact Program.obeys_call fun _ => ⟨rfl, clientRun_keeps⟩
    · rw [if_neg rtu]
      exact clientRun_keeps

/-- Whatever libmodbus replies: once connected, the client writes the coil once, reads it
exactly if the write went as the client's flag expects, prints what the replies amount to,
holds nothing at the end, and exits like a failure even where every assertion held. -/
theorem tester_discipline {S : Type} (handler : Handler ClientCall ClientCall.Reply S) (s : S)
    (argv : List String) (backend : Backend) :
    let r := (clientMain argv backend).run handler s
    let events := (clientMain argv backend).trace handler s
    Checked Tester.move Tester.Allows Tester.start events ∧
      Tester.Ends r.1 (events.foldl Tester.move Tester.start) :=
  (clientMain_keeps argv backend).trace handler s

end Main

end InvCtrl
