import InvCtrl.Teec
import InvCtrl.Message

/-! The host library and the agent, function by function. A buffer that a caller
passes by pointer is passed in and handed back; a request length is a `Nat`. -/
namespace InvCtrl
open Interaction

/-- An `int` as the bound of a loop that starts at 0. -/
def loopCount (bound : Int32) : Nat := bound.toInt.toNat

section Host
variable (seed : Seed)

/-- The opening of every host function: a context, a session, and a plain return of
the code as soon as one of them fails. -/
def openedSession (failed : UInt32 → α) (body : HostProgram α) : HostProgram α := do
  let res ← Program.perform TeecCall.initializeContext
  if res ≠ teecSuccess then pure (failed res)
  else
    let res ← Program.perform TeecCall.openSession
    if res ≠ teecSuccess then pure (failed res) else body

/-- One command and the closing of session and context; its status is dropped. -/
def invokedOnce (commandID : UInt32) (op : TeecParams) : HostProgram TeecParams := do
  let (_, op) ← Program.perform (TeecCall.invokeCommand commandID op.paramTypes op)
  Program.perform TeecCall.closeSession
  Program.perform TeecCall.finalizeContext
  pure op

def hostSeedCoil : HostProgram Int32 :=
  openedSession UInt32.toInt32 do
    let _ ← invokedOnce CommandId.seedCoil ⟨.none, .none, .none, .none⟩
    pure 0

def hostPrintAllCoilData : HostProgram Int32 :=
  openedSession UInt32.toInt32 do
    let buffer ← Program.perform TeecCall.uninitialized
    let bufferLen := UInt32.ofNat seed.coilData.length
    let _ ← invokedOnce CommandId.getAllCoilData
      ⟨.memrefTempOutput buffer bufferLen, .valueInout 0 0, .none, .none⟩
    pure 0

def hostGetDataByCoilAddress (transactionId coilAddress : Int32) (coilValue : UInt8)
    (signature : ByteMemory) (signatureLen : Int32) :
    HostProgram (Int32 × UInt8 × ByteMemory × Int32) :=
  openedSession (fun res => (res.toInt32, coilValue, signature, signatureLen)) do
    let buffer ← Program.perform TeecCall.uninitialized
    let op ← invokedOnce CommandId.getDataByCoilAddress
      ⟨.valueInout transactionId.toUInt32 coilAddress.toUInt32, .memrefTempOutput buffer 512,
        .valueInout 0 0, .none⟩
    let coilValue := op.p2.a.toUInt8
    let signatureLen := op.p1.size.toInt32
    let signature := ByteMemory.copyLoop op.p1.buffer signature 0 (loopCount signatureLen)
    pure (0, coilValue, signature, signatureLen)

/-- The three bytes that the host library builds for a value and an id. -/
def hostData (transactionId : Int32) (coilValue : UInt8) : List UInt8 :=
  [coilValue, truncate (transactionId >>> 8), truncate (transactionId &&& 0x00ff)]

def hostSetCoilData1 (transactionId coilAddress : Int32) (coilValue : UInt8)
    (signature : ByteMemory) (signatureLen : Int32) : HostProgram Int32 :=
  openedSession UInt32.toInt32 do
    let data := ByteMemory.ofBytes (hostData transactionId coilValue)
    let buffer ← Program.perform TeecCall.uninitialized
    let buffer := ByteMemory.copyLoop signature buffer 0 (loopCount signatureLen)
    let op ← invokedOnce CommandId.setDataByCoilAddress
      ⟨.valueInout coilAddress.toUInt32 coilValue.toUInt32, .memrefTempOutput data 3,
        .memrefTempOutput buffer signatureLen.toUInt32, .valueInout 0 0⟩
    pure op.p3.a.toInt32

/-- The caller's signature buffer is the reference itself, so it comes back too. -/
def hostVerifyCoilData1 (transactionId : Int32) (coilValue : UInt8) (signature : ByteMemory)
    (signatureLen signatureVerified : Int32) : HostProgram (Int32 × ByteMemory × Int32) :=
  openedSession (fun res => (res.toInt32, signature, signatureVerified)) do
    let data := ByteMemory.ofBytes (hostData transactionId coilValue)
    let op ← invokedOnce CommandId.verifyCoilData
      ⟨.memrefTempOutput data 3, .memrefTempOutput signature signatureLen.toUInt32,
        .valueInout 0 0, .none⟩
    pure (0, op.p1.buffer, op.p2.a.toInt32)

def hostSignCoilValue1 (transactionId : Int32) (coilValue : UInt8) (signature : ByteMemory)
    (signatureLen : Int32) : HostProgram (Int32 × ByteMemory × Int32) :=
  openedSession (fun res => (res.toInt32, signature, signatureLen)) do
    let data := ByteMemory.ofBytes (hostData transactionId coilValue)
    let buffer ← Program.perform TeecCall.uninitialized
    let op ← invokedOnce CommandId.signCoilData
      ⟨.memrefTempOutput data 3, .memrefTempOutput buffer 512, .none, .none⟩
    let signatureLen := op.p1.size.toInt32
    let signature := ByteMemory.copyLoop op.p1.buffer signature 0 (loopCount signatureLen)
    pure (0, signature, signatureLen)

end Host

section Agent

/-- `signature[0] = signature[0] ^ 0xFF` under a tamper flag. -/
def tampered (tamper : Int32) (signature : ByteMemory) : ByteMemory :=
  if tamper ≠ 0 then signature.write 0 (signature 0 ^^^ 0xFF) else signature

def Agent.seed (initial : Seed) : HostProgram Int32 := do
  let _ ← hostSeedCoil
  let _ ← hostPrintAllCoilData initial
  pure 0

def Agent.getDataByCoilAddress := hostGetDataByCoilAddress

def Agent.verifyCoilData1 := hostVerifyCoilData1

def Agent.setCoilData1 := hostSetCoilData1

def Agent.signCoilValue1 := hostSignCoilValue1

/-- The message buffer after the call and the length returned. -/
def invCtrlGetDataByCoilAddress (transactionId coilAddress : Int32) (req : ByteMemory)
    (reqLength : Nat) (serverTamper : Int32) : HostProgram (ByteMemory × Nat) := do
  let coilValue ← Program.perform TeecCall.uninitialized
  let (_, coilValue, signature, signatureLen) ←
    hostGetDataByCoilAddress transactionId coilAddress (coilValue 0) (fun _ => 0) 0
  let req := req.write reqLength coilValue
  let reqLength := reqLength + 1
  let signature := tampered serverTamper signature
  pure (ByteMemory.copyLoop signature req reqLength (loopCount signatureLen),
    reqLength + loopCount signatureLen)

def invCtrlSetCoilData (transactionId coilAddress : Int32) (coilValue : UInt8)
    (signature : ByteMemory) : HostProgram Int32 :=
  hostSetCoilData1 transactionId coilAddress coilValue signature 128

def invCtrlVerifyCoilData (transactionId : Int32) (coilValue : UInt8) (signature : ByteMemory)
    (signatureLen : Int32) : HostProgram (ByteMemory × Int32) := do
  let (_, signature, signatureVerified) ←
    hostVerifyCoilData1 transactionId coilValue signature signatureLen 0
  pure (signature, signatureVerified)

/-- The returned length counts 128 bytes whatever was appended. -/
def invCtrlSignCoilValue (transactionIdHigh transactionIdLow valueHigh valueLow : UInt8)
    (req : ByteMemory) (reqLength : Nat) (clientTamper : Int32) :
    HostProgram (ByteMemory × Nat) := do
  let transactionId := (promote transactionIdHigh <<< 8) ||| promote transactionIdLow
  let coilValue := (promote valueHigh <<< 8) ||| promote valueLow
  let coilValue : Int32 := if coilValue = 0xFF00 then 1 else 0
  let (_, signature, signatureLen) ←
    hostSignCoilValue1 transactionId (truncate coilValue) (fun _ => 0) 0
  let signature := tampered clientTamper signature
  pure (ByteMemory.copyLoop signature req reqLength (loopCount signatureLen), reqLength + 128)

end Agent

end InvCtrl
