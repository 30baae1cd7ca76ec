import InvCtrl.Commands

/-! The TEE Client API as the environment of the host library. Which calls succeed,
which bytes the application finds behind an output-only reference and what an
uninitialized local holds are parameters; the rest is the documented marshalling. -/
namespace InvCtrl
open Interaction

def teecSuccess : UInt32 := 0

/-- A parameter of an operation with the type its parameter type word declares. -/
inductive TeecParam where
  | none
  | valueInout (a b : UInt32)
  | memrefTempOutput (buffer : ByteMemory) (size : UInt32)

structure TeecParams where
  p0 : TeecParam
  p1 : TeecParam
  p2 : TeecParam
  p3 : TeecParam

namespace TeecParam

def a : TeecParam → UInt32
  | valueInout a _ => a
  | _ => 0

def size : TeecParam → UInt32
  | memrefTempOutput _ size => size
  | _ => 0

def buffer : TeecParam → ByteMemory
  | memrefTempOutput buffer _ => buffer
  | _ => fun _ => 0

def type : TeecParam → UInt32
  | none => 0
  | valueInout .. => 3
  | memrefTempOutput .. => 6

end TeecParam

/-- `TEEC_PARAM_TYPES` of the four parameters. -/
def TeecParams.paramTypes (params : TeecParams) : UInt32 :=
  params.p0.type ||| (params.p1.type <<< 4) ||| (params.p2.type <<< 8) ||| (params.p3.type <<< 12)

inductive TeecCall where
  | initializeContext
  | openSession
  | invokeCommand (commandID paramTypes : UInt32) (params : TeecParams)
  | closeSession
  | finalizeContext
  /-- The contents of a local variable declared without an initializer. -/
  | uninitialized

abbrev TeecCall.Reply : TeecCall → Type
  | .initializeContext | .openSession => UInt32
  | .invokeCommand .. => UInt32 × TeecParams
  | .closeSession | .finalizeContext => Unit
  | .uninitialized => ByteMemory

abbrev HostProgram := Program TeecCall TeecCall.Reply

/-- A call reaches its end, fails before the application runs, or loses the reply. -/
inductive TeecOutcome where
  | completed
  | refused (code : UInt32) (failed : code ≠ teecSuccess)
  | lost (code : UInt32) (failed : code ≠ teecSuccess)

/-- Where the four references are mapped and what the application first sees there. -/
structure Link where
  base : Fin 4 → UInt32
  distinct : Function.Injective base
  sees : Nat → Fin 4 → ByteMemory → UInt32 → ByteMemory

/-- The transport copies the caller's bytes in, whatever the declared direction. -/
def Link.Carries (link : Link) : Prop :=
  ∀ call i buffer size offset, offset < size.toNat →
    link.sees call i buffer size offset = buffer offset

structure Platform where
  env : Environment
  seed : Seed
  link : Link
  outcome : Nat → TeecOutcome
  residue : Nat → ByteMemory

/-- One machine: its trusted side and the number of client API calls made so far. -/
structure World where
  tee : Tee
  calls : Nat

namespace Link
variable (link : Link)

def word (i : Fin 4) : TeecParam → TeeParam
  | .none => ⟨0, 0⟩
  | .valueInout a b => ⟨a, b⟩
  | .memrefTempOutput _ size => ⟨link.base i, size⟩

def words (params : TeecParams) : TeeParams :=
  ⟨link.word 0 params.p0, link.word 1 params.p1, link.word 2 params.p2, link.word 3 params.p3⟩

def share (call : Nat) (i : Fin 4) (param : TeecParam) (memory : UInt32 → ByteMemory) :
    UInt32 → ByteMemory :=
  match param with
  | .memrefTempOutput buffer size =>
    Function.update memory (link.base i) (link.sees call i buffer size)
  | _ => memory

def shareAll (call : Nat) (params : TeecParams) (memory : UInt32 → ByteMemory) :
    UInt32 → ByteMemory :=
  link.share call 3 params.p3 (link.share call 2 params.p2
    (link.share call 1 params.p1 (link.share call 0 params.p0 memory)))

/-- Outputs come back: both words of a value, and as many bytes of a reference as its
new size says when they fit its capacity. -/
def copyBack (i : Fin 4) (param : TeecParam) (word : TeeParam) (memory : UInt32 → ByteMemory) :
    TeecParam :=
  match param with
  | .none => .none
  | .valueInout _ _ => .valueInout word.a word.b
  | .memrefTempOutput buffer size =>
    .memrefTempOutput
      (if word.b ≤ size then buffer.overlay 0 ((memory (link.base i)).slice 0 word.b.toNat)
        else buffer) word.b

def copyBackAll (params : TeecParams) (words : TeeParams) (memory : UInt32 → ByteMemory) :
    TeecParams :=
  ⟨link.copyBack 0 params.p0 words.p0 memory, link.copyBack 1 params.p1 words.p1 memory,
    link.copyBack 2 params.p2 words.p2 memory, link.copyBack 3 params.p3 words.p3 memory⟩

end Link

namespace Platform
variable (platform : Platform)

def connect (w : World) : UInt32 × World :=
  match platform.outcome w.calls with
  | .completed => (teecSuccess, { w with calls := w.calls + 1 })
  | .refused code _ | .lost code _ => (code, { w with calls := w.calls + 1 })

/-- The invocation that the application receives. -/
def request (commandID paramTypes : UInt32) (params : TeecParams) (w : World) : Invocation where
  nCommandID := commandID
  nParamTypes := paramTypes
  pParams := platform.link.words params
  memory := platform.link.shareAll w.calls params w.tee.memory

def invokeCommand (commandID paramTypes : UInt32) (params : TeecParams) (w : World) :
    (UInt32 × TeecParams) × World :=
  let r := platform.env.invoke platform.seed
    (platform.request commandID paramTypes params w) w.tee
  match platform.outcome w.calls with
  | .completed =>
    ((r.1.1, platform.link.copyBackAll params r.1.2 r.2.memory), ⟨r.2, w.calls + 1⟩)
  | .refused code _ => ((code, params), { w with calls := w.calls + 1 })
  | .lost code _ => ((code, params), ⟨r.2, w.calls + 1⟩)

def handler : Handler TeecCall TeecCall.Reply World
  | .initializeContext => platform.connect
  | .openSession => platform.connect
  | .invokeCommand commandID paramTypes params =>
    platform.invokeCommand commandID paramTypes params
  | .closeSession => fun w => ((), { w with calls := w.calls + 1 })
  | .finalizeContext => fun w => ((), { w with calls := w.calls + 1 })
  | .uninitialized => fun w => (platform.residue w.calls, { w with calls := w.calls + 1 })

end Platform

end InvCtrl
