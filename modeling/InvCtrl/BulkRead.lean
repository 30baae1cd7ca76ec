import InvCtrl.EndToEnd
import InvCtrl.Observable

/-! The bulk read of the coils. The application counts what it delivers, and the host
library has set the count to 0 before; so the count that comes back says how much of the
buffer is the object, whatever fails on the way. -/
namespace InvCtrl
open Interaction

section Delivered

variable (env : Environment) (f : Footprint)

theorem read_front (size : Nat) : f.read env size <+: (f.stored.getD []).take size := by
  unfold Footprint.read
  split
  · exact Outcome.delivered_prefix _ _
  · exact List.nil_prefix

theorem count_toNat (size : Nat) (fits : size < UInt32.size) :
    (f.count env size 0).toNat = (f.read env size).length := by
  have bound := (read_front env f size).length_le
  rw [List.length_take] at bound
  unfold Footprint.count
  split
  · exact UInt32.toNat_ofNat_of_lt' (by omega)
  · next none =>
    have nothing : f.read env size = [] := by
      unfold Footprint.read
      split
      case isFalse => rfl
      next opened =>
        by_cases present : f.stored.isSome
        · generalize outcome : env.storage (f.storageCalls + 1) = out
          cases out with
          | error => rfl
          | ok | short =>
            have reads : env.Stores (f.storageCalls + 1) := congrArg Outcome.result outcome
            exact absurd ⟨present, opened, reads⟩ none
        · rw [Option.not_isSome_iff_eq_none.mp present, Option.getD_none, List.take_nil]
          exact List.prefix_nil.mp (Outcome.delivered_prefix _ [])
    rw [nothing]
    rfl

theorem read_complete (storage : env.StorageSucceeds) (size : Nat) :
    f.read env size = (f.stored.getD []).take size := by
  have opened : env.Stores f.storageCalls := storage.result _
  rw [Footprint.read, if_pos opened, storage]
  rfl

end Delivered

/-- The counted bytes are at the front of the buffer, and they are the object's. -/
structure Shows (stored : List UInt8) (size : Nat) (op : TeecParams) : Prop where
  fits : op.p1.a.toNat ≤ size
  bytes : op.p0.buffer.slice 0 op.p1.a.toNat = stored.take op.p1.a.toNat

section Host
variable (platform : Platform)

theorem invokeCommand_shows (w : World) (paramTypes : UInt32) (buffer : ByteMemory)
    (bufferLen : UInt32) :
    let op : TeecParams := ⟨.memrefTempOutput buffer bufferLen, .valueInout 0 0, .none, .none⟩
    let r := (platform.invokeCommand CommandId.getAllCoilData paramTypes op w).1
    Shows ((w.tee.store filename).getD []) bufferLen.toNat r.2 ∧
      (platform.env.StorageSucceeds → r.1 = teecSuccess →
        r.2.p1.a.toNat = min bufferLen.toNat ((w.tee.store filename).getD []).length) := by
  intro op r
  let request := platform.request CommandId.getAllCoilData paramTypes op w
  let inv := platform.env.invoke platform.seed request w.tee
  let data := w.tee.footprint.read platform.env bufferLen.toNat
  have unanswered (code : UInt32) (failed : code ≠ teecSuccess) (told : r.1 = code)
      (back : r.2 = op) : Shows ((w.tee.store filename).getD []) bufferLen.toNat r.2 ∧
      (platform.env.StorageSucceeds → r.1 = teecSuccess →
        r.2.p1.a.toNat = min bufferLen.toNat ((w.tee.store filename).getD []).length) := by
    rw [back, told]
    exact ⟨⟨Nat.zero_le _, rfl⟩, fun _ success => absurd success failed⟩
  generalize outcome : platform.outcome w.calls = out
  cases out with
  | refused code failed | lost code failed =>
    exact unanswered code failed (by simp only [r, Platform.invokeCommand, outcome])
      (by simp only [r, Platform.invokeCommand, outcome])
  | completed =>
  have reacts := getAll_reacts platform.env platform.seed w.tee request rfl
  rw [Footprint.react_getAll _ _ _ rfl] at reacts
  have params : inv.1.2 = { request.pParams with p1 := { request.pParams.p1 with
      a := w.tee.footprint.count platform.env bufferLen.toNat 0 } } :=
    congrArg (·.1.1.2) reacts
  have memory : inv.2.memory = delivered request.memory (platform.link.base 0) data :=
    congrArg (·.1.2) reacts
  have back : r.2 = platform.link.copyBackAll op inv.1.2 inv.2.memory := by
    simp only [r, Platform.invokeCommand, outcome]
    rfl
  have counted : r.2.p1.a.toNat = data.length := by
    rw [back, params]
    exact count_toNat platform.env w.tee.footprint _ bufferLen.toNat_lt_size
  have known := read_front platform.env w.tee.footprint bufferLen.toNat
  have fits : data.length ≤ bufferLen.toNat :=
    known.length_le.trans (List.length_take_le _ _)
  have bytes : r.2.p0.buffer.slice 0 data.length = data := by
    rw [back, params]
    simp only [Link.copyBackAll, Link.copyBack, op, request, Platform.request, Link.words, Link.word,
      TeecParam.buffer, UInt32.le_refl, ↓reduceIte]
    rw [ByteMemory.slice_overlay_slice _ _ _ _ _ fits, memory, delivered, Function.update_self,
      ByteMemory.slice_overlay]
  constructor
  · refine ⟨counted ▸ fits, ?_⟩
    rw [counted, bytes]
    exact List.prefix_iff_eq_take.mp (known.trans (List.take_prefix _ _))
  · intro storage _
    rw [counted, show data = _ from read_complete platform.env w.tee.footprint storage _,
      List.length_take]
    rfl

theorem openedSession_trace {w : World} {failed : UInt32 → α} {body : HostProgram α}
    {event : Program.Event TeecCall TeecCall.Reply}
    (made : event ∈ (openedSession failed body).trace platform.handler w) :
    event.request = .initializeContext ∨ event.request = .openSession ∨
      event ∈ body.trace platform.handler { w with calls := w.calls + 2 } := by
  simp only [openedSession, Program.trace_bind, Program.trace_perform, Program.run_perform,
    Platform.handler, Platform.connect_eq] at made
  rcases List.mem_append.mp made with first | later
  · exact .inl (by rw [List.mem_singleton.mp first])
  split at later
  · exact absurd later List.not_mem_nil
  simp only [Program.trace_bind, Program.trace_perform, Program.run_perform, Platform.handler,
    Platform.connect_eq] at later
  rcases List.mem_append.mp later with second | within
  · exact .inr (.inl (by rw [List.mem_singleton.mp second]))
  split at within
  · exact absurd within List.not_mem_nil
  · exact .inr (.inr within)

/-- Whatever is in the store and whatever fails: the count that a bulk read brings back is
that of the object's bytes at the front of the buffer, and a bulk read in which nothing
fails brings all of them. -/
theorem bulk_read_honest (w : World) (commandID paramTypes : UInt32) (op : TeecParams)
    (reply : UInt32 × TeecParams)
    (made : ⟨.invokeCommand commandID paramTypes op, reply⟩ ∈
      (hostPrintAllCoilData platform.seed).trace platform.handler w) :
    let bufferLen := UInt32.ofNat platform.seed.coilData.length
    let stored := (w.tee.store filename).getD []
    Shows stored bufferLen.toNat reply.2 ∧
      (platform.env.StorageSucceeds → reply.1 = teecSuccess →
        reply.2.p1.a.toNat = min bufferLen.toNat stored.length) := by
  intro bufferLen stored
  rcases openedSession_trace platform made with first | second | within
  · exact absurd first nofun
  · exact absurd second nofun
  simp only [Program.trace_bind, Program.trace_perform, Program.run_perform, Platform.handler,
    invokedOnce, Program.trace_pure] at within
  simp only [List.append_assoc, List.mem_append, List.mem_singleton, List.not_mem_nil,
    or_false] at within
  rcases within with uninitialized | invoked | closed | finalized
  · cases uninitialized
  · cases invoked
    exact invokeCommand_shows platform ⟨w.tee, w.calls + 2 + 1⟩ _ _ _
  · cases closed
  · cases finalized

end Host

section Shipped

/-- The shipped machine reads its one byte. -/
theorem bulk_read_honest_shipped :
    ∃ commandID paramTypes op reply, (⟨.invokeCommand commandID paramTypes op, reply⟩ :
        Program.Event TeecCall TeecCall.Reply) ∈
        (hostPrintAllCoilData .shipped).trace Platform.reference.handler (.holding [0x80]) ∧
      reply.2.p1.a.toNat = 1 ∧ reply.2.p0.buffer.slice 0 1 = [0x80] := by
  let op : TeecParams := ⟨.memrefTempOutput (fun _ => 0) 1, .valueInout 0 0, .none, .none⟩
  let w : World := ⟨Tee.holding [0x80], 3⟩
  let reply := (Platform.reference.invokeCommand CommandId.getAllCoilData op.paramTypes op w).1
  have made : ⟨.invokeCommand CommandId.getAllCoilData op.paramTypes op, reply⟩ ∈
      (hostPrintAllCoilData .shipped).trace Platform.reference.handler (.holding [0x80]) :=
    List.mem_of_getElem? (i := 3) rfl
  obtain ⟨shows, complete⟩ := bulk_read_honest .reference (.holding [0x80]) _ _ _ _ made
  have stored : ((World.holding [0x80]).tee.store filename).getD [] = [0x80] := by
    rw [World.holding, holding_store, Option.getD_some]
  have reacts := getAll_reacts .reference .shipped w.tee
    (Platform.reference.request CommandId.getAllCoilData op.paramTypes op w) rfl
  rw [Footprint.react_getAll _ _ _ rfl] at reacts
  have answered : reply.1 = teecSuccess := congrArg (·.1.1.1) reacts
  rw [stored] at shows complete
  have counted : reply.2.p1.a.toNat = 1 := complete reference_succeeds.storage answered
  have bytes := shows.bytes
  rw [counted] at bytes
  exact ⟨_, _, op, reply, made, counted, bytes⟩

end Shipped

end InvCtrl
