import InvCtrl.Network

/-! The network without signatures. A ledger holds the coil and every value that was
ever put under a transaction id; to overwrite the coil, or to have a value confirmed,
one points to an entry. Runs of the network and runs of the ledger are the same
histories, once the signature bytes are left out of them. -/
namespace InvCtrl
open Interaction Execution

/-- The scheme keeps other messages out: a signature on a protocol message is valid for
no other message, and some bytes are no signature at all. -/
structure Crypto.Exclusive (crypto : Crypto) : Prop where
  binding : ∀ m other, m.length = 3 → crypto.valid other (crypto.signature m) = true → other = m
  blank : ∃ bytes : List UInt8, bytes.length = 128 ∧ ∀ m, ¬ crypto.valid m bytes = true

structure Ledger where
  coil : Bool
  entries : List (UInt8 × UInt16)

namespace Ledger

/-- Who overwrites or confirms either points to an entry (`genuine`) or shows rubbish. -/
inductive Input where
  | reset
  | announce
  | record (value : UInt8) (id : UInt16)
  | report (mapped : Bool) (id : UInt16)
  | overwrite (mapped : Bool) (value : UInt8) (id : UInt16) (genuine : Bool)
  | confirm (value : UInt8) (id : UInt16) (genuine : Bool)

inductive Output where
  | silent
  | value (value : UInt8)
  | verdict (code : Int32)

def code (genuine : Bool) : Int32 := if genuine then 1 else -1

def read (l : Ledger) (mapped : Bool) : UInt8 := if mapped ∧ l.coil then 1 else 0

def step (seed : Seed) (l : Ledger) : Input → Output × Ledger
  | .reset => (.silent, { l with coil := PackedBits.get seed.coilData 0 })
  | .announce => (.silent, l)
  | .record value id => (.silent, { l with entries := l.entries ++ [(value, id)] })
  | .report mapped id =>
    (.value (l.read mapped), { l with entries := l.entries ++ [(l.read mapped, id)] })
  | .overwrite mapped value _ genuine =>
    (.verdict (code genuine), { l with coil := if genuine ∧ mapped then value ≠ 0 else l.coil })
  | .confirm _ _ genuine => (.verdict (code genuine), l)

/-- A client asks for 0 or 1, and only what is on the ledger can be pointed to. -/
def Admits (l : Ledger) : Input → Prop
  | .record value _ => value = 0 ∨ value = 1
  | .overwrite _ value id genuine | .confirm value id genuine =>
    genuine = true → (value, id) ∈ l.entries
  | _ => True

def machine (seed : Seed) : Machine Ledger Input Output where
  step := step seed
  admissible := Admits

end Ledger

/-- A network event without its signature bytes. -/
def outline : Action × Observation → Ledger.Input × Ledger.Output
  | (.seed, _) => (.reset, .silent)
  | (.signCoilValue _ idHigh idLow valueHigh valueLow _ _ _, _) =>
    (.record (requestValue valueHigh valueLow) (low16 (requestId idHigh idLow)), .silent)
  | (.getDataByCoilAddress transactionId coilAddress _ reqLength _, .emitted answer _) =>
    (.report (coilAddress = coilAddressInverterStatus) (low16 transactionId),
      .value (answer reqLength))
  | (.setCoilData transactionId coilAddress coilValue _, .verdict code) =>
    (.overwrite (coilAddress = coilAddressInverterStatus) coilValue (low16 transactionId)
      (code = 1), .verdict code)
  | (.verifyCoilData transactionId coilValue _, .verdict code) =>
    (.confirm coilValue (low16 transactionId) (code = 1), .verdict code)
  | _ => (.announce, .silent)

/-- An entry as the trusted side logs it. -/
def Crypto.issued (crypto : Crypto) (entry : UInt8 × UInt16) : List UInt8 × List UInt8 :=
  (message entry.1 entry.2, crypto.signature (message entry.1 entry.2))

theorem issued_injective (crypto : Crypto) : Function.Injective crypto.issued := by
  intro left right same
  obtain ⟨values, ids⟩ := message_inj.mp (Prod.mk.inj same).1
  exact Prod.ext values ids

/-- The stored coil is the ledger's and the signatures in circulation are its entries. -/
structure Mirrors (platform : Platform) (w : World) (l : Ledger) : Prop where
  coil : w.tee.coil = l.coil
  signed : w.tee.signed = l.entries.map platform.env.crypto.issued

theorem coilUpdate_coil {env : Environment} (storage : env.StorageSucceeds) (seed : Seed) (s : Tee)
    (coilAddress value : UInt32) :
    PackedBits.get (env.coilUpdate seed s coilAddress value) 0 =
      if coilAddress.toInt32 = coilAddressInverterStatus then (value.toUInt8 ≠ 0 : Bool)
      else s.coil := by
  have nonempty := List.length_pos_iff.mpr seed.nonempty
  split
  · next mapped =>
    rw [coilUpdate_mapped env seed s _ _ mapped]
    exact PackedBits.get_set_same _ _ _ (by rw [coilCopy_length]; omega)
  · next unmapped =>
    rw [Environment.coilUpdate, taUpdateCoilData_address, if_neg unmapped,
      List.take_of_length_le (Nat.le_of_eq (coilCopy_length env seed s)), coilCopy_coil storage]

section Mirroring
variable {platform : Platform} {w u : World} {l : Ledger} (mirrors : Mirrors platform w l)
include mirrors

theorem Mirrors.entry_iff (value : UInt8) (id : UInt16) :
    (value, id) ∈ l.entries ↔ ∃ issued, (message value id, issued) ∈ w.tee.signed := by
  rw [mirrors.signed]
  constructor
  · intro member
    exact ⟨_, List.mem_map_of_mem member⟩
  · rintro ⟨issued, member⟩
    obtain ⟨entry, listed, same⟩ := List.mem_map.mp member
    obtain ⟨values, ids⟩ := message_inj.mp (Prod.mk.inj same).1
    have equal : entry = (value, id) := Prod.ext values ids
    exact equal ▸ listed

theorem Mirrors.read (storage : platform.env.StorageSucceeds) (coilAddress : Int32) :
    readValue platform w coilAddress =
      l.read (coilAddress = coilAddressInverterStatus : Bool) := by
  rw [readValue_eq storage, mirrors.coil, Ledger.read]
  simp only [decide_eq_true_eq]

theorem Mirrors.append (value : UInt8) (id : UInt16) (store : u.tee.store = w.tee.store)
    (signed : u.tee.signed = w.tee.signed ++
      [(message value id, platform.env.crypto.signature (message value id))]) :
    Mirrors platform u { l with entries := l.entries ++ [(value, id)] } where
  coil := by
    rw [Tee.coil, store]
    exact mirrors.coil
  signed := by
    rw [signed, mirrors.signed, List.map_append]
    rfl

theorem Mirrors.keep (store : u.tee.store = w.tee.store) (signed : u.tee.signed = w.tee.signed) :
    Mirrors platform u l where
  coil := by
    rw [Tee.coil, store]
    exact mirrors.coil
  signed := signed.trans mirrors.signed

end Mirroring

section Steps
variable {platform : Platform} {w u : World} {l : Ledger} {action : Action}
  {observation : Observation}

/-- The ledger follows every step of the network. -/
theorem Step.recorded (storage : platform.env.StorageSucceeds)
    (step : Step platform w action observation u) (mirrors : Mirrors platform w l)
    (allowed : Deliverable platform w action) :
    let M := Ledger.machine platform.seed
    ∃ input, M.admissible l input ∧ outline (action, observation) = (input, (M.step l input).1) ∧
      Mirrors platform u (M.step l input).2 := by
  intro M
  cases step with
  | seed store signed =>
    refine ⟨.reset, trivial, rfl, ?_, signed.trans mirrors.signed⟩
    rw [Tee.coil, store, Function.update_self]
    rfl
  | issueRead transactionId => exact ⟨.announce, trivial, rfl, mirrors⟩
  | request coilAddress idHigh idLow valueHigh valueLow req reqLength clientTamper _ store signed =>
    exact ⟨.record _ _, requestValue_bit _ _, rfl, mirrors.append _ _ store signed⟩
  | answer transactionId coilAddress req reqLength serverTamper bytes store signed =>
    have shown : (req.write reqLength (readValue platform w coilAddress)).overlay (reqLength + 1)
        (emitted serverTamper (platform.env.crypto.signature
          (message (readValue platform w coilAddress) (low16 transactionId)))) reqLength =
        readValue platform w coilAddress := by
      rw [ByteMemory.overlay_outside _ _ _ _ (.inl (Nat.lt_succ_self _))]
      exact ByteMemory.write_same _ _ _
    have report := mirrors.read storage coilAddress
    refine ⟨.report (coilAddress = coilAddressInverterStatus : Bool) (low16 transactionId),
      trivial, ?_, ?_⟩
    · rw [bytes, outline, shown, report]
      rfl
    · rw [report] at signed
      exact mirrors.append _ _ store signed
  | accepted transactionId coilAddress coilValue signature valid store signed =>
    refine ⟨.overwrite (coilAddress = coilAddressInverterStatus : Bool) coilValue
      (low16 transactionId) true, fun _ => (mirrors.entry_iff _ _).mpr (allowed _ valid), rfl,
      ?_, signed.trans mirrors.signed⟩
    have address : coilAddress.toUInt32.toInt32 = coilAddress := rfl
    rw [Tee.coil, store, Function.update_self, Option.getD_some, coilUpdate_coil storage,
      UInt8.toUInt8_toUInt32, address, mirrors.coil]
    simp only [M, Ledger.machine, Ledger.step, true_and, decide_eq_true_eq]
  | refused transactionId coilAddress coilValue signature invalid store signed =>
    refine ⟨.overwrite (coilAddress = coilAddressInverterStatus : Bool) coilValue
      (low16 transactionId) false, fun genuine => absurd genuine Bool.false_ne_true, rfl, ?_⟩
    exact mirrors.keep store signed
  | confirmed transactionId coilValue signature valid store signed =>
    exact ⟨.confirm coilValue (low16 transactionId) true,
      fun _ => (mirrors.entry_iff _ _).mpr (allowed _ valid), rfl, mirrors.keep store signed⟩
  | denied transactionId coilValue signature invalid store signed =>
    exact ⟨.confirm coilValue (low16 transactionId) false,
      fun genuine => absurd genuine Bool.false_ne_true, rfl, mirrors.keep store signed⟩

theorem low16_split (id : UInt16) : low16 (requestId (id >>> 8).toUInt8 id.toUInt8) = id := by
  apply UInt16.toNat_inj.mp
  have bound := id.toNat_lt
  have high : (id >>> 8).toUInt8.toNat = id.toNat / 256 := by
    simp [Nat.shiftRight_eq_div_pow]
    omega
  have low : id.toUInt8.toNat = id.toNat % 256 := by simp
  have word := low16_toNat (requestId (id >>> 8).toUInt8 id.toUInt8)
  rw [requestId, word_toInt, high, low] at word
  rw [requestId]
  omega

variable (works : platform.Works) (exclusive : platform.env.crypto.Exclusive)
include works exclusive

/-- What stands on the ledger can be presented, and so can bytes that say nothing. -/
theorem Mirrors.presents (mirrors : Mirrors platform w l) (value : UInt8) (id : UInt16)
    (genuine : Bool) (listed : genuine = true → (value, id) ∈ l.entries) :
    ∃ signature : ByteMemory,
      Unforged platform.env.crypto w.tee.signed (signature.slice 0 128) ∧
      (platform.env.crypto.valid (message value id) (signature.slice 0 128) = true ↔
        genuine = true) := by
  let crypto := platform.env.crypto
  cases genuine with
  | false =>
    obtain ⟨bytes, length, invalid⟩ := exclusive.blank
    have found : (ByteMemory.ofBytes bytes).slice 0 128 = bytes := by
      rw [← length]
      exact ByteMemory.slice_ofBytes bytes
    refine ⟨.ofBytes bytes, ?_, ?_⟩
    · rw [found]
      exact fun m valid => absurd valid (invalid m)
    · rw [found]
      exact ⟨fun valid => absurd valid (invalid _), nofun⟩
  | true =>
    have found : (ByteMemory.ofBytes (crypto.signature (message value id))).slice 0 128 =
        crypto.signature (message value id) := by
      rw [← crypto.signature_length (message value id)]
      exact ByteMemory.slice_ofBytes _
    refine ⟨.ofBytes (crypto.signature (message value id)), ?_, ?_⟩
    · rw [found]
      intro other valid
      obtain rfl := exclusive.binding _ other rfl valid
      exact (mirrors.entry_iff value id).mp (listed rfl)
    · rw [found]
      exact iff_of_true ((works.ideal.exact _ _ rfl).mpr rfl) rfl

/-- The network can do every step of the ledger. -/
theorem Mirrors.realizes (mirrors : Mirrors platform w l) (input : Ledger.Input)
    (admits : l.Admits input) :
    ∃ action, Deliverable platform w action ∧
      (outline (action, (perform platform w action).1)).1 = input := by
  have numbered (id : UInt16) : low16 id.toUInt32.toInt32 = id := UInt16.toUInt16_toUInt32 id
  have addressed (mapped : Bool) :
      ((if mapped then coilAddressInverterStatus else 0 : Int32) = coilAddressInverterStatus : Bool) =
        mapped := by
    cases mapped <;> rfl
  cases input with
  | reset => exact ⟨.seed, trivial, rfl⟩
  | announce => exact ⟨.issueRead 0, trivial, rfl⟩
  | record value id =>
    have asked : requestValue (if value = 1 then 0xFF else 0) 0 = value := by
      rcases admits with rfl | rfl <;> decide
    refine ⟨.signCoilValue 0 (id >>> 8).toUInt8 id.toUInt8 (if value = 1 then 0xFF else 0) 0
      (fun _ => 0) 0 0, trivial, ?_⟩
    exact congrArg₂ Ledger.Input.record asked (low16_split id)
  | report mapped id =>
    refine ⟨.getDataByCoilAddress id.toUInt32.toInt32
      (if mapped then coilAddressInverterStatus else 0) (fun _ => 0) 0 0, trivial, ?_⟩
    exact congrArg₂ Ledger.Input.report (addressed mapped) (numbered id)
  | overwrite mapped value id genuine =>
    obtain ⟨signature, unforged, valid⟩ :=
      mirrors.presents works exclusive value id genuine admits
    let address : Int32 := if mapped then coilAddressInverterStatus else 0
    have verdict := perform_set_verdict w works.toReliable id.toUInt32.toInt32 address value signature
    rw [numbered, valid] at verdict
    refine ⟨.setCoilData id.toUInt32.toInt32 address value signature, unforged, ?_⟩
    simp only [perform, Observation.verdict.injEq] at verdict
    simp only [perform, outline, verdict, Bool.decide_eq_true, numbered]
    rw [addressed]
  | confirm value id genuine =>
    obtain ⟨signature, unforged, valid⟩ :=
      mirrors.presents works exclusive value id genuine admits
    have verdict := perform_verify_verdict w works.toReliable id.toUInt32.toInt32 value signature
    rw [numbered, valid] at verdict
    refine ⟨.verifyCoilData id.toUInt32.toInt32 value signature, unforged, ?_⟩
    simp only [perform, Observation.verdict.injEq] at verdict
    simp only [perform, outline, verdict, Bool.decide_eq_true, numbered]

end Steps

section Runs
variable {platform : Platform} {start : World} {l₀ : Ledger}

theorem Mirrors.unique {w : World} {l l' : Ledger} (left : Mirrors platform w l)
    (right : Mirrors platform w l') : l = l' := by
  obtain ⟨coil, entries⟩ := l
  obtain ⟨coil', entries'⟩ := l'
  obtain rfl : coil = coil' := left.coil.symm.trans right.coil
  obtain rfl := (issued_injective _).list_map (left.signed.symm.trans right.signed)
  rfl

/-- The network with its adversary is the ledger: every run of it is a run of the ledger
when the signature bytes are left out, and every run of the ledger is one of those. -/
theorem network_is_ledger (works : platform.Works) (exclusive : platform.env.crypto.Exclusive)
    (mirrors : Mirrors platform start l₀) (history : History Ledger.Input Ledger.Output)
    (l : Ledger) :
    (∃ events w, Run (network platform) start events w ∧ events.map outline = history ∧
        Mirrors platform w l) ↔
      Run (Ledger.machine platform.seed) l₀ history l := by
  have follows (w : World) (l : Ledger) (action : Action) (held : Mirrors platform w l)
      (allowed : Deliverable platform w action) :=
    (perform_step w works.toReliable action).recorded works.succeeds.storage held allowed
  constructor
  · rintro ⟨events, w, run, rfl, held⟩
    obtain ⟨l', records, held'⟩ := run.simulated (N := Ledger.machine platform.seed)
      (Mirrors platform) outline mirrors follows
    exact held.unique held' ▸ records
  · intro run
    obtain ⟨events, w, runs, outlined, held⟩ := run.lifted (N := network platform)
      (fun l w => Mirrors platform w l) outline mirrors fun l w input held admits => by
        obtain ⟨action, allowed, named⟩ := held.realizes works exclusive input admits
        obtain ⟨input', _, outlined, after⟩ := follows w l action held allowed
        obtain rfl : input' = input := (congrArg Prod.fst outlined).symm.trans named
        exact ⟨action, allowed, outlined, after⟩
    exact ⟨events, w, runs, outlined, held⟩

theorem reference_exclusive : Crypto.reference.Exclusive where
  binding m other whole valid := by
    obtain ⟨otherWhole, same⟩ := (reference_valid other _).mp valid
    exact reference_ideal.separates _ _ otherWhole whole (congrArg List.tail same.symm)
  blank := by
    refine ⟨List.replicate 128 (0xFF : UInt8), by simp, fun m valid => ?_⟩
    have same := ((reference_valid m _).mp valid).2
    have first : (Crypto.reference.signature m).head? = some 0 := rfl
    have heads : some (0xFF : UInt8) = some 0 := (congrArg List.head? same).trans first
    exact absurd heads (by decide)

/-- An answer written back under its own id after a seed has switched the coil off. -/
theorem network_is_ledger_shipped :
    ∃ events w, Run (network .reference) (.holding [0x80]) events w ∧
      events.map outline = [(.report true 7, .value 1), (.reset, .silent),
        (.overwrite true 1 7 true, .verdict 1)] ∧
      Mirrors .reference w ⟨true, [(1, 7)]⟩ := by
  have start : Mirrors .reference (.holding [0x80]) ⟨true, []⟩ :=
    ⟨(holding_coil _).trans (by decide), rfl⟩
  have answered := Run.single (M := Ledger.machine .shipped) ⟨true, []⟩ (.report true 7) trivial rfl
  have run := (answered.snoc .reset trivial).snoc (.overwrite true 1 7 true)
    fun _ => List.mem_singleton.mpr rfl
  exact (network_is_ledger reference_works reference_exclusive start _ _).mpr run

end Runs

end InvCtrl
