import InvCtrl.Observable

/-! The stored coils other than the first cannot be seen. Two states that agree on the
first coil and on the numbers of calls answer every sequence of commands alike, under
every pattern of failures and short reads, as long as nobody asks for all the coils. -/
namespace InvCtrl
open Interaction Execution

/-- Footprints that differ in nothing but the coils after the first. -/
structure SameCoil (f g : Footprint) : Prop where
  coil : PackedBits.get (f.stored.getD []) 0 = PackedBits.get (g.stored.getD []) 0
  storageCalls : f.storageCalls = g.storageCalls
  cryptoCalls : f.cryptoCalls = g.cryptoCalls

section Reading
variable {env : Environment} {seed : Seed} {f g : Footprint}

theorem delivered_first (outcome : Outcome) (bytes : List UInt8) (size zeros : Nat) :
    PackedBits.get (outcome.delivered (bytes.take size) ++ List.replicate zeros 0) 0 =
      match outcome with
      | .ok => decide (0 < 8 * size) && PackedBits.get bytes 0
      | .short count => decide (0 < 8 * min count size) && PackedBits.get bytes 0
      | .error _ _ => false := by
  cases outcome with
  | ok => exact PackedBits.get_take_append_zeros bytes size zeros 0
  | short count =>
    simp only [Outcome.delivered, List.take_take]
    exact PackedBits.get_take_append_zeros bytes (min count size) zeros 0
  | error =>
    have none := PackedBits.get_take_append_zeros [] 0 zeros 0
    rwa [List.take_nil] at none

theorem SameCoil.copy (same : SameCoil f g) :
    PackedBits.get (f.copy env seed) 0 = PackedBits.get (g.copy env seed) 0 := by
  simp only [Footprint.copy, Footprint.read, ← same.storageCalls, List.drop_replicate]
  by_cases opened : env.Stores f.storageCalls
  · simp only [if_pos opened]
    rw [delivered_first, delivered_first, same.coil]
  · simp only [if_neg opened]

theorem copy_length (f : Footprint) : (f.copy env seed).length = seed.coilData.length := by
  have bounded : (f.read env seed.coilData.length).length ≤ seed.coilData.length := by
    unfold Footprint.read
    split
    · exact (Outcome.delivered_length_le _ _).trans (List.length_take_le _ _)
    · exact Nat.zero_le _
  rw [Footprint.copy, List.length_append, List.length_drop, List.length_replicate]
  omega

theorem SameCoil.value (same : SameCoil f g) (coilAddress : Int32) :
    taGetCoilValue (taGetBitNumberForCoil coilAddress) (f.copy env seed) =
      taGetCoilValue (taGetBitNumberForCoil coilAddress) (g.copy env seed) := by
  rw [taGetCoilValue_address, taGetCoilValue_address, same.copy]

theorem SameCoil.updated (same : SameCoil f g) (coilAddress : Int32) (coilValue : UInt8) :
    PackedBits.get ((taUpdateCoilData (taGetBitNumberForCoil coilAddress) coilValue
        (f.copy env seed)).take seed.coilData.length) 0 =
      PackedBits.get ((taUpdateCoilData (taGetBitNumberForCoil coilAddress) coilValue
        (g.copy env seed)).take seed.coilData.length) 0 := by
  have positive : 0 < 8 * seed.coilData.length := by
    have nonempty := List.length_pos_iff.mpr seed.nonempty
    omega
  have whole (h : Footprint) : (taUpdateCoilData (taGetBitNumberForCoil coilAddress) coilValue
      (h.copy env seed)).take seed.coilData.length =
        taUpdateCoilData (taGetBitNumberForCoil coilAddress) coilValue (h.copy env seed) := by
    apply List.take_of_length_le
    exact Nat.le_of_eq ((List.length_modify ..).trans (copy_length h))
  rw [whole, whole, taUpdateCoilData_address, taUpdateCoilData_address]
  split
  · rw [PackedBits.get_set_same _ _ _ (by rwa [copy_length]),
      PackedBits.get_set_same _ _ _ (by rwa [copy_length])]
  · exact same.copy

end Reading

section Commands
variable {env : Environment} {seed : Seed} {f g : Footprint} {request : Invocation}

theorem SameCoil.overwrite (same : SameCoil f g) (call : Nat) {data data' : List UInt8}
    (agrees : PackedBits.get data 0 = PackedBits.get data' 0) :
    PackedBits.get ((f.overwrite env call data).getD []) 0 =
      PackedBits.get ((g.overwrite env call data').getD []) 0 := by
  unfold Footprint.overwrite
  split
  · exact agrees
  · exact same.coil

/-- One command answers both alike and leaves them alike. -/
theorem SameCoil.react (same : SameCoil f g)
    (other : request.nCommandID ≠ CommandId.getAllCoilData) :
    (f.react env seed request).1 = (g.react env seed request).1 ∧
      SameCoil (f.react env seed request).2 (g.react env seed request).2 := by
  obtain ⟨coil, storage, crypto⟩ := id same
  rcases request.command_cases with
    seeding | gettingAll | getting | setting | verifying | signing | unknown
  · rw [Footprint.react_seed env seed _ seeding, Footprint.react_seed env seed _ seeding]
    refine ⟨rfl, ?_, congrArg (· + 2) storage, crypto⟩
    simp only [Footprint.seedCoil, ← storage]
    exact same.overwrite _ rfl
  · exact absurd gettingAll other
  · rw [Footprint.react_get env seed _ getting, Footprint.react_get env seed _ getting]
    refine ⟨?_, coil, congrArg (· + 3) storage, congrArg (· + 9) crypto⟩
    simp only [Footprint.getDataByCoilAddress, same.value, crypto]
  · rw [Footprint.react_set env seed _ setting, Footprint.react_set env seed _ setting]
    simp only [Footprint.setDataByCoilAddress, ← storage, ← crypto]
    refine ⟨trivial, ?_, rfl, rfl⟩
    split
    · exact coil
    · exact same.overwrite _ (same.updated _ _)
  · rw [Footprint.react_verify env seed _ verifying, Footprint.react_verify env seed _ verifying]
    simp only [Footprint.verifyCoilData, ← crypto]
    exact ⟨trivial, coil, storage, rfl⟩
  · rw [Footprint.react_sign env seed _ signing, Footprint.react_sign env seed _ signing]
    simp only [Footprint.signCoilData, ← crypto]
    exact ⟨trivial, coil, storage, rfl⟩
  · rw [Footprint.react_unknown env seed _ unknown, Footprint.react_unknown env seed _ unknown]
    exact ⟨rfl, same⟩

end Commands

section Runs
variable {env : Environment} {seed : Seed} {start start' t : Tee}
  {history : History Invocation Answer}

/-- The application as it is seen by somebody who does not ask for all the coils. -/
def discreet (env : Environment) (seed : Seed) : Machine Tee Invocation Answer :=
  (observed env seed).within fun _ request => request.nCommandID ≠ CommandId.getAllCoilData

/-- Whatever such a run shows, it shows from every state with the same first coil: the
other coils, the other objects and the instance are not to be told from any answer,
from any signature or from what fails. -/
theorem other_coils_unseen (run : Run (discreet env seed) start history t)
    (same : SameCoil start.footprint start'.footprint) :
    ∃ t', Run (discreet env seed) start' history t' ∧ SameCoil t.footprint t'.footprint := by
  obtain ⟨t', shows, held⟩ := run.simulated (N := discreet env seed)
    (fun s s' => SameCoil s.footprint s'.footprint) id same fun s s' request held allowed => by
      obtain ⟨answers, after⟩ := @SameCoil.react env seed _ _ request held allowed.2
      rw [← observed_shows, ← observed_shows] at answers
      rw [← observed_moves, ← observed_moves] at after
      exact ⟨request, allowed, Prod.ext rfl answers, after⟩
  rw [List.map_id] at shows
  exact ⟨t', shows, held⟩

/-- A read of the coil, an accepted set of it and one more read, shown from a store of one
byte and from one of two bytes whose other coils are all on. -/
theorem other_coils_unseen_shipped :
    let M := discreet .reference .shipped
    let set := Invocation.setCoil [0, 0, 8] (Crypto.reference.signature [0, 0, 8]) 0x13 0
    let requests := [.getCoil 7 0x13, set, .getCoil 9 0x13]
    let shown := M.recorded (Tee.holding [0x80]) requests
    ∃ t, Run M (.holding [0xFF, 0xFF]) shown t ∧
      SameCoil (M.reached (Tee.holding [0x80]) requests).footprint t.footprint := by
  intro M set requests shown
  have run : Run M (.holding [0x80]) shown (M.reached (Tee.holding [0x80]) requests) :=
    Run.recorded (Tee.holding [0x80]) requests
      ⟨⟨trivial, by decide⟩, ⟨trivial, by decide⟩, ⟨trivial, by decide⟩, trivial⟩
  refine other_coils_unseen run ⟨?_, rfl, rfl⟩
  have one : (Tee.holding [0x80]).footprint.stored = some [0x80] := holding_store [0x80]
  have two : (Tee.holding [0xFF, 0xFF]).footprint.stored = some [0xFF, 0xFF] :=
    holding_store [0xFF, 0xFF]
  rw [one, two]
  rfl

end Runs

end InvCtrl
