import InvCtrl.TrustedApp

/-! What is assumed of the signature scheme where signatures count as ideal, and a
small scheme that satisfies all of it, so that no assumption is vacuous. -/
namespace InvCtrl

/-- Deterministic and correct on 3-byte messages, and injective on them even when the
first signature byte is ignored. -/
structure Crypto.Ideal (crypto : Crypto) : Prop where
  exact : ∀ message signature, message.length = 3 →
    (crypto.valid message signature = true ↔ signature = crypto.signature message)
  separates : ∀ left right, left.length = 3 → right.length = 3 →
    (crypto.signature left).tail = (crypto.signature right).tail → left = right

/-- A message has one valid signature at most. -/
def Crypto.Deterministic (crypto : Crypto) : Prop :=
  ∀ message signature, crypto.valid message signature = true →
    signature = crypto.signature message

/-- A presented signature is valid only for messages that the key has signed before. -/
def Unforged (crypto : Crypto) (signed : List (List UInt8 × List UInt8))
    (signature : List UInt8) : Prop :=
  ∀ message, crypto.valid message signature = true → ∃ issued, (message, issued) ∈ signed

section Reference

/-- A digest that keeps 3-byte messages apart and maps every other message to zeros. -/
def referenceDigest (chunk : List UInt8) : List UInt8 :=
  if chunk.length = 3 then 1 :: (chunk ++ List.replicate 28 0) else List.replicate 32 0

/-- A constant first byte, then the digest. -/
def referenceSign (digest : List UInt8) : List UInt8 :=
  (0 :: (digest ++ List.replicate 127 0)).take 128

/-- Verification recomputes the signature and refuses the digest of zeros. -/
def referenceVerify (digest signature : List UInt8) : Bool :=
  digest.head? == some 1 && signature == referenceSign digest

def Crypto.reference : Crypto where
  sha256 := referenceDigest
  rsaSign _ := referenceSign
  rsaVerify _ := referenceVerify
  sha256_length chunk := by
    unfold referenceDigest
    split
    · next whole => simp [whole]
    · simp
  rsaSign_length _ digest := by
    simp [referenceSign]

/-- Every call succeeds and every unwritten array holds zeros. -/
def Environment.reference : Environment where
  crypto := .reference
  storage _ := .ok
  cryptography _ := .ok
  residue _ := 0

/-- An empty store, no handles, no signatures. -/
def Tee.fresh : Tee where
  store _ := none
  objects _ := none
  operations _ := none
  next := 0
  memory _ := fun _ => 0
  storageCalls := 0
  cryptoCalls := 0
  digested := []
  signed := []

/-- The fresh state with one object in the store. -/
def Tee.holding (coilData : List UInt8) : Tee :=
  { Tee.fresh with store := Function.update (fun _ => none) filename (some coilData) }

@[simp] theorem holding_store (coilData : List UInt8) :
    (Tee.holding coilData).store filename = some coilData := by simp [Tee.holding]

theorem reference_valid (message signature : List UInt8) :
    Crypto.reference.valid message signature = true ↔
      message.length = 3 ∧ signature = Crypto.reference.signature message := by
  simp only [Crypto.valid, Crypto.signature, Crypto.reference, referenceVerify, referenceDigest]
  split
  · next whole => simp [whole]
  · next other => simp [other, List.replicate_succ]

theorem reference_deterministic : Crypto.reference.Deterministic :=
  fun message signature valid => ((reference_valid message signature).mp valid).2

theorem reference_ideal : Crypto.reference.Ideal where
  exact message signature whole := by
    rw [reference_valid]
    exact and_iff_right whole
  separates left right leftWhole rightWhole same := by
    have digest (m : List UInt8) (whole : m.length = 3) :
        (Crypto.reference.signature m).tail.take 4 = 1 :: m := by
      obtain ⟨a, b, c, rfl⟩ := List.length_eq_three.mp whole
      rfl
    have heads := congrArg (List.take 4) same
    rw [digest left leftWhole, digest right rightWhole] at heads
    exact (List.cons.inj heads).2

end Reference

end InvCtrl
