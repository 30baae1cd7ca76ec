import InvCtrl.Commands

/-! Signing and verification decided call by call. Both make nine cryptographic
calls and drop every status but one; this module says which of the nine have to
succeed for a signature to be produced and for a verdict of 1. -/
namespace InvCtrl
open Interaction

/-- The cryptographic call of this number succeeds. -/
def Environment.Answers (env : Environment) (call : Nat) : Prop :=
  (env.cryptography call).result = teeSuccess

instance (env : Environment) (call : Nat) : Decidable (env.Answers call) :=
  inferInstanceAs (Decidable (_ = _))

/-- The calls a signature depends on, of the nine from `call` on: digest operation,
digest, both calls for the private key, operation, set-key and signature. -/
def Environment.SignWorks (env : Environment) (call : Nat) : Prop :=
  ∀ step ∈ [0, 1, 4, 5, 6, 7, 8], env.Answers (call + step)

/-- The same for a verification, with the two calls for the public key. -/
def Environment.VerifyWorks (env : Environment) (call : Nat) : Prop :=
  ∀ step ∈ [0, 1, 2, 3, 6, 7, 8], env.Answers (call + step)

instance (env : Environment) (call : Nat) : Decidable (env.SignWorks call) :=
  inferInstanceAs (Decidable (∀ step ∈ _, _))

instance (env : Environment) (call : Nat) : Decidable (env.VerifyWorks call) :=
  inferInstanceAs (Decidable (∀ step ∈ _, _))

theorem Environment.CryptoSucceeds.answers {env : Environment} (succeeds : env.CryptoSucceeds)
    (call : Nat) : env.Answers call := by
  rw [Environment.Answers, succeeds]
  rfl

theorem Environment.CryptoSucceeds.signWorks {env : Environment} (succeeds : env.CryptoSucceeds)
    (call : Nat) : env.SignWorks call := fun _ _ => succeeds.answers _

theorem Environment.CryptoSucceeds.verifyWorks {env : Environment} (succeeds : env.CryptoSucceeds)
    (call : Nat) : env.VerifyWorks call := fun _ _ => succeeds.answers _

section Counting

/-- How many cryptographic calls a call counts as, whether it succeeds or not. -/
def TeeCall.cost : TeeCall → Nat
  | .allocateTransientObject .. | .populateTransientObject .. | .allocateOperation ..
  | .setOperationKey .. | .digestDoFinal .. | .asymmetricVerifyDigest ..
  | .asymmetricSignDigest .. => 1
  | _ => 0

variable (env : Environment) (s : Tee)

@[simp] theorem cryptoCalls_setObject (handle : Handle) (object : Option ObjectState) :
    (s.setObject handle object).cryptoCalls = s.cryptoCalls := by cases handle <;> rfl

@[simp] theorem cryptoCalls_setOperation (handle : Handle) (operation : Option OperationState) :
    (s.setOperation handle operation).cryptoCalls = s.cryptoCalls := by cases handle <;> rfl

theorem handler_cryptoCalls (request : TeeCall) :
    (env.handler request s).2.cryptoCalls = s.cryptoCalls + request.cost := by
  cases request with
  | createPersistentObject =>
    simp only [Environment.handler, Environment.createPersistentObject]; split <;> rfl
  | openPersistentObject =>
    simp only [Environment.handler, Environment.openPersistentObject]
    split
    · split <;> rfl
    · rfl
  | readObjectData object buffer size =>
    simp only [Environment.handler, Environment.readObjectData]
    split
    · split
      · cases buffer <;> simp [Tee.setMemory, Tee.storageCall, TeeCall.cost]
      · rfl
    · rfl
  | closeObject object =>
    simp only [Environment.handler, Environment.closeObject]
    split
    · exact cryptoCalls_setObject s.storageCall object none
    · rfl
  | allocateTransientObject =>
    simp only [Environment.handler, Environment.allocateTransientObject]; split <;> rfl
  | populateTransientObject object attrs =>
    simp only [Environment.handler, Environment.populateTransientObject]
    split
    · split
      · exact cryptoCalls_setObject s.cryptoCall object _
      · rfl
    · rfl
  | freeTransientObject object => exact cryptoCalls_setObject s object none
  | allocateOperation =>
    simp only [Environment.handler, Environment.allocateOperation]; split <;> rfl
  | freeOperation operation => exact cryptoCalls_setOperation s operation none
  | setOperationKey operation key =>
    simp only [Environment.handler, Environment.setOperationKey]
    split
    · split
      · exact cryptoCalls_setOperation s.cryptoCall operation _
      · rfl
    · rfl
  | digestDoFinal =>
    simp only [Environment.handler, Environment.digestDoFinal]
    split
    · split
      · split <;> rfl
      · rfl
    · rfl
  | asymmetricVerifyDigest =>
    simp only [Environment.handler, Environment.asymmetricVerifyDigest]
    split
    · split
      · split <;> rfl
      · rfl
    · rfl
  | asymmetricSignDigest operation params digest len =>
    simp only [Environment.handler, Environment.asymmetricSignDigest]
    split
    · split
      · split
        · rfl
        · split <;> rfl
      · rfl
    · rfl
  | storeByte => rfl
  | uninitialized => rfl

theorem taDigestDoFinal_calls (operation : Handle) (dataToSign : Buffer) (dataLen : Nat)
    (hash : List UInt8) (hashLen : Nat) :
    ((taDigestDoFinal operation dataToSign dataLen hash hashLen).run env.handler s).2.cryptoCalls =
      s.cryptoCalls + 1 := by
  simp [taDigestDoFinal, handler_cryptoCalls, TeeCall.cost]

theorem createKey_calls (keyType : KeyType) (attrs : List Attribute) (handle : Handle) :
    ((createKey maxKeySize keyType attrs handle).run env.handler s).2.cryptoCalls =
      s.cryptoCalls + 2 := by
  simp [createKey, taAllocateTransientObject, taPopulateTransientObject, handler_cryptoCalls,
    TeeCall.cost]

theorem armOperation_calls (operation key : Handle) (mode : OperationMode) :
    ((armOperation operation key mode).run env.handler s).2.cryptoCalls = s.cryptoCalls + 2 := by
  simp [armOperation, taAllocateOperation, taSetOperationKey, taFreeTransientObject,
    handler_cryptoCalls, TeeCall.cost]

theorem taGetAllCoilDataUnpacked_calls (buffer : Buffer) (size : Nat) (count : UInt32) :
    ((taGetAllCoilDataUnpacked buffer size count).run env.handler s).2.cryptoCalls =
      s.cryptoCalls := by
  simp [taGetAllCoilDataUnpacked, taOpenPersistentObject, taReadPersistentObject,
    taClosePersistentObject, handler_cryptoCalls, TeeCall.cost]

end Counting

section Exact
variable (env : Environment) (s : Tee)

theorem taAllocateOperation_run (operation : Handle) (algorithm : Algorithm)
    (mode : OperationMode) (size : Nat) :
    (taAllocateOperation operation algorithm mode size).run env.handler s =
      if env.Answers s.cryptoCalls then
        ((teeSuccess, .live s.next), s.cryptoCall.addOperation ⟨algorithm, mode, none⟩)
      else (((env.cryptography s.cryptoCalls).result, operation), s.cryptoCall) := by
  by_cases succeeded : env.Answers s.cryptoCalls
  · have result : (env.cryptography s.cryptoCalls).result = teeSuccess := succeeded
    rw [if_pos succeeded]
    simp [taAllocateOperation, Environment.handler, Environment.allocateOperation, result]
  · have result : (env.cryptography s.cryptoCalls).result ≠ teeSuccess := succeeded
    rw [if_neg succeeded]
    simp [taAllocateOperation, Environment.handler, Environment.allocateOperation, result]

theorem createKey_handle (keyType : KeyType) (attrs : List Attribute) :
    ((createKey maxKeySize keyType attrs .null).run env.handler s).1.2 =
      if env.Answers s.cryptoCalls then .live s.next else .null := by
  by_cases succeeded : env.Answers s.cryptoCalls
  · have result : (env.cryptography s.cryptoCalls).result = teeSuccess := succeeded
    rw [if_pos succeeded]
    simp [createKey, taAllocateTransientObject, Environment.handler,
      Environment.allocateTransientObject, result]
  · have result : (env.cryptography s.cryptoCalls).result ≠ teeSuccess := succeeded
    rw [if_neg succeeded]
    simp [createKey, taAllocateTransientObject, Environment.handler,
      Environment.allocateTransientObject, result]

theorem createKey_populated_iff (keyType : KeyType) (attrs : List Attribute) :
    let r := (createKey maxKeySize keyType attrs .null).run env.handler s
    r.2.object r.1.2 = some (.transient keyType (some attrs)) ↔
      env.Answers s.cryptoCalls ∧ env.Answers (s.cryptoCalls + 1) := by
  intro r
  have handle : r.1.2 = _ := createKey_handle env s keyType attrs
  by_cases allocated : env.Answers s.cryptoCalls
  · rw [if_pos allocated] at handle
    have first : (env.cryptography s.cryptoCalls).result = teeSuccess := allocated
    rw [handle]
    by_cases populated : env.Answers (s.cryptoCalls + 1)
    · have second : (env.cryptography (s.cryptoCalls + 1)).result = teeSuccess := populated
      simp [r, allocated, populated, createKey, taAllocateTransientObject,
        taPopulateTransientObject, Environment.handler, Environment.allocateTransientObject,
        Environment.populateTransientObject, first, second, Tee.addObject, Tee.cryptoCall,
        Tee.setObject]
    · have second : (env.cryptography (s.cryptoCalls + 1)).result ≠ teeSuccess := populated
      simp [r, populated, createKey, taAllocateTransientObject, taPopulateTransientObject,
        Environment.handler, Environment.allocateTransientObject,
        Environment.populateTransientObject, first, second, Tee.addObject, Tee.cryptoCall]
  · rw [if_neg allocated] at handle
    rw [handle]
    simp [allocated]

theorem taDigestDoFinal_whole_iff (operation : Handle) (chunk : Buffer) (len : Nat)
    (hash : List UInt8) (residue : hash.length = 64) :
    let r := (taDigestDoFinal operation chunk len hash 64).run env.handler s
    (r.1.2.1.take r.1.2.2).length = 32 ↔
      env.Answers s.cryptoCalls ∧ ∃ key, s.operation operation = some ⟨.sha256, .digest, key⟩ := by
  intro r
  unfold Environment.Answers
  simp only [r, taDigestDoFinal, Program.run_bind, Program.run_perform, Program.run_pure,
    Environment.handler, Environment.digestDoFinal]
  have kept : (hash.take 64).length ≠ 32 := by simp [residue]
  split
  · next succeeded =>
    split
    · next key found => simp [env.crypto.sha256_length, succeeded, found]
    · next unfit =>
      simp only [teeErrorBadState, teeSuccess, succeeded]
      refine ⟨fun whole => absurd whole kept, ?_⟩
      rintro ⟨_, key, found⟩
      exact absurd found (unfit key)
  · next failed =>
    exact ⟨fun whole => absurd whole kept, fun both => absurd both.1 failed⟩

/-- A fresh operation holds a key after set-key exactly when the call succeeds and the
handle denotes that key, populated. -/
theorem taSetOperationKey_holds_iff (operation key : Handle) (algorithm : Algorithm)
    (mode : OperationMode) (keyType : KeyType) (attrs : List Attribute)
    (fresh : s.operation operation = some ⟨algorithm, mode, none⟩) :
    ((taSetOperationKey operation key).run env.handler s).2.operation operation =
        some ⟨algorithm, mode, some (keyType, attrs)⟩ ↔
      env.Answers s.cryptoCalls ∧ s.object key = some (.transient keyType (some attrs)) := by
  have counted : s.cryptoCall.operation operation = some ⟨algorithm, mode, none⟩ := by
    rw [← fresh]
    cases operation <;> rfl
  simp only [taSetOperationKey, Program.run_perform, Environment.handler,
    Environment.setOperationKey]
  split
  · next succeeded =>
    have answers : env.Answers s.cryptoCalls := succeeded
    split
    · next op type list live found =>
      cases fresh.symm.trans live
      obtain ⟨id, rfl⟩ : ∃ id, operation = .live id := by
        cases operation with
        | live id => exact ⟨id, rfl⟩
        | null | indeterminate => cases fresh
      simp [Tee.setOperation, answers, found]
    · next unfit =>
      rw [counted]
      simp only [answers, true_and, Option.some.injEq, OperationState.mk.injEq]
      constructor
      · intro given
        cases given
      · intro found
        exact absurd found (unfit _ _ _ fresh)
  · next failed =>
    rw [counted]
    constructor
    · intro holds
      cases holds
    · rintro ⟨succeeded, _⟩
      exact absurd succeeded failed

/-- An armed signature operation is a fresh one that received a populated key. -/
theorem armOperation_armed_iff (operation key : Handle) (mode : OperationMode)
    (keyType : KeyType) (attrs : List Attribute)
    (digest : s.operation operation = none ∨
      ∃ key, s.operation operation = some ⟨.sha256, .digest, key⟩) :
    let r := (armOperation operation key mode).run env.handler s
    r.2.operation r.1 = some ⟨.rsassaPkcs1V15Sha256, mode, some (keyType, attrs)⟩ ↔
      env.Answers s.cryptoCalls ∧ env.Answers (s.cryptoCalls + 1) ∧
        s.object key = some (.transient keyType (some attrs)) := by
  intro r
  have freed (t : Tee) (handle : Handle) :
      (t.setObject key none).operation handle = t.operation handle := by
    cases key <;> cases handle <;> rfl
  simp only [r, armOperation, Program.run_bind, Program.run_pure, taFreeTransientObject,
    Program.run_perform, Environment.handler, freed, taAllocateOperation_run]
  by_cases allocated : env.Answers s.cryptoCalls
  · have same : (s.cryptoCall.addOperation ⟨.rsassaPkcs1V15Sha256, mode, none⟩).object key =
        s.object key := by cases key <;> rfl
    have fresh : (s.cryptoCall.addOperation ⟨.rsassaPkcs1V15Sha256, mode, none⟩).operation
        (.live s.next) = some ⟨.rsassaPkcs1V15Sha256, mode, none⟩ := by
      simp [Tee.addOperation, Tee.cryptoCall]
    simp only [allocated, ↓reduceIte, true_and]
    rw [taSetOperationKey_holds_iff env _ _ _ _ _ _ _ fresh, same]
    rfl
  · simp only [allocated, ↓reduceIte, false_and, iff_false]
    intro armed
    rcases taSetOperationKey_digest env s.cryptoCall operation key
      (by cases operation <;> exact digest) with absent | ⟨_, present⟩
    · cases absent.symm.trans armed
    · cases present.symm.trans armed

/-- What the part before the switch has gathered, call by call. -/
structure Gathered (call : Nat) (t : Tee) (hashed : List UInt8 × Nat)
    (publicKey privateKey : Handle) : Prop where
  hash : (hashed.1.take hashed.2).length = 32 ↔ env.Answers call ∧ env.Answers (call + 1)
  publicKey : t.object publicKey = some (.transient .rsaPublicKey (some publicKeyAttrs)) ↔
    env.Answers (call + 2) ∧ env.Answers (call + 3)
  privateKey : t.object privateKey = some (.transient .rsaKeypair (some keypairAttrs)) ↔
    env.Answers (call + 4) ∧ env.Answers (call + 5)
  calls : t.cryptoCalls = call + 6

theorem createKeys_gathered (call : Nat) (hashed : List UInt8 × Nat)
    (calls : s.cryptoCalls = call + 2)
    (hash : (hashed.1.take hashed.2).length = 32 ↔ env.Answers call ∧ env.Answers (call + 1)) :
    let first := (createKey maxKeySize .rsaPublicKey publicKeyAttrs .null).run env.handler s
    let second := (createKey maxKeySize .rsaKeypair keypairAttrs .null).run env.handler first.2
    Gathered env call second.2 hashed first.1.2 second.1.2 := by
  intro first second
  have one := createKey_created env s .rsaPublicKey publicKeyAttrs
  have two := createKey_created env first.2 .rsaKeypair keypairAttrs
  have between : first.2.cryptoCalls = call + 4 := by rw [createKey_calls, calls]
  have kept : second.2.object first.1.2 = first.2.object first.1.2 := by
    rcases one.handle with null | ⟨live, fresh⟩
    · rw [show first.1.2 = .null from null]; rfl
    · rw [show first.1.2 = .live s.next from live]
      exact two.older _ fresh
  constructor
  case hash => exact hash
  case publicKey =>
    have populated := createKey_populated_iff env s .rsaPublicKey publicKeyAttrs
    rw [calls] at populated
    rw [kept]
    exact populated
  case privateKey =>
    have populated := createKey_populated_iff env first.2 .rsaKeypair keypairAttrs
    rwa [between] at populated
  case calls => rw [createKey_calls, between]

theorem taDigestAndKeys_gathered (dataToSign : Buffer) (dataLen : Nat) :
    let r := (taDigestAndKeys dataToSign dataLen).run env.handler s
    Gathered env s.cryptoCalls r.2 r.1.2.1 r.1.2.2.1 r.1.2.2.2 := by
  have residue : ((List.range 64).map env.residue).length = 64 := by simp
  simp only [taDigestAndKeys, Program.run_bind, Program.run_perform, Program.run_pure,
    Environment.handler, taAllocateOperation_run]
  generalize (List.range 64).map env.residue = hash at residue
  by_cases allocated : env.Answers s.cryptoCalls
  · simp only [allocated, ↓reduceIte]
    let t := s.cryptoCall.addOperation ⟨.sha256, .digest, none⟩
    have digest := taDigestDoFinal_whole_iff env t (.live s.next) dataToSign dataLen hash residue
    have fresh : ∃ key, t.operation (.live s.next) = some ⟨.sha256, .digest, key⟩ :=
      ⟨none, by simp [t, Tee.addOperation, Tee.cryptoCall]⟩
    refine createKeys_gathered env _ s.cryptoCalls _ ?_ ?_
    · simp [taDigestDoFinal, handler_cryptoCalls, TeeCall.cost, Tee.addOperation, Tee.cryptoCall]
    · refine digest.trans ?_
      rw [and_iff_left fresh, and_iff_right allocated]
      rfl
  · simp only [allocated, ↓reduceIte]
    have digest := taDigestDoFinal_whole_iff env s.cryptoCall .null dataToSign dataLen hash residue
    refine createKeys_gathered env _ s.cryptoCalls _ ?_ ?_
    · simp [taDigestDoFinal, handler_cryptoCalls, TeeCall.cost, Tee.cryptoCall]
    · refine digest.trans ?_
      simp [allocated]

/-- A signature comes from a call that succeeds on a whole digest and an operation
made for signing that holds a key pair. -/
theorem taAsymmetricSignDigest_signed_iff (operation : Handle) (params : List Attribute)
    (digest : List UInt8) (digestLen : Nat) (out : List UInt8) :
    ((taAsymmetricSignDigest operation params digest digestLen out 512).run
        env.handler s).1.2.2 = 128 ↔
      env.Answers s.cryptoCalls ∧ (digest.take digestLen).length = 32 ∧ ∃ attrs,
        s.operation operation =
          some ⟨.rsassaPkcs1V15Sha256, .sign, some (.rsaKeypair, attrs)⟩ := by
  have apart : 512 ≠ 128 := by decide
  have badState : teeErrorBadState ≠ teeSuccess := by decide
  have badParameters : teeErrorBadParameters ≠ teeSuccess := by decide
  simp only [taAsymmetricSignDigest, Program.run_bind, Program.run_perform, Program.run_pure,
    Environment.handler, Environment.asymmetricSignDigest, env.crypto.rsaSign_length]
  split
  · next succeeded =>
    have answers : env.Answers s.cryptoCalls := succeeded
    split
    · next attrs found =>
      by_cases whole : (digest.take digestLen).length = 32
      · simp [whole, answers, found, env.crypto.rsaSign_length]
      · simp only [whole, ne_eq, not_false_eq_true, ↓reduceIte, badParameters, apart, false_and,
          and_false]
    · next unfit =>
      simp only [badState, ↓reduceIte, apart, false_iff]
      rintro ⟨_, _, attrs, found⟩
      exact unfit attrs found
  · next failed =>
    simp only [apart, false_iff]
    rintro ⟨succeeded, _⟩
    exact failed succeeded

/-- A check succeeds exactly on a whole digest with a signature valid for the key that
an operation made for verifying holds. -/
theorem taAsymmetricVerifyDigest_success_iff (operation : Handle) (params : List Attribute)
    (digest : List UInt8) (digestLen : Nat) (signature : Buffer) (signatureLen : Nat) :
    ((taAsymmetricVerifyDigest operation params digest digestLen signature signatureLen).run
        env.handler s).1 = teeSuccess ↔
      env.Answers s.cryptoCalls ∧ (digest.take digestLen).length = 32 ∧ ∃ keyType attrs,
        s.operation operation =
          some ⟨.rsassaPkcs1V15Sha256, .verify, some (keyType, attrs)⟩ ∧
        env.crypto.rsaVerify attrs (digest.take digestLen) (s.view signature signatureLen) =
          true := by
  have badState : teeErrorBadState ≠ teeSuccess := by decide
  have invalid : teeErrorSignatureInvalid ≠ teeSuccess := by decide
  simp only [taAsymmetricVerifyDigest, Program.run_perform, Environment.handler,
    Environment.asymmetricVerifyDigest]
  split
  · next succeeded =>
    have answers : env.Answers s.cryptoCalls := succeeded
    split
    · next keyType attrs found =>
      split
      · next accepted =>
        exact ⟨fun _ => ⟨answers, accepted.1, keyType, attrs, found, accepted.2⟩, fun _ => rfl⟩
      · next rejected =>
        refine ⟨fun success => absurd success invalid, ?_⟩
        rintro ⟨_, whole, other, list, live, valid⟩
        cases found.symm.trans live
        exact absurd ⟨whole, valid⟩ rejected
    · next unfit =>
      refine ⟨fun success => absurd success badState, ?_⟩
      rintro ⟨_, _, keyType, attrs, live, _⟩
      exact absurd live (unfit _ _)
  · next failed =>
    refine ⟨fun success => absurd success failed, ?_⟩
    rintro ⟨succeeded, _⟩
    exact absurd succeeded failed

end Exact

section Specifications
variable (env : Environment) (s : Tee)

theorem signWorks_iff (call : Nat) :
    env.SignWorks call ↔
      (env.Answers call ∧ env.Answers (call + 1)) ∧
      (env.Answers (call + 4) ∧ env.Answers (call + 5)) ∧
      env.Answers (call + 6) ∧ env.Answers (call + 7) ∧ env.Answers (call + 8) := by
  simp [Environment.SignWorks, and_assoc]

theorem verifyWorks_iff (call : Nat) :
    env.VerifyWorks call ↔
      (env.Answers call ∧ env.Answers (call + 1)) ∧
      (env.Answers (call + 2) ∧ env.Answers (call + 3)) ∧
      env.Answers (call + 6) ∧ env.Answers (call + 7) ∧ env.Answers (call + 8) := by
  simp [Environment.VerifyWorks, and_assoc]

theorem taSignCase_signed_iff {message : List UInt8} (operation publicKey privateKey : Handle)
    (hashed : List UInt8 × Nat) (signaturePtr : UInt32) (call : Nat)
    (prepared : Prepared env s message operation hashed publicKey privateKey)
    (gathered : Gathered env call s hashed publicKey privateKey) :
    ((taSignCase operation privateKey hashed signaturePtr).run env.handler s).1.2 = 128 ↔
      env.SignWorks call := by
  rw [taSignCase_eq]
  simp only [Program.run_bind, Program.run_pure]
  have armed := armOperation_armed env s operation privateKey .sign prepared.operation
    prepared.privateKey
  have exactly := armOperation_armed_iff env s operation privateKey .sign .rsaKeypair keypairAttrs
    prepared.operation
  have calls := armOperation_calls env s operation privateKey .sign
  generalize (armOperation operation privateKey .sign).run env.handler s = r at armed exactly calls
  obtain ⟨handle, t⟩ := r
  have signed := taAsymmetricSignDigest_signed_iff env t handle algoParams hashed.1 hashed.2
    (List.replicate 512 0)
  have holder : (∃ attrs, t.operation handle =
        some ⟨.rsassaPkcs1V15Sha256, .sign, some (.rsaKeypair, attrs)⟩) ↔
      t.operation handle =
        some ⟨.rsassaPkcs1V15Sha256, .sign, some (.rsaKeypair, keypairAttrs)⟩ := by
    constructor
    · rintro ⟨attrs, found⟩
      obtain ⟨_, key⟩ := armed.sound _ _ found
      cases key
      exact found
    · exact fun found => ⟨_, found⟩
  simp only at exactly calls
  rw [holder, exactly, calls, gathered.calls, gathered.hash, gathered.privateKey] at signed
  have regrouped : env.Answers (call + 6 + 2) ∧ (env.Answers call ∧ env.Answers (call + 1)) ∧
        env.Answers (call + 6) ∧ env.Answers (call + 6 + 1) ∧
        env.Answers (call + 4) ∧ env.Answers (call + 5) ↔ env.SignWorks call := by
    rw [signWorks_iff]
    constructor
    · rintro ⟨last, whole, allocated, set, populated⟩
      exact ⟨whole, populated, allocated, set, last⟩
    · rintro ⟨whole, populated, allocated, set, last⟩
      exact ⟨last, whole, allocated, set, populated⟩
  refine Iff.trans ?_ (signed.trans regrouped)
  rcases taAsymmetricSignDigest_cases env t handle algoParams hashed.1 hashed.2
      (List.replicate 512 0) with ⟨_, _, _, run⟩ | ⟨_, _, run⟩
  · rw [run]
    exact ⟨fun _ => rfl, fun _ => rfl⟩
  · rw [run]
    have word : UInt32.ofNat 512 ≠ 128 := by decide
    have count : 512 ≠ 128 := by decide
    exact ⟨fun same => absurd same word, fun same => absurd same count⟩

theorem taVerifyCase_verified_iff (operation publicKey privateKey : Handle)
    (hashed : List UInt8 × Nat) (message : List UInt8) (signaturePtr signatureLen : UInt32)
    (call : Nat) (prepared : Prepared env s message operation hashed publicKey privateKey)
    (gathered : Gathered env call s hashed publicKey privateKey) :
    ((taVerifyCase operation publicKey hashed signaturePtr signatureLen).run env.handler s).1.2 = 1 ↔
      env.VerifyWorks call ∧ env.crypto.valid message
        (s.view (.shared signaturePtr) signatureLen.toNat) = true := by
  rw [taVerifyCase_eq]
  simp only [Program.run_bind, Program.run_pure]
  have armed := armOperation_armed env s operation publicKey .verify prepared.operation
    prepared.publicKey
  have exactly := armOperation_armed_iff env s operation publicKey .verify .rsaPublicKey
    publicKeyAttrs prepared.operation
  have calls := armOperation_calls env s operation publicKey .verify
  have quiet := quiet_visible env s (armOperation_quiet operation publicKey .verify)
  generalize (armOperation operation publicKey .verify).run env.handler s = r
    at armed exactly calls quiet
  obtain ⟨handle, t⟩ := r
  have viewed := visible_view quiet signaturePtr
  have success := taAsymmetricVerifyDigest_success_iff env t handle algoParams hashed.1 hashed.2
    (.shared signaturePtr) signatureLen.toNat
  simp only at exactly calls
  rw [calls, gathered.calls, gathered.hash] at success
  rw [gathered.calls, gathered.publicKey] at exactly
  rw [verifyWorks_iff]
  have verdict (res : TeeResult) : (if res = teeSuccess then (1 : Int32) else -1) = 1 ↔
      res = teeSuccess := by
    split
    · next same => exact ⟨fun _ => same, fun _ => rfl⟩
    · next differs => exact ⟨fun same => absurd same refusal_apart, fun same => absurd same differs⟩
  rw [verdict, success, viewed]
  have digested (whole : env.Answers call ∧ env.Answers (call + 1)) :
      hashed.1.take hashed.2 = env.crypto.sha256 message := by
    rcases prepared.hash with ⟨digest, _⟩ | broken
    · exact digest
    · exact absurd (gathered.hash.mpr whole) broken
  constructor
  · rintro ⟨last, whole, keyType, attrs, found, valid⟩
    obtain ⟨_, key⟩ := armed.sound _ _ found
    cases key
    obtain ⟨allocated, set, populated⟩ := exactly.mp found
    rw [digested whole] at valid
    exact ⟨⟨whole, populated, allocated, set, last⟩, valid⟩
  · rintro ⟨⟨whole, populated, allocated, set, last⟩, valid⟩
    refine ⟨last, whole, _, _, exactly.mpr ⟨allocated, set, populated⟩, ?_⟩
    rw [digested whole]
    exact valid

/-- The length 128 tells a signature from the 512 zeros of a failure. -/
theorem taSign_signed_iff (dataToSign : Buffer) (dataLen : Nat)
    (signaturePtr signatureLen : UInt32) :
    ((taSign dataToSign dataLen signaturePtr signatureLen).run env.handler s).1.2 = 128 ↔
      env.SignWorks s.cryptoCalls := by
  have prepared := taDigestAndKeys_prepared env s dataToSign dataLen
  have gathered := taDigestAndKeys_gathered env s dataToSign dataLen
  simp only [taSign, taSignAndVerify, taFreeOperation, Program.run_bind, Program.run_pure]
  generalize (taDigestAndKeys dataToSign dataLen).run env.handler s = r at prepared gathered
  exact taSignCase_signed_iff env r.2 _ _ _ _ signaturePtr _ prepared gathered

/-- The verdict, decided by the calls a verification depends on and the signature. -/
theorem taVerify_verified_iff (dataToSign : Buffer) (dataLen : Nat)
    (signaturePtr signatureLen : UInt32) (signatureVerified : Int32) :
    ((taVerify dataToSign dataLen signaturePtr signatureLen signatureVerified).run
        env.handler s).1.2 = 1 ↔
      env.VerifyWorks s.cryptoCalls ∧ env.crypto.valid (s.view dataToSign dataLen)
        (s.view (.shared signaturePtr) signatureLen.toNat) = true := by
  have prepared := taDigestAndKeys_prepared env s dataToSign dataLen
  have gathered := taDigestAndKeys_gathered env s dataToSign dataLen
  have quiet := quiet_visible env s (taDigestAndKeys_quiet dataToSign dataLen)
  simp only [taVerify, taSignAndVerify, taFreeOperation, Program.run_bind, Program.run_pure]
  generalize (taDigestAndKeys dataToSign dataLen).run env.handler s = r at prepared gathered quiet
  rw [← visible_view quiet signaturePtr]
  exact taVerifyCase_verified_iff env r.2 _ _ _ _ _ signaturePtr signatureLen _ prepared gathered

end Specifications

section Storage
variable (env : Environment) (s : Tee)

theorem taGetAllCoilDataUnpacked_trace (buffer : Buffer) (size : Nat) (count : UInt32) :
    let opened := env.openPersistentObject filename ⟨true, false, false⟩ s
    let object := if opened.1.1 = teeSuccess then opened.1.2 else .indeterminate
    (taGetAllCoilDataUnpacked buffer size count).trace env.handler s =
      [⟨.openPersistentObject filename ⟨true, false, false⟩, opened.1⟩,
        ⟨.readObjectData object buffer size, (env.readObjectData object buffer size opened.2).1⟩,
        ⟨.closeObject object, ()⟩] := rfl

/-- The coil object can be opened: it exists and the call succeeds. -/
def Environment.OpensCoil : Prop :=
  (env.storage s.storageCalls).result = teeSuccess ∧ (s.store filename).isSome

variable {env s}

theorem openPersistentObject_opened (opens : env.OpensCoil s) (flags : DataFlags) :
    env.openPersistentObject filename flags s =
      ((teeSuccess, .live s.next), s.storageCall.addObject (.persistent filename flags 0)) := by
  obtain ⟨old, stored⟩ := Option.isSome_iff_exists.mp opens.2
  simp [Environment.openPersistentObject, opens.1, stored]

theorem openPersistentObject_unopened (unopened : ¬ env.OpensCoil s) (flags : DataFlags) :
    ∃ res, res ≠ teeSuccess ∧
      env.openPersistentObject filename flags s = ((res, .indeterminate), s.storageCall) := by
  have absent : teeErrorItemNotFound ≠ teeSuccess := by decide
  by_cases succeeded : (env.storage s.storageCalls).result = teeSuccess
  · have missing : s.store filename = none := by
      rw [← Option.not_isSome_iff_eq_none]
      exact fun stored => unopened ⟨succeeded, stored⟩
    exact ⟨_, absent, by simp [Environment.openPersistentObject, succeeded, missing]⟩
  · exact ⟨_, succeeded, by simp [Environment.openPersistentObject, succeeded]⟩

theorem coilRead_unopened (unopened : ¬ env.OpensCoil s) (size : Nat) : env.coilRead s size = [] := by
  unfold Environment.coilRead
  split
  · next succeeded =>
    have missing : s.store filename = none := by
      rw [← Option.not_isSome_iff_eq_none]
      exact fun stored => unopened ⟨succeeded, stored⟩
    rw [missing, Option.getD_none, List.take_nil, Outcome.delivered_nil]
  · rfl

end Storage

section EntryPoint
variable (seed : Seed) (request : Invocation)

/-- The program that the entry point selects. -/
def Invocation.program : TeeProgram (TeeResult × TeeParams) :=
  taInvokeCommandEntryPoint seed request.nCommandID request.nParamTypes request.pParams

variable {request}

theorem program_seedCoil (command : request.nCommandID = CommandId.seedCoil) :
    request.program seed = (do
      let res ← taSeedCoil seed
      pure (res, request.pParams)) := by
  rw [Invocation.program, taInvokeCommandEntryPoint, if_pos command]

theorem program_getAllCoilData (command : request.nCommandID = CommandId.getAllCoilData) :
    request.program seed = taGetAllCoilData request.pParams := by
  simp [Invocation.program, taInvokeCommandEntryPoint, command, CommandId.seedCoil,
    CommandId.getAllCoilData]

theorem program_getDataByCoilAddress
    (command : request.nCommandID = CommandId.getDataByCoilAddress) :
    request.program seed = taGetDataByCoilAddress seed request.pParams := by
  simp [Invocation.program, taInvokeCommandEntryPoint, command, CommandId.seedCoil,
    CommandId.getAllCoilData, CommandId.getDataByCoilAddress]

theorem program_setDataByCoilAddress
    (command : request.nCommandID = CommandId.setDataByCoilAddress) :
    request.program seed = taSetDataByCoilAddress seed request.pParams := by
  simp [Invocation.program, taInvokeCommandEntryPoint, command, CommandId.seedCoil,
    CommandId.getAllCoilData, CommandId.getDataByCoilAddress, CommandId.setDataByCoilAddress]

theorem program_verifyCoilData (command : request.nCommandID = CommandId.verifyCoilData) :
    request.program seed = taVerifyCoilDAta request.pParams := by
  simp [Invocation.program, taInvokeCommandEntryPoint, command, CommandId.seedCoil,
    CommandId.getAllCoilData, CommandId.getDataByCoilAddress, CommandId.setDataByCoilAddress,
    CommandId.verifyCoilData]

theorem program_signCoilData (command : request.nCommandID = CommandId.signCoilData) :
    request.program seed = taSignCoilData request.pParams := by
  simp [Invocation.program, taInvokeCommandEntryPoint, command, CommandId.seedCoil,
    CommandId.getAllCoilData, CommandId.getDataByCoilAddress, CommandId.setDataByCoilAddress,
    CommandId.verifyCoilData, CommandId.signCoilData]

/-- The six commands of the application. -/
def CommandId.all : List UInt32 := [CommandId.seedCoil, CommandId.getAllCoilData,
  CommandId.getDataByCoilAddress, CommandId.setDataByCoilAddress, CommandId.verifyCoilData,
  CommandId.signCoilData]

theorem program_unknown (command : request.nCommandID ∉ CommandId.all) :
    request.program seed = pure (teeErrorBadParameters, request.pParams) := by
  simp only [CommandId.all, List.mem_cons, List.not_mem_nil, or_false, not_or] at command
  obtain ⟨a, b, c, d, e, f⟩ := command
  rw [Invocation.program, taInvokeCommandEntryPoint, if_neg a, if_neg b, if_neg c, if_neg d,
    if_neg e, if_neg f]

theorem Invocation.command_cases (request : Invocation) :
    request.nCommandID = CommandId.seedCoil ∨ request.nCommandID = CommandId.getAllCoilData ∨
      request.nCommandID = CommandId.getDataByCoilAddress ∨
      request.nCommandID = CommandId.setDataByCoilAddress ∨
      request.nCommandID = CommandId.verifyCoilData ∨
      request.nCommandID = CommandId.signCoilData ∨ request.nCommandID ∉ CommandId.all := by
  have known := Classical.em (request.nCommandID ∈ CommandId.all)
  nth_rewrite 1 [CommandId.all] at known
  simpa only [List.mem_cons, List.not_mem_nil, or_false, or_assoc] using known

variable (request) in
/-- What the entry point runs. -/
inductive Dispatch : TeeProgram (TeeResult × TeeParams) → Prop where
  | seedCoil (command : request.nCommandID = CommandId.seedCoil) :
      Dispatch (do
        let res ← taSeedCoil seed
        pure (res, request.pParams))
  | getAllCoilData (command : request.nCommandID = CommandId.getAllCoilData) :
      Dispatch (taGetAllCoilData request.pParams)
  | getDataByCoilAddress (command : request.nCommandID = CommandId.getDataByCoilAddress) :
      Dispatch (taGetDataByCoilAddress seed request.pParams)
  | setDataByCoilAddress (command : request.nCommandID = CommandId.setDataByCoilAddress) :
      Dispatch (taSetDataByCoilAddress seed request.pParams)
  | verifyCoilData (command : request.nCommandID = CommandId.verifyCoilData) :
      Dispatch (taVerifyCoilDAta request.pParams)
  | signCoilData (command : request.nCommandID = CommandId.signCoilData) :
      Dispatch (taSignCoilData request.pParams)
  | unknown (command : request.nCommandID ∉ CommandId.all) :
      Dispatch (pure (teeErrorBadParameters, request.pParams))

/-- The case split of everything that is about the program of a command. -/
theorem program_dispatch (request : Invocation) : Dispatch seed request (request.program seed) := by
  rcases request.command_cases with
    seeding | gettingAll | getting | setting | verifying | signing | unknown
  · exact program_seedCoil seed seeding ▸ .seedCoil seeding
  · exact program_getAllCoilData seed gettingAll ▸ .getAllCoilData gettingAll
  · exact program_getDataByCoilAddress seed getting ▸ .getDataByCoilAddress getting
  · exact program_setDataByCoilAddress seed setting ▸ .setDataByCoilAddress setting
  · exact program_verifyCoilData seed verifying ▸ .verifyCoilData verifying
  · exact program_signCoilData seed signing ▸ .signCoilData signing
  · exact program_unknown seed unknown ▸ .unknown unknown

variable (env : Environment) (s : Tee)

theorem invoke_eq (request : Invocation) :
    env.invoke seed request s = (request.program seed).run env.handler (request.supply s) := by
  unfold Environment.invoke
  rfl

/-- The calls that a command makes, each with its answer. -/
def Environment.calls (request : Invocation) : List TeeEvent :=
  (request.program seed).trace env.handler (request.supply s)

end EntryPoint

section Commands
variable (env : Environment) (seed : Seed) (s : Tee) {request : Invocation}

theorem signData_works_iff (command : request.nCommandID = CommandId.signCoilData) :
    (env.invoke seed request s).1.2.p1.b = 128 ↔ env.SignWorks s.cryptoCalls := by
  rw [invoke_eq, program_signCoilData seed command]
  simp only [taSignCoilData, Program.run_bind, Program.run_pure]
  exact taSign_signed_iff env (request.supply s) _ _ _ _

theorem getData_works_iff (command : request.nCommandID = CommandId.getDataByCoilAddress) :
    (env.invoke seed request s).1.2.p1.b = 128 ↔ env.SignWorks s.cryptoCalls := by
  rw [invoke_eq, program_getDataByCoilAddress seed command]
  simp only [taGetDataByCoilAddress, Program.run_bind, Program.run_pure]
  rw [taSign_signed_iff, taGetAllCoilDataUnpacked_calls]
  rfl

/-- What a signing leaves behind, decided by the calls it depends on. -/
theorem SigningResult.decided {env : Environment} {s t : Tee} {m : List UInt8}
    (result : SigningResult env s m pointer t len) (works : len = 128 ↔ env.SignWorks call) :
    ∃ out, out.length = len.toNat ∧ len ≤ 512 ∧
      t.memory pointer = (s.memory pointer).overlay 0 out ∧
      ((env.SignWorks call ∧ out = env.crypto.signature m ∧
          t.signed = s.signed ++ [(m, env.crypto.signature m)]) ∨
        (¬ env.SignWorks call ∧ out = List.replicate 512 0 ∧ t.signed = s.signed)) := by
  rcases result.outcome with ⟨rfl, memory, signed⟩ | ⟨rfl, memory, signed⟩
  · exact ⟨_, env.crypto.signature_length m, by decide, memory, .inl ⟨works.mp rfl, rfl, signed⟩⟩
  · have failing : ¬ env.SignWorks call := fun working => absurd (works.mpr working) (by decide)
    exact ⟨_, List.length_replicate, by decide, memory, .inr ⟨failing, rfl, signed⟩⟩

theorem verdict_word_iff (verdict : Int32) : verdict.toUInt32 = 1 ↔ verdict = 1 :=
  ⟨fun same => (congrArg UInt32.toInt32 same).trans rfl, fun same => same ▸ rfl⟩

theorem verifyData_works_iff (command : request.nCommandID = CommandId.verifyCoilData) :
    (env.invoke seed request s).1.2.p2.a = 1 ↔ env.VerifyWorks s.cryptoCalls ∧
      env.crypto.valid (request.bytes request.pParams.p0)
        (request.bytes request.pParams.p1) = true := by
  rw [invoke_eq, program_verifyCoilData seed command]
  simp only [taVerifyCoilDAta, Program.run_bind, Program.run_pure]
  rw [verdict_word_iff]
  exact taVerify_verified_iff env (request.supply s) _ _ _ _ _

theorem setData_published (command : request.nCommandID = CommandId.setDataByCoilAddress) :
    (env.invoke seed request s).1.2.p3.a = ((taVerify (.shared request.pParams.p1.buffer)
      request.pParams.p1.size.toNat request.pParams.p2.buffer request.pParams.p2.size 0).run
        env.handler (request.supply s)).1.2.toUInt32 := by
  rw [invoke_eq, program_setDataByCoilAddress seed command]
  simp only [taSetDataByCoilAddress, Program.run_bind]
  split <;> rfl

theorem setData_works_iff (command : request.nCommandID = CommandId.setDataByCoilAddress) :
    (env.invoke seed request s).1.2.p3.a = 1 ↔ env.VerifyWorks s.cryptoCalls ∧
      env.crypto.valid (request.bytes request.pParams.p1)
        (request.bytes request.pParams.p2) = true := by
  rw [setData_published env seed s command, verdict_word_iff]
  exact taVerify_verified_iff env (request.supply s) _ _ _ _ _

end Commands

end InvCtrl
