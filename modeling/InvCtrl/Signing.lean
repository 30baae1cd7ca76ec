import InvCtrl.TrustedApp

/-! What signing and verification guarantee under every pattern of failures, and
that they succeed when no cryptographic call fails. Each call has one lemma that
lists everything it can do; the routines are assembled from those. -/
namespace InvCtrl
open Interaction

def Environment.CryptoSucceeds (env : Environment) : Prop := ∀ n, env.cryptography n = .ok
def Environment.StorageSucceeds (env : Environment) : Prop := ∀ n, env.storage n = .ok

@[simp] theorem Crypto.signature_length (crypto : Crypto) (message : List UInt8) :
    (crypto.signature message).length = 128 := crypto.rsaSign_length _ _

section Calls
variable (env : Environment) (s : Tee)

theorem taAllocateOperation_cases (operation : Handle) (algorithm : Algorithm)
    (mode : OperationMode) (size : Nat) :
    (∃ res, (taAllocateOperation operation algorithm mode size).run env.handler s =
      ((res, .live s.next), s.cryptoCall.addOperation ⟨algorithm, mode, none⟩)) ∨
    (¬ env.CryptoSucceeds ∧ ∃ res,
      (taAllocateOperation operation algorithm mode size).run env.handler s =
        ((res, operation), s.cryptoCall)) := by
  by_cases ok : (env.cryptography s.cryptoCalls).result = teeSuccess
  · left
    exact ⟨teeSuccess, by simp [taAllocateOperation, Environment.handler,
      Environment.allocateOperation, ok]⟩
  · right
    refine ⟨fun all => ok (by rw [all]; rfl), (env.cryptography s.cryptoCalls).result, ?_⟩
    simp [taAllocateOperation, Environment.handler, Environment.allocateOperation, ok]

theorem taDigestDoFinal_cases (operation : Handle) (chunk : Buffer) (len : Nat)
    (hash : List UInt8) :
    ((∃ key, s.operation operation = some ⟨.sha256, .digest, key⟩) ∧
      ∃ res, (taDigestDoFinal operation chunk len hash 64).run env.handler s =
        ((res, env.crypto.sha256 (s.view chunk len) ++ hash.drop 32, 32),
          { s.cryptoCall with digested := s.view chunk len })) ∨
    (¬ (env.CryptoSucceeds ∧ ∃ key, s.operation operation = some ⟨.sha256, .digest, key⟩) ∧
      ∃ res, (taDigestDoFinal operation chunk len hash 64).run env.handler s =
        ((res, hash, 64), s.cryptoCall)) := by
  simp only [taDigestDoFinal, Program.run_bind, Program.run_perform, Program.run_pure,
    Environment.handler, Environment.digestDoFinal]
  split
  · split
    · next key found => exact .inl ⟨⟨key, found⟩, by simp [env.crypto.sha256_length]⟩
    · next unfit =>
      right
      refine ⟨fun ⟨_, key, found⟩ => unfit key found, teeErrorBadState, ?_⟩
      simp [teeErrorBadState, teeSuccess]
  · next failed =>
    right
    refine ⟨fun ⟨all, _⟩ => failed (by rw [all]; rfl), (env.cryptography s.cryptoCalls).result, ?_⟩
    simp

theorem taSetOperationKey_cases (operation key : Handle) :
    (∃ op keyType attrs, s.operation operation = some op ∧
      s.object key = some (.transient keyType (some attrs)) ∧
      ((taSetOperationKey operation key).run env.handler s).2 =
        s.cryptoCall.setOperation operation (some { op with key := some (keyType, attrs) })) ∨
    (¬ (env.CryptoSucceeds ∧ ∃ op keyType attrs, s.operation operation = some op ∧
        s.object key = some (.transient keyType (some attrs))) ∧
      ((taSetOperationKey operation key).run env.handler s).2 = s.cryptoCall) := by
  simp only [taSetOperationKey, Program.run_perform, Environment.handler,
    Environment.setOperationKey]
  split
  · split
    · next op keyType attrs live held => exact .inl ⟨op, keyType, attrs, live, held, rfl⟩
    · next unfit => exact .inr ⟨fun ⟨_, op, keyType, attrs, live, held⟩ => unfit _ _ _ live held, rfl⟩
  · next failed => exact .inr ⟨fun ⟨all, _⟩ => failed (by rw [all]; rfl), rfl⟩

theorem taAsymmetricVerifyDigest_cases (operation : Handle) (params : List Attribute)
    (digest : List UInt8) (digestLen : Nat) (signature : Buffer) (signatureLen : Nat) :
    let r := (taAsymmetricVerifyDigest operation params digest digestLen signature
      signatureLen).run env.handler s
    r.2 = s.cryptoCall ∧
    (r.1 = teeSuccess → ∃ keyType attrs,
      s.operation operation = some ⟨.rsassaPkcs1V15Sha256, .verify, some (keyType, attrs)⟩ ∧
      (digest.take digestLen).length = 32 ∧
      env.crypto.rsaVerify attrs (digest.take digestLen) (s.view signature signatureLen) = true) ∧
    (env.CryptoSucceeds → ∀ keyType attrs,
      s.operation operation = some ⟨.rsassaPkcs1V15Sha256, .verify, some (keyType, attrs)⟩ →
      (digest.take digestLen).length = 32 →
      env.crypto.rsaVerify attrs (digest.take digestLen) (s.view signature signatureLen) = true →
      r.1 = teeSuccess) := by
  have error : teeErrorSignatureInvalid ≠ teeSuccess := by decide
  have badState : teeErrorBadState ≠ teeSuccess := by decide
  simp only [taAsymmetricVerifyDigest, Program.run_perform, Environment.handler,
    Environment.asymmetricVerifyDigest]
  split
  · split
    · next keyType attrs found =>
      split
      · next accepted => exact ⟨rfl, fun _ => ⟨keyType, attrs, found, accepted⟩, fun _ _ _ _ _ _ => rfl⟩
      · next rejected =>
        refine ⟨rfl, fun success => absurd success error, fun _ _ _ live length valid => ?_⟩
        cases found.symm.trans live
        exact absurd ⟨length, valid⟩ rejected
    · next unfit =>
      exact ⟨rfl, fun success => absurd success badState,
        fun _ _ _ live _ _ => absurd live (unfit _ _)⟩
  · next failed =>
    exact ⟨rfl, fun success => absurd success failed, fun all => absurd (by rw [all]; rfl) failed⟩

/-- A key handle denotes nothing, an empty key object or the populated one, and the
populated one when no call fails. -/
structure KeyHeld (t : Tee) (key : Handle) (keyType : KeyType) (attrs : List Attribute) : Prop where
  object : t.object key = none ∨ t.object key = some (.transient keyType none) ∨
    t.object key = some (.transient keyType (some attrs))
  complete : env.CryptoSucceeds → t.object key = some (.transient keyType (some attrs))

theorem KeyHeld.congr {env : Environment} {s t : Tee} {key : Handle}
    (held : KeyHeld env s key keyType attrs) (same : t.object key = s.object key) :
    KeyHeld env t key keyType attrs :=
  ⟨same ▸ held.object, same ▸ held.complete⟩

/-- What `createKey` can leave behind when its handle was cleared before. -/
structure KeyCreated (s t : Tee) (key : Handle) (keyType : KeyType) (attrs : List Attribute) :
    Prop where
  handle : key = .null ∨ key = .live s.next ∧ s.next < t.next
  object : KeyHeld env t key keyType attrs
  older : ∀ id, id < s.next → t.objects id = s.objects id
  operations : t.operations = s.operations
  digested : t.digested = s.digested
  next : s.next ≤ t.next

theorem createKey_created (keyType : KeyType) (attrs : List Attribute) :
    KeyCreated env s ((createKey maxKeySize keyType attrs .null).run env.handler s).2
      ((createKey maxKeySize keyType attrs .null).run env.handler s).1.2 keyType attrs := by
  by_cases allocated : (env.cryptography s.cryptoCalls).result = teeSuccess
  · by_cases populated : (env.cryptography (s.cryptoCalls + 1)).result = teeSuccess
    · simp only [createKey, taAllocateTransientObject, taPopulateTransientObject, Program.run_bind,
        Program.run_perform, Program.run_pure, Environment.handler,
        Environment.allocateTransientObject, Environment.populateTransientObject, allocated,
        populated, Tee.addObject, Tee.cryptoCall, Tee.object_live, Function.update_self, ↓reduceIte]
      constructor
      case object => constructor <;> simp [Tee.setObject]
      all_goals simp +contextual [Tee.setObject, Function.update_of_ne, Nat.ne_of_lt]
    · simp only [createKey, taAllocateTransientObject, taPopulateTransientObject, Program.run_bind,
        Program.run_perform, Program.run_pure, Environment.handler,
        Environment.allocateTransientObject, Environment.populateTransientObject, allocated,
        populated, Tee.addObject, Tee.cryptoCall, ↓reduceIte]
      constructor
      case object =>
        exact ⟨.inr (.inl (by simp)), fun all => absurd (by rw [all]; rfl) populated⟩
      all_goals simp +contextual [Function.update_of_ne, Nat.ne_of_lt]
  · simp only [createKey, taAllocateTransientObject, taPopulateTransientObject, Program.run_bind,
      Program.run_perform, Program.run_pure, Environment.handler,
      Environment.allocateTransientObject, Environment.populateTransientObject, allocated,
      Tee.object_null, ↓reduceIte]
    constructor
    case object => exact ⟨.inl rfl, fun all => absurd (by rw [all]; rfl) allocated⟩
    all_goals split <;> simp [Tee.cryptoCall]

/-- The state of `taSignAndVerify` before its switch. -/
structure Prepared (t : Tee) (message : List UInt8) (operation : Handle)
    (hashed : List UInt8 × Nat) (publicKey privateKey : Handle) : Prop where
  operation : t.operation operation = none ∨
    ∃ key, t.operation operation = some ⟨.sha256, .digest, key⟩
  hash : (hashed.1.take hashed.2 = env.crypto.sha256 message ∧ t.digested = message) ∨
    (hashed.1.take hashed.2).length ≠ 32
  hashComplete : env.CryptoSucceeds →
    hashed.1.take hashed.2 = env.crypto.sha256 message ∧ t.digested = message
  publicKey : KeyHeld env t publicKey .rsaPublicKey publicKeyAttrs
  privateKey : KeyHeld env t privateKey .rsaKeypair keypairAttrs

theorem createKeys_prepared (message : List UInt8) (operation : Handle)
    (hashed : List UInt8 × Nat)
    (digest : s.operation operation = none ∨
      ∃ key, s.operation operation = some ⟨.sha256, .digest, key⟩)
    (hash : (hashed.1.take hashed.2 = env.crypto.sha256 message ∧ s.digested = message) ∨
      (hashed.1.take hashed.2).length ≠ 32)
    (hashComplete : env.CryptoSucceeds →
      hashed.1.take hashed.2 = env.crypto.sha256 message ∧ s.digested = message) :
    let first := (createKey maxKeySize .rsaPublicKey publicKeyAttrs .null).run env.handler s
    let second := (createKey maxKeySize .rsaKeypair keypairAttrs .null).run env.handler first.2
    Prepared env second.2 message operation hashed first.1.2 second.1.2 := by
  intro first second
  have one := createKey_created env s .rsaPublicKey publicKeyAttrs
  have two := createKey_created env first.2 .rsaKeypair keypairAttrs
  have operations : second.2.operations = s.operations := two.operations.trans one.operations
  have digested : second.2.digested = s.digested := two.digested.trans one.digested
  have same : second.2.operation operation = s.operation operation := by
    cases operation <;> simp [Tee.operation, operations]
  refine ⟨same ▸ digest, digested ▸ hash, digested ▸ hashComplete, ?_, two.object⟩
  refine one.object.congr ?_
  rcases one.handle with null | ⟨live, fresh⟩
  · change second.2.object first.1.2 = first.2.object first.1.2
    rw [show first.1.2 = .null from null]; rfl
  · change second.2.object first.1.2 = first.2.object first.1.2
    rw [show first.1.2 = .live s.next from live]
    exact two.older _ fresh

theorem taDigestAndKeys_prepared (dataToSign : Buffer) (dataLen : Nat) :
    let r := (taDigestAndKeys dataToSign dataLen).run env.handler s
    Prepared env r.2 (s.view dataToSign dataLen) r.1.1 r.1.2.1 r.1.2.2.1 r.1.2.2.2 := by
  have residue : ((List.range 64).map env.residue).length = 64 := by simp
  have viewed (operation : OperationState) :
      (s.cryptoCall.addOperation operation).view dataToSign dataLen = s.view dataToSign dataLen := by
    cases dataToSign <;> rfl
  simp only [taDigestAndKeys, Program.run_bind, Program.run_perform, Program.run_pure,
    Environment.handler]
  generalize (List.range 64).map env.residue = hash at residue
  rcases taAllocateOperation_cases env s .null .sha256 .digest 0 with
    ⟨_, allocated⟩ | ⟨failing, _, unallocated⟩
  · rw [allocated]
    rcases taDigestDoFinal_cases env (s.cryptoCall.addOperation ⟨.sha256, .digest, none⟩)
        (.live s.next) dataToSign dataLen hash with ⟨_, _, digested⟩ | ⟨failing, _, undigested⟩
    · rw [digested]
      refine createKeys_prepared env _ _ _ _ (.inr ⟨none, ?_⟩) (.inl ⟨?_, viewed _⟩)
        fun _ => ⟨?_, viewed _⟩
      · simp [Tee.addOperation, Tee.cryptoCall]
      all_goals simp [viewed, env.crypto.sha256_length]
    · rw [undigested]
      refine createKeys_prepared env _ _ _ _ (.inr ⟨none, ?_⟩) (.inr ?_) fun all => ?_
      · simp [Tee.addOperation, Tee.cryptoCall]
      · simp [residue]
      · exact absurd ⟨all, none, by simp [Tee.addOperation, Tee.cryptoCall]⟩ failing
  · rw [unallocated]
    rcases taDigestDoFinal_cases env s.cryptoCall .null dataToSign dataLen hash with
      ⟨⟨_, found⟩, _⟩ | ⟨_, _, undigested⟩
    · cases found
    · rw [undigested]
      exact createKeys_prepared env _ _ _ _ (.inl rfl) (.inr (by simp [residue]))
        fun all => absurd all failing

/-- An operation that is no signature operation stays one when a key is set. -/
theorem taSetOperationKey_digest (operation key : Handle)
    (digest : s.operation operation = none ∨
      ∃ key, s.operation operation = some ⟨.sha256, .digest, key⟩) :
    let t := ((taSetOperationKey operation key).run env.handler s).2
    t.operation operation = none ∨ ∃ key, t.operation operation = some ⟨.sha256, .digest, key⟩ := by
  intro t
  rcases taSetOperationKey_cases env s operation key with
    ⟨op, keyType, attrs, live, _, set⟩ | ⟨_, unset⟩
  · have mode : ∃ key, op = ⟨.sha256, .digest, key⟩ := by
      rcases digest with absent | ⟨key, found⟩
      · exact absurd (live.symm.trans absent) (by simp)
      · exact ⟨key, Option.some.inj (live.symm.trans found)⟩
    obtain ⟨_, rfl⟩ := mode
    cases operation with
    | live id => exact .inr ⟨some (keyType, attrs), by simp [t, set, Tee.setOperation]⟩
    | null | indeterminate => cases live
  · have same : t.operation operation = s.operation operation := by
      change Tee.operation (Prod.snd _) operation = _
      rw [unset]; cases operation <;> rfl
    rw [same]; exact digest

/-- A fresh operation gets either no key or exactly the one the handle holds. -/
theorem taSetOperationKey_held (operation key : Handle) (algorithm : Algorithm)
    (mode : OperationMode) (fresh : s.operation operation = some ⟨algorithm, mode, none⟩)
    (held : KeyHeld env s key keyType attrs) :
    let t := ((taSetOperationKey operation key).run env.handler s).2
    ∃ given, t.operation operation = some ⟨algorithm, mode, given⟩ ∧
      (given = none ∨ given = some (keyType, attrs)) ∧
      (env.CryptoSucceeds → given = some (keyType, attrs)) := by
  intro t
  rcases taSetOperationKey_cases env s operation key with
    ⟨op, type, list, live, found, set⟩ | ⟨failing, unset⟩
  · cases fresh.symm.trans live
    have exact : type = keyType ∧ list = attrs := by
      rcases held.object with absent | empty | populated
      · cases absent.symm.trans found
      · cases empty.symm.trans found
      · cases populated.symm.trans found; exact ⟨rfl, rfl⟩
    obtain ⟨rfl, rfl⟩ := exact
    refine ⟨some (type, list), ?_, .inr rfl, fun _ => rfl⟩
    change Tee.operation (Prod.snd _) operation = _
    rw [set]
    cases operation with
    | live id => simp [Tee.setOperation]
    | null | indeterminate => cases live
  · refine ⟨none, ?_, .inl rfl, fun all => ?_⟩
    · change Tee.operation (Prod.snd _) operation = _
      rw [unset, ← fresh]; cases operation <;> rfl
    · exact absurd ⟨all, _, _, _, fresh, held.complete all⟩ failing

/-- The calls with which the verify case and the sign case both begin. -/
def armOperation (operation key : Handle) (mode : OperationMode) : TeeProgram Handle := do
  let (_, operation) ← taAllocateOperation operation .rsassaPkcs1V15Sha256 mode maxKeySize
  let _ ← taSetOperationKey operation key
  let _ ← taFreeTransientObject key
  pure operation

/-- A signature operation that holds a key was made in this mode and holds this key. -/
structure Armed (t : Tee) (operation : Handle) (mode : OperationMode) (keyType : KeyType)
    (attrs : List Attribute) : Prop where
  sound : ∀ other key, t.operation operation = some ⟨.rsassaPkcs1V15Sha256, other, some key⟩ →
    other = mode ∧ key = (keyType, attrs)
  complete : env.CryptoSucceeds →
    t.operation operation = some ⟨.rsassaPkcs1V15Sha256, mode, some (keyType, attrs)⟩

theorem armOperation_armed (operation key : Handle) (mode : OperationMode)
    (digest : s.operation operation = none ∨
      ∃ key, s.operation operation = some ⟨.sha256, .digest, key⟩)
    (held : KeyHeld env s key keyType attrs) :
    let r := (armOperation operation key mode).run env.handler s
    Armed env r.2 r.1 mode keyType attrs := by
  have freed (t : Tee) (handle : Handle) :
      (t.setObject key none).operation handle = t.operation handle := by
    cases key <;> cases handle <;> rfl
  simp only [armOperation, Program.run_bind, Program.run_pure, taFreeTransientObject,
    Program.run_perform, Environment.handler]
  rcases taAllocateOperation_cases env s operation .rsassaPkcs1V15Sha256 mode maxKeySize with
    ⟨_, allocated⟩ | ⟨failing, _, unallocated⟩
  · rw [allocated]
    have kept : KeyHeld env (s.cryptoCall.addOperation ⟨.rsassaPkcs1V15Sha256, mode, none⟩) key
        keyType attrs := held.congr (by cases key <;> rfl)
    obtain ⟨given, armed, holds, complete⟩ :=
      taSetOperationKey_held env _ (.live s.next) key .rsassaPkcs1V15Sha256 mode
        (by simp [Tee.addOperation, Tee.cryptoCall]) kept
    constructor
    · intro other inside found
      rw [freed, armed] at found
      rcases holds with rfl | rfl
      · cases found
      · cases found; exact ⟨rfl, rfl⟩
    · intro all
      rw [freed, armed, complete all]
  · rw [unallocated]
    have stays := taSetOperationKey_digest env s.cryptoCall operation key
      (by cases operation <;> exact digest)
    constructor
    · intro other inside found
      rw [freed] at found
      rcases stays with absent | ⟨_, present⟩
      · cases absent.symm.trans found
      · cases present.symm.trans found
    · exact fun all => absurd all failing

theorem taSetOperationKey_digested (operation key : Handle) :
    ((taSetOperationKey operation key).run env.handler s).2.digested = s.digested := by
  rcases taSetOperationKey_cases env s operation key with ⟨_, _, _, _, _, set⟩ | ⟨_, unset⟩
  · rw [set]; cases operation <;> rfl
  · rw [unset]; rfl

theorem armOperation_digested (operation key : Handle) (mode : OperationMode) :
    ((armOperation operation key mode).run env.handler s).2.digested = s.digested := by
  have freed (t : Tee) : (t.setObject key none).digested = t.digested := by cases key <;> rfl
  simp only [armOperation, Program.run_bind, Program.run_pure, taFreeTransientObject,
    Program.run_perform, Environment.handler, freed, taSetOperationKey_digested]
  rcases taAllocateOperation_cases env s operation .rsassaPkcs1V15Sha256 mode maxKeySize with
    ⟨_, allocated⟩ | ⟨_, _, unallocated⟩
  · rw [allocated]; rfl
  · rw [unallocated]; rfl

theorem taVerifyCase_eq (operation publicKey : Handle) (hashed : List UInt8 × Nat)
    (signaturePtr signatureLen : UInt32) :
    taVerifyCase operation publicKey hashed signaturePtr signatureLen =
      (do
        let operation ← armOperation operation publicKey .verify
        let res ← taAsymmetricVerifyDigest operation algoParams hashed.1 hashed.2
          (.shared signaturePtr) signatureLen.toNat
        pure (operation, if res = teeSuccess then 1 else -1)) := by
  simp only [taVerifyCase, armOperation, bind_assoc, pure_bind]

theorem taSignCase_eq (operation privateKey : Handle) (hashed : List UInt8 × Nat)
    (signaturePtr : UInt32) :
    taSignCase operation privateKey hashed signaturePtr =
      (do
        let operation ← armOperation operation privateKey .sign
        let (_, out, outSize) ← taAsymmetricSignDigest operation algoParams hashed.1 hashed.2
          (List.replicate 512 0) 512
        taCopySignature signaturePtr 0 (out.take outSize)
        pure (operation, UInt32.ofNat outSize)) := by
  simp only [taSignCase, armOperation, bind_assoc, pure_bind]

theorem taAsymmetricSignDigest_cases (operation : Handle) (params : List Attribute)
    (digest : List UInt8) (digestLen : Nat) (out : List UInt8) :
    (∃ attrs, s.operation operation =
        some ⟨.rsassaPkcs1V15Sha256, .sign, some (.rsaKeypair, attrs)⟩ ∧
      (digest.take digestLen).length = 32 ∧
      (taAsymmetricSignDigest operation params digest digestLen out 512).run env.handler s =
        ((teeSuccess, env.crypto.rsaSign attrs (digest.take digestLen) ++ out.drop 128, 128),
          { s.cryptoCall with
            signed := s.signed ++
              [(s.digested, env.crypto.rsaSign attrs (digest.take digestLen))] })) ∨
    (¬ (env.CryptoSucceeds ∧ (digest.take digestLen).length = 32 ∧ ∃ attrs,
        s.operation operation =
          some ⟨.rsassaPkcs1V15Sha256, .sign, some (.rsaKeypair, attrs)⟩) ∧
      ∃ res, (taAsymmetricSignDigest operation params digest digestLen out 512).run env.handler s =
        ((res, out, 512), s.cryptoCall)) := by
  simp only [taAsymmetricSignDigest, Program.run_bind, Program.run_perform, Program.run_pure,
    Environment.handler, Environment.asymmetricSignDigest, env.crypto.rsaSign_length]
  split
  · split
    · next attrs found =>
      by_cases whole : (digest.take digestLen).length = 32
      · exact .inl ⟨attrs, found, whole, by simp [whole, env.crypto.rsaSign_length]⟩
      · right
        refine ⟨fun ⟨_, length, _⟩ => whole length, teeErrorBadParameters, ?_⟩
        rw [if_pos whole]; rfl
    · next unfit =>
      right
      exact ⟨fun ⟨_, _, attrs, found⟩ => unfit attrs found, teeErrorBadState, rfl⟩
  · next failed =>
    right
    refine ⟨fun ⟨all, _⟩ => failed (by rw [all]; rfl), (env.cryptography s.cryptoCalls).result, ?_⟩
    rfl

/-- The copy loop stores `out` from its first offset on. -/
theorem taCopySignature_run (signaturePtr : UInt32) (loop : Nat) (out : List UInt8) :
    (taCopySignature signaturePtr loop out).run env.handler s =
      ((), s.setMemory signaturePtr ((s.memory signaturePtr).overlay loop out)) := by
  induction out generalizing loop s with
  | nil => simp [taCopySignature, Tee.setMemory]
  | cons value rest ih =>
    simp [taCopySignature, Environment.handler, ih, Tee.setMemory, ByteMemory.overlay_cons]

end Calls

section Frame

/-- What only storage calls, signing and stores through a parameter can move. -/
def Tee.visible (s : Tee) :
    (List UInt8 → Option (List UInt8)) × (UInt32 → ByteMemory) × List (List UInt8 × List UInt8) ×
      Nat :=
  (s.store, s.memory, s.signed, s.storageCalls)

/-- Every cryptographic call but the signature itself. -/
def TeeCall.Quiet : TeeCall → Prop
  | .createPersistentObject .. | .openPersistentObject .. | .readObjectData .. | .closeObject ..
  | .asymmetricSignDigest .. | .storeByte .. => False
  | _ => True

variable (env : Environment) (s : Tee)

@[simp] theorem visible_setObject (handle : Handle) (object : Option ObjectState) :
    (s.setObject handle object).visible = s.visible := by cases handle <;> rfl

@[simp] theorem visible_setOperation (handle : Handle) (operation : Option OperationState) :
    (s.setOperation handle operation).visible = s.visible := by cases handle <;> rfl

theorem quiet_frame (request : TeeCall) (s : Tee) (quiet : request.Quiet) :
    (env.handler request s).2.visible = s.visible := by
  cases request with
  | createPersistentObject | openPersistentObject | readObjectData | closeObject
  | asymmetricSignDigest | storeByte => exact quiet.elim
  | uninitialized => rfl
  | freeTransientObject object => exact visible_setObject s object none
  | freeOperation operation => exact visible_setOperation s operation none
  | allocateTransientObject =>
    simp only [Environment.handler, Environment.allocateTransientObject]; split <;> rfl
  | populateTransientObject object attrs =>
    simp only [Environment.handler, Environment.populateTransientObject]
    split
    · split
      · exact visible_setObject s.cryptoCall object _
      · rfl
    · rfl
  | allocateOperation =>
    simp only [Environment.handler, Environment.allocateOperation]; split <;> rfl
  | setOperationKey operation key =>
    simp only [Environment.handler, Environment.setOperationKey]
    split
    · split
      · exact visible_setOperation s.cryptoCall operation _
      · rfl
    · rfl
  | digestDoFinal =>
    simp only [Environment.handler, Environment.digestDoFinal]
    split
    · split
      · split <;> rfl
      · rfl
    · rfl
  | asymmetricVerifyDigest =>
    simp only [Environment.handler, Environment.asymmetricVerifyDigest]
    split
    · split
      · split <;> rfl
      · rfl
    · rfl

theorem taAsymmetricSignDigest_uses {allowed : TeeCall → Prop} (operation : Handle)
    (params : List Attribute) (digest : List UInt8) (digestLen : Nat) (signature : List UInt8)
    (signatureLen : Nat)
    (signs : allowed (.asymmetricSignDigest operation params (digest.take digestLen) signatureLen)) :
    (taAsymmetricSignDigest operation params digest digestLen signature signatureLen).Uses allowed :=
  ⟨signs, fun _ => trivial⟩

theorem createKey_quiet (size : Nat) (keyType : KeyType) (attrs : List Attribute)
    (handle : Handle) : (createKey size keyType attrs handle).Uses TeeCall.Quiet := by
  simp [createKey, taAllocateTransientObject, taPopulateTransientObject, TeeCall.Quiet]

theorem taDigestAndKeys_quiet (dataToSign : Buffer) (dataLen : Nat) :
    (taDigestAndKeys dataToSign dataLen).Uses TeeCall.Quiet := by
  simp only [taDigestAndKeys, taAllocateOperation, taDigestDoFinal, bind_assoc, pure_bind,
    Program.uses_perform_bind, TeeCall.Quiet, true_and]
  intro residue allocated digest
  refine .bind (createKey_quiet ..) fun publicKey => ?_
  exact .bind (createKey_quiet ..) fun privateKey => Program.uses_pure _

theorem armOperation_quiet (operation key : Handle) (mode : OperationMode) :
    (armOperation operation key mode).Uses TeeCall.Quiet := by
  simp [armOperation, taAllocateOperation, taSetOperationKey, taFreeTransientObject, TeeCall.Quiet]

/-- One walk over a signing, for every class of calls. -/
theorem taSign_uses {allowed : TeeCall → Prop} (dataToSign : Buffer) (dataLen : Nat)
    (signaturePtr signatureLen : UInt32)
    (prepares : (taDigestAndKeys dataToSign dataLen).Uses allowed)
    (arms : ∀ operation key mode, (armOperation operation key mode).Uses allowed)
    (signs : ∀ operation params digest len, allowed (.asymmetricSignDigest operation params digest len))
    (stores : ∀ offset value, allowed (.storeByte signaturePtr offset value))
    (frees : ∀ operation, allowed (.freeOperation operation)) :
    (taSign dataToSign dataLen signaturePtr signatureLen).Uses allowed := by
  have copies (loop : Nat) (out : List UInt8) :
      (taCopySignature signaturePtr loop out).Uses allowed := by
    induction out generalizing loop with
    | nil => trivial
    | cons value rest ih => exact ⟨stores loop value, fun _ => ih (loop + 1)⟩
  simp only [taSign, taSignAndVerify, taSignCase_eq, bind_assoc, pure_bind]
  refine .bind prepares fun prepared => ?_
  refine .bind (arms _ _ _) fun operation => ?_
  refine .bind (taAsymmetricSignDigest_uses _ _ _ _ _ _ (signs _ _ _ _)) fun signed => ?_
  exact .bind (copies _ _) fun _ => ⟨frees _, fun _ => trivial⟩

theorem taVerify_uses {allowed : TeeCall → Prop} (dataToSign : Buffer) (dataLen : Nat)
    (signaturePtr signatureLen : UInt32) (signatureVerified : Int32)
    (prepares : (taDigestAndKeys dataToSign dataLen).Uses allowed)
    (arms : ∀ operation key mode, (armOperation operation key mode).Uses allowed)
    (verifies : ∀ operation params digest, allowed (.asymmetricVerifyDigest operation params digest
      (.shared signaturePtr) signatureLen.toNat))
    (frees : ∀ operation, allowed (.freeOperation operation)) :
    (taVerify dataToSign dataLen signaturePtr signatureLen signatureVerified).Uses allowed := by
  simp only [taVerify, taSignAndVerify, taVerifyCase_eq, bind_assoc, pure_bind]
  refine .bind prepares fun prepared => ?_
  refine .bind (arms _ _ _) fun operation => ?_
  exact ⟨verifies _ _ _, fun _ => ⟨frees _, fun _ => trivial⟩⟩

theorem quiet_visible {α : Type} {p : TeeProgram α} (quiet : p.Uses TeeCall.Quiet) :
    (p.run env.handler s).2.visible = s.visible :=
  Program.run_frame env.handler Tee.visible (quiet_frame env) quiet s

end Frame

section Specifications
variable (env : Environment) (s : Tee)

/-- The verdict of a verification, and that nothing else is visible of it. -/
structure Verified (t : Tee) (verdict : Int32) (message signature : List UInt8) : Prop where
  decided : verdict = 1 ∨ verdict = -1
  sound : verdict = 1 → env.crypto.valid message signature = true
  complete : env.CryptoSucceeds → env.crypto.valid message signature = true → verdict = 1
  visible : t.visible = s.visible

theorem visible_ext {s t : Tee} (same : t.visible = s.visible) :
    t.store = s.store ∧ t.memory = s.memory ∧ t.signed = s.signed ∧
      t.storageCalls = s.storageCalls := by
  simpa only [Tee.visible, Prod.mk.injEq] using same

theorem visible_view {s t : Tee} (same : t.visible = s.visible) (pointer : UInt32) :
    t.view (.shared pointer) = s.view (.shared pointer) := by
  funext count
  exact congrArg (fun v => (v.2.1 pointer).slice 0 count) same

theorem refusal_apart : (-1 : Int32) ≠ 1 := by decide

theorem taVerifyCase_verified (operation publicKey privateKey : Handle)
    (hashed : List UInt8 × Nat) (message : List UInt8) (signaturePtr signatureLen : UInt32)
    (prepared : Prepared env s message operation hashed publicKey privateKey) :
    let r := (taVerifyCase operation publicKey hashed signaturePtr signatureLen).run env.handler s
    Verified env s r.2 r.1.2 message (s.view (.shared signaturePtr) signatureLen.toNat) := by
  rw [taVerifyCase_eq]
  simp only [Program.run_bind, Program.run_pure]
  have armed := armOperation_armed env s operation publicKey .verify prepared.operation
    prepared.publicKey
  have quiet := quiet_visible env s (armOperation_quiet operation publicKey .verify)
  generalize (armOperation operation publicKey .verify).run env.handler s = r at armed quiet
  obtain ⟨handle, t⟩ := r
  have viewed := visible_view quiet signaturePtr
  obtain ⟨state, sound, complete⟩ := taAsymmetricVerifyDigest_cases env t handle algoParams
    hashed.1 hashed.2 (.shared signaturePtr) signatureLen.toNat
  constructor
  case decided => split <;> simp
  case visible => rw [state]; exact quiet
  case sound =>
    intro one
    have success := by_contra fun failure => by rw [if_neg failure] at one; cases one
    obtain ⟨keyType, attrs, found, whole, valid⟩ := sound success
    obtain ⟨_, key⟩ := armed.sound _ _ found
    cases key
    rcases prepared.hash with ⟨digest, _⟩ | broken
    · rwa [digest, viewed] at valid
    · exact absurd whole broken
  case complete =>
    intro all valid
    have digest := (prepared.hashComplete all).1
    refine if_pos (complete all _ _ (armed.complete all) ?_ ?_)
    · rw [digest, env.crypto.sha256_length]
    · rwa [digest, viewed]

theorem taVerify_verified (dataToSign : Buffer) (dataLen : Nat) (signaturePtr signatureLen : UInt32)
    (signatureVerified : Int32) :
    let r := (taVerify dataToSign dataLen signaturePtr signatureLen signatureVerified).run
      env.handler s
    r.1.1 = teeSuccess ∧ Verified env s r.2 r.1.2 (s.view dataToSign dataLen)
      (s.view (.shared signaturePtr) signatureLen.toNat) := by
  have prepared := taDigestAndKeys_prepared env s dataToSign dataLen
  have quiet := quiet_visible env s (taDigestAndKeys_quiet dataToSign dataLen)
  simp only [taVerify, taSignAndVerify, taFreeOperation, Program.run_bind, Program.run_pure,
    Program.run_perform, Environment.handler, true_and]
  generalize (taDigestAndKeys dataToSign dataLen).run env.handler s = r at prepared quiet
  obtain ⟨⟨operation, hashed, publicKey, privateKey⟩, t⟩ := r
  have viewed := visible_view quiet signaturePtr
  have verified := taVerifyCase_verified env t operation publicKey privateKey hashed _ signaturePtr
    signatureLen prepared
  rw [viewed] at verified
  refine ⟨verified.decided, verified.sound, verified.complete, ?_⟩
  rw [visible_setOperation]
  exact verified.visible.trans quiet

/-- What a signing leaves: the signature behind the pointer, its length and one more
signed message; or, after a failure, 512 zeros and the length 512. -/
inductive SigningResult (message : List UInt8) (signaturePtr : UInt32) (t : Tee) : UInt32 → Prop where
  | signed
      (visible : t.visible = (s.store,
        Function.update s.memory signaturePtr
          ((s.memory signaturePtr).overlay 0 (env.crypto.signature message)),
        s.signed ++ [(message, env.crypto.signature message)], s.storageCalls)) :
      SigningResult message signaturePtr t 128
  | failed (failing : ¬ env.CryptoSucceeds)
      (visible : t.visible = (s.store,
        Function.update s.memory signaturePtr
          ((s.memory signaturePtr).overlay 0 (List.replicate 512 0)),
        s.signed, s.storageCalls)) :
      SigningResult message signaturePtr t 512

theorem SigningResult.congr {env : Environment} {s t u : Tee} {message : List UInt8}
    (result : SigningResult env t message signaturePtr u len) (same : t.visible = s.visible) :
    SigningResult env s message signaturePtr u len := by
  obtain ⟨store, memory, signed, calls⟩ := visible_ext same
  cases result with
  | signed visible => exact .signed (by rw [visible, store, memory, signed, calls])
  | failed failing visible => exact .failed failing (by rw [visible, store, memory, signed, calls])

theorem SigningResult.store {env : Environment} {s t : Tee} {message : List UInt8}
    (result : SigningResult env s message signaturePtr t len) : t.store = s.store := by
  cases result with
  | signed visible => exact congrArg Prod.fst visible
  | failed failing visible => exact congrArg Prod.fst visible

/-- The two outcomes of a signing, told apart by the length. -/
theorem SigningResult.outcome {env : Environment} {s t : Tee} {message : List UInt8}
    (result : SigningResult env s message signaturePtr t len) :
    (len = 128 ∧
      t.memory signaturePtr = (s.memory signaturePtr).overlay 0 (env.crypto.signature message) ∧
      t.signed = s.signed ++ [(message, env.crypto.signature message)]) ∨
    (len = 512 ∧
      t.memory signaturePtr = (s.memory signaturePtr).overlay 0 (List.replicate 512 0) ∧
      t.signed = s.signed) := by
  cases result with
  | signed visible =>
    refine .inl ⟨rfl, ?_, congrArg (·.2.2.1) visible⟩
    exact (congrFun (congrArg (·.2.1) visible) _).trans (Function.update_self ..)
  | failed failing visible =>
    refine .inr ⟨rfl, ?_, congrArg (·.2.2.1) visible⟩
    exact (congrFun (congrArg (·.2.1) visible) _).trans (Function.update_self ..)

/-- A signing that cannot fail returns the signature of the message. -/
theorem SigningResult.complete {env : Environment} {s t : Tee} {message : List UInt8}
    (result : SigningResult env s message signaturePtr t len) (succeeds : env.CryptoSucceeds) :
    len = 128 ∧ t.signed = s.signed ++ [(message, env.crypto.signature message)] ∧
      t.memory = Function.update s.memory signaturePtr
        ((s.memory signaturePtr).overlay 0 (env.crypto.signature message)) := by
  cases result with
  | signed visible => exact ⟨rfl, congrArg (·.2.2.1) visible, congrArg (·.2.1) visible⟩
  | failed failing visible => exact absurd succeeds failing

theorem SigningResult.visible_congr {env : Environment} {s t u : Tee} {message : List UInt8}
    (result : SigningResult env s message signaturePtr t len) (same : u.visible = t.visible) :
    SigningResult env s message signaturePtr u len := by
  cases result with
  | signed visible => exact .signed (same.trans visible)
  | failed failing visible => exact .failed failing (same.trans visible)

theorem taSignCase_result (operation publicKey privateKey : Handle) (hashed : List UInt8 × Nat)
    (message : List UInt8) (signaturePtr : UInt32)
    (prepared : Prepared env s message operation hashed publicKey privateKey) :
    let r := (taSignCase operation privateKey hashed signaturePtr).run env.handler s
    SigningResult env s message signaturePtr r.2 r.1.2 := by
  rw [taSignCase_eq]
  simp only [Program.run_bind, Program.run_pure]
  have armed := armOperation_armed env s operation privateKey .sign prepared.operation
    prepared.privateKey
  have quiet := quiet_visible env s (armOperation_quiet operation privateKey .sign)
  have digested := armOperation_digested env s operation privateKey .sign
  generalize (armOperation operation privateKey .sign).run env.handler s = r at armed quiet digested
  obtain ⟨handle, t⟩ := r
  refine SigningResult.congr (t := t) ?_ quiet
  rcases taAsymmetricSignDigest_cases env t handle algoParams hashed.1 hashed.2
      (List.replicate 512 0) with ⟨attrs, found, whole, signed⟩ | ⟨failing, res, failed⟩
  · obtain ⟨_, key⟩ := armed.sound _ _ found
    cases key
    obtain ⟨digest, message⟩ := prepared.hash.resolve_right fun broken => broken whole
    have signature : env.crypto.rsaSign keypairAttrs (hashed.1.take hashed.2) =
        env.crypto.signature _ := congrArg (env.crypto.rsaSign keypairAttrs) digest
    rw [signed, signature, digested.trans message, taCopySignature_run,
      List.take_left' (env.crypto.signature_length _)]
    exact .signed rfl
  · rw [failed, taCopySignature_run,
      List.take_of_length_le (Nat.le_of_eq List.length_replicate)]
    refine .failed (fun all => failing ⟨all, ?_, keypairAttrs, armed.complete all⟩) rfl
    rw [(prepared.hashComplete all).1, env.crypto.sha256_length]

theorem taSign_result (dataToSign : Buffer) (dataLen : Nat) (signaturePtr signatureLen : UInt32) :
    let r := (taSign dataToSign dataLen signaturePtr signatureLen).run env.handler s
    r.1.1 = teeSuccess ∧
      SigningResult env s (s.view dataToSign dataLen) signaturePtr r.2 r.1.2 := by
  have prepared := taDigestAndKeys_prepared env s dataToSign dataLen
  have quiet := quiet_visible env s (taDigestAndKeys_quiet dataToSign dataLen)
  simp only [taSign, taSignAndVerify, taFreeOperation, Program.run_bind, Program.run_pure,
    Program.run_perform, Environment.handler, true_and]
  generalize (taDigestAndKeys dataToSign dataLen).run env.handler s = r at prepared quiet
  obtain ⟨⟨operation, hashed, publicKey, privateKey⟩, t⟩ := r
  have result :=
    taSignCase_result env t operation publicKey privateKey hashed _ signaturePtr prepared
  have signed := result.congr quiet
  generalize (taSignCase operation privateKey hashed signaturePtr).run env.handler t = c at signed
  exact signed.visible_congr (visible_setOperation _ _ _)

end Specifications

end InvCtrl
