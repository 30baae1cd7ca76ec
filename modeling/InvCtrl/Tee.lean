import InvCtrl.Interaction
import InvCtrl.ByteMemory

/-! The TEE Internal API as the application's environment. Which calls fail, how
short a read is and the cryptography itself are parameters; handles, persistent
objects and parameter memory follow the documented behaviour of each call. A
failed call returns its code and changes no output. -/
namespace InvCtrl
open Interaction

abbrev TeeResult := UInt32

def teeSuccess : TeeResult := 0
def teeErrorBadParameters : TeeResult := 0xFFFF0006
def teeErrorBadState : TeeResult := 0xFFFF0007
def teeErrorItemNotFound : TeeResult := 0xFFFF0008
def teeErrorShortBuffer : TeeResult := 0xFFFF0010
def teeErrorSignatureInvalid : TeeResult := 0xFFFF3072

/-- A handle variable: cleared, never written, or returned by the TEE. -/
inductive Handle where
  | null
  | indeterminate
  | live (id : Nat)
  deriving DecidableEq, Repr

/-- What a `void *` argument points at: a local array of the application, or the
parameter memory named by its base pointer. Distinct bases never overlap. -/
inductive Buffer where
  | stack (bytes : List UInt8)
  | shared (pointer : UInt32)
  deriving DecidableEq, Repr

inductive AttributeId where
  | rsaModulus | rsaPublicExponent | rsaPrivateExponent | rsaPssSaltLength
  deriving DecidableEq, Repr

inductive AttributeContent where
  | ref (buffer : List UInt8)
  | value (a b : UInt32)
  deriving DecidableEq, Repr

structure Attribute where
  attributeID : AttributeId
  content : AttributeContent
  deriving DecidableEq, Repr

inductive KeyType where
  | rsaPublicKey | rsaKeypair
  deriving DecidableEq, Repr

inductive Algorithm where
  | sha256 | rsassaPkcs1V15Sha256
  deriving DecidableEq, Repr

inductive OperationMode where
  | digest | sign | verify
  deriving DecidableEq, Repr

structure DataFlags where
  accessRead : Bool
  accessWrite : Bool
  overwrite : Bool
  deriving DecidableEq, Repr

/-- SHA-256 and RSA over 1024-bit keys: 32-byte digests and 128-byte signatures. -/
structure Crypto where
  sha256 : List UInt8 → List UInt8
  rsaSign : List Attribute → List UInt8 → List UInt8
  rsaVerify : List Attribute → List UInt8 → List UInt8 → Bool
  sha256_length : ∀ chunk, (sha256 chunk).length = 32
  rsaSign_length : ∀ key digest, (rsaSign key digest).length = 128

/-- `short count` is a successful read that delivers at most `count` bytes; every
other call treats it as success. -/
inductive Outcome where
  | ok
  | short (count : Nat)
  | error (code : TeeResult) (failed : code ≠ teeSuccess)

def Outcome.result : Outcome → TeeResult
  | .error code _ => code
  | _ => teeSuccess

/-- The bytes a successful read keeps of those asked for and present. -/
def Outcome.delivered : Outcome → List UInt8 → List UInt8
  | .ok, data => data
  | .short count, data => data.take count
  | .error _ _, _ => []

/-- Everything the application does not control. Outcomes are indexed by the number
of calls of that kind made so far; `residue` is what an unwritten array holds. -/
structure Environment where
  crypto : Crypto
  storage : Nat → Outcome
  cryptography : Nat → Outcome
  residue : Nat → UInt8

inductive ObjectState where
  | persistent (objectID : List UInt8) (flags : DataFlags) (position : Nat)
  | transient (objectType : KeyType) (attributes : Option (List Attribute))
  deriving DecidableEq, Repr

structure OperationState where
  algorithm : Algorithm
  mode : OperationMode
  key : Option (KeyType × List Attribute)
  deriving DecidableEq, Repr

/-- `digested` and `signed` are ghosts: the last chunk hashed, and each message with
the signature the TEE produced on its digest. -/
structure Tee where
  store : List UInt8 → Option (List UInt8)
  objects : Nat → Option ObjectState
  operations : Nat → Option OperationState
  next : Nat
  memory : UInt32 → ByteMemory
  storageCalls : Nat
  cryptoCalls : Nat
  digested : List UInt8
  signed : List (List UInt8 × List UInt8)

namespace Tee

def object (s : Tee) : Handle → Option ObjectState
  | .live id => s.objects id
  | _ => none

def operation (s : Tee) : Handle → Option OperationState
  | .live id => s.operations id
  | _ => none

/-- The bytes behind a pointer argument and its length argument. -/
def view (s : Tee) : Buffer → Nat → List UInt8
  | .stack bytes, count => bytes.take count
  | .shared pointer, count => (s.memory pointer).slice 0 count

@[simp] theorem object_live (s : Tee) (id : Nat) : s.object (.live id) = s.objects id := rfl
@[simp] theorem object_null (s : Tee) : s.object .null = none := rfl
@[simp] theorem operation_live (s : Tee) (id : Nat) : s.operation (.live id) = s.operations id := rfl
@[simp] theorem operation_null (s : Tee) : s.operation .null = none := rfl

def addObject (s : Tee) (object : ObjectState) : Tee :=
  { s with objects := Function.update s.objects s.next (some object), next := s.next + 1 }

def addOperation (s : Tee) (operation : OperationState) : Tee :=
  { s with operations := Function.update s.operations s.next (some operation), next := s.next + 1 }

def setObject (s : Tee) (handle : Handle) (object : Option ObjectState) : Tee :=
  match handle with
  | .live id => { s with objects := Function.update s.objects id object }
  | _ => s

def setOperation (s : Tee) (handle : Handle) (operation : Option OperationState) : Tee :=
  match handle with
  | .live id => { s with operations := Function.update s.operations id operation }
  | _ => s

def setStore (s : Tee) (objectID data : List UInt8) : Tee :=
  { s with store := Function.update s.store objectID (some data) }

def setMemory (s : Tee) (pointer : UInt32) (m : ByteMemory) : Tee :=
  { s with memory := Function.update s.memory pointer m }

def storageCall (s : Tee) : Tee := { s with storageCalls := s.storageCalls + 1 }
def cryptoCall (s : Tee) : Tee := { s with cryptoCalls := s.cryptoCalls + 1 }

end Tee

inductive TeeCall where
  | createPersistentObject (objectID : List UInt8) (flags : DataFlags) (initialData : List UInt8)
  | openPersistentObject (objectID : List UInt8) (flags : DataFlags)
  | readObjectData (object : Handle) (buffer : Buffer) (size : Nat)
  | closeObject (object : Handle)
  | allocateTransientObject (objectType : KeyType) (maxObjectSize : Nat)
  | populateTransientObject (object : Handle) (attrs : List Attribute)
  | freeTransientObject (object : Handle)
  | allocateOperation (algorithm : Algorithm) (mode : OperationMode) (maxKeySize : Nat)
  | freeOperation (operation : Handle)
  | setOperationKey (operation key : Handle)
  | digestDoFinal (operation : Handle) (chunk : Buffer) (chunkLen hashLen : Nat)
  | asymmetricVerifyDigest (operation : Handle) (params : List Attribute) (digest : List UInt8)
      (signature : Buffer) (signatureLen : Nat)
  | asymmetricSignDigest (operation : Handle) (params : List Attribute) (digest : List UInt8)
      (signatureLen : Nat)
  /-- A store of the application itself through a parameter's pointer. -/
  | storeByte (pointer : UInt32) (offset : Nat) (value : UInt8)
  /-- The contents of a local array declared without an initializer. -/
  | uninitialized (size : Nat)

abbrev TeeCall.Reply : TeeCall → Type
  | .createPersistentObject .. | .openPersistentObject .. | .allocateTransientObject ..
  | .allocateOperation .. => TeeResult × Handle
  | .readObjectData .. | .digestDoFinal .. | .asymmetricSignDigest .. => TeeResult × List UInt8
  | .populateTransientObject .. | .setOperationKey .. | .asymmetricVerifyDigest .. => TeeResult
  | .closeObject .. | .freeTransientObject .. | .freeOperation .. | .storeByte .. => Unit
  | .uninitialized .. => List UInt8

abbrev TeeProgram := Program TeeCall TeeCall.Reply

/-- A call that was made, with its reply. -/
abbrev TeeEvent := Program.Event TeeCall TeeCall.Reply

namespace Environment
variable (env : Environment)

def createPersistentObject (objectID : List UInt8) (flags : DataFlags) (initialData : List UInt8)
    (s : Tee) : (TeeResult × Handle) × Tee :=
  let res := (env.storage s.storageCalls).result
  if res = teeSuccess then
    ((teeSuccess, .live s.next),
      (s.storageCall.setStore objectID initialData).addObject (.persistent objectID flags 0))
  else ((res, .indeterminate), s.storageCall)

def openPersistentObject (objectID : List UInt8) (flags : DataFlags) (s : Tee) :
    (TeeResult × Handle) × Tee :=
  let res := (env.storage s.storageCalls).result
  if res = teeSuccess then
    match s.store objectID with
    | some _ => ((teeSuccess, .live s.next), s.storageCall.addObject (.persistent objectID flags 0))
    | none => ((teeErrorItemNotFound, .indeterminate), s.storageCall)
  else ((res, .indeterminate), s.storageCall)

/-- The data comes back in the reply; behind a parameter it is stored as well. -/
def readObjectData (object : Handle) (buffer : Buffer) (size : Nat) (s : Tee) :
    (TeeResult × List UInt8) × Tee :=
  match s.object object with
  | some (.persistent objectID flags position) =>
    let outcome := env.storage s.storageCalls
    if outcome.result = teeSuccess then
      let data := outcome.delivered ((((s.store objectID).getD []).drop position).take size)
      let t := s.storageCall.setObject object
        (some (.persistent objectID flags (position + data.length)))
      match buffer with
      | .stack _ => ((teeSuccess, data), t)
      | .shared pointer =>
        ((teeSuccess, data), t.setMemory pointer ((s.memory pointer).overlay 0 data))
    else ((outcome.result, []), s.storageCall)
  | _ => ((teeErrorBadState, []), s.storageCall)

def closeObject (object : Handle) (s : Tee) : Unit × Tee :=
  if (env.storage s.storageCalls).result = teeSuccess then
    ((), s.storageCall.setObject object none)
  else ((), s.storageCall)

def allocateTransientObject (objectType : KeyType) (s : Tee) : (TeeResult × Handle) × Tee :=
  let res := (env.cryptography s.cryptoCalls).result
  if res = teeSuccess then
    ((teeSuccess, .live s.next), s.cryptoCall.addObject (.transient objectType none))
  else ((res, .indeterminate), s.cryptoCall)

def populateTransientObject (object : Handle) (attrs : List Attribute) (s : Tee) :
    TeeResult × Tee :=
  let res := (env.cryptography s.cryptoCalls).result
  if res = teeSuccess then
    match s.object object with
    | some (.transient objectType none) =>
      (teeSuccess, s.cryptoCall.setObject object (some (.transient objectType (some attrs))))
    | _ => (teeErrorBadState, s.cryptoCall)
  else (res, s.cryptoCall)

def allocateOperation (algorithm : Algorithm) (mode : OperationMode) (s : Tee) :
    (TeeResult × Handle) × Tee :=
  let res := (env.cryptography s.cryptoCalls).result
  if res = teeSuccess then
    ((teeSuccess, .live s.next), s.cryptoCall.addOperation ⟨algorithm, mode, none⟩)
  else ((res, .indeterminate), s.cryptoCall)

/-- Only a populated key object can be set, and only on a live operation. -/
def setOperationKey (operation key : Handle) (s : Tee) : TeeResult × Tee :=
  let res := (env.cryptography s.cryptoCalls).result
  if res = teeSuccess then
    match s.operation operation, s.object key with
    | some op, some (.transient objectType (some attrs)) =>
      (teeSuccess, s.cryptoCall.setOperation operation (some { op with key := some (objectType, attrs) }))
    | _, _ => (teeErrorBadState, s.cryptoCall)
  else (res, s.cryptoCall)

def digestDoFinal (operation : Handle) (chunk : Buffer) (chunkLen hashLen : Nat) (s : Tee) :
    (TeeResult × List UInt8) × Tee :=
  let res := (env.cryptography s.cryptoCalls).result
  if res = teeSuccess then
    match s.operation operation with
    | some ⟨.sha256, .digest, _⟩ =>
      if 32 ≤ hashLen then
        ((teeSuccess, env.crypto.sha256 (s.view chunk chunkLen)),
          { s.cryptoCall with digested := s.view chunk chunkLen })
      else ((teeErrorShortBuffer, []), s.cryptoCall)
    | _ => ((teeErrorBadState, []), s.cryptoCall)
  else ((res, []), s.cryptoCall)

/-- Verification needs a verify operation that holds a key, a whole digest and a
signature valid for both. -/
def asymmetricVerifyDigest (operation : Handle) (digest : List UInt8) (signature : Buffer)
    (signatureLen : Nat) (s : Tee) : TeeResult × Tee :=
  let res := (env.cryptography s.cryptoCalls).result
  if res = teeSuccess then
    match s.operation operation with
    | some ⟨.rsassaPkcs1V15Sha256, .verify, some (_, attrs)⟩ =>
      if digest.length = 32 ∧
          env.crypto.rsaVerify attrs digest (s.view signature signatureLen) = true then
        (teeSuccess, s.cryptoCall)
      else (teeErrorSignatureInvalid, s.cryptoCall)
    | _ => (teeErrorBadState, s.cryptoCall)
  else (res, s.cryptoCall)

/-- Signing needs a sign operation that holds a key pair, a whole digest and room
for the signature. -/
def asymmetricSignDigest (operation : Handle) (digest : List UInt8) (signatureLen : Nat)
    (s : Tee) : (TeeResult × List UInt8) × Tee :=
  let res := (env.cryptography s.cryptoCalls).result
  if res = teeSuccess then
    match s.operation operation with
    | some ⟨.rsassaPkcs1V15Sha256, .sign, some (.rsaKeypair, attrs)⟩ =>
      let signature := env.crypto.rsaSign attrs digest
      if digest.length ≠ 32 then ((teeErrorBadParameters, []), s.cryptoCall)
      else if signature.length ≤ signatureLen then
        ((teeSuccess, signature),
          { s.cryptoCall with signed := s.signed ++ [(s.digested, signature)] })
      else ((teeErrorShortBuffer, []), s.cryptoCall)
    | _ => ((teeErrorBadState, []), s.cryptoCall)
  else ((res, []), s.cryptoCall)

def handler : Handler TeeCall TeeCall.Reply Tee
  | .createPersistentObject objectID flags initialData =>
    env.createPersistentObject objectID flags initialData
  | .openPersistentObject objectID flags => env.openPersistentObject objectID flags
  | .readObjectData object buffer size => env.readObjectData object buffer size
  | .closeObject object => env.closeObject object
  | .allocateTransientObject objectType _ => env.allocateTransientObject objectType
  | .populateTransientObject object attrs => env.populateTransientObject object attrs
  | .freeTransientObject object => fun s => ((), s.setObject object none)
  | .allocateOperation algorithm mode _ => env.allocateOperation algorithm mode
  | .freeOperation operation => fun s => ((), s.setOperation operation none)
  | .setOperationKey operation key => env.setOperationKey operation key
  | .digestDoFinal operation chunk chunkLen hashLen =>
    env.digestDoFinal operation chunk chunkLen hashLen
  | .asymmetricVerifyDigest operation _ digest signature signatureLen =>
    env.asymmetricVerifyDigest operation digest signature signatureLen
  | .asymmetricSignDigest operation _ digest signatureLen =>
    env.asymmetricSignDigest operation digest signatureLen
  | .storeByte pointer offset value => fun s =>
    ((), s.setMemory pointer ((s.memory pointer).write offset value))
  | .uninitialized size => fun s => ((List.range size).map env.residue, s)

end Environment

end InvCtrl
