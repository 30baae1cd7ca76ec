import InvCtrl.Tee
import InvCtrl.Coil

/-! The trusted application, function by function. Out-parameters that the source
writes only on success are passed in and returned; a status that the source drops
is dropped here at the same place. -/
namespace InvCtrl
open Interaction

def dataModulus : List UInt8 := [
  0xc8, 0xa2, 0x06, 0x91, 0x82, 0x39, 0x4a, 0x2a, 0xb7, 0xc3, 0xf4, 0x19, 0x0c, 0x15,
  0x58, 0x9c, 0x56, 0xa2, 0xd4, 0xbc, 0x42, 0xdc, 0xa6, 0x75, 0xb3, 0x4c, 0xc9, 0x50,
  0xe2, 0x46, 0x63, 0x04, 0x84, 0x41, 0xe8, 0xaa, 0x59, 0x3b, 0x2b, 0xc5, 0x9e, 0x19,
  0x8b, 0x8c, 0x25, 0x7e, 0x88, 0x21, 0x20, 0xc6, 0x23, 0x36, 0xe5, 0xcc, 0x74, 0x50,
  0x12, 0xc7, 0xff, 0xb0, 0x63, 0xee, 0xbe, 0x53, 0xf3, 0xc6, 0x50, 0x4c, 0xba, 0x6c,
  0xfe, 0x51, 0xba, 0xa3, 0xb6, 0xd1, 0x07, 0x4b, 0x2f, 0x39, 0x81, 0x71, 0xf4, 0xb1,
  0x98, 0x2f, 0x4d, 0x65, 0xca, 0xf8, 0x82, 0xea, 0x4d, 0x56, 0xf3, 0x2a, 0xb5, 0x7d,
  0x0c, 0x44, 0xe6, 0xad, 0x4e, 0x9c, 0xf5, 0x7a, 0x43, 0x39, 0xeb, 0x69, 0x62, 0x40,
  0x6e, 0x35, 0x0c, 0x1b, 0x15, 0x39, 0x71, 0x83, 0xfb, 0xf1, 0xf0, 0x35, 0x3c, 0x9f,
  0xc9, 0x91]

def dataPubExp : List UInt8 := [0x01, 0x00, 0x01]

def dataPrivExp : List UInt8 := [
  0x5d, 0xfc, 0xb1, 0x11, 0x07, 0x2d, 0x29, 0x56, 0x5b, 0xa1, 0xdb, 0x3e, 0xc4, 0x8f,
  0x57, 0x64, 0x5d, 0x9d, 0x88, 0x04, 0xed, 0x59, 0x8a, 0x4d, 0x47, 0x02, 0x68, 0xa8,
  0x90, 0x67, 0xa2, 0xc9, 0x21, 0xdf, 0xf2, 0x4b, 0xa2, 0xe3, 0x7a, 0x3c, 0xe8, 0x34,
  0x55, 0x50, 0x00, 0xdc, 0x86, 0x8e, 0xe6, 0x58, 0x8b, 0x74, 0x93, 0x30, 0x35, 0x28,
  0xb1, 0xb3, 0xa9, 0x4f, 0x0b, 0x71, 0x73, 0x0c, 0xf1, 0xe8, 0x6f, 0xca, 0x5a, 0xee,
  0xdc, 0x3a, 0xfa, 0x16, 0xf6, 0x5c, 0x01, 0x89, 0xd8, 0x10, 0xdd, 0xcd, 0x81, 0x04,
  0x9e, 0xbb, 0xd0, 0x39, 0x18, 0x68, 0xc5, 0x0e, 0xde, 0xc9, 0x58, 0xb3, 0xa2, 0xaa,
  0xef, 0xf6, 0xa5, 0x75, 0x89, 0x7e, 0x2f, 0x20, 0xa3, 0xab, 0x54, 0x55, 0xc1, 0xbf,
  0xa5, 0x50, 0x10, 0xac, 0x51, 0xa7, 0x79, 0x9b, 0x1f, 0xf8, 0x48, 0x36, 0x44, 0xa3,
  0xd4, 0x25]

/-- The object name, the four bytes of "coil" without a terminator. -/
def filename : List UInt8 := [0x63, 0x6f, 0x69, 0x6c]

namespace CommandId

def seedCoil : UInt32 := 9001
def getAllCoilData : UInt32 := 9002
def getDataByCoilAddress : UInt32 := 9003
def verifyCoilData : UInt32 := 9004
def setDataByCoilAddress : UInt32 := 9005
def signCoilData : UInt32 := 9006

end CommandId

/-- A parameter union of two words: `value.a` shares its word with `memref.buffer`
and `value.b` with `memref.size`. -/
structure TeeParam where
  a : UInt32
  b : UInt32
  deriving DecidableEq, Repr

def TeeParam.buffer (p : TeeParam) : UInt32 := p.a
def TeeParam.size (p : TeeParam) : UInt32 := p.b

structure TeeParams where
  p0 : TeeParam
  p1 : TeeParam
  p2 : TeeParam
  p3 : TeeParam
  deriving DecidableEq, Repr

section Wrappers

def taCreatePersistentObject (objectID : List UInt8) (flags : DataFlags) (initialData : List UInt8)
    (object : Handle) : TeeProgram (TeeResult × Handle) := do
  let (res, o) ← Program.perform (TeeCall.createPersistentObject objectID flags initialData)
  pure (res, if res = teeSuccess then o else object)

def taOpenPersistentObject (objectID : List UInt8) (flags : DataFlags) (object : Handle) :
    TeeProgram (TeeResult × Handle) := do
  let (res, o) ← Program.perform (TeeCall.openPersistentObject objectID flags)
  pure (res, if res = teeSuccess then o else object)

/-- A local array takes the delivered bytes at its front and keeps the rest. -/
def Buffer.fill (data : List UInt8) : Buffer → Buffer
  | .stack bytes => .stack (data ++ bytes.drop data.length)
  | .shared pointer => .shared pointer

def taReadPersistentObject (object : Handle) (buffer : Buffer) (size : Nat) (count : UInt32) :
    TeeProgram (TeeResult × Buffer × UInt32) := do
  let (res, data) ← Program.perform (TeeCall.readObjectData object buffer size)
  pure (res, if res = teeSuccess then (buffer.fill data, UInt32.ofNat data.length)
    else (buffer, count))

def taClosePersistentObject (object : Handle) : TeeProgram TeeResult := do
  Program.perform (TeeCall.closeObject object)
  pure teeSuccess

def taAllocateTransientObject (objectType : KeyType) (maxObjectSize : Nat) (object : Handle) :
    TeeProgram (TeeResult × Handle) := do
  let (res, o) ← Program.perform (TeeCall.allocateTransientObject objectType maxObjectSize)
  pure (res, if res = teeSuccess then o else object)

def taPopulateTransientObject (object : Handle) (attrs : List Attribute) : TeeProgram TeeResult :=
  Program.perform (TeeCall.populateTransientObject object attrs)

def taFreeTransientObject (object : Handle) : TeeProgram TeeResult := do
  Program.perform (TeeCall.freeTransientObject object)
  pure teeSuccess

def taAllocateOperation (operation : Handle) (algorithm : Algorithm) (mode : OperationMode)
    (maxKeySize : Nat) : TeeProgram (TeeResult × Handle) := do
  let (res, oph) ← Program.perform (TeeCall.allocateOperation algorithm mode maxKeySize)
  pure (res, if res = teeSuccess then oph else operation)

def taFreeOperation (operation : Handle) : TeeProgram TeeResult := do
  Program.perform (TeeCall.freeOperation operation)
  pure teeSuccess

def taSetOperationKey (operation key : Handle) : TeeProgram TeeResult :=
  Program.perform (TeeCall.setOperationKey operation key)

/-- The hash array keeps its size argument unless the digest is produced. -/
def taDigestDoFinal (operation : Handle) (chunk : Buffer) (chunkLen : Nat) (hash : List UInt8)
    (hashLen : Nat) : TeeProgram (TeeResult × List UInt8 × Nat) := do
  let (res, digest) ← Program.perform (TeeCall.digestDoFinal operation chunk chunkLen hashLen)
  pure (res, if res = teeSuccess then (digest ++ hash.drop digest.length, digest.length)
    else (hash, hashLen))

def taAsymmetricVerifyDigest (operation : Handle) (params : List Attribute) (digest : List UInt8)
    (digestLen : Nat) (signature : Buffer) (signatureLen : Nat) : TeeProgram TeeResult :=
  Program.perform
    (TeeCall.asymmetricVerifyDigest operation params (digest.take digestLen) signature signatureLen)

def taAsymmetricSignDigest (operation : Handle) (params : List Attribute) (digest : List UInt8)
    (digestLen : Nat) (signature : List UInt8) (signatureLen : Nat) :
    TeeProgram (TeeResult × List UInt8 × Nat) := do
  let (res, data) ← Program.perform
    (TeeCall.asymmetricSignDigest operation params (digest.take digestLen) signatureLen)
  pure (res, if res = teeSuccess then (data ++ signature.drop data.length, data.length)
    else (signature, signatureLen))

end Wrappers

def Buffer.bytes : Buffer → List UInt8
  | .stack bytes => bytes
  | .shared _ => []

def xtestAddAttr (attrs : List Attribute) (attrId : AttributeId) (buf : List UInt8) :
    List Attribute := attrs ++ [⟨attrId, .ref buf⟩]

def createKey (maxKeySize : Nat) (keyType : KeyType) (attrs : List Attribute) (handle : Handle) :
    TeeProgram (TeeResult × Handle) := do
  let (_, handle) ← taAllocateTransientObject keyType maxKeySize handle
  let res ← taPopulateTransientObject handle attrs
  pure (res, handle)

/-- `for (loop = 0; loop < out_size; loop++) signature_ptr[loop] = out[loop]` from
iteration `loop` on. -/
def taCopySignature (signaturePtr : UInt32) : Nat → List UInt8 → TeeProgram Unit
  | _, [] => pure ()
  | loop, value :: rest => do
    Program.perform (TeeCall.storeByte signaturePtr loop value)
    taCopySignature signaturePtr (loop + 1) rest

/-- The key pair attributes extend the public ones: one array is grown in place. -/
def publicKeyAttrs : List Attribute :=
  xtestAddAttr (xtestAddAttr [] .rsaModulus dataModulus) .rsaPublicExponent dataPubExp

def keypairAttrs : List Attribute :=
  xtestAddAttr publicKeyAttrs .rsaPrivateExponent dataPrivExp

def algoParams : List Attribute := [⟨.rsaPssSaltLength, .value 0 0⟩]

def maxKeySize : Nat := dataModulus.length * 8

/-- The signature of the embedded key on a message. -/
def Crypto.signature (crypto : Crypto) (message : List UInt8) : List UInt8 :=
  crypto.rsaSign keypairAttrs (crypto.sha256 message)

/-- Validity under the embedded public key. -/
def Crypto.valid (crypto : Crypto) (message signature : List UInt8) : Bool :=
  crypto.rsaVerify publicKeyAttrs (crypto.sha256 message) signature

/-- The part before the switch: the digest operation and both keys. -/
def taDigestAndKeys (dataToSign : Buffer) (dataLen : Nat) :
    TeeProgram (Handle × (List UInt8 × Nat) × Handle × Handle) := do
  let ptxHash ← Program.perform (TeeCall.uninitialized 64)
  let (_, operationHandle) ← taAllocateOperation .null .sha256 .digest 0
  let (_, hashed) ← taDigestDoFinal operationHandle dataToSign dataLen ptxHash 64
  let (_, pubKeyHandle) ← createKey maxKeySize .rsaPublicKey publicKeyAttrs .null
  let (_, privKeyHandle) ← createKey maxKeySize .rsaKeypair keypairAttrs .null
  pure (operationHandle, hashed, pubKeyHandle, privKeyHandle)

/-- `case TEE_MODE_VERIFY`: the operation handle left behind and the verdict. -/
def taVerifyCase (operationHandle pubKeyHandle : Handle) (hashed : List UInt8 × Nat)
    (signaturePtr signatureLen : UInt32) : TeeProgram (Handle × Int32) := do
  let (_, operationHandle) ←
    taAllocateOperation operationHandle .rsassaPkcs1V15Sha256 .verify maxKeySize
  let _ ← taSetOperationKey operationHandle pubKeyHandle
  let _ ← taFreeTransientObject pubKeyHandle
  let res ← taAsymmetricVerifyDigest operationHandle algoParams hashed.1 hashed.2
    (.shared signaturePtr) signatureLen.toNat
  pure (operationHandle, if res = teeSuccess then 1 else -1)

/-- `case TEE_MODE_SIGN`: the operation handle left behind and the signature length. -/
def taSignCase (operationHandle privKeyHandle : Handle) (hashed : List UInt8 × Nat)
    (signaturePtr : UInt32) : TeeProgram (Handle × UInt32) := do
  let out : List UInt8 := List.replicate 512 0
  let (_, operationHandle) ←
    taAllocateOperation operationHandle .rsassaPkcs1V15Sha256 .sign maxKeySize
  let _ ← taSetOperationKey operationHandle privKeyHandle
  let _ ← taFreeTransientObject privKeyHandle
  let (_, out, outSize) ←
    taAsymmetricSignDigest operationHandle algoParams hashed.1 hashed.2 out 512
  taCopySignature signaturePtr 0 (out.take outSize)
  pure (operationHandle, UInt32.ofNat outSize)

/-- One operation handle serves the digest and then the signature operation; no
status but the verification's is looked at, and the last one is returned. -/
def taSignAndVerify (mode : OperationMode) (dataToSign : Buffer) (dataLen : Nat)
    (signaturePtr signatureLen : UInt32) (signatureVerified : Int32) :
    TeeProgram (TeeResult × UInt32 × Int32) := do
  let (operationHandle, hashed, pubKeyHandle, privKeyHandle) ← taDigestAndKeys dataToSign dataLen
  match mode with
  | .verify => do
    let (operationHandle, signatureVerified) ←
      taVerifyCase operationHandle pubKeyHandle hashed signaturePtr signatureLen
    let res ← taFreeOperation operationHandle
    pure (res, signatureLen, signatureVerified)
  | .sign => do
    let (operationHandle, signatureLen) ←
      taSignCase operationHandle privKeyHandle hashed signaturePtr
    let res ← taFreeOperation operationHandle
    pure (res, signatureLen, signatureVerified)
  | .digest => do
    let res ← taFreeOperation operationHandle
    pure (res, signatureLen, signatureVerified)

def taSign (dataToSign : Buffer) (dataLen : Nat) (signaturePtr signatureLen : UInt32) :
    TeeProgram (TeeResult × UInt32) := do
  let (res, signatureLen, _) ← taSignAndVerify .sign dataToSign dataLen signaturePtr signatureLen 0
  pure (res, signatureLen)

def taVerify (dataToSign : Buffer) (dataLen : Nat) (signaturePtr signatureLen : UInt32)
    (signatureVerified : Int32) : TeeProgram (TeeResult × Int32) := do
  let (res, _, signatureVerified) ←
    taSignAndVerify .verify dataToSign dataLen signaturePtr signatureLen signatureVerified
  pure (res, signatureVerified)

def taOverwriteCoilWithData (newCoilData : List UInt8) (newCoilDataLen : Nat) :
    TeeProgram TeeResult := do
  let (_, objectHandle) ← taCreatePersistentObject filename ⟨false, true, true⟩
    (newCoilData.take newCoilDataLen) .indeterminate
  taClosePersistentObject objectHandle

def taGetAllCoilDataUnpacked (buffer : Buffer) (size : Nat) (count : UInt32) :
    TeeProgram (TeeResult × Buffer × UInt32) := do
  let (_, objectHandle) ← taOpenPersistentObject filename ⟨true, false, false⟩ .indeterminate
  let (_, buffer, count) ← taReadPersistentObject objectHandle buffer size count
  let res ← taClosePersistentObject objectHandle
  pure (res, buffer, count)

section Commands
variable (seed : Seed)

def taSeedCoil : TeeProgram TeeResult :=
  taOverwriteCoilWithData seed.coilData seed.coilData.length

def taGetAllCoilData (params : TeeParams) : TeeProgram (TeeResult × TeeParams) := do
  let (res, _, count) ← taGetAllCoilDataUnpacked (.shared params.p0.buffer) params.p0.size.toNat
    params.p1.a
  pure (res, { params with p1 := { params.p1 with a := count } })

/-- The message of a read: the value and the low 16 bits of `value.a`. -/
def taGetDataByCoilAddress (params : TeeParams) : TeeProgram (TeeResult × TeeParams) := do
  let allCoilData : List UInt8 := List.replicate seed.coilData.length 0x00
  let allCoilDataLen := seed.coilData.length
  let (_, allCoilData, _) ← taGetAllCoilDataUnpacked (.stack allCoilData) allCoilDataLen 0
  let bitNumber := taGetBitNumberForCoil params.p0.b.toInt32
  let modbusCoilValue := taGetCoilValue bitNumber allCoilData.bytes
  let params : TeeParams := { params with p2 := { params.p2 with a := modbusCoilValue.toUInt32 } }
  let dataToSign : List UInt8 :=
    [modbusCoilValue, (params.p0.a >>> 8).toUInt8, (params.p0.a &&& 0x00ff).toUInt8]
  let (res, signatureLen) ← taSign (.stack dataToSign) 3 params.p1.buffer params.p1.size
  pure (res, { params with p1 := { params.p1 with b := signatureLen } })

/-- The verdict is published before the stored data is read and overwritten. -/
def taSetDataByCoilAddress (params : TeeParams) : TeeProgram (TeeResult × TeeParams) := do
  let allCoilData : List UInt8 := List.replicate seed.coilData.length 0x00
  let allCoilDataLen := seed.coilData.length
  let (res, signatureVerified) ← taVerify (.shared params.p1.buffer) params.p1.size.toNat
    params.p2.buffer params.p2.size 0
  let params : TeeParams := { params with p3 := { params.p3 with a := signatureVerified.toUInt32 } }
  if signatureVerified = -1 then
    pure (res, params)
  else
    let (_, allCoilData, _) ← taGetAllCoilDataUnpacked (.stack allCoilData) allCoilDataLen 0
    let bitNumber := taGetBitNumberForCoil params.p0.a.toInt32
    let allCoilData := taUpdateCoilData bitNumber params.p0.b.toUInt8 allCoilData.bytes
    let res ← taOverwriteCoilWithData allCoilData allCoilDataLen
    pure (res, params)

def taVerifyCoilDAta (params : TeeParams) : TeeProgram (TeeResult × TeeParams) := do
  let (res, signatureVerified) ← taVerify (.shared params.p0.buffer) params.p0.size.toNat
    params.p1.buffer params.p1.size params.p2.a.toInt32
  pure (res, { params with p2 := { params.p2 with a := signatureVerified.toUInt32 } })

def taSignCoilData (params : TeeParams) : TeeProgram (TeeResult × TeeParams) := do
  let (res, signatureLen) ← taSign (.shared params.p0.buffer) params.p0.size.toNat
    params.p1.buffer params.p1.size
  pure (res, { params with p1 := { params.p1 with b := signatureLen } })

/-- The parameter type word is not looked at. -/
def taInvokeCommandEntryPoint (nCommandID _nParamTypes : UInt32) (pParams : TeeParams) :
    TeeProgram (TeeResult × TeeParams) :=
  if nCommandID = CommandId.seedCoil then do
    let res ← taSeedCoil seed
    pure (res, pParams)
  else if nCommandID = CommandId.getAllCoilData then taGetAllCoilData pParams
  else if nCommandID = CommandId.getDataByCoilAddress then taGetDataByCoilAddress seed pParams
  else if nCommandID = CommandId.setDataByCoilAddress then taSetDataByCoilAddress seed pParams
  else if nCommandID = CommandId.verifyCoilData then taVerifyCoilDAta pParams
  else if nCommandID = CommandId.signCoilData then taSignCoilData pParams
  else pure (teeErrorBadParameters, pParams)

end Commands

end InvCtrl
