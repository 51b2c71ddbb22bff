/-!
This module contains the byte level of a session.
-/

namespace Wire

/-- `aeadDecrypt` is `none` for a ciphertext that does not authenticate. -/
structure Sodium where
  hmacSha256 : List UInt8 → List UInt8 → List UInt8
  sha256 : List UInt8 → List UInt8
  aeadDecrypt : (ciphertext aad nonce key : List UInt8) → Option (List UInt8)

def putU16Be (v : UInt16) : List UInt8 :=
  [(v >>> 8).toUInt8, v.toUInt8]

def putU32Be (v : UInt32) : List UInt8 :=
  [(v >>> 24).toUInt8, (v >>> 16).toUInt8, (v >>> 8).toUInt8, v.toUInt8]

def readU16Be (b0 b1 : UInt8) : UInt16 :=
  (b0.toUInt16 <<< 8) ||| b1.toUInt16

def readU32Be (b0 b1 b2 b3 : UInt8) : UInt32 :=
  (b0.toUInt32 <<< 24) ||| (b1.toUInt32 <<< 16) ||| (b2.toUInt32 <<< 8) ||| b3.toUInt32

def hexChars : List Char :=
  "0123456789abcdef".toList

def toHex (bytes : List UInt8) : String :=
  String.ofList <| bytes.flatMap fun (b : UInt8) =>
    [hexChars.getD (b >>> 4).toNat '0', hexChars.getD (b &&& 0x0F).toNat '0']

def hexDigit (c : Char) : Option UInt8 :=
  if '0' ≤ c ∧ c ≤ '9' then
    some (c.toNat - '0'.toNat).toUInt8
  else if 'a' ≤ c ∧ c ≤ 'f' then
    some (10 + (c.toNat - 'a'.toNat)).toUInt8
  else if 'A' ≤ c ∧ c ≤ 'F' then
    some (10 + (c.toNat - 'A'.toNat)).toUInt8
  else
    none

def fromHex (hex : String) : Option (List UInt8) :=
  go hex.toList
where
  go : List Char → Option (List UInt8)
    | [] => some []
    | [_] => none
    | hi :: lo :: rest => do
      let hi ← hexDigit hi
      let lo ← hexDigit lo
      let rest ← go rest
      return ((hi <<< 4) ||| lo) :: rest

def kCryptoKeySize : Nat := 32
def kSessionSaltSize : Nat := 8
def kCryptoNonceSize : Nat := 12

def kDirClientToServer : UInt8 := 0x00
def kDirServerToClient : UInt8 := 0x01

def buildNonce (direction : UInt8) (counter : UInt32) : List UInt8 :=
  direction :: List.replicate 7 0 ++ putU32Be counter

def buildAad (token : UInt32) : List UInt8 :=
  putU32Be token

def deriveSessionKey (sodium : Sodium) (pairingKey sessionSalt : List UInt8) (token : UInt32)
    : List UInt8 :=
  let prk := sodium.hmacSha256 sessionSalt pairingKey
  let info := "satellite-session-v1".toUTF8.toList ++ putU32Be token ++ [0x01]
  sodium.hmacSha256 prk info

def computeHmacProof (sodium : Sodium) (pairingKey : List UInt8) (deviceId : String) : String :=
  toHex (sodium.hmacSha256 pairingKey ("satellite-proof:" ++ deviceId).toUTF8.toList)

def decryptPacket (sodium : Sodium) (key : List UInt8) (direction : UInt8) (counter token : UInt32)
    (ciphertext : List UInt8)
    : Option (List UInt8) :=
  sodium.aeadDecrypt ciphertext (buildAad token) (buildNonce direction counter) key

@[simp]
theorem length_putU32Be (v : UInt32) : (putU32Be v).length = 4 := by
  rfl

theorem putU32Be_injective {a b : UInt32} (h : putU32Be a = putU32Be b) : a = b := by
  simp only [putU32Be, List.cons.injEq, and_true] at h
  obtain ⟨h3, h2, h1, h0⟩ := h
  rw [← UInt8.toNat_inj] at h0 h1 h2 h3
  rw [← UInt32.toNat_inj]
  simp only [UInt32.toNat_toUInt8, UInt32.toNat_shiftRight, UInt32.reduceToNat,
    Nat.shiftRight_eq_div_pow, Nat.reduceMod, Nat.reducePow] at h0 h1 h2 h3
  have ha := a.toNat_lt
  have hb := b.toNat_lt
  omega

end Wire
