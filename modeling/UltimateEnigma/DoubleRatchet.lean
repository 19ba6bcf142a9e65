import UltimateEnigma.Py.Call
import UltimateEnigma.Py.Dict
import UltimateEnigma.Py.Struct

set_option autoImplicit false

namespace UltimateEnigma.DoubleRatchet

open Py

/-- A raw X25519 public key. -/
abbrev PubBytes := Vector UInt8 32

/-- The exceptions that leave a ratchet method. -/
inductive Raised where
  | valueError (message : String)
  | structError
  | attributeError
  | indexError
  | invalidTag
deriving DecidableEq, Repr

/-- What the ratchet calls in `cryptography`, `hmac` and the AEAD. Root, chain and
message keys are one type: each is the salt or the key of the next derivation. -/
structure Primitives (Priv Dh Key : Type) where
  /-- `priv.public_key().public_bytes(Raw, Raw)` -/
  publicBytes : Priv → PubBytes
  /-- `priv.exchange(pub)`, which raises on a low-order point -/
  exchange : Priv → PubBytes → Option Dh
  /-- HKDF-SHA256 with this salt and input, 64 bytes, split in the middle -/
  hkdf : Key → Dh → Key × Key
  /-- HMAC-SHA256 of a one-byte message -/
  hmac : Key → UInt8 → Key
  /-- XChaCha20-Poly1305: key, nonce, plaintext, associated data -/
  aeadEncrypt : Key → Bytes → Bytes → Bytes → Bytes
  aeadDecrypt : Key → Bytes → Bytes → Bytes → Option Bytes

def maxSkippedKeys : Nat := 1000
def maxSkipDistance : Nat := 1000
def xchacha20NonceSize : Nat := 24

/-- One side of a conversation. `skippedKeyOrder` is the eviction queue the source
keeps beside the dictionary. -/
structure RatchetState (Priv Key : Type) where
  dhPriv : Option Priv := none
  dhPubRemote : Option PubBytes := none
  rootKey : Option Key := none
  sendChainKey : Option Key := none
  recvChainKey : Option Key := none
  sendMsgNum : Nat := 0
  recvMsgNum : Nat := 0
  prevSendChainLen : Nat := 0
  skippedKeys : Dict (PubBytes × Nat) Key := .empty
  skippedKeyOrder : List (PubBytes × Nat) := []
deriving DecidableEq

/-- `struct.pack(">I", msg_num) + struct.pack(">I", prev_chain_len) + dh_pub_bytes`. -/
def packHeader (msgNum prevChainLen : Nat) (dhPub : PubBytes) : Except Raised Bytes :=
  if msgNum < 2 ^ 32 ∧ prevChainLen < 2 ^ 32 then
    .ok (packBE 4 msgNum ++ packBE 4 prevChainLen ++ dhPub.toList)
  else
    .error .structError

def headerMsgNum (header : Bytes) : Nat := unpackBE (header.take 4)

def headerPrevChainLen (header : Bytes) : Nat := unpackBE ((header.drop 4).take 4)

/-- `header[8:40]`, once the length check has passed. -/
def headerDhPub (header : Bytes) (long : 40 ≤ header.length) : PubBytes :=
  ⟨((header.drop 8).take 32).toArray, by
    simp only [List.size_toArray, List.length_take, List.length_drop]
    omega⟩

variable {Priv Dh Key : Type}

def storeSkippedKey (key : PubBytes × Nat) (mk : Key) :
    Call Raised (RatchetState Priv Key) Unit := do
  let state ← Call.read
  if maxSkippedKeys ≤ state.skippedKeys.size then
    match state.skippedKeyOrder with
    | [] => Call.raise .indexError
    | oldest :: order =>
        Call.modify fun state =>
          { state with
            skippedKeyOrder := order, skippedKeys := state.skippedKeys.erase oldest }
  Call.modify fun state =>
    { state with
      skippedKeys := state.skippedKeys.set key mk,
      skippedKeyOrder := state.skippedKeyOrder ++ [key] }

namespace Primitives

variable (P : Primitives Priv Dh Key)

def hkdfRk (rk : Key) (dhOut : Dh) : Key × Key := P.hkdf rk dhOut

/-- The next chain key and the message key. -/
def hkdfCk (ck : Key) : Key × Key := (P.hmac ck 0x02, P.hmac ck 0x01)

/-- `dh_priv.exchange(pub)` on a possibly absent key pair. -/
def exchangeOn (dhPriv : Option Priv) (pub : PubBytes) :
    Call Raised (RatchetState Priv Key) Dh := do
  let priv ← Call.require .attributeError dhPriv
  Call.require (.valueError "Error computing shared key.") (P.exchange priv pub)

def initializeAsAlice (fresh : Priv) (bobDhPub : PubBytes) (sharedSecret : Key)
    (localDhPriv : Option Priv) : Call Raised (RatchetState Priv Key) Unit := do
  Call.modify fun state =>
    { state with dhPriv := some (localDhPriv.getD fresh), dhPubRemote := some bobDhPub }
  let dhOut ← P.exchangeOn (some (localDhPriv.getD fresh)) bobDhPub
  let keys := P.hkdfRk sharedSecret dhOut
  Call.modify fun state =>
    { state with
      rootKey := some keys.1, sendChainKey := some keys.2, recvChainKey := none,
      sendMsgNum := 0, recvMsgNum := 0, prevSendChainLen := 0 }

def initializeAsBob (fresh : Priv) (aliceDhPub : PubBytes) (sharedSecret : Key)
    (localDhPriv : Option Priv) : Call Raised (RatchetState Priv Key) Unit := do
  Call.modify fun state =>
    { state with dhPriv := some (localDhPriv.getD fresh), dhPubRemote := some aliceDhPub }
  let dhOut ← P.exchangeOn (some (localDhPriv.getD fresh)) aliceDhPub
  let keys := P.hkdfRk sharedSecret dhOut
  Call.modify fun state =>
    { state with
      rootKey := some keys.1, recvChainKey := some keys.2, sendChainKey := none,
      sendMsgNum := 0, recvMsgNum := 0, prevSendChainLen := 0 }

/-- `fresh` is the key pair that `X25519PrivateKey.generate()` returns inside. -/
def dhRatchetStep (fresh : Priv) (remotePub : PubBytes) :
    Call Raised (RatchetState Priv Key) Unit := do
  let state ← Call.read
  let dhOut ← P.exchangeOn state.dhPriv remotePub
  let rk ← Call.require .attributeError state.rootKey
  let recvKeys := P.hkdfRk rk dhOut
  Call.modify fun state =>
    { state with
      rootKey := some recvKeys.1, recvChainKey := some recvKeys.2,
      prevSendChainLen := state.sendMsgNum, sendMsgNum := 0, recvMsgNum := 0,
      dhPriv := some fresh, dhPubRemote := some remotePub }
  let dhOut2 ← P.exchangeOn (some fresh) remotePub
  let sendKeys := P.hkdfRk recvKeys.1 dhOut2
  Call.modify fun state =>
    { state with rootKey := some sendKeys.1, sendChainKey := some sendKeys.2 }

/-- The part of `encrypt` that creates a missing sending chain. -/
def startSendChain (fresh : Priv) : Call Raised (RatchetState Priv Key) Unit := do
  let state ← Call.read
  let remote ← Call.require
    (.valueError "Send chain not initialized. Call dh_ratchet_step first.") state.dhPubRemote
  Call.modify fun state => { state with dhPriv := some fresh }
  let dhOut ← P.exchangeOn (some fresh) remote
  let rk ← Call.require .attributeError state.rootKey
  let keys := P.hkdfRk rk dhOut
  Call.modify fun state =>
    { state with
      rootKey := some keys.1, sendChainKey := some keys.2,
      prevSendChainLen := state.sendMsgNum, sendMsgNum := 0 }

/-- Steps the sending chain, then packs the header: a counter that no longer fits
its field raises after the chain key has moved. -/
def encryptOnChain (nonce plaintext : Bytes) :
    Call Raised (RatchetState Priv Key) (Bytes × Bytes) := do
  let state ← Call.read
  let ck ← Call.require .attributeError state.sendChainKey
  let keys := P.hkdfCk ck
  Call.modify fun state => { state with sendChainKey := some keys.1 }
  let priv ← Call.require .attributeError state.dhPriv
  match packHeader state.sendMsgNum state.prevSendChainLen (P.publicBytes priv) with
  | .error raised => Call.raise raised
  | .ok header => do
      Call.modify fun state => { state with sendMsgNum := state.sendMsgNum + 1 }
      return (header, nonce ++ P.aeadEncrypt keys.2 nonce plaintext header)

def encrypt (fresh : Priv) (nonce plaintext : Bytes) :
    Call Raised (RatchetState Priv Key) (Bytes × Bytes) := do
  let state ← Call.read
  if state.sendChainKey.isNone then
    P.startSendChain fresh
  P.encryptOnChain nonce plaintext

/-- `new_ck, mk = _hkdf_ck(recv_chain_key.read())`, then the chain key moves on. -/
def stepRecvChain : Call Raised (RatchetState Priv Key) Key := do
  let state ← Call.read
  let ck ← Call.require .attributeError state.recvChainKey
  Call.modify fun state => { state with recvChainKey := some (P.hkdfCk ck).1 }
  return (P.hkdfCk ck).2

/-- `count` rounds of the loop that both `decrypt` and `_skip_recv_chain` run while
`recv_msg_num` is below their bound. -/
def skipMessages (remotePub : PubBytes) : Nat → Call Raised (RatchetState Priv Key) Unit
  | 0 => pure ()
  | count + 1 => do
      let mk ← P.stepRecvChain
      let state ← Call.read
      storeSkippedKey (remotePub, state.recvMsgNum) mk
      Call.modify fun state => { state with recvMsgNum := state.recvMsgNum + 1 }
      skipMessages remotePub count

def skipRecvChain (remotePub : Option PubBytes) (bound : Nat) :
    Call Raised (RatchetState Priv Key) Unit := do
  let state ← Call.read
  match state.recvChainKey, remotePub with
  | some _, some pub =>
      if maxSkipDistance < bound - state.recvMsgNum then
        Call.raise (.valueError ("prev_chain_len skip distance " ++
          toString (bound - state.recvMsgNum) ++ " exceeds maximum " ++
          toString maxSkipDistance))
      else
        P.skipMessages pub (bound - state.recvMsgNum)
  | _, _ => pure ()

/-- The header is the associated data. -/
def decryptWithKey (key : Key) (data header : Bytes) :
    Call Raised (RatchetState Priv Key) Bytes :=
  if data.length < xchacha20NonceSize then
    Call.raise (.valueError "Ciphertext too short")
  else
    Call.require .invalidTag
      (P.aeadDecrypt key (data.take xchacha20NonceSize) (data.drop xchacha20NonceSize) header)

/-- `decrypt` from the skipped-key lookup on. -/
def decryptOnChain (remotePub : PubBytes) (msgNum : Nat) (header ciphertext : Bytes) :
    Call Raised (RatchetState Priv Key) Bytes := do
  let state ← Call.read
  match state.skippedKeys.get? (remotePub, msgNum) with
  | some skipKey =>
      Call.modify fun state =>
        { state with skippedKeys := state.skippedKeys.erase (remotePub, msgNum) }
      P.decryptWithKey skipKey ciphertext header
  | none =>
      if maxSkipDistance < msgNum - state.recvMsgNum then
        Call.raise (.valueError ("Skip distance " ++ toString (msgNum - state.recvMsgNum) ++
          " exceeds maximum " ++ toString maxSkipDistance))
      else do
        P.skipMessages remotePub (msgNum - state.recvMsgNum)
        let mk ← P.stepRecvChain
        Call.modify fun state => { state with recvMsgNum := state.recvMsgNum + 1 }
        P.decryptWithKey mk ciphertext header

def decrypt (fresh : Priv) (header ciphertext : Bytes) :
    Call Raised (RatchetState Priv Key) Bytes :=
  if short : header.length < 40 then
    Call.raise (.valueError "Header too short")
  else do
    let remotePub := headerDhPub header (Nat.le_of_not_lt short)
    let state ← Call.read
    if state.dhPubRemote ≠ some remotePub then
      P.skipRecvChain state.dhPubRemote (headerPrevChainLen header)
      P.dhRatchetStep fresh remotePub
    P.decryptOnChain remotePub (headerMsgNum header) header ciphertext

end Primitives

end UltimateEnigma.DoubleRatchet
