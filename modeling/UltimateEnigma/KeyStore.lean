import UltimateEnigma.Py.Base64
import UltimateEnigma.Py.Call
import UltimateEnigma.Py.Dict

set_option autoImplicit false

namespace UltimateEnigma

open Py

namespace KeyStore

/-- Exceptions by the classes that the `except` clauses tell apart. A `json.JSONDecodeError` or
`binascii.Error` is a `ValueError`; `struct.error`, `KeyError`, `AttributeError`, `InvalidTag`,
Argon2's `HashingError` and the exceptions of `database` are not. -/
inductive Raised where
  | valueError
  | typeError
  | keyError (key : String)
  | attributeError
  | invalidTag
  | hashingError
  | structError
  | databaseError
  | databaseConnectionError
  | keyStoreError (message : String)
  | keyStoreErrorFrom (message : String) (cause : Raised)
deriving DecidableEq, Repr

namespace Raised

/-- Caught by `except (ValueError, TypeError)`. -/
def isValueOrType : Raised → Bool
  | .valueError | .typeError => true
  | _ => false

def isKeyStoreError : Raised → Bool
  | .keyStoreError _ | .keyStoreErrorFrom _ _ => true
  | _ => false

end Raised

/-- `try: … except (ValueError, TypeError): log`. -/
def attempt {α : Type} : Except Raised α → Except Raised (Option α)
  | .ok value => .ok (some value)
  | .error raised => if raised.isValueOrType then .ok none else .error raised

/-- `try: … except (ValueError, TypeError) as e: raise KeyStoreError(…) from e`. -/
def orKeyStoreError {α : Type} (message : String) : Except Raised α → Except Raised α
  | .ok value => .ok value
  | .error raised =>
      if raised.isValueOrType then .error (.keyStoreErrorFrom message raised) else .error raised

/-- `base64.b64decode`, whose errors are all `ValueError`s. -/
def decodeBase64 (text : String) : Except Raised Bytes :=
  match b64decode text with
  | .ok bytes => .ok bytes
  | .error _ => .error .valueError

/-- The libraries underneath: RSA keys and their PEM forms, key derivation, AES-GCM. -/
structure Primitives (Priv Pub Pem : Type) where
  publicKey : Priv → Pub
  keySize : Pub → Nat
  pubkeyToPem : Pub → String
  pemToPubkey : String → Except Raised Pub
  privkeyToEncryptedPem : Priv → Bytes → Bytes → Except Raised Pem
  pemToPrivkey : Pem → Bytes → Except Raised Priv
  argon2id : Bytes → Bytes → Bytes
  pbkdf2 : Bytes → Bytes → Bytes
  hkdf : Bytes → Bytes → Bytes
  aesEncrypt : Bytes → Bytes → Bytes → Bytes
  aesDecrypt : Bytes → Bytes → Bytes → Except Raised Bytes

/-- A value under a key of a JSON object: a string, or anything else. -/
inductive JsonItem where
  | text (text : String)
  | other
deriving DecidableEq, Repr

/-- The dictionary that `encrypt_secret` makes; entries of another origin may lack keys. -/
structure EncDict where
  kdf : Option JsonItem
  salt : Option JsonItem
  nonce : Option JsonItem
  ct : Option JsonItem
deriving DecidableEq, Repr

/-- What `json.loads` returns: such a dictionary, or a value that has no `get`. -/
inductive EncValue where
  | dict (enc : EncDict)
  | other
deriving DecidableEq, Repr

/-- The text of a column that holds a wrapped secret: JSON, or not JSON. -/
inductive Wrapper where
  | json (enc : EncValue)
  | malformed
deriving DecidableEq, Repr

def jsonLoads : Wrapper → Except Raised EncValue
  | .json enc => .ok enc
  | .malformed => .error .valueError

/-- `enc_dict[key]`, decoded. -/
def entry (key : String) : Option JsonItem → Except Raised Bytes
  | some (.text text) => decodeBase64 text
  | some .other => .error .typeError
  | none => .error (.keyError key)

def argon2SaltLen : Nat := 16

/-- Argon2 refuses shorter salts. -/
def argon2MinSaltLen : Nat := 8

/-- A salt and a nonce from `secrets.token_bytes`. -/
structure Entropy where
  salt : Bytes
  nonce : Bytes
  long : salt.length = argon2SaltLen
deriving DecidableEq, Repr

section Secrets

variable {Priv Pub Pem : Type} (P : Primitives Priv Pub Pem)

def encryptSecret (plain password : Bytes) (entropy : Entropy) : EncDict where
  kdf := some (.text "argon2id")
  salt := some (.text (b64encode entropy.salt))
  nonce := some (.text (b64encode entropy.nonce))
  ct := some (.text
    (b64encode (P.aesEncrypt (P.argon2id password entropy.salt) entropy.nonce plain)))

/-- `_derive_key_argon2id`. -/
def deriveKeyArgon2id (password salt : Bytes) : Except Raised Bytes :=
  if salt.length < argon2MinSaltLen then .error .hashingError else .ok (P.argon2id password salt)

/-- The key for an entry of this kind. -/
def deriveKey (kdf : Option JsonItem) (password salt : Bytes) : Except Raised Bytes :=
  if kdf = some (.text "argon2id") then deriveKeyArgon2id P password salt
  else .ok (P.pbkdf2 password salt)

/-- A value without `get` fails where the kind of derivation is looked up. -/
def decryptSecret : EncValue → Bytes → Except Raised Bytes
  | .other, _ => .error .attributeError
  | .dict enc, password => do
      let salt ← entry "salt" enc.salt
      let nonce ← entry "nonce" enc.nonce
      let ct ← entry "ct" enc.ct
      let key ← deriveKey P enc.kdf password salt
      P.aesDecrypt key nonce ct

/-- `json.dumps(database.encrypt_secret(plain, password))`. -/
def wrap (plain password : Bytes) (entropy : Entropy) : Wrapper :=
  .json (.dict (encryptSecret P plain password entropy))

/-- `database.decrypt_secret(json.loads(text), password)`. -/
def unwrap (wrapper : Wrapper) (password : Bytes) : Except Raised Bytes := do
  let enc ← jsonLoads wrapper
  decryptSecret P enc password

end Secrets

/-- What the store relies on of the libraries: authenticated decryption under any other key
raises `InvalidTag`, different passwords give different keys, and a PEM opens with its own
password only. -/
structure Primitives.Lawful {Priv Pub Pem : Type} (P : Primitives Priv Pub Pem) : Prop where
  pubkey_round (pub : Pub) : P.pemToPubkey (P.pubkeyToPem pub) = .ok pub
  pem_opens {priv : Priv} {password salt : Bytes} {pem : Pem}
    (made : P.privkeyToEncryptedPem priv password salt = .ok pem) :
    P.pemToPrivkey pem password = .ok priv
  pem_refuses {priv : Priv} {password salt other : Bytes} {pem : Pem}
    (made : P.privkeyToEncryptedPem priv password salt = .ok pem) (differ : other ≠ password) :
    ∃ raised, raised.isValueOrType = true ∧ P.pemToPrivkey pem other = .error raised
  argon2id_injective {first second salt : Bytes}
    (same : P.argon2id first salt = P.argon2id second salt) : first = second
  aes_opens (key nonce plain : Bytes) :
    P.aesDecrypt key nonce (P.aesEncrypt key nonce plain) = .ok plain
  aes_refuses {key other : Bytes} (nonce plain : Bytes) (differ : other ≠ key) :
    P.aesDecrypt other nonce (P.aesEncrypt key nonce plain) = .error .invalidTag

section Toy

/-- A key in front of its ciphertext, so that no key's mark begins another's. -/
def toyMark : Bytes → Bytes
  | [] => [0]
  | byte :: rest => 1 :: byte :: toyMark rest

theorem eq_of_toyMark_append {first second left right : Bytes}
    (same : toyMark first ++ left = toyMark second ++ right) : first = second := by
  induction first generalizing second with
  | nil =>
      cases second with
      | nil => rfl
      | cons byte rest => simp [toyMark] at same
  | cons byte rest ih =>
      cases second with
      | nil => simp [toyMark] at same
      | cons other others =>
          simp only [toyMark, List.cons_append, List.cons.injEq, true_and] at same
          rw [same.1, ih same.2]

/-- The salt and the nonce of one byte each, over and over. -/
def toyEntropy (salt nonce : UInt8) : Entropy where
  salt := List.replicate 16 salt
  nonce := [nonce]
  long := List.length_replicate

/-- Libraries small enough to run: a password is its own key, a public key its own PEM. -/
def toyLibraries : Primitives String String (String × Bytes) where
  publicKey priv := priv
  keySize _ := 4096
  pubkeyToPem pub := pub
  pemToPubkey text := .ok text
  privkeyToEncryptedPem priv password _ := .ok (priv, password)
  pemToPrivkey pem password := if password = pem.2 then .ok pem.1 else .error .valueError
  argon2id password _ := password
  pbkdf2 password _ := password
  hkdf _ password := password
  aesEncrypt key _ plain := toyMark key ++ plain
  aesDecrypt key _ ct :=
    if toyMark key <+: ct then .ok (ct.drop (toyMark key).length) else .error .invalidTag

theorem toyLibraries_lawful : toyLibraries.Lawful where
  pubkey_round _ := rfl
  pem_opens made := by
    cases made
    exact if_pos rfl
  pem_refuses made differ := by
    cases made
    exact ⟨.valueError, rfl, if_neg differ⟩
  argon2id_injective same := same
  aes_opens key nonce plain := by
    simp only [toyLibraries, List.prefix_append, if_true, List.drop_left]
  aes_refuses nonce plain differ := by
    refine if_neg fun starts => differ ?_
    obtain ⟨rest, same⟩ := starts
    exact eq_of_toyMark_append same

end Toy

section Wrapping

variable {Priv Pub Pem : Type} {P : Primitives Priv Pub Pem}

@[simp] theorem decodeBase64_b64encode (bytes : Bytes) :
    decodeBase64 (b64encode bytes) = .ok bytes := by
  rw [decodeBase64, b64decode_b64encode]

@[simp] theorem entry_b64encode (key : String) (bytes : Bytes) :
    entry key (some (.text (b64encode bytes))) = .ok bytes := decodeBase64_b64encode bytes

@[simp] theorem deriveKey_drawn (password : Bytes) (entropy : Entropy) :
    deriveKey P (some (.text "argon2id")) password entropy.salt =
      .ok (P.argon2id password entropy.salt) := by
  rw [deriveKey, if_pos rfl, deriveKeyArgon2id, if_neg]
  rw [entropy.long]
  decide

theorem decryptSecret_encryptSecret (plain password other : Bytes) (entropy : Entropy) :
    decryptSecret P (.dict (encryptSecret P plain password entropy)) other =
      P.aesDecrypt (P.argon2id other entropy.salt) entropy.nonce
        (P.aesEncrypt (P.argon2id password entropy.salt) entropy.nonce plain) := by
  simp only [decryptSecret, encryptSecret, entry_b64encode, ok_bind, deriveKey_drawn]

/-- A wrapper opens with the password it was made with and with no other. -/
theorem unwrap_wrap (lawful : P.Lawful) (plain password other : Bytes) (entropy : Entropy) :
    unwrap P (wrap P plain password entropy) other =
      if other = password then .ok plain else .error .invalidTag := by
  have opened : unwrap P (wrap P plain password entropy) other =
      decryptSecret P (.dict (encryptSecret P plain password entropy)) other := rfl
  rw [opened, decryptSecret_encryptSecret]
  split
  · rename_i same
    rw [same]
    exact lawful.aes_opens _ _ _
  · rename_i differ
    exact lawful.aes_refuses _ _ (fun same => differ (lawful.argon2id_injective same))

theorem attempt_error {α : Type} {raised : Raised} (passes : raised.isValueOrType = false) :
    attempt (.error raised : Except Raised α) = .error raised := by
  rw [attempt, passes]
  rfl

theorem attempt_eq_some_iff {α : Type} {computed : Except Raised α} {value : α} :
    attempt computed = .ok (some value) ↔ computed = .ok value := by
  cases computed with
  | ok found => simp only [attempt, Except.ok.injEq, Option.some.injEq]
  | error raised =>
      rw [attempt]
      split <;> simp only [Except.ok.injEq, reduceCtorEq]

theorem ok_of_orKeyStoreError {α : Type} {message : String} {computed : Except Raised α}
    {value : α} (success : orKeyStoreError message computed = .ok value) :
    computed = .ok value := by
  cases computed with
  | ok found => exact success
  | error raised =>
      rw [orKeyStoreError] at success
      split at success <;> cases success

end Wrapping

end KeyStore

end UltimateEnigma
