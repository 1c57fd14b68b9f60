/-
# Field encryption

crypto.py and fernet.go over one Fernet scheme. The scheme is a parameter:
authenticated encryption of byte strings into URL-safe tokens under 32-byte
keys. `getFernet` hashes the operator's string into a key; `newFernetKeys`
decodes it as one.

Key definitions: `FernetScheme`, `getFernet`, `encryptField`, `decryptField`,
`newFernetKeys`, `FernetKeys.encryptField`, `spelledScheme`.
Key theorems: `decryptStr_encryptStr`, `decryptStr_other_key`, `encrypt_ne`,
`encryptField_ok`.
-/
import SocDashboard.Value

namespace SocDashboard

/-- A Fernet key: 32 bytes. -/
abbrev FernetKey := {bytes : List UInt8 // bytes.length = 32}

/-- What a token takes besides key and plaintext: its time and its IV. -/
structure Nonce where
  time : ℕ
  iv : List UInt8
  deriving DecidableEq, Repr

/-- The characters of URL-safe base64. -/
def isUrlSafe (c : Char) : Bool := c.isAlphanum || c = '-' || c = '_' || c = '='

/-- Fernet, as both libraries document it: decrypting with the encrypting key
returns the plaintext, with any other key it fails, and a token is URL-safe
base64 of more bytes than the plaintext has. -/
structure FernetScheme where
  encrypt : FernetKey → Nonce → ByteArray → String
  decrypt : FernetKey → String → Option ByteArray
  decrypt_encrypt : ∀ k n p, decrypt k (encrypt k n p) = some p
  decrypt_other : ∀ k k' n p, k ≠ k' → decrypt k' (encrypt k n p) = none
  token_urlSafe : ∀ k n p, ∀ c ∈ (encrypt k n p).toList, isUrlSafe c = true
  token_longer : ∀ k n p, p.size < (encrypt k n p).toUTF8.size

variable (F : FernetScheme)

/-! ### crypto.py -/

/-- `get_fernet`, with SHA-256 and the environment variable. -/
def getFernet (sha256 : ByteArray → FernetKey) (dbEncryptionKey : Option String) : Option FernetKey :=
  match dbEncryptionKey with
  | none => none
  | some key => if key = "" then none else some (sha256 key.toUTF8)

/-- `encrypt_field` of a string. -/
def encryptStr (fernet : Option FernetKey) (n : Nonce) (value : String) : String :=
  match fernet with
  | none => value
  | some k => F.encrypt k n value.toUTF8

/-- `encrypt_field`; `pyStr` is `str` on a value that is not a string. A lone surrogate is left
to the statement that binds the value, where it raises as it does in `encode`. -/
def encryptField (pyStr : Json → String) (fernet : Option FernetKey) (n : Nonce) (value : Json) : Json :=
  match value with
  | .null => .null
  | .str s => .str (encryptStr F fernet n s)
  | .lone before after => .lone before after
  | v => if fernet.isSome then .str (encryptStr F fernet n (pyStr v)) else v

/-- `decrypt_field` of a stored text. -/
def decryptStr (fernet : Option FernetKey) (value : String) : String :=
  match fernet with
  | none => value
  | some k =>
    match F.decrypt k value with
    | none => value
    | some bytes => (String.fromUTF8? bytes).getD value

/-- `decrypt_field`. -/
def decryptField (fernet : Option FernetKey) (value : Option String) : Option String :=
  value.map (decryptStr F fernet)

/-! ### fernet.go -/

/-- `fernetKeys`; nil is `none`. -/
abbrev FernetKeys := Option FernetKey

/-- `newFernetKeys`, with fernet-go's `DecodeKey`; the outer `none` is its
error. -/
def newFernetKeys (decodeKey : String → Option FernetKey) (keyStr : String) : Option FernetKeys :=
  if keyStr = "" then some none else (decodeKey keyStr).map some

/-- `(*fernetKeys).Encrypt`; `err` is the error of `EncryptAndSign`, if any. -/
def FernetKeys.encrypt (fk : FernetKeys) (err : Option String) (n : Nonce) (plaintext : String) :
    Except String String :=
  match fk with
  | none => .ok plaintext
  | some k =>
    if plaintext = "" then .ok plaintext
    else
      match err with
      | some e => .error ("fernet encrypt: " ++ e)
      | none => .ok (F.encrypt k n plaintext.toUTF8)

/-- `(*fernetKeys).encryptField`. -/
def FernetKeys.encryptField (fk : FernetKeys) (err : Option String) (n : Nonce) (s : String) :
    Except String String :=
  if s = "" then .ok "" else fk.encrypt F err n s

/-! ### What they rest on -/

variable {F}

/-- Decoding the UTF-8 of a string gives the string. -/
@[simp] theorem fromUTF8_toByteArray (s : String) : String.fromUTF8? s.toByteArray = some s := by
  simp [String.fromUTF8?, String.fromUTF8, s.isValidUTF8]

/-- What a key encrypts it decrypts. -/
@[simp] theorem decryptStr_encryptStr (fernet : Option FernetKey) (n : Nonce) (s : String) :
    decryptStr F fernet (encryptStr F fernet n s) = s := by
  cases fernet with
  | none => rfl
  | some k => simp [decryptStr, encryptStr, F.decrypt_encrypt]

theorem decryptField_encryptStr (fernet : Option FernetKey) (n : Nonce) (value : Option String) :
    decryptField F fernet (value.map (encryptStr F fernet n)) = value := by
  cases value <;> simp [decryptField]

/-- Another key gives the token back. -/
theorem decryptStr_other_key {k k' : FernetKey} (h : k ≠ k') (n : Nonce) (p : ByteArray) :
    decryptStr F (some k') (F.encrypt k n p) = F.encrypt k n p := by
  simp [decryptStr, F.decrypt_other k k' n p h]

/-- A token is not its plaintext. -/
theorem encrypt_ne (k : FernetKey) (n : Nonce) (s : String) : F.encrypt k n s.toUTF8 ≠ s := by
  intro h
  have hlt := F.token_longer k n s.toUTF8
  rw [h] at hlt
  exact lt_irrefl _ hlt

/-- Nothing but the empty string is stored as the empty string. -/
theorem encryptStr_ne_empty {s : String} (hs : s ≠ "") (fernet : Option FernetKey) (n : Nonce) :
    encryptStr F fernet n s ≠ "" := by
  cases fernet with
  | none => exact hs
  | some k =>
    intro he
    have hlt := F.token_longer k n s.toUTF8
    simp only [encryptStr] at he
    rw [he] at hlt
    simp at hlt

/-- What `encryptField` returns. -/
theorem encryptField_ok {fk : FernetKeys} {err : Option String} {n : Nonce} {s t : String}
    (h : fk.encryptField F err n s = .ok t) :
    t = if s = "" then "" else encryptStr F fk n s := by
  unfold FernetKeys.encryptField FernetKeys.encrypt at h
  cases fk with
  | none =>
    split_ifs at h with hs
    · simp [hs, Except.ok.inj h]
    · simp [encryptStr, Except.ok.inj h]
  | some k =>
    split_ifs at h with hs
    · simp [hs, Except.ok.inj h]
    · simp only at h
      cases err with
      | some e => simp at h
      | none => simp [hs, encryptStr, ← Except.ok.inj h]

/-! ### The laws can be met -/

/-- A byte as two of the letters `a` to `p`. -/
def hexByte (b : UInt8) : List Char :=
  [Char.ofNat (97 + b.toNat / 16), Char.ofNat (97 + b.toNat % 16)]

def unhexByte (c d : Char) : UInt8 := UInt8.ofNat ((c.toNat - 97) * 16 + (d.toNat - 97))

def unhex : List Char → List UInt8
  | c :: d :: cs => unhexByte c d :: unhex cs
  | _ => []

theorem unhexByte_hexByte (b : UInt8) :
    unhexByte (Char.ofNat (97 + b.toNat / 16)) (Char.ofNat (97 + b.toNat % 16)) = b := by
  have h : ∀ i < 16, (Char.ofNat (97 + i)).toNat = 97 + i := by decide
  have hb := b.toNat_lt
  simp only [unhexByte]
  rw [h (b.toNat / 16) (by omega), h (b.toNat % 16) (by omega)]
  have hsum : (97 + b.toNat / 16 - 97) * 16 + (97 + b.toNat % 16 - 97) = b.toNat := by omega
  rw [hsum, UInt8.ofNat_toNat]

theorem unhex_hex (bytes : List UInt8) : unhex (bytes.flatMap hexByte) = bytes := by
  induction bytes with
  | nil => rfl
  | cons b bytes ih => simp only [List.flatMap_cons, hexByte, List.cons_append, List.nil_append, unhex,
      unhexByte_hexByte, ih]

theorem hexByte_urlSafe (b : UInt8) : ∀ c ∈ hexByte b, isUrlSafe c = true := by
  have h : ∀ i < 16, isUrlSafe (Char.ofNat (97 + i)) = true := by decide
  have hb := b.toNat_lt
  intro c hc
  simp only [hexByte, List.mem_cons, List.not_mem_nil, or_false] at hc
  rcases hc with rfl | rfl
  · exact h _ (by omega)
  · exact h _ (by omega)

/-- A string has at least as many bytes as characters. -/
theorem length_le_utf8Encode_size (cs : List Char) : cs.length ≤ cs.utf8Encode.size := by
  induction cs with
  | nil => simp
  | cons c cs ih =>
    have hc := c.utf8Size_pos
    rw [List.utf8Encode_cons, ByteArray.size_append, List.utf8Encode_singleton, List.size_toByteArray,
      List.length_cons]
    have := String.length_utf8EncodeChar c
    omega

theorem length_hex (bytes : List UInt8) : (bytes.flatMap hexByte).length = 2 * bytes.length := by
  induction bytes with
  | nil => rfl
  | cons b bytes ih =>
    rw [List.flatMap_cons, List.length_append, ih]
    simp only [hexByte, List.length_cons, List.length_nil]
    omega

/-- A scheme that spells out key and plaintext. -/
def spelledScheme : FernetScheme where
  encrypt k _ p := String.ofList ((k.1 ++ p.data.toList).flatMap hexByte)
  decrypt k token :=
    let bytes := unhex token.toList
    if bytes.take 32 = k.1 then some ⟨(bytes.drop 32).toArray⟩ else none
  decrypt_encrypt k n p := by
    simp only [String.toList_ofList, unhex_hex, List.take_left' k.2, List.drop_left' k.2, if_true]
  decrypt_other k k' n p h := by
    have hk : k.1 ≠ k'.1 := fun he => h (Subtype.ext he)
    simp only [String.toList_ofList, unhex_hex, List.take_left' k.2, hk, if_false]
  token_urlSafe k n p := by
    intro c hc
    rw [String.toList_ofList] at hc
    obtain ⟨b, -, hb⟩ := List.mem_flatMap.mp hc
    exact hexByte_urlSafe b c hb
  token_longer k n p := by
    have hlen := length_le_utf8Encode_size ((k.1 ++ p.data.toList).flatMap hexByte)
    rw [length_hex, List.length_append, k.2] at hlen
    have hp : p.data.toList.length = p.size := rfl
    rw [String.toUTF8_eq_toByteArray, String.toByteArray_ofList]
    omega

/-- The key of thirty-two zero bytes. -/
def zeroKey : FernetKey := ⟨List.replicate 32 0, by decide⟩

end SocDashboard
