/-
# `Encryption` — the AES key files, and the strings encrypted under them

The key and the IV live base64-encoded in two files.  `encryptString` generates
a new pair when one of the files cannot be opened, whatever is in the other;
afterwards it reads both back and encrypts.  `decryptString` only reads.

    AES_GenerateAndSaveKeys   new files, possibly cut short by failing writes
    AES_GetKeyFromFile        the content of a file, if it has the right length
    encryptString             the files afterwards, and the text
    decryptString             the plaintext and its length

OpenSSL is a parameter (`OpenSsl`), with what the code relies on in
`OpenSsl.Lawful`.  The memory BIO behind `base64_encode` does not grow for ever, and
nobody looks at what `BIO_write` and `BIO_flush` return: a text may be cut.  Lengths
pass through `int`; `base64_decode` makes one of the length of the text.

A ciphertext is readable at any later time exactly when its text is whole and shorter
than 2^31 (`encryptString_readable_iff`); a cut one is returned all the same
(`long_ciphertext_unreadable`).
-/
import Mathlib.Data.List.TakeWhile
import Mathlib.Logic.Equiv.Basic
import PlatformEventFilter.Lib.Base64
import PlatformEventFilter.Lib.Run
import PlatformEventFilter.Types

namespace Pef

def AES_MAX_KEY_LENGTH : Nat := 32
def AES_MAX_IV_LENGTH : Nat := 16

/-- A size or a sum as the `int` it is stored in. -/
def asInt (n : Nat) : Int :=
  if n % 2 ^ 32 < 2 ^ 31 then (n % 2 ^ 32 : Nat) else (n % 2 ^ 32 : Nat) - 2 ^ 32

/-- The bytes of a C string, up to the first NUL. -/
def cString (bytes : List U8) : List U8 := bytes.takeWhile (· ≠ 0)

/-- The characters of a text of that many bytes. -/
def textLength (n : Nat) : Nat := 4 * ((n + 2) / 3)

/-- The bytes of the ciphertext of that many. -/
def cipherLength (n : Nat) : Nat := 16 * (n / 16 + 1)

/-- What the code calls of OpenSSL. -/
structure OpenSsl where
  /-- The characters a base64 BIO makes of the bytes. -/
  base64Encode : List U8 → List U8
  /-- How many of them, for so many bytes, the memory BIO behind it takes. -/
  bioTakes : Nat → Nat
  /-- The bytes a base64 BIO reads; none when the text is not base64. -/
  base64Decode : List U8 → List U8
  /-- AES-256-CBC of a plaintext, under a key and an IV. -/
  aesEncrypt : List U8 → List U8 → List U8 → List U8
  /-- Its inverse; `none` when the padding is bad. -/
  aesDecrypt : List U8 → List U8 → List U8 → Option (List U8)

/-- A key and an IV as `RAND_bytes` draws them. -/
structure AesKeys where
  key : List U8
  iv : List U8
  length_key : key.length = AES_MAX_KEY_LENGTH
  length_iv : iv.length = AES_MAX_IV_LENGTH

/-- What is relied on: decoding and decryption invert encoding and encryption, a
text has four non-NUL characters for every three bytes begun, a short one is never cut,
and a ciphertext fills one more block than the plaintext does. -/
structure OpenSsl.Lawful (O : OpenSsl) : Prop where
  decode_encode : ∀ bytes, O.base64Decode (O.base64Encode bytes) = bytes
  length_encode : ∀ bytes, (O.base64Encode bytes).length = textLength bytes.length
  encode_ne_zero : ∀ bytes, ∀ x ∈ O.base64Encode bytes, x ≠ 0
  takes_short : ∀ n ≤ 1024, textLength n ≤ O.bioTakes n
  decrypt_encrypt : ∀ (k : AesKeys) (plaintext : List U8),
    O.aesDecrypt k.key k.iv (O.aesEncrypt k.key k.iv plaintext) = some plaintext
  length_encrypt : ∀ (k : AesKeys) (plaintext : List U8),
    (O.aesEncrypt k.key k.iv plaintext).length = cipherLength plaintext.length
  length_decrypt : ∀ (key iv ciphertext plaintext : List U8),
    O.aesDecrypt key iv ciphertext = some plaintext →
      ciphertext.length = cipherLength plaintext.length

/-- Only whole groups of four characters are decoded, to three bytes at most. -/
def OpenSsl.DecodesGroups (O : OpenSsl) : Prop :=
  ∀ text, (O.base64Decode text).length ≤ 3 * (text.length / 4)

/-- A text that is cut does not decode to whole blocks of a cipher. -/
def OpenSsl.CutsBlocks (O : OpenSsl) : Prop :=
  ∀ bytes, 0 < O.bioTakes bytes.length → O.bioTakes bytes.length < textLength bytes.length →
    (O.base64Decode ((O.base64Encode bytes).take (O.bioTakes bytes.length))).length % 16 ≠ 0

/-- The text of a plaintext of that length is whole, and its length fits an `int`. -/
def OpenSsl.KeepsText (O : OpenSsl) (n : Nat) : Prop :=
  textLength (cipherLength n) ≤ O.bioTakes (cipherLength n) ∧
    textLength (cipherLength n) < 2 ^ 31

instance (O : OpenSsl) (n : Nat) : Decidable (O.KeepsText n) := inferInstanceAs (Decidable (_ ∧ _))

/-- The text of a plaintext of that length is empty: the length of the ciphertext does
not fit an `int`, or the BIO takes nothing of the text. -/
def OpenSsl.RefusesText (O : OpenSsl) (n : Nat) : Prop :=
  2 ^ 31 - 16 ≤ n ∨ O.bioTakes (cipherLength n) = 0

/-- The files `aesKeyFile` and `aesIVFile`, `none` when absent. -/
structure KeyFiles where
  key : Option (List U8)
  iv : Option (List U8)
  deriving DecidableEq

/-- How the file operations of `AES_GenerateAndSaveKeys` go: whether each file is
opened for writing, and how many bytes each `fwrite` manages. -/
structure SaveOps where
  opensKey : Bool
  opensIv : Bool
  /-- The bytes written, `none` for all of them. -/
  keyBytes : Option Nat
  ivBytes : Option Nat
  deriving DecidableEq

/-- No operation fails. -/
def SaveOps.allOk : SaveOps := ⟨true, true, none, none⟩

/-- What one call draws and meets. -/
structure CryptEnv where
  /-- The key and IV `RAND_bytes` draws, if it succeeds. -/
  rand : Option AesKeys
  save : SaveOps
  /-- The EVP context is created and initialized. -/
  evp : Bool

variable (O : OpenSsl)

/-! ## The functions -/

/-- A negative length writes nothing.  What `BIO_write` and `BIO_flush` return is not
looked at: the text is what the memory BIO has taken. -/
def base64_encode (input : List U8) (length : Int) : List U8 :=
  let bytes := input.take length.toNat
  cString ((O.base64Encode bytes).take (O.bioTakes bytes.length))

/-- The bytes decoded, at least one.  `BIO_read` reads nothing into a buffer of
negative length. -/
def base64_decode (input : List U8) : Option (List U8) :=
  let decodeLen := asInt (cString input).length
  let buffer := (O.base64Decode (cString input)).take decodeLen.toNat
  if buffer.length = 0 then none else some buffer

/-- What `fwrite` leaves in a file it is given the bytes for. -/
def fwrite (bytes : List U8) : Option Nat → List U8
  | none => bytes
  | some n => bytes.take n

/-- Opening a file for writing empties it; the results of the writes are not
looked at. -/
def AES_GenerateAndSaveKeys (rand : Option AesKeys) (save : SaveOps) (files : KeyFiles) :
    Bool × KeyFiles :=
  match rand with
  | none => (false, files)
  | some k =>
      let encodedKey := base64_encode O k.key AES_MAX_KEY_LENGTH
      let encodedIV := base64_encode O k.iv AES_MAX_IV_LENGTH
      if save.opensKey && save.opensIv then
        (true, ⟨some (fwrite encodedKey save.keyBytes), some (fwrite encodedIV save.ivBytes)⟩)
      else
        (false, ⟨if save.opensKey then some [] else files.key,
          if save.opensIv then some [] else files.iv⟩)

/-- The decoded content of a file, when it is `bufferSize` bytes. -/
def AES_GetKeyFromFile (file : Option (List U8)) (bufferSize : Nat) : Option (List U8) :=
  match file with
  | none => none
  | some encoded => match base64_decode O encoded with
      | none => none
      | some decoded => if decoded.length ≠ bufferSize then none else some decoded

/-- Key and IV as read from the files. -/
def readKeys (files : KeyFiles) : Option (List U8 × List U8) :=
  match AES_GetKeyFromFile O files.key AES_MAX_KEY_LENGTH with
  | none => none
  | some key => match AES_GetKeyFromFile O files.iv AES_MAX_IV_LENGTH with
      | none => none
      | some iv => some (key, iv)

/-- The text of a plaintext encrypted under a key and an IV.  The plaintext's
length is handed over as an `int`, and a negative one refused. -/
def encryptUnder (key iv plaintext : List U8) : List U8 :=
  let inl := asInt plaintext.length
  if inl < 0 then []
  else
    let ciphertext := O.aesEncrypt key iv (plaintext.take inl.toNat)
    base64_encode O ciphertext (asInt ciphertext.length)

/-- The files afterwards, and the text; it is empty on every failure. -/
def encryptString (e : CryptEnv) (files : KeyFiles) (plaintext : List U8) :
    KeyFiles × List U8 :=
  let (generated, files) :=
    if files.key.isNone || files.iv.isNone then AES_GenerateAndSaveKeys O e.rand e.save files
    else (true, files)
  if !generated then (files, [])
  else match readKeys O files with
    | none => (files, [])
    | some (key, iv) => (files, if e.evp then encryptUnder O key iv plaintext else [])

/-- The plaintext and `out_plaintext_len`; nothing and 0 on every failure. -/
def decryptString (evp : Bool) (files : KeyFiles) (b64Ciphertext : List U8) : List U8 × Int :=
  if b64Ciphertext.isEmpty then ([], 0)
  else if files.key.isNone || files.iv.isNone then ([], 0)
  else match readKeys O files with
    | none => ([], 0)
    | some (key, iv) => match base64_decode O b64Ciphertext with
        | none => ([], 0)
        | some ciphertext =>
            if !evp then ([], 0)
            else match O.aesDecrypt key iv ciphertext with
              | none => ([], 0)
              | some plaintext => (plaintext, asInt plaintext.length)

/-! ## Calls -/

/-- A call of one of the two functions. -/
inductive CryptCall where
  | encrypt (plaintext : List U8) (e : CryptEnv)
  | decrypt (b64Ciphertext : List U8) (evp : Bool)

/-- The call's file operations do not fail. -/
def CryptCall.filesOk : CryptCall → Prop
  | .encrypt _ e => e.save = .allOk
  | .decrypt _ _ => True

/-- The files after a call. -/
def cryptStep (files : KeyFiles) : CryptCall → Option KeyFiles
  | .encrypt plaintext e => some (encryptString O e files plaintext).1
  | .decrypt _ _ => some files

/-- A non-empty text returned for the plaintext, in whatever run, is decrypted to
the plaintext after every further run, and the files stay what they were. -/
def StaysReadable (plaintext : List U8) : Prop :=
  ∀ (files : KeyFiles) (calls : List CryptCall) (e : CryptEnv) (s s' : KeyFiles)
    (later : List CryptCall) (s'' : KeyFiles), (∀ c ∈ calls ++ later, c.filesOk) →
    Occurs (cryptStep O) files calls s (.encrypt plaintext e) s' →
    (encryptString O e s plaintext).2 ≠ [] → Reached (cryptStep O) s' later s'' →
    s'' = s' ∧ decryptString O true s'' (encryptString O e s plaintext).2 =
      (plaintext, (plaintext.length : Int))

variable {O}

/-! ## Lengths and texts -/

theorem asInt_of_lt {n : Nat} (h : n < 2 ^ 31) : asInt n = n := by
  unfold asInt
  rw [Nat.mod_eq_of_lt (by omega), if_pos h]

theorem asInt_of_ge {n : Nat} (h : 2 ^ 31 ≤ n) (h' : n < 2 ^ 32) : asInt n < 0 := by
  unfold asInt
  rw [Nat.mod_eq_of_lt h', if_neg (not_lt.mpr h)]
  omega

theorem cString_eq_self {text : List U8} (h : ∀ x ∈ text, x ≠ 0) : cString text = text :=
  List.takeWhile_eq_self_iff.mpr fun x hx => decide_eq_true (h x hx)

theorem cString_base64Encode (hO : O.Lawful) (bytes : List U8) :
    cString (O.base64Encode bytes) = O.base64Encode bytes :=
  cString_eq_self (hO.encode_ne_zero bytes)

theorem base64_encode_eq (hO : O.Lawful) {bytes : List U8} (h : bytes.length < 2 ^ 31) :
    base64_encode O bytes (asInt bytes.length) =
      (O.base64Encode bytes).take (O.bioTakes bytes.length) := by
  unfold base64_encode
  rw [asInt_of_lt h, Int.toNat_natCast, List.take_length]
  exact cString_eq_self fun x hx => hO.encode_ne_zero bytes x (List.mem_of_mem_take hx)

theorem take_bioTakes (hO : O.Lawful) {bytes : List U8}
    (h : textLength bytes.length ≤ O.bioTakes bytes.length) :
    (O.base64Encode bytes).take (O.bioTakes bytes.length) = O.base64Encode bytes :=
  List.take_of_length_le ((hO.length_encode bytes).trans_le h)

theorem base64_encode_negative (hO : O.Lawful) {bytes : List U8} {length : Int}
    (h : length < 0) : base64_encode O bytes length = [] := by
  have hempty : O.base64Encode [] = [] := List.length_eq_zero_iff.mp (hO.length_encode [])
  unfold base64_encode
  rw [Int.toNat_of_nonpos (by omega), List.take_zero]
  dsimp only
  rw [hempty, List.take_nil]
  rfl

theorem base64_decode_encode (hO : O.Lawful) {bytes : List U8} (hne : bytes ≠ [])
    (h : (O.base64Encode bytes).length < 2 ^ 31) :
    base64_decode O (O.base64Encode bytes) = some bytes := by
  have hlen := hO.length_encode bytes
  have htake : bytes.take (asInt (O.base64Encode bytes).length).toNat = bytes := by
    rw [asInt_of_lt h, Int.toNat_natCast]
    refine List.take_of_length_le ?_
    rw [hlen, textLength]
    omega
  have hpos : ¬ bytes.length = 0 := fun h0 => hne (List.length_eq_zero_iff.mp h0)
  simp only [base64_decode, cString_base64Encode hO, hO.decode_encode, htake, if_neg hpos]

theorem length_base64_decode (hgroups : O.DecodesGroups) {text decoded : List U8}
    (h : base64_decode O text = some decoded) : decoded.length ≤ 3 * (text.length / 4) := by
  have hprefix : (cString text).length ≤ text.length := (List.takeWhile_prefix _).length_le
  have hgroup := hgroups (cString text)
  simp only [base64_decode] at h
  split at h
  · cases h
  · cases h
    rw [List.length_take]
    omega

theorem base64_decode_some (hgroups : O.DecodesGroups) {text decoded : List U8}
    (hnz : ∀ x ∈ text, x ≠ 0) (hint : text.length < 2 ^ 31)
    (h : base64_decode O text = some decoded) : decoded = O.base64Decode text := by
  have hgroup := hgroups text
  simp only [base64_decode, cString_eq_self hnz, asInt_of_lt hint, Int.toNat_natCast] at h
  rw [List.take_of_length_le (by omega)] at h
  split at h
  · cases h
  · cases h
    rfl

/-- A text whose length does not fit an `int` is not decoded. -/
theorem base64_decode_long {text : List U8} (hnz : ∀ x ∈ text, x ≠ 0)
    (h : 2 ^ 31 ≤ text.length) (h' : text.length < 2 ^ 32) : base64_decode O text = none := by
  have hneg := asInt_of_ge h h'
  simp only [base64_decode, cString_eq_self hnz]
  rw [Int.toNat_of_nonpos (by omega), List.take_zero]
  rfl

/-! ## The key files -/

theorem AES_GetKeyFromFile_some {file : Option (List U8)} {n : Nat} {bytes : List U8}
    (h : AES_GetKeyFromFile O file n = some bytes) : file.isSome ∧ bytes.length = n := by
  unfold AES_GetKeyFromFile at h
  split at h
  · cases h
  · split at h
    · cases h
    · split at h
      · cases h
      · next hlen =>
          cases h
          exact ⟨rfl, not_not.mp hlen⟩

theorem AES_GetKeyFromFile_encode (hO : O.Lawful) {bytes : List U8} (hpos : 0 < bytes.length)
    (h : bytes.length ≤ 32) :
    AES_GetKeyFromFile O (some (O.base64Encode bytes)) bytes.length = some bytes := by
  have hlen := hO.length_encode bytes
  rw [textLength] at hlen
  have hdecode := base64_decode_encode hO (List.ne_nil_of_length_pos hpos) (by omega)
  simp only [AES_GetKeyFromFile, hdecode, ne_eq, not_true_eq_false, if_false]

theorem readKeys_some {files : KeyFiles} {key iv : List U8}
    (h : readKeys O files = some (key, iv)) :
    files.key.isSome ∧ files.iv.isSome ∧ ∃ k : AesKeys, k.key = key ∧ k.iv = iv := by
  unfold readKeys at h
  split at h
  · cases h
  · next hkey =>
      split at h
      · cases h
      · next hiv =>
          cases h
          obtain ⟨hsomeKey, hlenKey⟩ := AES_GetKeyFromFile_some hkey
          obtain ⟨hsomeIv, hlenIv⟩ := AES_GetKeyFromFile_some hiv
          exact ⟨hsomeKey, hsomeIv, ⟨key, iv, hlenKey, hlenIv⟩, rfl, rfl⟩

/-- The files that hold a pair. -/
def AesKeys.files (O : OpenSsl) (k : AesKeys) : KeyFiles :=
  ⟨some (O.base64Encode k.key), some (O.base64Encode k.iv)⟩

theorem readKeys_files (hO : O.Lawful) (k : AesKeys) :
    readKeys O (k.files O) = some (k.key, k.iv) := by
  have hkey : AES_GetKeyFromFile O (k.files O).key AES_MAX_KEY_LENGTH = some k.key :=
    k.length_key ▸ AES_GetKeyFromFile_encode hO (by rw [k.length_key]; decide)
      (by rw [k.length_key]; decide)
  have hiv : AES_GetKeyFromFile O (k.files O).iv AES_MAX_IV_LENGTH = some k.iv :=
    k.length_iv ▸ AES_GetKeyFromFile_encode hO (by rw [k.length_iv]; decide)
      (by rw [k.length_iv]; decide)
  simp only [readKeys, hkey, hiv]

/-- Both files can be opened. -/
def KeyFiles.Exist (files : KeyFiles) : Prop := files.key.isSome ∧ files.iv.isSome

theorem KeyFiles.Exist.none_missing {files : KeyFiles} (h : files.Exist) :
    (files.key.isNone || files.iv.isNone) = false := by
  rw [Option.isNone_eq_false_iff.mpr h.1, Option.isNone_eq_false_iff.mpr h.2]
  rfl

theorem encryptString_exist {files : KeyFiles} (h : files.Exist) (e : CryptEnv)
    (plaintext : List U8) : (encryptString O e files plaintext).1 = files := by
  simp only [encryptString, h.none_missing, Bool.false_eq_true, if_false, Bool.not_true]
  split <;> rfl

theorem cryptStep_exist {files files' : KeyFiles} {c : CryptCall} (h : files.Exist)
    (hstep : cryptStep O files c = some files') : files' = files := by
  cases c with
  | encrypt plaintext e =>
      cases hstep
      exact encryptString_exist h e plaintext
  | decrypt text evp =>
      cases hstep
      rfl

/-- Files that exist are frozen: no run changes them. -/
theorem exist_frozen {files files' : KeyFiles} {calls : List CryptCall} (h : files.Exist)
    (hrun : Reached (cryptStep O) files calls files') : files' = files := by
  refine Reached.induct (P := fun s => s = files) rfl (fun s c s' hoccurs hs => ?_) hrun
  obtain ⟨_, _, _, _, hstep⟩ := hoccurs
  subst hs
  exact cryptStep_exist h hstep

theorem encryptString_text {e : CryptEnv} {files : KeyFiles} {plaintext : List U8}
    (h : (encryptString O e files plaintext).2 ≠ []) :
    ∃ k : AesKeys, readKeys O (encryptString O e files plaintext).1 = some (k.key, k.iv) ∧
      (encryptString O e files plaintext).1.Exist ∧
      (encryptString O e files plaintext).2 = encryptUnder O k.key k.iv plaintext := by
  revert h
  simp only [encryptString]
  generalize (if files.key.isNone || files.iv.isNone then
    AES_GenerateAndSaveKeys O e.rand e.save files else (true, files)) = opened
  obtain ⟨generated, files'⟩ := opened
  intro h
  cases generated with
  | false => exact absurd rfl h
  | true =>
      simp only [Bool.not_true, Bool.false_eq_true, if_false] at h ⊢
      cases hread : readKeys O files' with
      | none =>
          rw [hread] at h
          exact absurd rfl h
      | some pair =>
          obtain ⟨key, iv⟩ := pair
          obtain ⟨hkey, hiv, k, rfl, rfl⟩ := readKeys_some hread
          rw [hread] at h
          cases hevp : e.evp with
          | false =>
              rw [hevp] at h
              exact absurd rfl h
          | true => exact ⟨k, hread, ⟨hkey, hiv⟩, rfl⟩

/-! ## Reading a text back -/

theorem encryptUnder_eq (hO : O.Lawful) (k : AesKeys) {plaintext : List U8}
    (h : plaintext.length < 2 ^ 31 - 16) :
    encryptUnder O k.key k.iv plaintext =
      (O.base64Encode (O.aesEncrypt k.key k.iv plaintext)).take
        (O.bioTakes (cipherLength plaintext.length)) := by
  have hlen := hO.length_encrypt k plaintext
  have hnonneg : ¬ ((plaintext.length : Int) < 0) := by omega
  have hint : (O.aesEncrypt k.key k.iv plaintext).length < 2 ^ 31 := by
    rw [hlen, cipherLength]
    omega
  unfold encryptUnder
  rw [asInt_of_lt (by omega), if_neg hnonneg, Int.toNat_natCast, List.take_length, ← hlen]
  exact base64_encode_eq hO hint

/-- Where the length of the ciphertext overflows, the text is empty. -/
theorem encryptUnder_overflow (hO : O.Lawful) (k : AesKeys) {plaintext : List U8}
    (h : 2 ^ 31 - 16 ≤ plaintext.length) (h' : plaintext.length < 2 ^ 31) :
    encryptUnder O k.key k.iv plaintext = [] := by
  have hlen := hO.length_encrypt k plaintext
  rw [cipherLength] at hlen
  have hnonneg : ¬ ((plaintext.length : Int) < 0) := by omega
  unfold encryptUnder
  rw [asInt_of_lt h', if_neg hnonneg, Int.toNat_natCast, List.take_length]
  exact base64_encode_negative hO (asInt_of_ge (by omega) (by omega))

theorem encryptUnder_refused (hO : O.Lawful) (k : AesKeys) {plaintext : List U8}
    (h : O.RefusesText plaintext.length) (h' : plaintext.length < 2 ^ 31) :
    encryptUnder O k.key k.iv plaintext = [] := by
  rcases Nat.lt_or_ge plaintext.length (2 ^ 31 - 16) with hfits | hoverflow
  · rw [encryptUnder_eq hO k hfits, h.resolve_left (by omega), List.take_zero]
  · exact encryptUnder_overflow hO k hoverflow h'

theorem OpenSsl.KeepsText.length_lt {n : Nat} (h : O.KeepsText n) : n < 2 ^ 31 - 16 := by
  have hlen := h.2
  rw [textLength, cipherLength] at hlen
  omega

theorem keepsText_zero (hO : O.Lawful) : O.KeepsText 0 :=
  ⟨hO.takes_short (cipherLength 0) (by decide), by decide⟩

theorem decryptString_kept (hO : O.Lawful) {k : AesKeys} {files : KeyFiles}
    (hexist : files.Exist) (hread : readKeys O files = some (k.key, k.iv)) {plaintext : List U8}
    (h : O.KeepsText plaintext.length) :
    decryptString O true files (encryptUnder O k.key k.iv plaintext) =
      (plaintext, (plaintext.length : Int)) := by
  have hfits := h.length_lt
  obtain ⟨hwhole, hint⟩ := h
  have hcipher := hO.length_encrypt k plaintext
  have hpos : 0 < cipherLength plaintext.length := Nat.mul_pos (by decide) (Nat.succ_pos _)
  rw [← hcipher] at hwhole hint hpos
  rw [← hO.length_encode] at hint
  have hdecode := base64_decode_encode hO (List.ne_nil_of_length_pos hpos) hint
  have hne : (O.base64Encode (O.aesEncrypt k.key k.iv plaintext)).isEmpty = false := by
    refine List.isEmpty_eq_false_iff.mpr (List.ne_nil_of_length_pos ?_)
    rw [hO.length_encode, textLength]
    omega
  rw [encryptUnder_eq hO k hfits, ← hcipher, take_bioTakes hO hwhole]
  simp only [decryptString, hne, hexist.none_missing, hread, hdecode, hO.decrypt_encrypt,
    Bool.not_true, Bool.false_eq_true, if_false]
  rw [asInt_of_lt (by omega)]

theorem encryptUnder_ne_zero (hO : O.Lawful) (k : AesKeys) {plaintext : List U8}
    (h : plaintext.length < 2 ^ 31 - 16) : ∀ x ∈ encryptUnder O k.key k.iv plaintext, x ≠ 0 := by
  intro x hx
  rw [encryptUnder_eq hO k h] at hx
  exact hO.encode_ne_zero _ x (List.mem_of_mem_take hx)

theorem length_encryptUnder (hO : O.Lawful) (k : AesKeys) {plaintext : List U8}
    (h : plaintext.length < 2 ^ 31 - 16) :
    (encryptUnder O k.key k.iv plaintext).length =
      min (O.bioTakes (cipherLength plaintext.length))
        (textLength (cipherLength plaintext.length)) := by
  rw [encryptUnder_eq hO k h, List.length_take, hO.length_encode, hO.length_encrypt]

theorem cut_of_base64_decode (hO : O.Lawful) (k : AesKeys) {plaintext decoded : List U8}
    (h : ¬ O.KeepsText plaintext.length) (h' : plaintext.length < 2 ^ 31 - 16)
    (hdecode : base64_decode O (encryptUnder O k.key k.iv plaintext) = some decoded) :
    O.bioTakes (cipherLength plaintext.length) < textLength (cipherLength plaintext.length) ∧
      (encryptUnder O k.key k.iv plaintext).length < 2 ^ 31 := by
  have hlen := length_encryptUnder hO k h'
  have hbound : textLength (cipherLength plaintext.length) < 2 ^ 32 := by
    rw [textLength, cipherLength]
    omega
  have hint : (encryptUnder O k.key k.iv plaintext).length < 2 ^ 31 := by
    by_contra hlong
    rw [base64_decode_long (encryptUnder_ne_zero hO k h') (not_lt.mp hlong) (by omega)] at hdecode
    cases hdecode
  refine ⟨?_, hint⟩
  by_contra hwhole
  exact h ⟨not_lt.mp hwhole, by omega⟩

theorem decryptString_unkept (hO : O.Lawful) (hgroups : O.DecodesGroups) {k : AesKeys}
    {files : KeyFiles} (hexist : files.Exist) (hread : readKeys O files = some (k.key, k.iv))
    {plaintext : List U8} (h : ¬ O.KeepsText plaintext.length)
    (h' : plaintext.length < 2 ^ 31 - 16) (hne : encryptUnder O k.key k.iv plaintext ≠ []) :
    (decryptString O true files (encryptUnder O k.key k.iv plaintext)).1 ≠ plaintext := by
  have hnonempty : [] ≠ plaintext := by
    rintro rfl
    exact h (keepsText_zero hO)
  simp only [decryptString, List.isEmpty_eq_false_iff.mpr hne, hexist.none_missing, hread,
    Bool.not_true, Bool.false_eq_true, if_false]
  cases hdecode : base64_decode O (encryptUnder O k.key k.iv plaintext) with
  | none => exact hnonempty
  | some decoded =>
      dsimp only
      cases hdecrypt : O.aesDecrypt k.key k.iv decoded with
      | none => exact hnonempty
      | some decrypted =>
          dsimp only
          rintro rfl
          have hcut := (cut_of_base64_decode hO k h h' hdecode).1
          have hle := length_base64_decode hgroups hdecode
          rw [length_encryptUnder hO k h', hO.length_decrypt _ _ _ _ hdecrypt] at hle
          rw [textLength] at hcut hle
          omega

/-- Where a cut text is never that of whole blocks, nothing comes out of it at all. -/
theorem decryptString_cut (hO : O.Lawful) (hgroups : O.DecodesGroups) (hcuts : O.CutsBlocks)
    {k : AesKeys} {files : KeyFiles} (hexist : files.Exist)
    (hread : readKeys O files = some (k.key, k.iv)) {plaintext : List U8}
    (h : ¬ O.KeepsText plaintext.length) (h' : plaintext.length < 2 ^ 31 - 16) :
    decryptString O true files (encryptUnder O k.key k.iv plaintext) = ([], 0) := by
  unfold decryptString
  split
  · rfl
  next hne =>
  rw [hexist.none_missing, hread, if_neg Bool.false_ne_true]
  dsimp only
  cases hdecode : base64_decode O (encryptUnder O k.key k.iv plaintext) with
  | none => rfl
  | some decoded =>
      dsimp only
      cases hdecrypt : O.aesDecrypt k.key k.iv decoded with
      | none => rfl
      | some decrypted =>
          obtain ⟨hcut, hint⟩ := cut_of_base64_decode hO k h h' hdecode
          have hbytes := base64_decode_some hgroups (encryptUnder_ne_zero hO k h') hint hdecode
          have hblocks := hO.length_decrypt _ _ _ _ hdecrypt
          rw [cipherLength] at hblocks
          have hsome : 0 < (encryptUnder O k.key k.iv plaintext).length :=
            List.length_pos_iff.mpr (mt List.isEmpty_iff.mpr hne)
          rw [length_encryptUnder hO k h'] at hsome
          rw [encryptUnder_eq hO k h'] at hbytes
          have hpieces := hcuts (O.aesEncrypt k.key k.iv plaintext)
          rw [hO.length_encrypt, ← hbytes] at hpieces
          exact absurd (by omega) (hpieces (by omega) hcut)

/-- A plaintext whose text is returned but not kept is lost as soon as it is encrypted,
under any pair already in the files. -/
theorem not_staysReadable (hO : O.Lawful) (hgroups : O.DecodesGroups) (k : AesKeys)
    {plaintext : List U8} (h : ¬ O.KeepsText plaintext.length)
    (h' : ¬ O.RefusesText plaintext.length) : ¬ StaysReadable O plaintext := by
  intro hread
  obtain ⟨hfits, htakes⟩ := not_or.mp h'
  let e : CryptEnv := ⟨none, .allOk, true⟩
  have hexist : (k.files O).Exist := ⟨rfl, rfl⟩
  have hkeys := readKeys_files hO k
  have htext : (encryptString O e (k.files O) plaintext).2 =
      encryptUnder O k.key k.iv plaintext := by
    simp only [encryptString, hexist.none_missing, hkeys, Bool.not_true, Bool.false_eq_true,
      if_false]
    exact if_pos rfl
  have hne : encryptUnder O k.key k.iv plaintext ≠ [] := by
    have hlen := hO.length_encode (O.aesEncrypt k.key k.iv plaintext)
    rw [hO.length_encrypt, textLength, cipherLength] at hlen
    rw [encryptUnder_eq hO k (not_le.mp hfits)]
    refine List.ne_nil_of_length_pos ?_
    rw [List.length_take]
    omega
  have hoccurs : Occurs (cryptStep O) (k.files O) [.encrypt plaintext e] (k.files O)
      (.encrypt plaintext e) (k.files O) :=
    ⟨[], [], rfl, rfl, congrArg some (encryptString_exist hexist e plaintext)⟩
  have hok : ∀ c ∈ [CryptCall.encrypt plaintext e] ++ [], c.filesOk := by
    intro c hc
    rw [List.append_nil, List.mem_singleton] at hc
    subst hc
    rfl
  have hback := (hread _ _ e _ _ [] _ hok hoccurs (htext ▸ hne) (.refl _ _)).2
  rw [htext] at hback
  exact decryptString_unkept hO hgroups hexist hkeys h (not_le.mp hfits) hne
    (congrArg Prod.fst hback)

/-! ## A sample

Real base64, and padding to whole blocks followed by an involution that maps one
padded block to its AES-256-CBC ciphertext under a key and an IV of zeros. -/

/-- The plaintext filled up to whole blocks, each new byte the number of them. -/
def pkcs7 (plaintext : List U8) : List U8 :=
  plaintext ++
    List.replicate (16 - plaintext.length % 16) (BitVec.ofNat 8 (16 - plaintext.length % 16))

/-- The padding taken off, when it is one. -/
def unpad (bytes : List U8) : Option (List U8) :=
  bytes.getLast?.bind fun n =>
    let plaintext := bytes.take (bytes.length - n.toNat)
    if pkcs7 plaintext = bytes then some plaintext else none

theorem length_pkcs7 (plaintext : List U8) :
    (pkcs7 plaintext).length = cipherLength plaintext.length := by
  rw [pkcs7, List.length_append, List.length_replicate, cipherLength]
  omega

theorem unpad_pkcs7 (plaintext : List U8) : unpad (pkcs7 plaintext) = some plaintext := by
  have hlast : (pkcs7 plaintext).getLast? =
      some (BitVec.ofNat 8 (16 - plaintext.length % 16)) := by
    rw [pkcs7, List.getLast?_append, List.getLast?_replicate, if_neg (by omega)]
    rfl
  have hlen : (pkcs7 plaintext).length - (BitVec.ofNat 8 (16 - plaintext.length % 16)).toNat =
      plaintext.length := by
    rw [length_pkcs7, cipherLength, BitVec.toNat_ofNat, Nat.mod_eq_of_lt (by omega)]
    omega
  have htake : (pkcs7 plaintext).take plaintext.length = plaintext := by
    rw [pkcs7, List.take_left]
  rw [unpad, hlast, Option.bind_some, hlen, htake]
  exact if_pos rfl

theorem pkcs7_of_unpad {bytes plaintext : List U8} (h : unpad bytes = some plaintext) :
    pkcs7 plaintext = bytes := by
  obtain ⟨n, -, h⟩ := Option.bind_eq_some_iff.mp h
  dsimp only at h
  split at h
  · next hpadded =>
      cases h
      exact hpadded
  · cases h

/-- The plaintext `pef`. -/
def samplePlaintext : List U8 := [112, 101, 102]

/-- Its ciphertext under zeros. -/
def sampleCiphertext : List U8 :=
  [184, 59, 150, 12, 232, 104, 92, 131, 126, 93, 2, 124, 166, 116, 34, 121]

/-- Its ciphertext in base64, `uDuWDOhoXIN+XQJ8pnQieQ==`. -/
def sampleText : List U8 :=
  "uDuWDOhoXIN+XQJ8pnQieQ==".toList.map fun c => BitVec.ofNat 8 c.toNat

/-- One padded block and its ciphertext exchanged. -/
def sampleCipher : Equiv.Perm (List U8) := Equiv.swap (pkcs7 samplePlaintext) sampleCiphertext

/-- The BIO takes whole texts up to the 2109815196 characters it has room for, and of a
longer one the 1546785 blocks of 1364 that fit. -/
def sampleSsl : OpenSsl where
  base64Encode := Base64.encode
  bioTakes n := if textLength n ≤ 2109815196 then textLength n else 2109814740
  base64Decode := Base64.decode
  aesEncrypt _ _ plaintext := sampleCipher (pkcs7 plaintext)
  aesDecrypt _ _ ciphertext := unpad (sampleCipher ciphertext)

theorem length_sampleCipher (bytes : List U8) : (sampleCipher bytes).length = bytes.length := by
  rw [sampleCipher, Equiv.swap_apply_def]
  split
  · next h => rw [h]; rfl
  · split
    · next h => rw [h]; rfl
    · rfl

theorem sampleSsl_bioTakes {n : Nat} (h : textLength n ≤ 2109815196) :
    sampleSsl.bioTakes n = textLength n := if_pos h

theorem sampleSsl_bioTakes_long {n : Nat} (h : 2109815196 < textLength n) :
    sampleSsl.bioTakes n = 2109814740 := if_neg (not_le.mpr h)

theorem sampleSsl_lawful : sampleSsl.Lawful where
  decode_encode := Base64.decode_encode
  length_encode := Base64.length_encode
  encode_ne_zero _ := Base64.ne_zero_of_mem_encode
  takes_short n hn := by
    rw [sampleSsl_bioTakes]
    rw [textLength]
    omega
  decrypt_encrypt _ plaintext := by
    show unpad (sampleCipher (sampleCipher (pkcs7 plaintext))) = some plaintext
    rw [sampleCipher, Equiv.swap_apply_self, unpad_pkcs7]
  length_encrypt _ plaintext := (length_sampleCipher _).trans (length_pkcs7 plaintext)
  length_decrypt _ _ ciphertext plaintext h := by
    rw [← length_pkcs7, pkcs7_of_unpad h, length_sampleCipher]

theorem sampleSsl_decodesGroups : sampleSsl.DecodesGroups := Base64.length_decode_le

/-- Of a text that is cut 1582361055 bytes are left, not a multiple of 16. -/
theorem sampleSsl_cutsBlocks : sampleSsl.CutsBlocks := by
  intro bytes _ hcut
  have hlong : 2109815196 < textLength bytes.length := by
    by_contra hshort
    rw [sampleSsl_bioTakes (not_lt.mp hshort)] at hcut
    exact Nat.lt_irrefl _ hcut
  have hbytes : 3 * 527453685 ≤ bytes.length := by
    rw [textLength] at hlong
    omega
  have hdecode := Base64.decode_take_encode bytes 527453685 hbytes
  rw [sampleSsl_bioTakes_long hlong]
  show (Base64.decode ((Base64.encode bytes).take (4 * 527453685))).length % 16 ≠ 0
  rw [hdecode, List.length_take, Nat.min_eq_left hbytes]
  decide

/-- A key and an IV of zeros. -/
def zeroKeys : AesKeys := ⟨List.replicate 32 0, List.replicate 16 0, rfl, rfl⟩

/-! ## Ciphertexts stay readable -/

/-- For the plaintexts an `int` can measure: every text returned stays readable, exactly
if the text is whole and has fewer than 2^31 characters or none is returned at all. -/
theorem encryptString_readable_iff (O : OpenSsl) (hO : O.Lawful) (hgroups : O.DecodesGroups)
    (plaintext : List U8) (hp : plaintext.length < 2 ^ 31) :
    StaysReadable O plaintext ↔
      O.KeepsText plaintext.length ∨ O.RefusesText plaintext.length := by
  constructor
  · intro hread
    by_contra hlost
    obtain ⟨hcut, hreturned⟩ := not_or.mp hlost
    exact not_staysReadable hO hgroups zeroKeys hcut hreturned hread
  · intro hlen files calls e s s' later s'' _ hoccurs hne hlater
    obtain ⟨_, _, _, _, hstep⟩ := hoccurs
    cases hstep
    obtain ⟨k, hread, hexist, htext⟩ := encryptString_text hne
    have hfrozen := exist_frozen hexist hlater
    subst hfrozen
    refine ⟨rfl, ?_⟩
    rcases hlen with hkept | hrefused
    · rw [htext]
      exact decryptString_kept hO hexist hread hkept
    · exact absurd (htext.trans (encryptUnder_refused hO k hrefused hp)) hne

/-- Encrypted when neither file exists, `pef` gives the text of its ciphertext,
which is decrypted after another string has been encrypted too. -/
theorem pef_stays_readable :
    (encryptString sampleSsl ⟨some zeroKeys, .allOk, true⟩ ⟨none, none⟩ samplePlaintext).2 =
        sampleText ∧
      decryptString sampleSsl true (zeroKeys.files sampleSsl) sampleText =
        (samplePlaintext, 3) := by
  let e : CryptEnv := ⟨some zeroKeys, .allOk, true⟩
  have htext : (encryptString sampleSsl e ⟨none, none⟩ samplePlaintext).2 = sampleText := by
    decide +kernel
  have hfiles : cryptStep sampleSsl ⟨none, none⟩ (.encrypt samplePlaintext e) =
      some (zeroKeys.files sampleSsl) := by decide +kernel
  have hreadable := (encryptString_readable_iff sampleSsl sampleSsl_lawful sampleSsl_decodesGroups
    samplePlaintext (by decide)).mpr (.inl (by decide))
  have hlater : Reached (cryptStep sampleSsl) (zeroKeys.files sampleSsl) [.encrypt [] e]
      (zeroKeys.files sampleSsl) := ⟨[], [.encrypt [] e], rfl, rfl⟩
  have hok : ∀ c ∈ [CryptCall.encrypt samplePlaintext e] ++ [.encrypt [] e], c.filesOk := by
    intro c hc
    rcases List.mem_cons.mp hc with rfl | hc
    · rfl
    · exact List.mem_singleton.mp hc ▸ rfl
  have hback := (hreadable ⟨none, none⟩ _ e _ _ _ _ hok ⟨[], [], rfl, rfl, hfiles⟩
    (htext ▸ by decide) hlater).2
  exact ⟨htext, htext ▸ hback⟩

/-- 1582361392 NULs are encrypted, to a text whose last characters are missing and which
decrypts to nothing. -/
theorem long_ciphertext_unreadable :
    sampleSsl.Lawful ∧ sampleSsl.DecodesGroups ∧
      (List.replicate 1582361392 (0 : U8)).length < 2 ^ 31 ∧
      ¬ StaysReadable sampleSsl (List.replicate 1582361392 0) ∧
      (encryptUnder sampleSsl zeroKeys.key zeroKeys.iv
        (List.replicate 1582361392 0)).length = 2109814740 ∧
      decryptString sampleSsl true (zeroKeys.files sampleSsl)
        (encryptUnder sampleSsl zeroKeys.key zeroKeys.iv (List.replicate 1582361392 0)) =
          ([], 0) := by
  generalize hp : List.replicate 1582361392 (0 : U8) = plaintext
  have hlen : plaintext.length = 1582361392 := by rw [← hp, List.length_replicate]
  have htakes : sampleSsl.bioTakes (cipherLength plaintext.length) = 2109814740 := by
    rw [hlen]
    exact sampleSsl_bioTakes_long (by decide)
  have hcut : ¬ sampleSsl.KeepsText plaintext.length := by
    intro hkept
    have hwhole := hkept.1
    rw [htakes, hlen] at hwhole
    exact absurd hwhole (by decide)
  have hreturned : ¬ sampleSsl.RefusesText plaintext.length := by
    rintro (hoverflow | hnothing)
    · omega
    · rw [htakes] at hnothing
      cases hnothing
  have htext : (encryptUnder sampleSsl zeroKeys.key zeroKeys.iv plaintext).length =
      2109814740 := by
    rw [encryptUnder_eq sampleSsl_lawful zeroKeys (by omega), htakes, List.length_take,
      sampleSsl_lawful.length_encode, sampleSsl_lawful.length_encrypt, hlen]
    rfl
  refine ⟨sampleSsl_lawful, sampleSsl_decodesGroups, by omega,
    not_staysReadable sampleSsl_lawful sampleSsl_decodesGroups zeroKeys hcut hreturned, htext, ?_⟩
  exact decryptString_cut sampleSsl_lawful sampleSsl_decodesGroups sampleSsl_cutsBlocks
    ⟨rfl, rfl⟩ (readKeys_files sampleSsl_lawful zeroKeys) hcut (by omega)

end Pef
