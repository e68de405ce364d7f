/-
# `KeySave` — what a generation of keys leaves behind

`AES_GenerateAndSaveKeys` opens both files for writing before it looks whether
either is open, and does not look at what its writes return:

    both opened, both written     the new pair
    both opened, a write short    true, and a pair that is never read
    one opened, one not           false, and the one opened is empty

A file that exists is not generated again, so a pair cut short stays
(`short_write_is_final`).
-/
import PlatformEventFilter.Encryption

namespace Pef

variable (O : OpenSsl)

/-- True is returned only with the new pair in the files, and false only with the
files as they were. -/
structure SaveAtomic (rand : Option AesKeys) (save : SaveOps) (files : KeyFiles) : Prop where
  saved : (AES_GenerateAndSaveKeys O rand save files).1 = true →
    ∃ k, rand = some k ∧
      AES_GetKeyFromFile O (AES_GenerateAndSaveKeys O rand save files).2.key AES_MAX_KEY_LENGTH =
        some k.key ∧
      AES_GetKeyFromFile O (AES_GenerateAndSaveKeys O rand save files).2.iv AES_MAX_IV_LENGTH =
        some k.iv
  refused : (AES_GenerateAndSaveKeys O rand save files).1 = false →
    (AES_GenerateAndSaveKeys O rand save files).2 = files

/-- The write is not cut short. -/
def WritesAll (n : Nat) (written : Option Nat) : Prop := ∀ m, written = some m → textLength n ≤ m

/-- The pair is saved, or every file that is opened was empty. -/
def SavedOrHarmless (save : SaveOps) (files : KeyFiles) : Prop :=
  (save.opensKey = true ∧ save.opensIv = true ∧ WritesAll AES_MAX_KEY_LENGTH save.keyBytes ∧
      WritesAll AES_MAX_IV_LENGTH save.ivBytes) ∨
    ((save.opensKey = false ∨ save.opensIv = false) ∧
      (save.opensKey = true → files.key = some []) ∧ (save.opensIv = true → files.iv = some []))

variable {O}

/-! ## Texts cut short -/

theorem AES_GetKeyFromFile_short (hgroups : O.DecodesGroups) {text : List U8} {n : Nat}
    (h : text.length < textLength n) : AES_GetKeyFromFile O (some text) n = none := by
  rw [AES_GetKeyFromFile]
  cases hdecode : base64_decode O text with
  | none => rfl
  | some decoded =>
      have hle := length_base64_decode hgroups hdecode
      have hne : decoded.length ≠ n := by
        rw [textLength] at h
        omega
      exact if_pos hne

theorem AES_GetKeyFromFile_fwrite (hO : O.Lawful) {bytes : List U8} (hpos : 0 < bytes.length)
    (hle : bytes.length ≤ 32) {written : Option Nat} (h : WritesAll bytes.length written) :
    AES_GetKeyFromFile O (some (fwrite (O.base64Encode bytes) written)) bytes.length =
      some bytes := by
  have hread := AES_GetKeyFromFile_encode hO hpos hle
  cases written with
  | none => exact hread
  | some m =>
      have hlength : (O.base64Encode bytes).length ≤ m :=
        (hO.length_encode bytes).trans_le (h m rfl)
      rw [fwrite, List.take_of_length_le hlength]
      exact hread

theorem AES_GetKeyFromFile_fwrite_short (hgroups : O.DecodesGroups)
    {bytes : List U8} {written : Option Nat} (h : ¬WritesAll bytes.length written) :
    AES_GetKeyFromFile O (some (fwrite (O.base64Encode bytes) written)) bytes.length = none := by
  cases written with
  | none => exact absurd (fun _ hm => nomatch hm) h
  | some m =>
      have hm : m < textLength bytes.length := by
        by_contra hle
        refine h ?_
        rintro _ ⟨⟩
        exact not_lt.mp hle
      refine AES_GetKeyFromFile_short hgroups ?_
      rw [fwrite, List.length_take]
      exact Nat.lt_of_le_of_lt (Nat.min_le_left _ _) hm

theorem AES_GetKeyFromFile_fwrite_iff (hO : O.Lawful) (hgroups : O.DecodesGroups)
    (bytes : List U8) (hpos : 0 < bytes.length) (hle : bytes.length ≤ 32) (written : Option Nat) :
    AES_GetKeyFromFile O (some (fwrite (O.base64Encode bytes) written)) bytes.length =
        some bytes ↔ WritesAll bytes.length written := by
  refine ⟨fun hread => ?_, AES_GetKeyFromFile_fwrite hO hpos hle⟩
  by_contra hshort
  rw [AES_GetKeyFromFile_fwrite_short hgroups hshort] at hread
  cases hread

/-! ## When a generation is atomic -/

theorem base64_encode_keys (hO : O.Lawful) (k : AesKeys) :
    base64_encode O k.key AES_MAX_KEY_LENGTH = O.base64Encode k.key ∧
      base64_encode O k.iv AES_MAX_IV_LENGTH = O.base64Encode k.iv := by
  have hkey : (AES_MAX_KEY_LENGTH : Int) = asInt k.key.length := by rw [k.length_key]; rfl
  have hiv : (AES_MAX_IV_LENGTH : Int) = asInt k.iv.length := by rw [k.length_iv]; rfl
  constructor
  · rw [hkey, base64_encode_eq hO (by rw [k.length_key]; decide)]
    exact take_bioTakes hO (hO.takes_short _ (by rw [k.length_key]; decide))
  · rw [hiv, base64_encode_eq hO (by rw [k.length_iv]; decide)]
    exact take_bioTakes hO (hO.takes_short _ (by rw [k.length_iv]; decide))

theorem AES_GenerateAndSaveKeys_opened (hO : O.Lawful) (k : AesKeys) {save : SaveOps}
    (hkey : save.opensKey = true) (hiv : save.opensIv = true) (files : KeyFiles) :
    AES_GenerateAndSaveKeys O (some k) save files =
      (true, ⟨some (fwrite (O.base64Encode k.key) save.keyBytes),
        some (fwrite (O.base64Encode k.iv) save.ivBytes)⟩) := by
  obtain ⟨hencodeKey, hencodeIv⟩ := base64_encode_keys hO k
  simp only [AES_GenerateAndSaveKeys, hkey, hiv, hencodeKey, hencodeIv, Bool.and_self, if_true]

/-- With both files open, what counts is that nothing is cut short. -/
theorem saveAtomic_opened_iff (hO : O.Lawful) (hgroups : O.DecodesGroups) (k : AesKeys)
    {save : SaveOps} (hkey : save.opensKey = true) (hiv : save.opensIv = true)
    (files : KeyFiles) :
    SaveAtomic O (some k) save files ↔
      WritesAll AES_MAX_KEY_LENGTH save.keyBytes ∧ WritesAll AES_MAX_IV_LENGTH save.ivBytes := by
  have hcall := AES_GenerateAndSaveKeys_opened hO k hkey hiv files
  have hkeyIff := AES_GetKeyFromFile_fwrite_iff hO hgroups k.key
    (by rw [k.length_key]; decide) (by rw [k.length_key]; decide) save.keyBytes
  have hivIff := AES_GetKeyFromFile_fwrite_iff hO hgroups k.iv
    (by rw [k.length_iv]; decide) (by rw [k.length_iv]; decide) save.ivBytes
  rw [k.length_key] at hkeyIff
  rw [k.length_iv] at hivIff
  constructor
  · intro hatomic
    obtain ⟨k', hsame, hreadKey, hreadIv⟩ := hatomic.saved (by rw [hcall])
    cases hsame
    rw [hcall] at hreadKey hreadIv
    exact ⟨hkeyIff.mp hreadKey, hivIff.mp hreadIv⟩
  · rintro ⟨hwriteKey, hwriteIv⟩
    refine ⟨fun _ => ⟨k, rfl, ?_, ?_⟩, fun hfalse => ?_⟩
    · rw [hcall]
      exact hkeyIff.mpr hwriteKey
    · rw [hcall]
      exact hivIff.mpr hwriteIv
    · rw [hcall] at hfalse
      cases hfalse

/-- A pair cut short is never read and never replaced: whatever is called after
it, no string is encrypted any more. -/
theorem short_write_is_final (hO : O.Lawful) (hgroups : O.DecodesGroups) (k : AesKeys)
    {save : SaveOps} (hkey : save.opensKey = true) (hiv : save.opensIv = true)
    (hshort : ¬(WritesAll AES_MAX_KEY_LENGTH save.keyBytes ∧
      WritesAll AES_MAX_IV_LENGTH save.ivBytes)) (files : KeyFiles) {calls : List CryptCall}
    {s : KeyFiles}
    (h : Reached (cryptStep O) (AES_GenerateAndSaveKeys O (some k) save files).2 calls s)
    (e : CryptEnv) (plaintext : List U8) : (encryptString O e s plaintext).2 = [] := by
  rw [AES_GenerateAndSaveKeys_opened hO k hkey hiv files] at h
  have hsame := exist_frozen ⟨rfl, rfl⟩ h
  have hread : readKeys O s = none := by
    rw [hsame, readKeys]
    by_cases hwriteKey : WritesAll AES_MAX_KEY_LENGTH save.keyBytes
    · have hwriteIv : ¬WritesAll k.iv.length save.ivBytes := fun hall =>
        hshort ⟨hwriteKey, k.length_iv ▸ hall⟩
      have hlost := AES_GetKeyFromFile_fwrite_short hgroups hwriteIv
      rw [k.length_iv] at hlost
      rw [hlost]
      split
      · rfl
      · rfl
    · have hcut : ¬WritesAll k.key.length save.keyBytes := fun hall =>
        hwriteKey (k.length_key ▸ hall)
      have hlost := AES_GetKeyFromFile_fwrite_short hgroups hcut
      rw [k.length_key] at hlost
      rw [hlost]
  have hexist : s.Exist := hsame ▸ ⟨rfl, rfl⟩
  simp only [encryptString, hexist.none_missing, hread, Bool.false_eq_true, if_false,
    Bool.not_true]

/-- With a file that does not open, what counts is that the other was empty. -/
theorem saveAtomic_unopened_iff (k : AesKeys) {save : SaveOps}
    (hopen : save.opensKey = false ∨ save.opensIv = false) (files : KeyFiles) :
    SaveAtomic O (some k) save files ↔
      (save.opensKey = true → files.key = some []) ∧
        (save.opensIv = true → files.iv = some []) := by
  obtain ⟨key, iv⟩ := files
  have hnot : (save.opensKey && save.opensIv) = false := by
    rcases hopen with h | h
    · rw [h, Bool.false_and]
    · rw [h, Bool.and_false]
  have hcall : AES_GenerateAndSaveKeys O (some k) save ⟨key, iv⟩ =
      (false, ⟨if save.opensKey then some [] else key, if save.opensIv then some [] else iv⟩) := by
    simp only [AES_GenerateAndSaveKeys, hnot, Bool.false_eq_true, if_false]
  have hsame : SaveAtomic O (some k) save ⟨key, iv⟩ ↔
      (if save.opensKey then some [] else key) = key ∧
        (if save.opensIv then some [] else iv) = iv := by
    constructor
    · intro hatomic
      have hfiles := hatomic.refused (by rw [hcall])
      rw [hcall] at hfiles
      exact ⟨congrArg KeyFiles.key hfiles, congrArg KeyFiles.iv hfiles⟩
    · rintro ⟨hkey, hiv⟩
      refine ⟨fun htrue => ?_, fun _ => ?_⟩
      · rw [hcall] at htrue
        cases htrue
      · rw [hcall, hkey, hiv]
  rw [hsame]
  cases save.opensKey <;> cases save.opensIv <;> simp [eq_comm]

/-- A generation is atomic exactly when no key is drawn, both texts are written
in full, or one file does not open and the other, if it does, was empty. -/
theorem saveAtomic_iff (O : OpenSsl) (hO : O.Lawful) (hgroups : O.DecodesGroups)
    (rand : Option AesKeys) (save : SaveOps) (files : KeyFiles) :
    SaveAtomic O rand save files ↔ rand = none ∨ SavedOrHarmless save files := by
  cases rand with
  | none =>
      refine iff_of_true ⟨fun htrue => ?_, fun _ => rfl⟩ (.inl rfl)
      cases htrue
  | some k =>
      have hdrawn : ¬(some k = none) := fun h => nomatch h
      rw [or_iff_right hdrawn, SavedOrHarmless]
      by_cases hopen : save.opensKey = true ∧ save.opensIv = true
      · rw [saveAtomic_opened_iff hO hgroups k hopen.1 hopen.2]
        simp [hopen.1, hopen.2]
      · have hunopened : save.opensKey = false ∨ save.opensIv = false := by
          simpa only [not_and_or, Bool.not_eq_true] using hopen
        rw [saveAtomic_unopened_iff k hunopened]
        constructor
        · intro hempty
          exact .inr ⟨hunopened, hempty⟩
        · rintro (⟨hkey, hiv, -⟩ | ⟨-, hempty⟩)
          · exact absurd ⟨hkey, hiv⟩ hopen
          · exact hempty

/-- Both files are there and hold a pair, and the IV file cannot be opened for
writing. -/
theorem key_lost_with_unwritable_iv :
    sampleSsl.Lawful ∧ sampleSsl.DecodesGroups ∧
    ¬SaveAtomic sampleSsl (some zeroKeys) ⟨true, false, none, none⟩ (zeroKeys.files sampleSsl) ∧
      readKeys sampleSsl (zeroKeys.files sampleSsl) = some (zeroKeys.key, zeroKeys.iv) ∧
      readKeys sampleSsl (AES_GenerateAndSaveKeys sampleSsl (some zeroKeys)
        ⟨true, false, none, none⟩ (zeroKeys.files sampleSsl)).2 = none := by
  refine ⟨sampleSsl_lawful, sampleSsl_decodesGroups, fun hatomic => ?_,
    readKeys_files sampleSsl_lawful zeroKeys, by decide +kernel⟩
  have hsame := hatomic.refused rfl
  have hkey : some [] = some (Base64.encode zeroKeys.key) := congrArg KeyFiles.key hsame
  exact absurd hkey (by decide +kernel)

/-- Two files that do not exist are generated. -/
theorem first_generation_atomic :
    sampleSsl.Lawful ∧ SaveAtomic sampleSsl (some zeroKeys) .allOk ⟨none, none⟩ := by
  refine ⟨sampleSsl_lawful, ?_⟩
  refine (saveAtomic_iff sampleSsl sampleSsl_lawful sampleSsl_decodesGroups (some zeroKeys) .allOk
    ⟨none, none⟩).mpr (.inr (.inl ⟨rfl, rfl, ?_, ?_⟩))
  · rintro _ ⟨⟩
  · rintro _ ⟨⟩

end Pef
