/-
# `Lib.Base64` — bytes written in the base64 alphabet

Three bytes are four characters of six bits each; a last group of one or two
bytes is filled up with the pad character.

    encode bytes        the text
    decode text         the bytes of an encoded text
    decode_encode       decoding inverts encoding
    decode_take_encode  a text cut short gives the bytes of its whole groups
    length_encode       the length of the text
    length_decode_le    only whole groups of four characters are decoded
-/
import Mathlib.Tactic.Common

namespace Base64

/-- The character of a sextet. -/
def symbol (n : Nat) : BitVec 8 :=
  if n < 26 then BitVec.ofNat 8 (n + 65)
  else if n < 52 then BitVec.ofNat 8 (n + 71)
  else if n < 62 then BitVec.ofNat 8 (n - 4)
  else if n = 62 then 43
  else 47

/-- The sextet of a character of the alphabet. -/
def sextet (c : BitVec 8) : Nat :=
  if 97 ≤ c.toNat then c.toNat - 71
  else if 65 ≤ c.toNat then c.toNat - 65
  else if 48 ≤ c.toNat then c.toNat + 4
  else if c = 43 then 62
  else 63

/-- The pad character, `=`. -/
def pad : BitVec 8 := 61

/-- The text of a list of bytes. -/
def encode : List (BitVec 8) → List (BitVec 8)
  | a :: b :: c :: rest =>
      let n := a.toNat * 65536 + b.toNat * 256 + c.toNat
      symbol (n / 262144) :: symbol (n / 4096 % 64) :: symbol (n / 64 % 64) ::
        symbol (n % 64) :: encode rest
  | [a, b] =>
      let n := a.toNat * 1024 + b.toNat * 4
      [symbol (n / 4096), symbol (n / 64 % 64), symbol (n % 64), pad]
  | [a] =>
      let n := a.toNat * 16
      [symbol (n / 64), symbol (n % 64), pad, pad]
  | [] => []

/-- The bytes of an encoded text. -/
def decode : List (BitVec 8) → List (BitVec 8)
  | a :: b :: c :: d :: rest =>
      if c = pad then [BitVec.ofNat 8 ((sextet a * 64 + sextet b) / 16)]
      else if d = pad then
        let n := (sextet a * 4096 + sextet b * 64 + sextet c) / 4
        [BitVec.ofNat 8 (n / 256), BitVec.ofNat 8 n]
      else
        let n := sextet a * 262144 + sextet b * 4096 + sextet c * 64 + sextet d
        BitVec.ofNat 8 (n / 65536) :: BitVec.ofNat 8 (n / 256) :: BitVec.ofNat 8 n :: decode rest
  | _ => []

theorem sextet_symbol : ∀ {n : Nat}, n < 64 → sextet (symbol n) = n := by decide

theorem symbol_ne_pad : ∀ {n : Nat}, n < 64 → symbol n ≠ pad := by decide

theorem symbol_ne_zero : ∀ {n : Nat}, n < 64 → symbol n ≠ 0 := by decide

theorem ofNat_eq {n : Nat} {x : BitVec 8} (h : n % 256 = x.toNat) : BitVec.ofNat 8 n = x :=
  BitVec.eq_of_toNat_eq ((BitVec.toNat_ofNat n 8).trans h)

theorem decode_group (a b c : BitVec 8) (text : List (BitVec 8)) :
    decode (encode [a, b, c] ++ text) = a :: b :: c :: decode text := by
  have ha := a.isLt
  have hb := b.isLt
  have hc := c.isLt
  simp only [encode, List.cons_append, List.nil_append, decode]
  rw [if_neg (symbol_ne_pad (by omega)), if_neg (symbol_ne_pad (by omega)),
    sextet_symbol (by omega), sextet_symbol (by omega), sextet_symbol (by omega),
    sextet_symbol (by omega), ofNat_eq (x := a) (by omega), ofNat_eq (x := b) (by omega),
    ofNat_eq (x := c) (by omega)]

theorem encode_triple (a b c : BitVec 8) (rest : List (BitVec 8)) :
    encode (a :: b :: c :: rest) = encode [a, b, c] ++ encode rest := rfl

theorem decode_pair (a b : BitVec 8) : decode (encode [a, b]) = [a, b] := by
  have ha := a.isLt
  have hb := b.isLt
  simp only [encode, decode]
  rw [if_neg (symbol_ne_pad (by omega)), if_pos trivial, sextet_symbol (by omega),
    sextet_symbol (by omega), sextet_symbol (by omega), ofNat_eq (x := a) (by omega),
    ofNat_eq (x := b) (by omega)]

theorem decode_single (a : BitVec 8) : decode (encode [a]) = [a] := by
  have ha := a.isLt
  simp only [encode, decode]
  rw [if_pos trivial, sextet_symbol (by omega), sextet_symbol (by omega),
    ofNat_eq (x := a) (by omega)]

theorem decode_encode (bytes : List (BitVec 8)) : decode (encode bytes) = bytes := by
  induction bytes using encode.induct with
  | case1 a b c rest ih => rw [encode_triple, decode_group, ih]
  | case2 a b => exact decode_pair a b
  | case3 a => exact decode_single a
  | case4 => rfl

theorem length_encode (bytes : List (BitVec 8)) :
    (encode bytes).length = 4 * ((bytes.length + 2) / 3) := by
  induction bytes using encode.induct with
  | case1 a b c rest ih =>
      simp only [encode, List.length_cons, ih]
      omega
  | case2 a b => simp [encode]
  | case3 a => simp [encode]
  | case4 => rfl

theorem decode_take_short (text : List (BitVec 8)) {bytes : List (BitVec 8)} {m : Nat}
    (h : 3 * m ≤ bytes.length) (hshort : bytes.length < 3) :
    decode (text.take (4 * m)) = bytes.take (3 * m) := by
  obtain rfl : m = 0 := by omega
  rfl

/-- A text cut after whole groups is the text of the bytes cut likewise. -/
theorem decode_take_encode (bytes : List (BitVec 8)) :
    ∀ m, 3 * m ≤ bytes.length → decode ((encode bytes).take (4 * m)) = bytes.take (3 * m) := by
  induction bytes using encode.induct with
  | case1 a b c rest ih =>
      intro m hm
      cases m with
      | zero => rfl
      | succ m =>
          have hrest : 3 * m ≤ rest.length := by
            simp only [List.length_cons] at hm
            omega
          have hgroup : (encode [a, b, c]).length = 4 := rfl
          rw [encode_triple, show 4 * (m + 1) = (encode [a, b, c]).length + 4 * m by omega,
            List.take_length_add_append, decode_group, ih m hrest]
          rfl
  | case2 a b => exact fun m hm => decode_take_short _ hm (Nat.lt_succ_self 2)
  | case3 a => exact fun m hm => decode_take_short _ hm (Nat.le_succ 2)
  | case4 => exact fun m hm => decode_take_short _ hm (by decide)

theorem length_decode_le (text : List (BitVec 8)) :
    (decode text).length ≤ 3 * (text.length / 4) := by
  induction text using decode.induct with
  | case1 a b d rest =>
      simp only [decode, if_true, List.length_cons, List.length_nil]
      omega
  | case2 a b c rest hc =>
      simp only [decode, if_neg hc, if_true, List.length_cons, List.length_nil]
      omega
  | case3 a b c d rest hc hd ih =>
      simp only [decode, if_neg hc, if_neg hd, List.length_cons]
      omega
  | case4 text hshort =>
      rw [decode.eq_2 text hshort]
      exact Nat.zero_le _

theorem ne_zero_of_mem_encode {bytes : List (BitVec 8)} :
    ∀ x ∈ encode bytes, x ≠ 0 := by
  have hpad : pad ≠ 0 := by decide
  induction bytes using encode.induct with
  | case1 a b c rest ih =>
      have ha := a.isLt
      have hb := b.isLt
      have hc := c.isLt
      simp only [encode, List.forall_mem_cons]
      exact ⟨symbol_ne_zero (by omega), symbol_ne_zero (by omega), symbol_ne_zero (by omega),
        symbol_ne_zero (by omega), ih⟩
  | case2 a b =>
      have ha := a.isLt
      have hb := b.isLt
      simp only [encode, List.forall_mem_cons]
      exact ⟨symbol_ne_zero (by omega), symbol_ne_zero (by omega), symbol_ne_zero (by omega),
        hpad, fun _ h => absurd h List.not_mem_nil⟩
  | case3 a =>
      have ha := a.isLt
      simp only [encode, List.forall_mem_cons]
      exact ⟨symbol_ne_zero (by omega), symbol_ne_zero (by omega), hpad, hpad,
        fun _ h => absurd h List.not_mem_nil⟩
  | case4 => exact fun _ h => absurd h List.not_mem_nil

end Base64
