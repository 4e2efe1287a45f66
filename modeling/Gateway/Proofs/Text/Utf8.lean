import Gateway.Text.Utf8
import Mathlib

/-!
# UTF-8 written and read

Text that is written in UTF-8 is well formed and reads as what was written. ASCII characters
are written as single octets.
-/

namespace Gateway.Utf8

theorem ofNat_lt_iff {n : Nat} (hn : n < 256) {b : UInt8} :
    UInt8.ofNat n < b ↔ n < b.toNat := by
  rw [UInt8.lt_iff_toNat_lt, UInt8.toNat_ofNat_of_lt' hn]

theorem ofNat_eq_iff {n : Nat} (hn : n < 256) {b : UInt8} : UInt8.ofNat n = b ↔ n = b.toNat := by
  rw [← UInt8.toNat_inj, UInt8.toNat_ofNat_of_lt' hn]

theorem utf8EncodeChar_of_ascii {c : Char} (h : c.toNat < 0x80) :
    String.utf8EncodeChar c = [UInt8.ofNat c.toNat] := by
  unfold String.utf8EncodeChar
  exact if_pos (Nat.le_of_lt_succ h)

/-! ## One character -/

theorem isTail_ofNat (n : Nat) : isTail (UInt8.ofNat (n % 64 + 128)) = true := by
  simp [isTail, UInt8.le_iff_toNat_le]
  omega

theorem tailBits_ofNat (n : Nat) : tailBits (UInt8.ofNat (n % 64 + 128)) = n % 64 := by
  simp [tailBits]
  omega

/-- The second octet tells of an overlong form, a surrogate or a number too large, and a
character has none of these. -/
theorem isSecond_ofNat {lead : UInt8} {n : Nat} (hlow : lead = 0xE0 → 32 ≤ n % 64)
    (hsurrogate : lead = 0xED → n % 64 < 32) (hover : lead = 0xF0 → 16 ≤ n % 64)
    (htop : lead = 0xF4 → n % 64 < 16) : isSecond lead (UInt8.ofNat (n % 64 + 128)) = true := by
  have hn : (UInt8.ofNat (n % 64 + 128)).toNat = n % 64 + 128 :=
    UInt8.toNat_ofNat_of_lt' (show _ < 256 by omega)
  unfold isSecond secondRange
  split_ifs with h1 h2 h3 h4 <;>
    simp only [UInt8.le_iff_toNat_le, hn, Bool.and_eq_true, decide_eq_true_eq]
  · have := hlow h1
    exact ⟨by show 0xA0 ≤ _; omega, by show _ ≤ 0xBF; omega⟩
  · have := hsurrogate h2
    exact ⟨by show 0x80 ≤ _; omega, by show _ ≤ 0x9F; omega⟩
  · have := hover h3
    exact ⟨by show 0x90 ≤ _; omega, by show _ ≤ 0xBF; omega⟩
  · have := htop h4
    exact ⟨by show 0x80 ≤ _; omega, by show _ ≤ 0x8F; omega⟩
  · exact ⟨by show 0x80 ≤ _; omega, by show _ ≤ 0xBF; omega⟩

theorem scan_one {v : Nat} (hv : v < 0x80) (rest : Bytes) :
    scan (UInt8.ofNat v) rest = (some (Char.ofNat v), rest) := by
  have hlead : v < 256 := by omega
  have hlt : UInt8.ofNat v < 0x80 := (ofNat_lt_iff hlead).mpr hv
  unfold scan
  rw [if_pos hlt, UInt8.toNat_ofNat_of_lt' hlead]

theorem scan_two {v : Nat} (hlow : 0x80 ≤ v) (hv : v ≤ 0x7FF) (rest : Bytes) :
    scan (UInt8.ofNat (v / 64 % 32 + 192)) (UInt8.ofNat (v % 64 + 128) :: rest) =
      (some (Char.ofNat v), rest) := by
  have hlead : v / 64 % 32 + 192 < 256 := by omega
  unfold scan
  rw [if_neg (by rw [ofNat_lt_iff hlead]; show ¬ _ < 0x80; omega),
    if_neg (by rw [ofNat_lt_iff hlead]; show ¬ _ < 0xC2; omega),
    if_pos (by rw [ofNat_lt_iff hlead]; show _ < 0xE0; omega)]
  simp only [isTail_ofNat, if_true, tailBits_ofNat, UInt8.toNat_ofNat_of_lt' hlead]
  rw [show (v / 64 % 32 + 192) % 32 * 64 + v % 64 = v by omega]

theorem scan_three {v : Nat} (hlow : 0x7FF < v) (hv : v ≤ 0xFFFF)
    (hchar : v < 0xD800 ∨ 0xDFFF < v) (rest : Bytes) :
    scan (UInt8.ofNat (v / 4096 % 16 + 224))
        (UInt8.ofNat (v / 64 % 64 + 128) :: UInt8.ofNat (v % 64 + 128) :: rest) =
      (some (Char.ofNat v), rest) := by
  have hlead : v / 4096 % 16 + 224 < 256 := by omega
  have hsecond : isSecond (UInt8.ofNat (v / 4096 % 16 + 224))
      (UInt8.ofNat (v / 64 % 64 + 128)) = true := by
    refine isSecond_ofNat ?_ ?_ ?_ ?_ <;> rw [ofNat_eq_iff hlead]
    · show _ = 0xE0 → _
      omega
    · show _ = 0xED → _
      omega
    · show _ = 0xF0 → _
      omega
    · show _ = 0xF4 → _
      omega
  unfold scan
  rw [if_neg (by rw [ofNat_lt_iff hlead]; show ¬ _ < 0x80; omega),
    if_neg (by rw [ofNat_lt_iff hlead]; show ¬ _ < 0xC2; omega),
    if_neg (by rw [ofNat_lt_iff hlead]; show ¬ _ < 0xE0; omega),
    if_pos (by rw [ofNat_lt_iff hlead]; show _ < 0xF0; omega)]
  simp only [hsecond, isTail_ofNat, if_true, tailBits_ofNat, UInt8.toNat_ofNat_of_lt' hlead]
  rw [show (v / 4096 % 16 + 224) % 16 * 4096 + v / 64 % 64 * 64 + v % 64 = v by omega]

theorem scan_four {v : Nat} (hlow : 0xFFFF < v) (hv : v < 0x110000) (rest : Bytes) :
    scan (UInt8.ofNat (v / 262144 % 8 + 240))
        (UInt8.ofNat (v / 4096 % 64 + 128) :: UInt8.ofNat (v / 64 % 64 + 128) ::
          UInt8.ofNat (v % 64 + 128) :: rest) =
      (some (Char.ofNat v), rest) := by
  have hlead : v / 262144 % 8 + 240 < 256 := by omega
  have hsecond : isSecond (UInt8.ofNat (v / 262144 % 8 + 240))
      (UInt8.ofNat (v / 4096 % 64 + 128)) = true := by
    refine isSecond_ofNat ?_ ?_ ?_ ?_ <;> rw [ofNat_eq_iff hlead]
    · show _ = 0xE0 → _
      omega
    · show _ = 0xED → _
      omega
    · show _ = 0xF0 → _
      omega
    · show _ = 0xF4 → _
      omega
  unfold scan
  rw [if_neg (by rw [ofNat_lt_iff hlead]; show ¬ _ < 0x80; omega),
    if_neg (by rw [ofNat_lt_iff hlead]; show ¬ _ < 0xC2; omega),
    if_neg (by rw [ofNat_lt_iff hlead]; show ¬ _ < 0xE0; omega),
    if_neg (by rw [ofNat_lt_iff hlead]; show ¬ _ < 0xF0; omega),
    if_pos (by rw [ofNat_lt_iff hlead]; show _ < 0xF5; omega)]
  simp only [hsecond, isTail_ofNat, if_true, tailBits_ofNat, UInt8.toNat_ofNat_of_lt' hlead]
  rw [show (v / 262144 % 8 + 240) % 8 * 262144 + v / 4096 % 64 * 4096 + v / 64 % 64 * 64 +
    v % 64 = v by omega]

/-- The octets of one character are scanned as that character, whatever follows them. -/
theorem scan_utf8EncodeChar (c : Char) (rest : Bytes) :
    ∃ b tail, String.utf8EncodeChar c = b :: tail ∧ scan b (tail ++ rest) = (some c, rest) := by
  have hvalid : c.toNat < 0xD800 ∨ 0xDFFF < c.toNat ∧ c.toNat < 0x110000 := c.valid
  have hc : Char.ofNat c.toNat = c := Char.ofNat_toNat c
  unfold String.utf8EncodeChar
  rw [show c.val.toNat = c.toNat from rfl]
  generalize c.toNat = v at hvalid hc
  subst hc
  simp only
  split_ifs with hone htwo hthree
  · exact ⟨_, _, rfl, scan_one (by omega) rest⟩
  · exact ⟨_, _, rfl, scan_two (by omega) htwo rest⟩
  · exact ⟨_, _, rfl, scan_three (by omega) hthree (hvalid.imp_right And.left) rest⟩
  · exact ⟨_, _, rfl, scan_four (by omega) (by omega) rest⟩

/-! ## Texts -/

theorem decodeChars_of_scan {b : UInt8} {rest r : Bytes} {c : Char}
    (h : scan b rest = (some c, r)) : decodeChars (b :: rest) = (decodeChars r).map (c :: ·) := by
  rw [decodeChars]
  split
  · rename_i c' r' h'
    rw [h] at h'
    cases h'
    rfl
  · rename_i r' h'
    rw [h] at h'
    cases h'

/-- Written text reads as the characters that were written. -/
theorem decodeChars_encodeChars (cs : List Char) : decodeChars (encodeChars cs) = some cs := by
  induction cs with
  | nil => rw [encodeChars, List.flatMap_nil, decodeChars]
  | cons c cs ih =>
    obtain ⟨b, tail, hc, hscan⟩ := scan_utf8EncodeChar c (encodeChars cs)
    have hcons : encodeChars (c :: cs) = b :: (tail ++ encodeChars cs) := by
      unfold encodeChars
      rw [List.flatMap_cons, hc, List.cons_append]
    rw [hcons, decodeChars_of_scan hscan, ih, Option.map_some]

end Gateway.Utf8
