import InputReplay.Text.Utf8

/-! Every text is read back from its bytes. A character is begun by its first byte and complete with its last;
where in its block a byte stands would be told of a flaw only. -/

namespace InputReplay
namespace Utf8

/-- Bytes are read wherever in a block they stand. -/
def Reads (begun : Option Begun) (bytes : List UInt8) (chars : List Char) : Prop :=
  ∀ place left, decodeFrom begun place left bytes = .ok chars

variable {b : UInt8} {rest : List UInt8} {c : Char} {chars : List Char} {s : Begun}

theorem Reads.nil : Reads none [] [] := fun _ _ => rfl

theorem Reads.step {begun next : Option Begun} (more : List Char)
    (taken : ∀ place, Utf8.step place b.toNat begun = .ok (more, next)) (h : Reads next rest chars) :
    Reads begun (b :: rest) (more ++ chars) := by
  intro place left
  rw [decodeFrom]
  simp only [taken]
  change (decodeFrom next _ _ rest >>= fun chars => .ok (more ++ chars)) = _
  rw [h]
  rfl

theorem Reads.plain (value : b.toNat = c.toNat) (small : c.toNat < 0x80) (h : Reads none rest chars) :
    Reads none (b :: rest) (c :: chars) :=
  h.step [c] fun _ => by
    rw [Utf8.step, value, if_pos small, Char.ofNat_toNat]

theorem Reads.begin (large : 0x80 ≤ b.toNat) (starts : begin? b.toNat = some s)
    (h : Reads (some s) rest chars) : Reads none (b :: rest) chars :=
  h.step [] fun _ => by rw [Utf8.step, if_neg (Nat.not_lt.2 large), starts]

theorem Reads.more (fits : s.low ≤ b.toNat ∧ b.toNat ≤ s.high) (several : 1 < s.missing)
    (h : Reads (some ⟨s.first, s.length + 1, 64 * s.value + (b.toNat - 0x80), 0x80, 0xbf, s.missing - 1⟩)
      rest chars) : Reads (some s) (b :: rest) chars :=
  h.step [] fun _ => by
    rw [Utf8.step, if_pos fits]
    exact if_neg (Nat.not_le.2 several)

theorem Reads.last (fits : s.low ≤ b.toNat ∧ b.toNat ≤ s.high) (single : s.missing = 1)
    (value : 64 * s.value + (b.toNat - 0x80) = c.toNat) (h : Reads none rest chars) :
    Reads (some s) (b :: rest) (c :: chars) :=
  h.step [c] fun _ => by
    rw [Utf8.step, if_pos fits, value]
    exact (if_pos (Nat.le_of_eq single)).trans (by rw [Char.ofNat_toNat])

theorem toNat_ofNat {n : Nat} (h : n < 256) : (UInt8.ofNat n).toNat = n := by
  rw [UInt8.toNat_ofNat', Nat.mod_eq_of_lt h]

theorem toNat_tail (n : Nat) : (UInt8.ofNat (n % 64 + 0x80)).toNat = n % 64 + 0x80 := toNat_ofNat (by omega)

/-- The bytes of a character are read as that character. -/
theorem Reads.char (c : Char) (h : Reads none rest chars) :
    Reads none (String.utf8EncodeChar c ++ rest) (c :: chars) := by
  obtain ⟨v, value⟩ : ∃ v, c.val.toNat = v := ⟨_, rfl⟩
  have valid : v < 0xd800 ∨ (0xdfff < v ∧ v < 0x110000) := value ▸ c.valid
  have same : c.toNat = v := value
  have low := toNat_tail v
  have middle := toNat_tail (v / 64)
  have high := toNat_tail (v / 4096)
  unfold String.utf8EncodeChar
  simp only [value]
  split
  · exact .plain ((toNat_ofNat (by omega)).trans same.symm) (by omega) h
  · split
    · have lead : (UInt8.ofNat (v / 64 % 0x20 + 0xc0)).toNat = v / 64 + 0xc0 :=
        (toNat_ofNat (by omega)).trans (by omega)
      have starts : begin? (v / 64 + 0xc0) = some ⟨v / 64 + 0xc0, 1, v / 64 + 0xc0 - 0xc0, 0x80, 0xbf, 1⟩ :=
        if_pos (by omega)
      rw [← lead] at starts
      refine .begin (by omega) starts (.last ?_ rfl ?_ h) <;> dsimp only <;> omega
    · split
      · have lead : (UInt8.ofNat (v / 4096 % 0x10 + 0xe0)).toNat = v / 4096 + 0xe0 :=
          (toNat_ofNat (by omega)).trans (by omega)
        have starts : begin? (v / 4096 + 0xe0) = some ⟨v / 4096 + 0xe0, 1, v / 4096 + 0xe0 - 0xe0,
            if v / 4096 + 0xe0 = 0xe0 then 0xa0 else 0x80,
            if v / 4096 + 0xe0 = 0xed then 0x9f else 0xbf, 2⟩ :=
          (if_neg (by omega)).trans (if_pos (by omega))
        rw [← lead] at starts
        refine .begin (by omega) starts (.more ?_ Nat.one_lt_two (.last ?_ rfl ?_ h)) <;> dsimp only
        · split <;> split <;> omega
        · omega
        · omega
      · have lead : (UInt8.ofNat (v / 262144 % 0x08 + 0xf0)).toNat = v / 262144 + 0xf0 :=
          (toNat_ofNat (by omega)).trans (by omega)
        have starts : begin? (v / 262144 + 0xf0) = some ⟨v / 262144 + 0xf0, 1, v / 262144 + 0xf0 - 0xf0,
            if v / 262144 + 0xf0 = 0xf0 then 0x90 else 0x80,
            if v / 262144 + 0xf0 = 0xf4 then 0x8f else 0xbf, 3⟩ :=
          (if_neg (by omega)).trans ((if_neg (by omega)).trans (if_pos (by omega)))
        rw [← lead] at starts
        refine .begin (by omega) starts
          (.more ?_ (Nat.lt_add_left 1 Nat.one_lt_two) (.more ?_ Nat.one_lt_two (.last ?_ rfl ?_ h))) <;>
          dsimp only
        · split <;> split <;> omega
        · omega
        · omega
        · omega

theorem encode_eq_flatMap (text : String) : encode text = text.toList.flatMap String.utf8EncodeChar := by
  rw [encode, String.toUTF8_eq_toByteArray, ← String.utf8Encode_toList, List.utf8Encode,
    List.toList_data_toByteArray]

/-- What was written is read back, block by block. -/
theorem decode_encode (text : String) : decode (encode text) = .ok text.toList := by
  have reads : ∀ chars : List Char, Reads none (chars.flatMap String.utf8EncodeChar) chars := by
    intro chars
    induction chars with
    | nil => exact .nil
    | cons c rest ih => exact .char c ih
  rw [encode_eq_flatMap]
  exact reads text.toList 0 blockSize

end Utf8
end InputReplay
