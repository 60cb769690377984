import Lockstep.Text.Utf8

/-! Reading UTF-8 loses no byte: each piece stands for bytes of its own, a character for its
shortest sequence and junk for itself, and all of them together are what was read. -/
namespace Lockstep.Utf8

def Piece.bytes : Piece → Bytes
  | .char c => encodeChar c
  | .junk bs => bs

/-- The sequences that have begun, by how long they will be and how much of them was seen. The
bounds keep the number they will spell within the characters that need this length. -/
inductive Pending.Begun : Pending → Prop where
  | two {v : Nat} (least : 2 ≤ v) (most : v < 32) :
      Begun { seen := [UInt8.ofNat (0xC0 + v)], value := v, missing := 1 }
  | three {v : Nat} {low high : UInt8} (most : v < 16) (least : v = 0 → 0xA0 ≤ low.toNat)
      (apart : v = 13 → high.toNat ≤ 0x9F) (floor : 0x80 ≤ low.toNat)
      (ceiling : high.toNat ≤ 0xBF) :
      Begun { seen := [UInt8.ofNat (0xE0 + v)], value := v, missing := 2, low, high }
  | threeMore {v : Nat} (least : 32 ≤ v) (most : v < 1024) (apart : v < 0x360 ∨ 0x380 ≤ v) :
      Begun { seen := [UInt8.ofNat (0xE0 + v / 64), UInt8.ofNat (0x80 + v % 64)], value := v,
              missing := 1 }
  | four {v : Nat} {low high : UInt8} (most : v ≤ 4) (least : v = 0 → 0x90 ≤ low.toNat)
      (last : v = 4 → high.toNat ≤ 0x8F) (floor : 0x80 ≤ low.toNat) (ceiling : high.toNat ≤ 0xBF) :
      Begun { seen := [UInt8.ofNat (0xF0 + v)], value := v, missing := 3, low, high }
  | fourMore {v : Nat} (least : 16 ≤ v) (most : v < 0x110) :
      Begun { seen := [UInt8.ofNat (0xF0 + v / 64), UInt8.ofNat (0x80 + v % 64)], value := v,
              missing := 2 }
  | fourMost {v : Nat} (least : 0x400 ≤ v) (most : v < 0x4400) :
      Begun { seen := [UInt8.ofNat (0xF0 + v / 4096), UInt8.ofNat (0x80 + v / 64 % 64),
                UInt8.ofNat (0x80 + v % 64)], value := v, missing := 1 }

theorem toNat_ofNat {n : Nat} (valid : n.isValidChar) : (Char.ofNat n).toNat = n := by
  unfold Char.ofNat
  rw [dif_pos valid]
  rfl

section Encode

variable {n : Nat}

theorem encodeChar_one (h : n < 0x80) : encodeChar (Char.ofNat n) = [UInt8.ofNat n] := by
  unfold encodeChar
  simp only [toNat_ofNat (n := n) (.inl (by omega)), if_pos h]

theorem encodeChar_two (least : 0x80 ≤ n) (most : n < 0x800) :
    encodeChar (Char.ofNat n) = [UInt8.ofNat (0xC0 + n / 64), UInt8.ofNat (0x80 + n % 64)] := by
  have number : (Char.ofNat n).toNat = n := toNat_ofNat (.inl (by omega))
  simp only [encodeChar, number, if_neg (Nat.not_lt.mpr least), if_pos most]

theorem encodeChar_three (least : 0x800 ≤ n) (most : n < 0x10000)
    (apart : n < 0xD800 ∨ 0xDFFF < n) :
    encodeChar (Char.ofNat n) =
      [UInt8.ofNat (0xE0 + n / 4096), UInt8.ofNat (0x80 + n / 64 % 64),
        UInt8.ofNat (0x80 + n % 64)] := by
  have number : (Char.ofNat n).toNat = n := toNat_ofNat (apart.imp id fun h => ⟨h, by omega⟩)
  simp only [encodeChar, number]
  rw [if_neg (by omega), if_neg (by omega), if_pos most]

theorem encodeChar_four (least : 0x10000 ≤ n) (most : n < 0x110000) :
    encodeChar (Char.ofNat n) =
      [UInt8.ofNat (0xF0 + n / 262144), UInt8.ofNat (0x80 + n / 4096 % 64),
        UInt8.ofNat (0x80 + n / 64 % 64), UInt8.ofNat (0x80 + n % 64)] := by
  have number : (Char.ofNat n).toNat = n := toNat_ofNat (.inr ⟨by omega, most⟩)
  simp only [encodeChar, number]
  rw [if_neg (by omega), if_neg (by omega), if_neg (by omega)]

end Encode

/-- A piece or a longer sequence that has taken in some bytes and nothing else. -/
def TookIn (bytes : Bytes) : Piece ⊕ Pending → Prop
  | .inl piece => piece.bytes = bytes
  | .inr p => p.seen = bytes ∧ p.Begun

theorem tookIn_lead (b : UInt8) : TookIn [b] (lead b) := by
  have seen (k v : Nat) (h : b.toNat = k + v) : [b] = [UInt8.ofNat (k + v)] := by
    rw [← h, UInt8.ofNat_toNat]
  unfold lead
  dsimp only
  split
  · rename_i ascii
    show encodeChar _ = _
    rw [encodeChar_one ascii, UInt8.ofNat_toNat]
  split
  · rfl
  split
  · refine ⟨rfl, ?_⟩
    rw [seen 0xC0 (b.toNat - 0xC0) (by omega)]
    exact .two (by omega) (by omega)
  split
  · refine ⟨rfl, ?_⟩
    rw [seen 0xE0 0 (by omega)]
    exact .three (by omega) (by decide) (by omega) (by decide) (by decide)
  split
  · refine ⟨rfl, ?_⟩
    rw [seen 0xE0 (b.toNat - 0xE0) (by omega)]
    exact .three (by omega) (by omega) (fun _ => by decide) (by decide) (by decide)
  split
  · refine ⟨rfl, ?_⟩
    rw [seen 0xE0 (b.toNat - 0xE0) (by omega)]
    exact .three (by omega) (by omega) (by omega) (by decide) (by decide)
  split
  · refine ⟨rfl, ?_⟩
    rw [seen 0xF0 0 (by omega)]
    exact .four (by omega) (by decide) (by omega) (by decide) (by decide)
  split
  · refine ⟨rfl, ?_⟩
    rw [seen 0xF0 (b.toNat - 0xF0) (by omega)]
    exact .four (by omega) (by omega) (by omega) (by decide) (by decide)
  split
  · refine ⟨rfl, ?_⟩
    rw [seen 0xF0 4 (by omega)]
    exact .four (by omega) (by omega) (fun _ => by decide) (by decide) (by decide)
  · rfl

theorem Pending.of_extend? {p : Pending} {b : UInt8} {next : Piece ⊕ Pending}
    (h : p.extend? b = some next) :
    p.low.toNat ≤ b.toNat ∧ b.toNat ≤ p.high.toNat ∧
      next = if p.missing ≤ 1 then .inl (.char (Char.ofNat (p.value * 64 + (b.toNat - 0x80))))
        else .inr { seen := p.seen ++ [b], value := p.value * 64 + (b.toNat - 0x80),
                    missing := p.missing - 1 } := by
  unfold extend? at h
  split at h
  · rename_i bounds
    refine ⟨UInt8.le_iff_toNat_le.mp bounds.1, UInt8.le_iff_toNat_le.mp bounds.2, ?_⟩
    dsimp only at h
    split at h
    · rw [if_pos ‹_›, Option.some.inj h]
    · rw [if_neg ‹_›, Option.some.inj h]
  · cases h

theorem Pending.Begun.extend {p : Pending} (h : p.Begun) {b : UInt8} {next : Piece ⊕ Pending}
    (taken : p.extend? b = some next) : TookIn (p.seen ++ [b]) next := by
  obtain ⟨low, high, rfl⟩ := Pending.of_extend? taken
  obtain ⟨range, hb⟩ : b.toNat - 0x80 < 64 ∧ b = UInt8.ofNat (0x80 + (b.toNat - 0x80)) := by
    have bounds : 0x80 ≤ b.toNat ∧ b.toNat ≤ 0xBF := by
      cases h <;> simp at low high <;> omega
    refine ⟨by omega, ?_⟩
    rw [show 0x80 + (b.toNat - 0x80) = b.toNat by omega, UInt8.ofNat_toNat]
  -- From here on only the six bits that the byte adds to the number matter.
  generalize b.toNat - 0x80 = c at range hb
  subst hb
  have number : (UInt8.ofNat (0x80 + c)).toNat = 0x80 + c := by
    rw [UInt8.toNat_ofNat']
    omega
  rw [number] at low high
  cases h with
  | @two v least most =>
    show encodeChar (Char.ofNat (v * 64 + c)) = _
    rw [encodeChar_two (by omega) (by omega), show (v * 64 + c) / 64 = v by omega,
      show (v * 64 + c) % 64 = c by omega]
    rfl
  | @three v low' high' most least apart floor ceiling =>
    refine ⟨rfl, ?_⟩
    have begun : Begun _ := .threeMore (v := v * 64 + c) (by simp only at low; omega) (by omega)
      (by simp only at high; omega)
    rwa [show (v * 64 + c) / 64 = v by omega, show (v * 64 + c) % 64 = c by omega] at begun
  | @threeMore v least most apart =>
    show encodeChar (Char.ofNat (v * 64 + c)) = _
    rw [encodeChar_three (by omega) (by omega) (by omega),
      show (v * 64 + c) / 4096 = v / 64 by omega, show (v * 64 + c) / 64 = v by omega,
      show (v * 64 + c) % 64 = c by omega]
    rfl
  | @four v low' high' most least last floor ceiling =>
    refine ⟨rfl, ?_⟩
    have begun : Begun _ := .fourMore (v := v * 64 + c) (by simp only at low; omega)
      (by simp only at high; omega)
    rwa [show (v * 64 + c) / 64 = v by omega, show (v * 64 + c) % 64 = c by omega] at begun
  | @fourMore v least most =>
    refine ⟨rfl, ?_⟩
    have begun : Begun _ := .fourMost (v := v * 64 + c) (by omega) (by omega)
    rwa [show (v * 64 + c) / 4096 = v / 64 by omega, show (v * 64 + c) / 64 = v by omega,
      show (v * 64 + c) % 64 = c by omega] at begun
  | @fourMost v least most =>
    show encodeChar (Char.ofNat (v * 64 + c)) = _
    rw [encodeChar_four (by omega) (by omega), show (v * 64 + c) / 262144 = v / 4096 by omega,
      show (v * 64 + c) / 4096 = v / 64 by omega, show (v * 64 + c) / 64 = v by omega,
      show (v * 64 + c) % 64 = c by omega]
    rfl

/-- No byte is lost, whatever has begun before. -/
theorem flatMap_bytes_piecesFrom (bytes : Bytes) (p : Option Pending) (h : ∀ q ∈ p, q.Begun) :
    (piecesFrom p bytes).flatMap Piece.bytes = (p.map Pending.seen).getD [] ++ bytes := by
  induction bytes generalizing p with
  | nil => cases p <;> simp [piecesFrom, Piece.bytes]
  | cons b rest ih =>
    have led := tookIn_lead b
    cases p with
    | none =>
      unfold piecesFrom
      split <;> simp_all [TookIn]
    | some p =>
      have begun := h p rfl
      have extended := @Pending.Begun.extend p begun b
      unfold piecesFrom
      split
      · simp_all [TookIn]
      · simp_all [TookIn]
      · split <;> simp_all [TookIn, Piece.bytes]

theorem flatMap_bytes_pieces (bytes : Bytes) : (pieces bytes).flatMap Piece.bytes = bytes :=
  flatMap_bytes_piecesFrom bytes none (by simp)

end Lockstep.Utf8
