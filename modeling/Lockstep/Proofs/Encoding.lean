import Mathlib.Data.List.Infix
import Lockstep.Proofs.Decoding
import Lockstep.Proofs.Prefilter

/-! Reading UTF-8 gives back the characters that were written, and an ASCII byte is read as itself
wherever it stands: it belongs to no longer sequence and ends any that has begun. -/
namespace Lockstep

namespace Utf8

section Write

variable {v w : Nat}

theorem toNat_byte (k : Nat) (h : k + v < 256) : (UInt8.ofNat (k + v)).toNat = k + v := by
  rw [UInt8.toNat_ofNat']
  omega

theorem Pending.extend?_byte {p : Pending} (bits : v < 64) (low : p.low.toNat ≤ 0x80 + v)
    (high : 0x80 + v ≤ p.high.toNat) :
    p.extend? (UInt8.ofNat (0x80 + v)) =
      some (if p.missing ≤ 1 then .inl (.char (Char.ofNat (p.value * 64 + v)))
        else .inr { seen := p.seen ++ [UInt8.ofNat (0x80 + v)], value := p.value * 64 + v,
                    missing := p.missing - 1 }) := by
  have number := toNat_byte (v := v) 0x80 (by omega)
  rw [← number] at low high
  unfold extend?
  rw [if_pos ⟨UInt8.le_iff_toNat_le.mpr low, UInt8.le_iff_toNat_le.mpr high⟩, number,
    Nat.add_sub_cancel_left]
  split <;> rfl

theorem lead_two (least : 2 ≤ v) (most : v < 32) :
    ∃ p, lead (UInt8.ofNat (0xC0 + v)) = .inr p ∧ p.value = v ∧ p.missing = 1 ∧
      p.low = 0x80 ∧ p.high = 0xBF := by
  unfold lead
  rw [toNat_byte 0xC0 (by omega)]
  dsimp only
  rw [if_neg (by omega), if_neg (by omega), if_pos (by omega)]
  exact ⟨_, rfl, by simp, rfl, rfl, rfl⟩

theorem lead_three (most : v < 16) (bits : w < 64) (least : v = 0 → 32 ≤ w)
    (apart : v = 13 → w < 32) :
    ∃ p, lead (UInt8.ofNat (0xE0 + v)) = .inr p ∧ p.value = v ∧ p.missing = 2 ∧
      p.low.toNat ≤ 0x80 + w ∧ 0x80 + w ≤ p.high.toNat := by
  unfold lead
  rw [toNat_byte 0xE0 (by omega)]
  dsimp only
  rw [if_neg (by omega), if_neg (by omega), if_neg (by omega)]
  split
  · exact ⟨_, rfl, by dsimp only; omega, rfl, by simp; omega, by simp; omega⟩
  split
  · exact ⟨_, rfl, by dsimp only; omega, rfl, by simp, by simp; omega⟩
  · rw [if_pos (by omega)]
    exact ⟨_, rfl, by dsimp only; omega, rfl, by simp, by simp; omega⟩

theorem lead_four (most : v ≤ 4) (bits : w < 64) (least : v = 0 → 16 ≤ w)
    (last : v = 4 → w < 16) :
    ∃ p, lead (UInt8.ofNat (0xF0 + v)) = .inr p ∧ p.value = v ∧ p.missing = 3 ∧
      p.low.toNat ≤ 0x80 + w ∧ 0x80 + w ≤ p.high.toNat := by
  unfold lead
  rw [toNat_byte 0xF0 (by omega)]
  dsimp only
  rw [if_neg (by omega), if_neg (by omega), if_neg (by omega), if_neg (by omega),
    if_neg (by omega), if_neg (by omega)]
  split
  · exact ⟨_, rfl, by dsimp only; omega, rfl, by simp; omega, by simp; omega⟩
  split
  · exact ⟨_, rfl, by dsimp only; omega, rfl, by simp, by simp; omega⟩
  · rw [if_pos (by omega)]
    exact ⟨_, rfl, by dsimp only; omega, rfl, by simp, by simp; omega⟩

variable {p : Pending} {b : UInt8}

theorem piecesFrom_lead (led : lead b = .inr p) (rest : Bytes) :
    piecesFrom none (b :: rest) = piecesFrom (some p) rest := by
  rw [piecesFrom, led]

theorem piecesFrom_more (more : 1 < p.missing) (bits : w < 64) (low : p.low.toNat ≤ 0x80 + w)
    (high : 0x80 + w ≤ p.high.toNat) (rest : Bytes) :
    piecesFrom (some p) (UInt8.ofNat (0x80 + w) :: rest) =
      piecesFrom (some { seen := p.seen ++ [UInt8.ofNat (0x80 + w)], value := p.value * 64 + w,
                         missing := p.missing - 1 }) rest := by
  rw [piecesFrom, Pending.extend?_byte bits low high, if_neg (by omega)]

theorem piecesFrom_last (last : p.missing = 1) (bits : w < 64) (low : p.low = 0x80)
    (high : p.high = 0xBF) (rest : Bytes) :
    piecesFrom (some p) (UInt8.ofNat (0x80 + w) :: rest) =
      .char (Char.ofNat (p.value * 64 + w)) :: piecesFrom none rest := by
  rw [piecesFrom, Pending.extend?_byte bits (by simp [low]) (by simp [high]; omega),
    if_pos (by omega)]

theorem pieces_encodeChar (c : Char) (rest : Bytes) :
    pieces (encodeChar c ++ rest) = .char c :: pieces rest := by
  have number : Char.ofNat c.toNat = c := Char.ofNat_toNat c
  have bound : c.toNat < 0xD800 ∨ 0xDFFF < c.toNat ∧ c.toNat < 0x110000 := c.valid
  unfold encodeChar pieces
  generalize c.toNat = n at number bound
  dsimp only
  split
  · have led : lead (UInt8.ofNat n) = .inl (.char (Char.ofNat n)) := by
      have byte := @toNat_byte n 0 (by omega)
      rw [Nat.zero_add] at byte
      unfold lead
      rw [byte]
      exact if_pos ‹_›
    rw [List.singleton_append, piecesFrom, led, number]
  split
  · obtain ⟨p, led, value, missing, low, high⟩ := @lead_two (n / 64) (by omega) (by omega)
    simp only [List.cons_append, List.nil_append]
    rw [piecesFrom_lead led, piecesFrom_last missing (by omega) low high, value,
      show n / 64 * 64 + n % 64 = n by omega, number]
  split
  · obtain ⟨p, led, value, missing, low, high⟩ :=
      @lead_three (n / 4096) (n / 64 % 64) (by omega) (by omega) (by omega) (by omega)
    simp only [List.cons_append, List.nil_append]
    rw [piecesFrom_lead led, piecesFrom_more (by omega) (by omega) low high,
      piecesFrom_last (by simp [missing]) (by omega) rfl rfl]
    dsimp only
    rw [value, show (n / 4096 * 64 + n / 64 % 64) * 64 + n % 64 = n by omega, number]
  · obtain ⟨p, led, value, missing, low, high⟩ :=
      @lead_four (n / 262144) (n / 4096 % 64) (by omega) (by omega) (by omega) (by omega)
    simp only [List.cons_append, List.nil_append]
    rw [piecesFrom_lead led, piecesFrom_more (by omega) (by omega) low high,
      piecesFrom_more (by simp [missing]) (by omega) (by simp) (by simp; omega),
      piecesFrom_last (by simp [missing]) (by omega) rfl rfl]
    dsimp only
    rw [value, show ((n / 262144 * 64 + n / 4096 % 64) * 64 + n / 64 % 64) * 64 + n % 64 = n by omega,
      number]

theorem toNat_of_mem_encodeChar {c : Char} (mem : b ∈ encodeChar c) (ascii : b.toNat < 0x80) :
    c.toNat = b.toNat := by
  have bound : c.toNat < 0x110000 := by
    rcases c.valid with low | ⟨_, high⟩
    · exact Nat.lt_trans low (by decide)
    · exact high
  have tail (k : Nat) : ¬(UInt8.ofNat (0x80 + k % 64)).toNat < 0x80 := by
    rw [toNat_byte 0x80 (by omega)]
    omega
  unfold encodeChar at mem
  generalize c.toNat = n at bound mem
  dsimp only at mem
  split at mem
  · rw [List.mem_singleton.mp mem, UInt8.toNat_ofNat']
    omega
  split at mem
  · simp only [List.mem_cons, List.not_mem_nil, or_false] at mem
    rcases mem with rfl | rfl
    · rw [toNat_byte 0xC0 (by omega)] at ascii
      omega
    · exact absurd ascii (tail n)
  split at mem
  · simp only [List.mem_cons, List.not_mem_nil, or_false] at mem
    rcases mem with rfl | rfl | rfl
    · rw [toNat_byte 0xE0 (by omega)] at ascii
      omega
    · exact absurd ascii (tail (n / 64))
    · exact absurd ascii (tail n)
  · simp only [List.mem_cons, List.not_mem_nil, or_false] at mem
    rcases mem with rfl | rfl | rfl | rfl
    · rw [toNat_byte 0xF0 (by omega)] at ascii
      omega
    · exact absurd ascii (tail (n / 4096))
    · exact absurd ascii (tail (n / 64))
    · exact absurd ascii (tail n)

end Write

section Ascii

variable {b : UInt8}

theorem Pending.Begun.low_ge {p : Pending} (h : p.Begun) : 0x80 ≤ p.low.toNat := by
  cases h <;> simp_all

theorem piecesFrom_append (ascii : b.toNat < 0x80) (bytes rest : Bytes) (p : Option Pending)
    (h : ∀ q ∈ p, q.Begun) :
    piecesFrom p (bytes ++ b :: rest) = piecesFrom p bytes ++ pieces (b :: rest) := by
  induction bytes generalizing p with
  | nil =>
    cases p with
    | none => rfl
    | some q =>
      -- Whatever has begun, its next byte would have to be 128 at least.
      have refused : q.extend? b = none := by
        unfold Pending.extend?
        rw [if_neg]
        intro bounds
        have := UInt8.le_iff_toNat_le.mp bounds.1
        have := (h q rfl).low_ge
        omega
      have led : lead b = .inl (.char (Char.ofNat b.toNat)) := if_pos ascii
      simp only [List.nil_append, pieces, piecesFrom, refused, led, List.singleton_append]
  | cons c bytes ih =>
    have led := tookIn_lead c
    have begun := ih none (by simp)
    rw [List.cons_append]
    cases p with
    | none =>
      unfold piecesFrom
      split <;> simp_all [TookIn]
    | some p =>
      have extended := @Pending.Begun.extend p (h p rfl) c
      unfold piecesFrom
      split
      · simp_all [TookIn]
      · simp_all [TookIn]
      · split <;> simp_all [TookIn]

end Ascii

end Utf8

namespace Text

theorem toUtf8_cons_char (c : Char) (rest : Text) :
    toUtf8 (.char c :: rest) = Utf8.encodeChar c ++ toUtf8 rest := by
  simp [toUtf8]

theorem ofUtf8Lossy_toUtf8 {t : Text} (h : t.IsProse) : ofUtf8Lossy t.toUtf8 = t := by
  induction t with
  | nil => rfl
  | cons g rest ih =>
    obtain ⟨c, rfl⟩ := h g (by simp)
    have tail := ih fun g hg => h g (by simp [hg])
    rw [ofUtf8Lossy_eq_map] at tail ⊢
    rw [toUtf8_cons_char, Utf8.pieces_encodeChar, List.map_cons, tail]
    rfl

theorem mem_of_mem_toUtf8 {t : Text} (h : t.IsProse) {b : UInt8} (mem : b ∈ t.toUtf8)
    (ascii : b.toNat < 0x80) : .char (Char.ofNat b.toNat) ∈ t := by
  obtain ⟨g, hg, within⟩ := List.mem_flatMap.mp mem
  obtain ⟨c, rfl⟩ := h g hg
  rw [← Utf8.toNat_of_mem_encodeChar within ascii, Char.ofNat_toNat]
  exact hg

theorem ofUtf8Lossy_append {b : UInt8} (ascii : b.toNat < 0x80) (bytes rest : Bytes) :
    ofUtf8Lossy (bytes ++ b :: rest) = ofUtf8Lossy bytes ++ ofUtf8Lossy (b :: rest) := by
  simp only [ofUtf8Lossy_eq_map, ← List.map_append]
  congr 1
  exact Utf8.piecesFrom_append ascii bytes rest none (by simp)

theorem mem_of_mem_ofUtf8Lossy {c : Char} {bytes : Bytes} (faithful : Glyph.replacement ≠ .char c)
    (mem : .char c ∈ ofUtf8Lossy bytes) : ∀ b ∈ Utf8.encodeChar c, b ∈ bytes := by
  have within : [Glyph.char c] <:+: ofUtf8Lossy bytes := (List.singleton_infix_iff _ _).mpr mem
  have written := toUtf8_infix (by simpa using faithful) within
  rw [toUtf8_cons_char] at written
  intro b hb
  exact written.subset (List.mem_append_left _ hb)

end Text
end Lockstep
