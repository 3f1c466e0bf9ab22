import Mathlib.Tactic.IntervalCases
import PathPolicy.Text.Utf8

/-!
# Bytes of a text

The bytes that encode a text are read as this text.  A character is written in up to four bytes,
the leading one with the highest bits and each other one with six more, and no reading of them
leaves the ranges that the leading byte sets.
-/

namespace PathPolicy.Text.Utf8

/-! ## Bytes as numbers -/

theorem toNat_ofNat_add {bits offset : Nat} (fits : bits + offset < 256) :
    (UInt8.ofNat (bits + offset)).toNat = bits + offset :=
  UInt8.toNat_ofNat_of_lt' fits

theorem toNat_ofNat_add_sub {bits offset : Nat} (fits : bits + offset < 256) :
    (UInt8.ofNat (bits + offset) - UInt8.ofNat offset).toNat = bits := by
  have value := toNat_ofNat_add fits
  have offsetValue : (UInt8.ofNat offset).toNat = offset :=
    UInt8.toNat_ofNat_of_lt' (by simp [UInt8.size]; omega)
  have above : UInt8.ofNat offset ≤ UInt8.ofNat (bits + offset) := by
    rw [UInt8.le_iff_toNat_le, value, offsetValue]
    omega
  rw [UInt8.toNat_sub_of_le _ _ above, value, offsetValue]
  omega

/-! ## Leading bytes -/

theorem ofByte_whole {bits : Nat} (small : bits < 0x80) (position : Nat) :
    Lead.ofByte position (UInt8.ofNat bits) = .whole (Char.ofNat bits) := by
  have value : (UInt8.ofNat bits).toNat = bits := by
    apply UInt8.toNat_ofNat_of_lt'
    simp [UInt8.size]
    omega
  rw [Lead.ofByte, if_pos (by simp [UInt8.lt_iff_toNat_lt, value, small]), value]

theorem ofByte_two {bits : Nat} (low : 2 ≤ bits) (high : bits < 0x20) (position : Nat) :
    Lead.ofByte position (UInt8.ofNat (bits + 0xc0)) =
      .starts ⟨position, [UInt8.ofNat (bits + 0xc0)], bits, 1, 0x80, 0xbf⟩ := by
  interval_cases bits <;> rfl

theorem ofByte_three {bits : Nat} (high : bits < 0x10) (position : Nat) :
    Lead.ofByte position (UInt8.ofNat (bits + 0xe0)) =
      .starts ⟨position, [UInt8.ofNat (bits + 0xe0)], bits, 2, if bits = 0 then 0xa0 else 0x80,
        if bits = 0xd then 0x9f else 0xbf⟩ := by
  interval_cases bits <;> rfl

theorem ofByte_four {bits : Nat} (high : bits < 5) (position : Nat) :
    Lead.ofByte position (UInt8.ofNat (bits + 0xf0)) =
      .starts ⟨position, [UInt8.ofNat (bits + 0xf0)], bits, 3, if bits = 0 then 0x90 else 0x80,
        if bits = 4 then 0x8f else 0xbf⟩ := by
  interval_cases bits <;> rfl

/-! ## Bytes behind a leading one -/

/-- A byte behind a leading one that lies in the range that is due. -/
structure Pending.Expects (pending : Pending) (bits : Nat) : Prop where
  small : bits < 0x40
  low : pending.low.toNat ≤ bits + 0x80
  high : bits + 0x80 ≤ pending.high.toNat

variable {pending : Pending} {bits : Nat}

theorem expects_of_lt {start missing front : Nat} {run : List UInt8} (small : bits < 0x40) :
    Pending.Expects ⟨start, run, front, missing, 0x80, 0xbf⟩ bits := by
  constructor
  · exact small
  · exact Nat.le_add_left 0x80 bits
  · change bits + 0x80 ≤ 0xbf
    omega

/-- Behind a leading byte the range of six bits may be narrower. -/
theorem expects_of_narrowed {start missing front : Nat} {run : List UInt8} {raised lowered : Prop}
    [Decidable raised] [Decidable lowered] {low high : UInt8} (small : bits < 0x40)
    (aboveLow : raised → low.toNat ≤ bits + 0x80) (belowHigh : lowered → bits + 0x80 ≤ high.toNat) :
    Pending.Expects
      ⟨start, run, front, missing, if raised then low else 0x80, if lowered then high else 0xbf⟩
      bits := by
  have usual : Pending.Expects ⟨start, run, front, missing, 0x80, 0xbf⟩ bits := expects_of_lt small
  constructor
  · exact small
  · dsimp only
    split
    · exact aboveLow ‹_›
    · exact usual.low
  · dsimp only
    split
    · exact belowHigh ‹_›
    · exact usual.high

theorem bitsWith_of_lt (small : bits < 0x40) :
    pending.bitsWith (UInt8.ofNat (bits + 0x80)) = pending.bits * 64 + bits := by
  have fits : bits + 0x80 < 256 := by omega
  exact congrArg (pending.bits * 64 + ·) (toNat_ofNat_add_sub fits)

theorem Pending.Expects.inRange (expects : pending.Expects bits) :
    ¬ (UInt8.ofNat (bits + 0x80) < pending.low ∨ pending.high < UInt8.ofNat (bits + 0x80)) := by
  have small := expects.small
  have value : (UInt8.ofNat (bits + 0x80)).toNat = bits + 0x80 := toNat_ofNat_add (by omega)
  rw [UInt8.lt_iff_toNat_lt, UInt8.lt_iff_toNat_lt, value]
  have low := expects.low
  have high := expects.high
  omega

theorem decodeFrom_last (expects : pending.Expects bits) (last : pending.missing = 1)
    (position : Nat) (rest : List UInt8) :
    decodeFrom position (some pending) (UInt8.ofNat (bits + 0x80) :: rest) =
      (decodeFrom (position + 1) none rest).map
        (Char.ofNat (pending.bits * 64 + bits) :: ·) := by
  rw [decodeFrom, if_neg expects.inRange, if_pos (by omega), bitsWith_of_lt expects.small]

theorem decodeFrom_more (expects : pending.Expects bits) {missing : Nat}
    (more : pending.missing = missing + 2) (position : Nat) (rest : List UInt8) :
    decodeFrom position (some pending) (UInt8.ofNat (bits + 0x80) :: rest) =
      decodeFrom (position + 1)
        (some ⟨pending.start, pending.run ++ [UInt8.ofNat (bits + 0x80)],
          pending.bits * 64 + bits, missing + 1, 0x80, 0xbf⟩) rest := by
  rw [decodeFrom, if_neg expects.inRange, if_neg (by omega), bitsWith_of_lt expects.small, more]
  rfl

/-! ## Characters -/

theorem decodeFrom_two {front bits : Nat} (noOverlong : 2 ≤ front) (high : front < 0x20)
    (small : bits < 0x40) (position : Nat) (rest : List UInt8) :
    decodeFrom position none (UInt8.ofNat (front + 0xc0) :: UInt8.ofNat (bits + 0x80) :: rest) =
      (decodeFrom (position + 2) none rest).map (Char.ofNat (front * 64 + bits) :: ·) := by
  rw [decodeFrom, ofByte_two noOverlong high]
  exact decodeFrom_last (expects_of_lt small) rfl (position + 1) rest

theorem decodeFrom_three {front second bits : Nat} (high : front < 0x10)
    (secondSmall : second < 0x40) (small : bits < 0x40) (noOverlong : front = 0 → 0x20 ≤ second)
    (noSurrogate : front = 0xd → second < 0x20) (position : Nat) (rest : List UInt8) :
    decodeFrom position none
        (UInt8.ofNat (front + 0xe0) :: UInt8.ofNat (second + 0x80) ::
          UInt8.ofNat (bits + 0x80) :: rest) =
      (decodeFrom (position + 3) none rest).map
        (Char.ofNat ((front * 64 + second) * 64 + bits) :: ·) := by
  rw [decodeFrom, ofByte_three high]
  refine (decodeFrom_more (expects_of_narrowed secondSmall ?_ ?_) rfl (position + 1) _).trans ?_
  · exact fun isZero => Nat.add_le_add_right (noOverlong isZero) 0x80
  · exact fun isHigh => Nat.add_le_add_right (Nat.le_of_lt_succ (noSurrogate isHigh)) 0x80
  · exact decodeFrom_last (expects_of_lt small) rfl (position + 2) rest

theorem decodeFrom_four {front second third bits : Nat} (high : front < 5)
    (secondSmall : second < 0x40) (thirdSmall : third < 0x40) (small : bits < 0x40)
    (noOverlong : front = 0 → 0x10 ≤ second) (inPlane : front = 4 → second < 0x10)
    (position : Nat) (rest : List UInt8) :
    decodeFrom position none
        (UInt8.ofNat (front + 0xf0) :: UInt8.ofNat (second + 0x80) ::
          UInt8.ofNat (third + 0x80) :: UInt8.ofNat (bits + 0x80) :: rest) =
      (decodeFrom (position + 4) none rest).map
        (Char.ofNat (((front * 64 + second) * 64 + third) * 64 + bits) :: ·) := by
  rw [decodeFrom, ofByte_four high]
  refine (decodeFrom_more (expects_of_narrowed secondSmall ?_ ?_) rfl (position + 1) _).trans ?_
  · exact fun isZero => Nat.add_le_add_right (noOverlong isZero) 0x80
  · exact fun isLast => Nat.add_le_add_right (Nat.le_of_lt_succ (inPlane isLast)) 0x80
  · rw [decodeFrom_more (expects_of_lt thirdSmall) rfl]
    exact decodeFrom_last (expects_of_lt small) rfl (position + 3) rest

/-- The bytes of a character are read as the character. -/
theorem decodeFrom_utf8EncodeChar_append (c : Char) (position : Nat) (rest : List UInt8) :
    decodeFrom position none (String.utf8EncodeChar c ++ rest) =
      (decodeFrom (position + (String.utf8EncodeChar c).length) none rest).map (c :: ·) := by
  have whole : Char.ofNat c.val.toNat = c := Char.ofNat_toNat c
  have valid : c.val.toNat < 0xd800 ∨ 0xdfff < c.val.toNat ∧ c.val.toNat < 0x110000 := c.valid
  rw [String.utf8EncodeChar]
  generalize c.val.toNat = code at whole valid
  split
  · rename_i small
    rw [List.singleton_append, decodeFrom, ofByte_whole (by omega)]
    simp only [whole]
    rfl
  · split
    · have joined : code / 64 % 32 * 64 + code % 64 = code := by omega
      refine (decodeFrom_two ?_ ?_ ?_ position rest).trans ?_
      case refine_4 =>
        rw [joined, whole]
        rfl
      all_goals omega
    · split
      · have joined : (code / 4096 % 16 * 64 + code / 64 % 64) * 64 + code % 64 = code := by omega
        refine (decodeFrom_three ?_ ?_ ?_ ?_ ?_ position rest).trans ?_
        case refine_6 =>
          rw [joined, whole]
          rfl
        all_goals omega
      · have joined :
            ((code / 262144 % 8 * 64 + code / 4096 % 64) * 64 + code / 64 % 64) * 64 + code % 64 =
              code := by omega
        refine (decodeFrom_four ?_ ?_ ?_ ?_ ?_ ?_ position rest).trans ?_
        case refine_7 =>
          rw [joined, whole]
          rfl
        all_goals omega

theorem decodeFrom_flatMap_utf8EncodeChar (characters : List Char) (position : Nat) :
    decodeFrom position none (characters.flatMap String.utf8EncodeChar) = .ok characters := by
  induction characters generalizing position with
  | nil => rfl
  | cons c rest inductionHypothesis =>
      rw [List.flatMap_cons, decodeFrom_utf8EncodeChar_append, inductionHypothesis]
      rfl

theorem decode_encode (text : String) : decode (encode text) = .ok text.toList :=
  decodeFrom_flatMap_utf8EncodeChar text.toList 0

end PathPolicy.Text.Utf8
