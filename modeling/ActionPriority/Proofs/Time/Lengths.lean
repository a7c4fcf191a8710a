import ActionPriority.Time.Seconds

/-! # Lengths of Time in Seconds

    Seconds are a length of time if they are a number, not negative, and below `2 ^ 64`
    (`Time.exists_ofSeconds_iff`).

    `Time.ofSeconds` compares doubles, among which what is not a number is in no order, and then
    reads the digits off the bits.  The two fit together: what is neither below zero nor out of
    range has digits (`Binary64.isSome_parts?`), since an infinite double is either below all
    finite ones or below none (`Binary64.lt_of_isInf`).
-/

namespace ActionPriority

open Float.Model (UnpackedFloat)
open Float.Model.UnpackedFloat (unpackExponent unpackMantissa)

namespace Binary64

/-! ### Bits -/

/-- The exponent field is the eleven bits above the fraction. -/
theorem toNat_unpackExponent (b : BitVec 64) :
    (@unpackExponent .binary64 b).toNat = b.toNat / Nat.pow 2 52 % 2048 := by
  simp [unpackExponent, BitVec.extractLsb_toNat, Nat.shiftRight_eq_div_pow]

/-- A double is finite unless all bits of its exponent field are set. -/
theorem isFinite_iff (x : Float) :
    x.isFinite = true ↔ x.toBits.toNat / Nat.pow 2 52 % 2048 ≠ 2047 := by
  have hfield := toNat_unpackExponent x.toBits.toBitVec
  have hlast : @unpackExponent .binary64 x.toBits.toBitVec = -1#11 ↔
      x.toBits.toNat / Nat.pow 2 52 % 2048 = 2047 := by
    rw [BitVec.toNat_inj.symm, hfield]
    rfl
  rw [Ne, ← hlast]
  show (UnpackedFloat.unpack .binary64 x.toBits.toBitVec).isFinite = true ↔ _
  unfold UnpackedFloat.unpack
  dsimp only
  by_cases h : @unpackExponent .binary64 x.toBits.toBitVec = -1#11
  · -- With all bits set it is infinite or not a number, whatever the fraction is.
    rw [if_pos h]
    refine iff_of_false ?_ (fun hne => hne h)
    by_cases hfraction : @unpackMantissa .binary64 x.toBits.toBitVec = 0#52
    · rw [if_pos hfraction]
      exact Bool.false_ne_true
    · rw [if_neg hfraction]
      exact Bool.false_ne_true
  · rw [if_neg h]
    refine iff_of_true ?_ h
    by_cases hleast : @unpackExponent .binary64 x.toBits.toBitVec = 0#11
    · rw [if_pos hleast]
      by_cases hfraction : @unpackMantissa .binary64 x.toBits.toBitVec = 0#52
      · rw [dif_pos hfraction]
        rfl
      · rw [dif_neg hfraction]
        rfl
    · rw [if_neg hleast]
      rfl

/-- The doubles that have a significand and an exponent are the finite ones. -/
theorem isSome_parts? (x : Float) : (parts? x).isSome = x.isFinite := by
  rw [Bool.eq_iff_iff, isFinite_iff]
  unfold parts?
  dsimp only
  split
  · next h => exact iff_of_false Bool.false_ne_true (fun hne => hne h)
  · next h =>
    refine iff_of_true ?_ h
    split <;> rfl

/-! ### Comparisons -/

theorem lt_iff {x y : Float} : x < y ↔ x.toModel.unpack.lt y.toModel.unpack = true :=
  decide_eq_true_iff

/-- Nothing that is not a number is below anything. -/
theorem isNaN_of_lt {x y : Float} (h : x < y) : x.isNaN = false := by
  rw [lt_iff] at h
  show x.toModel.unpack.isNaN = false
  cases hx : x.toModel.unpack with
  | notANumber =>
    rw [hx] at h
    cases h
  | _ => rfl

theorem isInf_of_not_isFinite {x : Float} (hfinite : x.isFinite = false)
    (hnumber : x.isNaN = false) : x.isInf = true := by
  have hfinite : x.toModel.unpack.isFinite = false := hfinite
  have hnumber : x.toModel.unpack.isNaN = false := hnumber
  show x.toModel.unpack.isInf = true
  cases hx : x.toModel.unpack with
  | infinity sign => rfl
  | notANumber =>
    rw [hx] at hnumber
    cases hnumber
  | _ =>
    rw [hx] at hfinite
    cases hfinite

/-- An infinite double that is below one finite double is below all of them. -/
theorem lt_of_isInf {x y z : Float} (hx : x.isInf = true) (hz : z.isFinite = true) (h : x < y) :
    x < z := by
  have hx : x.toModel.unpack.isInf = true := hx
  have hz : z.toModel.unpack.isFinite = true := hz
  rw [lt_iff] at h ⊢
  cases hunpack : x.toModel.unpack with
  | infinity sign =>
    rw [hunpack] at h
    cases sign with
    | negative =>
      cases hother : z.toModel.unpack with
      | zero _ => rfl
      | finite _ _ _ _ => rfl
      | _ =>
        rw [hother] at hz
        cases hz
    | positive =>
      cases hother : y.toModel.unpack with
      | infinity other =>
        rw [hother] at h
        cases other <;> cases h
      | _ =>
        rw [hother] at h
        cases h
  | _ =>
    rw [hunpack] at hx
    cases hx

end Binary64

namespace Time

/-- The seconds are a number, not negative, and not out of range. -/
structure IsLength (x : Float) : Prop where
  number : x.isNaN = false
  notNegative : ¬ x < 0.0
  inRange : x < secondsLimit

/-- Seconds are taken as a time exactly if they are a length of time. -/
theorem exists_ofSeconds_iff (x : Float) : (∃ t, ofSeconds x = .ok t) ↔ IsLength x := by
  unfold ofSeconds
  constructor
  · rintro ⟨t, ht⟩
    split at ht
    · cases ht
    next hneg =>
    split at ht
    · next hrange => exact ⟨Binary64.isNaN_of_lt hrange, hneg, hrange⟩
    · cases ht
  · rintro ⟨hnumber, hneg, hrange⟩
    have hfinite : x.isFinite = true := by
      cases hfinite : x.isFinite with
      | true => rfl
      | false =>
        -- What is below `2 ^ 64` and infinite would be below zero as well.
        have hinf := Binary64.isInf_of_not_isFinite hfinite hnumber
        exact absurd (Binary64.lt_of_isInf hinf (by decide) hrange) hneg
    obtain ⟨p, hp⟩ := Option.isSome_iff_exists.mp ((Binary64.isSome_parts? x).trans hfinite)
    rw [if_neg hneg, if_pos hrange, Binary64.magnitude?, hp]
    exact ⟨_, rfl⟩

end Time

end ActionPriority
