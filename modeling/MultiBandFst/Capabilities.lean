import Mathlib.Data.Nat.Size

/-!
# The aggregation limits the capability elements advertise

`GetHtCapabilities`, `GetVhtCapabilities` and `GetHeCapabilities` each code the largest of
the four per-AC maximum A-MPDU sizes into the element's Maximum A-MPDU Length field: rounded
up to one less than a power of two, then clamped into the field's range. HT and VHT also
code the largest per-AC maximum A-MSDU size into a length subfield. The rest of each element
is read from the PHY and from the HT, VHT and HE configuration objects, declared outside src.

The rounding forms `maxAmpduLength + 1` in 32 bits: for the largest size the attribute
checker admits, 2^32 - 1, the sum is 0, `log2` of it is minus infinity, and converting that
to `uint32_t` is undefined (`none` below). Every other size gets the least `2^k - 1` above
it (`maxAmpduLengthField_spec`).
-/

namespace MultiBandFst

/-- The per-AC aggregation attributes. `MakeUintegerChecker<uint16_t> (0, 11398)` bounds each
maximum A-MSDU size; the maximum A-MPDU sizes take any 32-bit value. -/
structure AggregationSizes where
  voMaxAmsduSize : UInt16
  viMaxAmsduSize : UInt16
  beMaxAmsduSize : UInt16
  bkMaxAmsduSize : UInt16
  voMaxAmpduSize : UInt32
  viMaxAmpduSize : UInt32
  beMaxAmpduSize : UInt32
  bkMaxAmpduSize : UInt32
  amsdu_le : voMaxAmsduSize.toNat ≤ 11398 ∧ viMaxAmsduSize.toNat ≤ 11398 ∧
    beMaxAmsduSize.toNat ≤ 11398 ∧ bkMaxAmsduSize.toNat ≤ 11398

namespace AggregationSizes

/-- The attributes' defaults: A-MSDU aggregation off, A-MPDUs of 65535 bytes for VI and BE. -/
def default : AggregationSizes := ⟨0, 0, 0, 0, 0, 65535, 65535, 0, by decide⟩

/-- `std::max ({m_voMaxAmsduSize, m_viMaxAmsduSize, m_beMaxAmsduSize, m_bkMaxAmsduSize})`. -/
def maxAmsduSize (c : AggregationSizes) : Nat :=
  max (max (max c.voMaxAmsduSize.toNat c.viMaxAmsduSize.toNat) c.beMaxAmsduSize.toNat)
    c.bkMaxAmsduSize.toNat

/-- `std::max ({m_voMaxAmpduSize, m_viMaxAmpduSize, m_beMaxAmpduSize, m_bkMaxAmpduSize})`. -/
def maxAmpduSize (c : AggregationSizes) : Nat :=
  max (max (max c.voMaxAmpduSize.toNat c.viMaxAmpduSize.toNat) c.beMaxAmpduSize.toNat)
    c.bkMaxAmpduSize.toNat

theorem maxAmsduSize_le (c : AggregationSizes) : c.maxAmsduSize ≤ 11398 := by
  have := c.amsdu_le
  unfold maxAmsduSize
  omega

theorem maxAmpduSize_lt (c : AggregationSizes) : c.maxAmpduSize < 4294967296 := by
  have := c.voMaxAmpduSize.val.isLt
  have := c.viMaxAmpduSize.val.isLt
  have := c.beMaxAmpduSize.val.isLt
  have := c.bkMaxAmpduSize.val.isLt
  unfold maxAmpduSize
  simp only [UInt32.toNat] at *
  omega

end AggregationSizes

open AggregationSizes

/-- HT: the Maximum A-MSDU Length subfield. -/
def htMaxAmsduLength (c : AggregationSizes) : Nat :=
  if c.maxAmsduSize ≤ 3839 then 3839 else 7935

/-- VHT: the Maximum MPDU Length subfield. -/
def vhtMaxMpduLength (c : AggregationSizes) : Nat :=
  if c.maxAmsduSize ≤ 3839 then 3895 else if c.maxAmsduSize ≤ 7935 then 7991 else 11454

/-- The A-MSDU length subfields: HT codes the least of 3839 and 7935 that holds the largest
A-MSDU size, or 7935 for a size above it; VHT codes the least of 3895, 7991 and 11454 that
holds it with the 56 bytes of an MPDU's header and FCS, which the attribute checker's bound
of 11398 always leaves room for. -/
theorem amsduLength_spec (c : AggregationSizes) :
    (min c.maxAmsduSize 7935 ≤ htMaxAmsduLength c ∧
      ∀ L ∈ [3839, 7935], min c.maxAmsduSize 7935 ≤ L → htMaxAmsduLength c ≤ L) ∧
    (c.maxAmsduSize + 56 ≤ vhtMaxMpduLength c ∧
      ∀ L ∈ [3895, 7991, 11454], c.maxAmsduSize + 56 ≤ L → vhtMaxMpduLength c ≤ L) := by
  have := c.maxAmsduSize_le
  unfold htMaxAmsduLength vhtMaxMpduLength
  refine ⟨⟨?_, fun L hL hm => ?_⟩, ⟨?_, fun L hL hm => ?_⟩⟩ <;>
    simp only [List.mem_cons, List.mem_singleton, List.not_mem_nil, or_false] at * <;>
    split_ifs <;> omega

/-- `std::ceil (std::log2 v)` for an integer `1 ≤ v ≤ 2^32`: `log2` of a power of two is
exact, and of any other such `v` lies more than `2^-32` away from an integer, far beyond a
double's rounding error there, so the result is `⌈log₂ v⌉`, the bit length of `v - 1`. -/
def ceilLog2 (v : Nat) : Nat := Nat.size (v - 1)

theorem le_two_pow_ceilLog2 (v : Nat) (hv : 1 ≤ v) : v ≤ 2 ^ ceilLog2 v := by
  have := Nat.lt_size_self (v - 1)
  unfold ceilLog2
  omega

theorem ceilLog2_le {v k : Nat} (hv : 1 ≤ v) (h : v ≤ 2 ^ k) : ceilLog2 v ≤ k :=
  Nat.size_le.mpr (by omega)

/-- `(1ul << static_cast<uint32_t> (std::ceil (std::log2 (maxAmpduLength + 1)))) - 1`, with
the sum formed in the 32-bit `maxAmpduLength` and the shift in a 64-bit `unsigned long`. -/
def roundedAmpduLength (maxAmpduLength : Nat) : Option Nat :=
  let v := (maxAmpduLength + 1) % 4294967296
  if v = 0 then none else some (2 ^ ceilLog2 v - 1)

/-- The Maximum A-MPDU Length field the three elements share: the rounded length clamped
into `[lo, hi]`. -/
def maxAmpduLengthField (lo hi : Nat) (c : AggregationSizes) : Option Nat :=
  (roundedAmpduLength c.maxAmpduSize).map fun l => min (max l lo) hi

/-- HT: from 2^13 - 1 to 2^16 - 1. -/
def htMaxAmpduLength (c : AggregationSizes) : Option Nat := maxAmpduLengthField 8191 65535 c

/-- VHT: from 2^13 - 1 to 2^20 - 1. -/
def vhtMaxAmpduLength (c : AggregationSizes) : Option Nat := maxAmpduLengthField 8191 1048575 c

/-- HE: from 2^20 - 1 to 2^23 - 1. -/
def heMaxAmpduLength (c : AggregationSizes) : Option Nat :=
  maxAmpduLengthField 1048575 8388607 c

/-- The rounding is undefined exactly at 2^32 - 1, and otherwise gives the least `2^k - 1`
at least the size. -/
theorem roundedAmpduLength_spec {x : Nat} (hx : x < 4294967296) :
    (roundedAmpduLength x = none ↔ x = 4294967295) ∧
    ∀ l, roundedAmpduLength x = some l →
      (∃ k, l = 2 ^ k - 1) ∧ x ≤ l ∧ ∀ j, x ≤ 2 ^ j - 1 → l ≤ 2 ^ j - 1 := by
  unfold roundedAmpduLength
  by_cases h : x = 4294967295
  · subst h
    exact ⟨iff_of_true rfl rfl, fun l hl => by simp at hl⟩
  · have hv : (x + 1) % 4294967296 = x + 1 := Nat.mod_eq_of_lt (by omega)
    simp only [hv, Nat.add_one_ne_zero, if_false, Option.some.injEq, h, iff_false,
      reduceCtorEq, not_false_eq_true, true_and]
    rintro l rfl
    have hup := le_two_pow_ceilLog2 (x + 1) (by omega)
    refine ⟨⟨_, rfl⟩, by omega, fun j hj => ?_⟩
    have hj1 : 1 ≤ 2 ^ j := Nat.one_le_two_pow
    have := Nat.pow_le_pow_right (by omega : 0 < 2)
      (ceilLog2_le (by omega) (by omega : x + 1 ≤ 2 ^ j))
    omega

/-- The Maximum A-MPDU Length field of each element, with its range from `2^a - 1` to
`2^b - 1`. It is undefined exactly when the largest A-MPDU size is 2^32 - 1. Otherwise it
is the least `2^k - 1` in the range that holds the largest size, or the top of the range for
a size above it. -/
theorem maxAmpduLengthField_spec (a b : Nat) (hab : a ≤ b) (c : AggregationSizes) :
    (maxAmpduLengthField (2 ^ a - 1) (2 ^ b - 1) c = none ↔ c.maxAmpduSize = 4294967295) ∧
    ∀ l, maxAmpduLengthField (2 ^ a - 1) (2 ^ b - 1) c = some l →
      (∃ k, l = 2 ^ k - 1) ∧ 2 ^ a - 1 ≤ l ∧ l ≤ 2 ^ b - 1 ∧
      min c.maxAmpduSize (2 ^ b - 1) ≤ l ∧
      ∀ j, 2 ^ a - 1 ≤ 2 ^ j - 1 → min c.maxAmpduSize (2 ^ b - 1) ≤ 2 ^ j - 1 →
        l ≤ 2 ^ j - 1 := by
  obtain ⟨hnone, hsome⟩ := roundedAmpduLength_spec c.maxAmpduSize_lt
  have hpow : 2 ^ a ≤ 2 ^ b := Nat.pow_le_pow_right (by omega) hab
  unfold maxAmpduLengthField
  refine ⟨by rw [Option.map_eq_none', hnone], fun l hl => ?_⟩
  obtain ⟨r, hr, rfl⟩ := Option.map_eq_some'.mp hl
  obtain ⟨⟨k, rfl⟩, hx, hleast⟩ := hsome r hr
  refine ⟨?_, by omega, by omega, by omega, fun j hja hj => ?_⟩
  · by_cases hlo : 2 ^ k - 1 ≤ 2 ^ a - 1
    · exact ⟨a, by omega⟩
    · by_cases hhi : 2 ^ k - 1 ≤ 2 ^ b - 1
      · exact ⟨k, by omega⟩
      · exact ⟨b, by omega⟩
  · by_cases hs : c.maxAmpduSize ≤ 2 ^ b - 1
    · have := hleast j (by omega)
      omega
    · omega

theorem maxAmpduLengthField_spec_for_ht :
    13 ≤ 16 ∧
    (maxAmpduLengthField (2 ^ 13 - 1) (2 ^ 16 - 1) default = none ↔
      default.maxAmpduSize = 4294967295) ∧
    ∀ l, maxAmpduLengthField (2 ^ 13 - 1) (2 ^ 16 - 1) default = some l →
      (∃ k, l = 2 ^ k - 1) ∧ 2 ^ 13 - 1 ≤ l ∧ l ≤ 2 ^ 16 - 1 ∧
      min default.maxAmpduSize (2 ^ 16 - 1) ≤ l ∧
      ∀ j, 2 ^ 13 - 1 ≤ 2 ^ j - 1 → min default.maxAmpduSize (2 ^ 16 - 1) ≤ 2 ^ j - 1 →
        l ≤ 2 ^ j - 1 :=
  ⟨by decide, maxAmpduLengthField_spec 13 16 (by decide) default⟩

end MultiBandFst
