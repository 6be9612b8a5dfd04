import MultiBandFst.Capabilities
import Mathlib.Data.List.Basic

/-!
# The HT, VHT and HE capability elements

`GetHtCapabilities`, `GetVhtCapabilities` and `GetHeCapabilities` each fill a fresh element
when the device has the matching configuration object, and return it empty otherwise.
Besides the aggregation limits (`Capabilities`), they scan the PHY's modes: HT sets one RX
MCS bit per HT mode and keeps the highest HT data rate; VHT keeps the highest VHT MCS and
advertises it for every spatial stream, and keeps the highest long-guard-interval rate of
the VHT modes the channel width allows; HE keeps the highest HE MCS and codes the channel
widths and guard intervals as bits.

The PHY, the modes and the configuration objects are declared outside src: the model takes
what the builders read of them as data, and `PhyView` carries the bound of the `uint8_t`
mode count, so the index loops visit each mode once, in order. Three places fail: an HT
mode with an MCS value of 32 or more trips `NS_ASSERT (nss < 5)`; a rate of 65536 Mbit/s or
more overflows `static_cast<uint16_t>`; and the VHT stream loops, whose `uint8_t` counter
wraps, never end for a PHY with 255 spatial streams (`mcsMapLoop_never_ends`). The VHT
builder also reads the HT configuration, which may be absent.
-/

namespace MultiBandFst

/-- The modulation classes the builders tell apart; every other one is `other`. -/
inductive WifiModulationClass
  | ht
  | vht
  | he
  | other (code : Nat)
  deriving DecidableEq, Repr

/-- What the builders read of a `WifiMode`: its class, its MCS value,
`GetDataRate (channelWidth, guardInterval, nss)` and `GetDataRate (channelWidth)` in bit/s,
and `IsAllowed (channelWidth, nss)`. -/
structure WifiMode where
  modulationClass : WifiModulationClass
  mcsValue : UInt8
  dataRate : UInt16 → UInt16 → UInt8 → Nat
  lgiDataRate : UInt16 → Nat
  isAllowed : UInt16 → UInt8 → Bool

/-- What the builders read of the `WifiPhy`: the channel width in MHz, `Is2_4Ghz` and
`Is5Ghz` of its frequency, its modes (`GetMcs (i)` for `i < GetNMcs ()`), and its spatial
streams. `GetNMcs ()` is a `uint8_t` count, so the PHY holds fewer than 256 modes and the
`uint8_t` index loops visit each of them once, in order. -/
structure PhyView where
  channelWidth : UInt16
  is2_4Ghz : Bool
  is5Ghz : Bool
  mcs : List WifiMode
  maxSupportedTxSpatialStreams : UInt8
  maxSupportedRxSpatialStreams : UInt8
  nMcs_lt : mcs.length < 256

structure HtConfiguration where
  greenfieldSupported : Bool
  shortGuardIntervalSupported : Bool

structure HeConfiguration where
  /-- `GetGuardInterval ()` in nanoseconds. -/
  guardInterval : Nat

/-- The configuration objects the device hands the MAC (`GetHtSupported ()` is "the HT
configuration is set"; `SetHtSupported` and its kin do nothing), and the aggregation
attributes. -/
structure MacConfiguration where
  htConfiguration : Option HtConfiguration
  vhtConfiguration : Bool
  heConfiguration : Option HeConfiguration
  sizes : AggregationSizes

/-- The fields `GetHtCapabilities` sets; `rxMcsBitmask` lists the `SetRxMcsBitmask` calls. -/
structure HtCapabilities where
  htSupported : Bool
  ldpc : Bool
  supportedChannelWidth : Bool
  shortGuardInterval20 : Bool
  shortGuardInterval40 : Bool
  greenfield : Bool
  maxAmsduLength : Nat
  maxAmpduLength : Nat
  lSigProtectionSupport : Bool
  rxMcsBitmask : List UInt8
  rxHighestSupportedDataRate : Nat
  txMcsSetDefined : Bool
  txMaxNSpatialStreams : UInt8
  txRxMcsSetUnequal : Bool
  txUnequalModulation : Bool

/-- The fields `GetVhtCapabilities` sets; the MCS maps list the `SetRxMcsMap (mcs, nss)` and
`SetTxMcsMap (mcs, nss)` calls. -/
structure VhtCapabilities where
  vhtSupported : Bool
  supportedChannelWidthSet : Nat
  maxMpduLength : Nat
  maxAmpduLength : Nat
  rxLdpc : Bool
  shortGuardIntervalFor80Mhz : Bool
  shortGuardIntervalFor160Mhz : Bool
  rxMcsMap : List (Nat × Nat)
  txMcsMap : List (Nat × Nat)
  rxHighestSupportedLgiDataRate : Nat
  txHighestSupportedLgiDataRate : Nat
  rxStbc : Nat
  txStbc : Nat

structure HeCapabilities where
  heSupported : Bool
  channelWidthSet : UInt8
  heLtfAndGiForHePpdus : UInt8
  maxAmpduLength : Nat
  highestMcsSupported : Nat
  highestNssSupported : UInt8

/-- The elements `Create<...> ()` returns: every field zero. -/
def HtCapabilities.empty : HtCapabilities :=
  ⟨false, false, false, false, false, false, 0, 0, false, [], 0, false, 0, false, false⟩

def VhtCapabilities.empty : VhtCapabilities :=
  ⟨false, 0, 0, 0, false, false, false, [], [], 0, 0, 0, 0⟩

def HeCapabilities.empty : HeCapabilities := ⟨false, 0, 0, 0, 0, 0⟩

/-! ## The scans over the PHY's modes -/

/-- The running maximum the VHT and HE scans keep: from `acc`, each selected mode whose
value is above it replaces it (`if (... && value > max) max = value`). -/
def maxOver (sel : WifiMode → Bool) (val : WifiMode → Nat) : List WifiMode → Nat → Nat
  | [], acc => acc
  | m :: rest, acc => maxOver sel val rest (if sel m ∧ val m > acc then val m else acc)

section MaxOver

variable (sel : WifiMode → Bool) (val : WifiMode → Nat)

/-- The scan never goes below its start value. -/
theorem le_maxOver_init : ∀ (l : List WifiMode) (acc : Nat), acc ≤ maxOver sel val l acc
  | [], _ => le_rfl
  | m :: rest, acc => le_trans (by split_ifs <;> omega) (le_maxOver_init rest _)

/-- The scan ends at or above every selected value. -/
theorem le_maxOver : ∀ {l : List WifiMode} (acc : Nat) {m : WifiMode}, m ∈ l → sel m = true →
    val m ≤ maxOver sel val l acc
  | m' :: rest, acc, m, hm, hs => by
    rw [maxOver]
    rcases List.mem_cons.mp hm with rfl | hm
    · refine le_trans ?_ (le_maxOver_init sel val rest _)
      split_ifs with h
      · exact le_rfl
      · simpa [hs] using h
    · exact le_maxOver _ hm hs

/-- The scan ends at its start value or at one of the selected values. -/
theorem maxOver_eq : ∀ (l : List WifiMode) (acc : Nat),
    maxOver sel val l acc = acc ∨ ∃ m ∈ l, sel m = true ∧ maxOver sel val l acc = val m
  | [], _ => .inl rfl
  | m :: rest, acc => by
    simp only [maxOver]
    rcases maxOver_eq rest (if sel m ∧ val m > acc then val m else acc) with
      h | ⟨m', hm', hs, h⟩
    · split_ifs at h ⊢ with hc
      · exact .inr ⟨m, List.mem_cons_self _ _, hc.1, h⟩
      · exact .inl h
    · exact .inr ⟨m', List.mem_cons_of_mem _ hm', hs, h⟩

/-- `x` is the highest value of the selected modes of `l`, or 0 if none is selected. -/
def IsHighest (l : List WifiMode) (x : Nat) : Prop :=
  (∀ m ∈ l, sel m = true → val m ≤ x) ∧ (x = 0 ∨ ∃ m ∈ l, sel m = true ∧ x = val m)

instance (l : List WifiMode) (x : Nat) : Decidable (IsHighest sel val l x) := by
  unfold IsHighest; infer_instance

theorem maxOver_isHighest (l : List WifiMode) : IsHighest sel val l (maxOver sel val l 0) :=
  ⟨fun _ hm hs => le_maxOver sel val 0 hm hs, maxOver_eq sel val l 0⟩

variable {sel val}

theorem IsHighest.div {l : List WifiMode} {x : Nat} (h : IsHighest sel val l x) (d : Nat) :
    IsHighest sel (fun m => val m / d) l (x / d) :=
  ⟨fun m hm hs => Nat.div_le_div_right (h.1 m hm hs),
    h.2.imp (fun h0 => by rw [h0, Nat.zero_div]) fun ⟨m, hm, hs, hx⟩ =>
      ⟨m, hm, hs, by rw [hx]⟩⟩

/-- A positive bound is reached by the highest value exactly when some selected mode reaches
it. -/
theorem IsHighest.le_iff {l : List WifiMode} {x b : Nat} (h : IsHighest sel val l x)
    (hb : 0 < b) :
    b ≤ x ↔ ∃ m ∈ l, sel m = true ∧ b ≤ val m := by
  constructor
  · intro hx
    rcases h.2 with h0 | ⟨m, hm, hs, rfl⟩
    · omega
    · exact ⟨m, hm, hs, hx⟩
  · rintro ⟨m, hm, hs, hv⟩
    exact le_trans hv (h.1 m hm hs)

end MaxOver

/-- The data rate the HT scan reads for a mode: at the channel width, a 400 ns guard interval
with short guard intervals and 800 ns otherwise, and `mcs / 8 + 1` spatial streams. -/
def htDataRate (width : UInt16) (sgi : Bool) (m : WifiMode) : Nat :=
  m.dataRate width (if sgi then 400 else 800) (m.mcsValue / 8 + 1)

/-- The HT loop of `GetHtCapabilities`: each HT mode sets its RX MCS bit, asserts that its
stream count `mcs / 8 + 1` is below 5, and raises the highest rate. -/
def htMcsScan (width : UInt16) (sgi : Bool) :
    List WifiMode → List UInt8 → Nat → Option (List UInt8 × Nat)
  | [], bitmask, maxSupportedRate => some (bitmask, maxSupportedRate)
  | m :: rest, bitmask, maxSupportedRate =>
    if m.modulationClass ≠ .ht then htMcsScan width sgi rest bitmask maxSupportedRate
    else if 0 < m.mcsValue / 8 + 1 ∧ m.mcsValue / 8 + 1 < 5 then
      let dataRate := htDataRate width sgi m
      htMcsScan width sgi rest (bitmask ++ [m.mcsValue])
        (if dataRate > maxSupportedRate then dataRate else maxSupportedRate)
    else none

/-- The assertion `nss > 0 && nss < 5` holds exactly for the MCS values below 32. -/
theorem htStreams_ok_iff (v : UInt8) : (0 < v / 8 + 1 ∧ v / 8 + 1 < 5) ↔ v.toNat < 32 := by
  have h : v.toNat < 256 := v.val.isLt
  show (0 < (v.toNat / 8 + 1) % 256 ∧ (v.toNat / 8 + 1) % 256 < 5) ↔ _
  omega

/-- The HT scan aborts exactly when some HT mode has an MCS value of 32 or more; otherwise it
appends the HT modes' MCS values in order and keeps the highest of their rates. -/
theorem htMcsScan_eq (width : UInt16) (sgi : Bool) :
    ∀ (l : List WifiMode) (b : List UInt8) (r : Nat),
    htMcsScan width sgi l b r =
      if ∃ m ∈ l, m.modulationClass = .ht ∧ 32 ≤ m.mcsValue.toNat then none
      else some (b ++ (l.filter (·.modulationClass = .ht)).map (·.mcsValue),
        maxOver (·.modulationClass = .ht) (htDataRate width sgi) l r)
  | [], b, r => by simp [htMcsScan, maxOver]
  | m :: rest, b, r => by
    by_cases hc : m.modulationClass = .ht
    · by_cases hv : m.mcsValue.toNat < 32
      · simp [htMcsScan, maxOver, hc, (htStreams_ok_iff _).mpr hv, htMcsScan_eq width sgi rest,
          hv.not_le]
      · simp [htMcsScan, hc, mt (htStreams_ok_iff _).mp hv, not_lt.mp hv]
    · simp [htMcsScan, maxOver, hc, htMcsScan_eq width sgi rest]

/-- `for (uint8_t nss = 1; nss <= n; nss++) SetRxMcsMap (maxMcs, nss)`, one iteration per
unit of fuel. The counter has 256 values, so a loop that has not ended after 256 iterations
has come back to a counter it had and never ends: that is `none`. -/
def mcsMapLoop (maxMcs : Nat) (n : UInt8) : Nat → UInt8 → Option (List (Nat × Nat))
  | 0, _ => none
  | fuel + 1, nss =>
    if nss ≤ n then ((maxMcs, nss.toNat) :: ·) <$> mcsMapLoop maxMcs n fuel (nss + 1)
    else some []

/-- With 255 streams the condition `nss <= 255` holds for every counter value. -/
theorem mcsMapLoop_never_ends (maxMcs : Nat) :
    ∀ (fuel : Nat) (nss : UInt8), mcsMapLoop maxMcs 255 fuel nss = none
  | 0, _ => rfl
  | fuel + 1, nss => by
    have h : nss ≤ 255 := show nss.toNat ≤ 255 from Nat.lt_succ_iff.mp nss.val.isLt
    simp [mcsMapLoop, h, mcsMapLoop_never_ends maxMcs fuel]

/-- Below 255 streams, a counter `k` steps short of the end records the `k` remaining
streams within `k + 1` iterations. -/
theorem mcsMapLoop_eq (maxMcs : Nat) {n : UInt8} (hn : n.toNat < 255) :
    ∀ (k fuel : Nat) (nss : UInt8), nss.toNat + k = n.toNat + 1 → k < fuel →
      mcsMapLoop maxMcs n fuel nss = some ((List.range k).map fun j => (maxMcs, nss.toNat + j))
  | 0, fuel + 1, nss, h, _ => by
    have : ¬nss ≤ n := show ¬nss.toNat ≤ n.toNat by omega
    simp [mcsMapLoop, this]
  | k + 1, fuel + 1, nss, h, hk => by
    have hle : nss ≤ n := show nss.toNat ≤ n.toNat by omega
    have hs : (nss + 1).toNat = nss.toNat + 1 := by
      show (nss.toNat + 1) % 256 = _
      omega
    rw [mcsMapLoop, if_pos hle, mcsMapLoop_eq maxMcs hn k fuel (nss + 1) (by omega) (by omega)]
    simp [List.range_succ_eq_map, hs, Nat.add_assoc, Nat.add_comm 1]

/-- From `nss = 1` the loop records every stream from 1 to `n` once, in order, unless `n` is
255. -/
theorem mcsMapLoop_streams (maxMcs : Nat) (n : UInt8) :
    mcsMapLoop maxMcs n 256 1 =
      if n = 255 then none else some ((List.range n.toNat).map fun j => (maxMcs, j + 1)) := by
  split_ifs with h
  · rw [h, mcsMapLoop_never_ends]
  · have hn : n.toNat < 255 := by
      have : n.toNat < 256 := n.val.isLt
      have : n.toNat ≠ 255 := fun h' => h (UInt8.eq_of_val_eq (Fin.ext h'))
      omega
    have h1 : (1 : UInt8).toNat = 1 := rfl
    rw [mcsMapLoop_eq maxMcs hn n.toNat 256 1 (by omega) (by omega)]
    simp [Nat.add_comm 1, h1]

example : mcsMapLoop 9 2 256 1 = some [(9, 1), (9, 2)] := by decide

/-- `static_cast<uint16_t> (rate / 1e6)`. Below 65536 Mbit/s the double quotient truncates to
the integer quotient (it is exact enough not to round up to the next integer); from there
the conversion is undefined. -/
def toMbps (rate : Nat) : Option Nat :=
  if rate < 65536000000 then some (rate / 1000000) else none

theorem toMbps_eq_none {r : Nat} : toMbps r = none ↔ 65536000000 ≤ r := by
  unfold toMbps; split_ifs <;> simp <;> omega

theorem toMbps_eq_some {r y : Nat} : toMbps r = some y ↔ r < 65536000000 ∧ y = r / 1000000 := by
  unfold toMbps; split_ifs <;> simp [*, eq_comm]

/-- The A-MPDU field of each element is undefined exactly at the largest size. -/
theorem maxAmpduLengthField_eq_none (lo hi : Nat) (c : AggregationSizes) :
    maxAmpduLengthField lo hi c = none ↔ c.maxAmpduSize = 4294967295 := by
  rw [maxAmpduLengthField, Option.map_eq_none', (roundedAmpduLength_spec c.maxAmpduSize_lt).1]

/-- `GetHtCapabilities`. -/
def getHtCapabilities (c : MacConfiguration) (phy : PhyView) : Option HtCapabilities :=
  match c.htConfiguration with
  | none => some .empty
  | some ht => do
    let maxAmpduLength ← htMaxAmpduLength c.sizes
    let (bitmask, maxSupportedRate) ←
      htMcsScan phy.channelWidth ht.shortGuardIntervalSupported phy.mcs [] 0
    let rxHighest ← toMbps maxSupportedRate
    pure ⟨true, false, phy.channelWidth ≥ 40, ht.shortGuardIntervalSupported,
      phy.channelWidth ≥ 40 && ht.shortGuardIntervalSupported, ht.greenfieldSupported,
      htMaxAmsduLength c.sizes, maxAmpduLength, !ht.greenfieldSupported, bitmask, rxHighest,
      phy.mcs.length > 0, phy.maxSupportedTxSpatialStreams, false, false⟩

/-- The highest VHT MCS value among the PHY's modes, 0 if none. -/
def vhtMaxMcs (phy : PhyView) : Nat :=
  maxOver (·.modulationClass = .vht) (·.mcsValue.toNat) phy.mcs 0

/-- The highest long-guard-interval rate among the VHT modes allowed at the channel width
with one stream, 0 if none. -/
def vhtMaxLgiRate (phy : PhyView) : Nat :=
  maxOver (fun m => m.modulationClass = .vht ∧ m.isAllowed phy.channelWidth 1)
    (·.lgiDataRate phy.channelWidth) phy.mcs 0

/-- `GetVhtCapabilities`; the short guard interval flag is read from the HT configuration. -/
def getVhtCapabilities (c : MacConfiguration) (phy : PhyView) : Option VhtCapabilities :=
  if ¬c.vhtConfiguration then some .empty else do
    let ht ← c.htConfiguration
    let maxAmpduLength ← vhtMaxAmpduLength c.sizes
    let rxMcsMap ← mcsMapLoop (vhtMaxMcs phy) phy.maxSupportedRxSpatialStreams 256 1
    let txMcsMap ← mcsMapLoop (vhtMaxMcs phy) phy.maxSupportedTxSpatialStreams 256 1
    let lgi ← toMbps (vhtMaxLgiRate phy)
    pure ⟨true, if phy.channelWidth = 160 then 1 else 0, vhtMaxMpduLength c.sizes,
      maxAmpduLength, false, phy.channelWidth = 80 && ht.shortGuardIntervalSupported,
      phy.channelWidth = 160 && ht.shortGuardIntervalSupported, rxMcsMap, txMcsMap, lgi, lgi,
      0, 0⟩

/-- The highest HE MCS value among the PHY's modes, 0 if none. -/
def heMaxMcs (phy : PhyView) : Nat :=
  maxOver (·.modulationClass = .he) (·.mcsValue.toNat) phy.mcs 0

/-- The channel width set of the HE element: 40 MHz in 2.4 GHz, 80 and 160 MHz in 5 GHz. -/
def heChannelWidthSet (phy : PhyView) : UInt8 :=
  let c : UInt8 := 0
  let c := if phy.channelWidth ≥ 40 ∧ phy.is2_4Ghz then c ||| 1 else c
  let c := if phy.channelWidth ≥ 80 ∧ phy.is5Ghz then c ||| 2 else c
  if phy.channelWidth ≥ 160 ∧ phy.is5Ghz then c ||| 4 else c

/-- The channel width set codes each supported width as its own bit. -/
theorem heChannelWidthSet_toNat (phy : PhyView) :
    (heChannelWidthSet phy).toNat =
      (if phy.channelWidth ≥ 40 ∧ phy.is2_4Ghz then 1 else 0) +
      (if phy.channelWidth ≥ 80 ∧ phy.is5Ghz then 2 else 0) +
      (if phy.channelWidth ≥ 160 ∧ phy.is5Ghz then 4 else 0) := by
  unfold heChannelWidthSet
  split_ifs <;> rfl

/-- The HE-LTF and guard interval bits: 1600 ns (and 3200 ns) supported when the guard
interval is at most 1600 ns, 800 ns when it is 800 ns. -/
def heGiBits (he : HeConfiguration) : UInt8 :=
  let gi : UInt8 := 0
  let gi := if he.guardInterval ≤ 1600 then gi ||| 1 else gi
  if he.guardInterval = 800 then gi ||| 2 else gi

/-- The guard interval bits code each supported guard interval as its own bit. -/
theorem heGiBits_toNat (he : HeConfiguration) :
    (heGiBits he).toNat =
      (if he.guardInterval ≤ 1600 then 1 else 0) + (if he.guardInterval = 800 then 2 else 0) := by
  unfold heGiBits
  split_ifs <;> rfl

/-- `GetHeCapabilities`. -/
def getHeCapabilities (c : MacConfiguration) (phy : PhyView) : Option HeCapabilities :=
  match c.heConfiguration with
  | none => some .empty
  | some he => do
    let maxAmpduLength ← heMaxAmpduLength c.sizes
    pure ⟨true, heChannelWidthSet phy, heGiBits he, maxAmpduLength, heMaxMcs phy,
      phy.maxSupportedTxSpatialStreams⟩

/-! ## What the elements advertise -/

/-- A station configured for HT, VHT and HE, with short guard intervals, an 800 ns HE guard
interval and the default aggregation sizes. -/
def heStationConfiguration : MacConfiguration :=
  ⟨some ⟨false, true⟩, true, some ⟨800⟩, AggregationSizes.default⟩

/-- An 80 MHz PHY in 5 GHz with two spatial streams and one mode of each class: HT MCS 15,
VHT MCS 9 and HE MCS 11. -/
def heStationPhy : PhyView :=
  ⟨80, false, true,
    [⟨.ht, 15, fun _ _ _ => 300000000, fun _ => 270000000, fun _ _ => true⟩,
      ⟨.vht, 9, fun _ _ _ => 866700000, fun _ => 780000000, fun _ _ => true⟩,
      ⟨.he, 11, fun _ _ _ => 1201000000, fun _ => 1080600000, fun _ _ => true⟩],
    2, 2, by decide⟩

/-- With an HT configuration, `GetHtCapabilities` aborts exactly on an undefined A-MPDU
rounding, on an HT mode whose stream count trips the assertion, or on an HT rate too large
for 16 bits in Mbit/s. Otherwise the element has one RX MCS bit per HT mode in the PHY's
order, the highest HT rate in Mbit/s, and a 40 MHz short guard interval only with 40 MHz
support and the 20 MHz one. -/
theorem htCapabilities_spec (c : MacConfiguration) {ht : HtConfiguration}
    (hc : c.htConfiguration = some ht) (phy : PhyView) :
    (getHtCapabilities c phy = none ↔ c.sizes.maxAmpduSize = 4294967295 ∨
      (∃ m ∈ phy.mcs, m.modulationClass = .ht ∧ 32 ≤ m.mcsValue.toNat) ∨
      ∃ m ∈ phy.mcs, m.modulationClass = .ht ∧
        65536000000 ≤ htDataRate phy.channelWidth ht.shortGuardIntervalSupported m) ∧
    ∀ e, getHtCapabilities c phy = some e →
      htMaxAmpduLength c.sizes = some e.maxAmpduLength ∧
      e.rxMcsBitmask = (phy.mcs.filter (·.modulationClass = .ht)).map (·.mcsValue) ∧
      IsHighest (·.modulationClass = .ht)
        (fun m => htDataRate phy.channelWidth ht.shortGuardIntervalSupported m / 1000000)
        phy.mcs e.rxHighestSupportedDataRate ∧
      (e.shortGuardInterval40 = true →
        e.supportedChannelWidth = true ∧ e.shortGuardInterval20 = true) := by
  have hmax := maxOver_isHighest (·.modulationClass = .ht)
    (htDataRate phy.channelWidth ht.shortGuardIntervalSupported) phy.mcs
  have hrate := (hmax.le_iff (b := 65536000000) (by omega)).symm
  simp only [decide_eq_true_eq] at hrate
  simp only [getHtCapabilities, hc, htMcsScan_eq, bind, Option.bind_eq_bind]
  have hU := maxAmpduLengthField_eq_none 8191 65535 c.sizes
  rcases hA : htMaxAmpduLength c.sizes with _ | a
  · exact ⟨iff_of_true rfl (.inl (hU.mp hA)), fun _ => nofun⟩
  have hA' : c.sizes.maxAmpduSize ≠ 4294967295 :=
    fun h => Option.some_ne_none a (hA.symm.trans (hU.mpr h))
  by_cases hbad : ∃ m ∈ phy.mcs, m.modulationClass = .ht ∧ 32 ≤ m.mcsValue.toNat
  · rw [if_pos hbad]
    exact ⟨iff_of_true rfl (.inr (.inl hbad)), fun _ => nofun⟩
  simp only [hbad, hA', if_false, false_or, Option.some_bind, List.nil_append]
  rw [hrate]
  rcases hR : toMbps (maxOver (·.modulationClass = .ht)
    (htDataRate phy.channelWidth ht.shortGuardIntervalSupported) phy.mcs 0) with _ | y
  · exact ⟨iff_of_true rfl (toMbps_eq_none.mp hR), fun _ => nofun⟩
  obtain ⟨hlt, rfl⟩ := toMbps_eq_some.mp hR
  refine ⟨iff_of_false nofun (not_le.mpr hlt), ?_⟩
  rintro e ⟨⟩
  refine ⟨rfl, rfl, hmax.div 1000000, ?_⟩
  simp

theorem htCapabilities_spec_on_heStation :
    heStationConfiguration.htConfiguration = some ⟨false, true⟩ ∧
    (getHtCapabilities heStationConfiguration heStationPhy = none ↔
      heStationConfiguration.sizes.maxAmpduSize = 4294967295 ∨
      (∃ m ∈ heStationPhy.mcs, m.modulationClass = .ht ∧ 32 ≤ m.mcsValue.toNat) ∨
      ∃ m ∈ heStationPhy.mcs, m.modulationClass = .ht ∧
        65536000000 ≤ htDataRate heStationPhy.channelWidth true m) ∧
    ∀ e, getHtCapabilities heStationConfiguration heStationPhy = some e →
      htMaxAmpduLength heStationConfiguration.sizes = some e.maxAmpduLength ∧
      e.rxMcsBitmask = (heStationPhy.mcs.filter (·.modulationClass = .ht)).map (·.mcsValue) ∧
      IsHighest (·.modulationClass = .ht)
        (fun m => htDataRate heStationPhy.channelWidth true m / 1000000)
        heStationPhy.mcs e.rxHighestSupportedDataRate ∧
      (e.shortGuardInterval40 = true →
        e.supportedChannelWidth = true ∧ e.shortGuardInterval20 = true) :=
  ⟨rfl, @htCapabilities_spec heStationConfiguration ⟨false, true⟩ rfl heStationPhy⟩

/-- With VHT configured, `GetVhtCapabilities` aborts exactly when the HT configuration is
missing, on an undefined A-MPDU rounding, when a stream loop cannot end (255 streams), or on
a long guard interval rate too large for 16 bits in Mbit/s. Otherwise both MCS maps give
every stream from 1 to the PHY's count the highest VHT MCS, both LGI rate fields hold the
highest LGI rate of the VHT modes allowed at the width, and the two short guard interval
flags are never both set. -/
theorem vhtCapabilities_spec (c : MacConfiguration) (hc : c.vhtConfiguration = true)
    (phy : PhyView) :
    (getVhtCapabilities c phy = none ↔ c.htConfiguration = none ∨
      c.sizes.maxAmpduSize = 4294967295 ∨ phy.maxSupportedRxSpatialStreams = 255 ∨
      phy.maxSupportedTxSpatialStreams = 255 ∨
      ∃ m ∈ phy.mcs, m.modulationClass = .vht ∧ m.isAllowed phy.channelWidth 1 = true ∧
        65536000000 ≤ m.lgiDataRate phy.channelWidth) ∧
    ∀ e, getVhtCapabilities c phy = some e →
      vhtMaxAmpduLength c.sizes = some e.maxAmpduLength ∧
      (∃ maxMcs, IsHighest (·.modulationClass = .vht) (·.mcsValue.toNat) phy.mcs maxMcs ∧
        e.rxMcsMap = (List.range phy.maxSupportedRxSpatialStreams.toNat).map
          (fun nss => (maxMcs, nss + 1)) ∧
        e.txMcsMap = (List.range phy.maxSupportedTxSpatialStreams.toNat).map
          (fun nss => (maxMcs, nss + 1))) ∧
      IsHighest (fun m => m.modulationClass = .vht ∧ m.isAllowed phy.channelWidth 1)
        (fun m => m.lgiDataRate phy.channelWidth / 1000000) phy.mcs
        e.rxHighestSupportedLgiDataRate ∧
      e.txHighestSupportedLgiDataRate = e.rxHighestSupportedLgiDataRate ∧
      ¬(e.shortGuardIntervalFor80Mhz = true ∧ e.shortGuardIntervalFor160Mhz = true) := by
  have hlgi := maxOver_isHighest
    (fun m => m.modulationClass = .vht ∧ m.isAllowed phy.channelWidth 1)
    (·.lgiDataRate phy.channelWidth) phy.mcs
  have hrate := (hlgi.le_iff (b := 65536000000) (by omega)).symm
  simp only [decide_eq_true_eq, and_assoc] at hrate
  simp only [getVhtCapabilities, hc, not_true_eq_false, if_false, bind, Option.bind_eq_bind,
    mcsMapLoop_streams]
  rcases hh : c.htConfiguration with _ | ht
  · exact ⟨iff_of_true rfl (.inl rfl), fun _ => nofun⟩
  have hU := maxAmpduLengthField_eq_none 8191 1048575 c.sizes
  rcases hA : vhtMaxAmpduLength c.sizes with _ | a
  · exact ⟨iff_of_true rfl (.inr (.inl (hU.mp hA))), fun _ => nofun⟩
  have hA' : c.sizes.maxAmpduSize ≠ 4294967295 :=
    fun h => Option.some_ne_none a (hA.symm.trans (hU.mpr h))
  by_cases hrx : phy.maxSupportedRxSpatialStreams = 255
  · rw [if_pos hrx]
    exact ⟨iff_of_true rfl (.inr (.inr (.inl hrx))), fun _ => nofun⟩
  by_cases htx : phy.maxSupportedTxSpatialStreams = 255
  · rw [if_neg hrx, if_pos htx]
    exact ⟨iff_of_true rfl (.inr (.inr (.inr (.inl htx)))), fun _ => nofun⟩
  simp only [hrx, htx, hA', if_false, false_or, Option.some_bind, reduceCtorEq, vhtMaxLgiRate]
  rw [hrate]
  rcases hR : toMbps (maxOver
    (fun m => m.modulationClass = .vht ∧ m.isAllowed phy.channelWidth 1)
    (·.lgiDataRate phy.channelWidth) phy.mcs 0) with _ | y
  · exact ⟨iff_of_true rfl (toMbps_eq_none.mp hR), fun _ => nofun⟩
  obtain ⟨hlt, rfl⟩ := toMbps_eq_some.mp hR
  refine ⟨iff_of_false nofun (not_le.mpr hlt), ?_⟩
  rintro e ⟨⟩
  refine ⟨rfl, ⟨_, maxOver_isHighest _ _ phy.mcs, rfl, rfl⟩, hlgi.div 1000000, rfl, ?_⟩
  simp only [Bool.and_eq_true, decide_eq_true_eq]
  rintro ⟨⟨h80, -⟩, ⟨h160, -⟩⟩
  exact absurd (h80.symm.trans h160) (by decide)

theorem vhtCapabilities_spec_on_heStation :
    heStationConfiguration.vhtConfiguration = true ∧
    (getVhtCapabilities heStationConfiguration heStationPhy = none ↔
      heStationConfiguration.htConfiguration = none ∨
      heStationConfiguration.sizes.maxAmpduSize = 4294967295 ∨
      heStationPhy.maxSupportedRxSpatialStreams = 255 ∨
      heStationPhy.maxSupportedTxSpatialStreams = 255 ∨
      ∃ m ∈ heStationPhy.mcs, m.modulationClass = .vht ∧
        m.isAllowed heStationPhy.channelWidth 1 = true ∧
        65536000000 ≤ m.lgiDataRate heStationPhy.channelWidth) ∧
    ∀ e, getVhtCapabilities heStationConfiguration heStationPhy = some e →
      vhtMaxAmpduLength heStationConfiguration.sizes = some e.maxAmpduLength ∧
      (∃ maxMcs, IsHighest (·.modulationClass = .vht) (·.mcsValue.toNat) heStationPhy.mcs
          maxMcs ∧
        e.rxMcsMap = (List.range heStationPhy.maxSupportedRxSpatialStreams.toNat).map
          (fun nss => (maxMcs, nss + 1)) ∧
        e.txMcsMap = (List.range heStationPhy.maxSupportedTxSpatialStreams.toNat).map
          (fun nss => (maxMcs, nss + 1))) ∧
      IsHighest
        (fun m => m.modulationClass = .vht ∧ m.isAllowed heStationPhy.channelWidth 1)
        (fun m => m.lgiDataRate heStationPhy.channelWidth / 1000000) heStationPhy.mcs
        e.rxHighestSupportedLgiDataRate ∧
      e.txHighestSupportedLgiDataRate = e.rxHighestSupportedLgiDataRate ∧
      ¬(e.shortGuardIntervalFor80Mhz = true ∧ e.shortGuardIntervalFor160Mhz = true) :=
  ⟨rfl, vhtCapabilities_spec heStationConfiguration rfl heStationPhy⟩

/-- With an HE configuration, `GetHeCapabilities` aborts exactly on an undefined A-MPDU
rounding. Otherwise the element holds the highest HE MCS, and its channel width set and
guard interval field code each supported width and guard interval as its own bit. -/
theorem heCapabilities_spec (c : MacConfiguration) {he : HeConfiguration}
    (hc : c.heConfiguration = some he) (phy : PhyView) :
    (getHeCapabilities c phy = none ↔ c.sizes.maxAmpduSize = 4294967295) ∧
    ∀ e, getHeCapabilities c phy = some e →
      heMaxAmpduLength c.sizes = some e.maxAmpduLength ∧
      IsHighest (·.modulationClass = .he) (·.mcsValue.toNat) phy.mcs e.highestMcsSupported ∧
      e.channelWidthSet.toNat =
        (if phy.channelWidth ≥ 40 ∧ phy.is2_4Ghz then 1 else 0) +
        (if phy.channelWidth ≥ 80 ∧ phy.is5Ghz then 2 else 0) +
        (if phy.channelWidth ≥ 160 ∧ phy.is5Ghz then 4 else 0) ∧
      e.heLtfAndGiForHePpdus.toNat =
        (if he.guardInterval ≤ 1600 then 1 else 0) +
        (if he.guardInterval = 800 then 2 else 0) := by
  simp only [getHeCapabilities, hc, bind, Option.bind_eq_bind]
  have hU := maxAmpduLengthField_eq_none 1048575 8388607 c.sizes
  rcases hA : heMaxAmpduLength c.sizes with _ | a
  · exact ⟨iff_of_true rfl (hU.mp hA), fun _ => nofun⟩
  have hA' : c.sizes.maxAmpduSize ≠ 4294967295 :=
    fun h => Option.some_ne_none a (hA.symm.trans (hU.mpr h))
  refine ⟨iff_of_false nofun hA', ?_⟩
  rintro e ⟨⟩
  exact ⟨rfl, maxOver_isHighest _ _ phy.mcs, heChannelWidthSet_toNat phy, heGiBits_toNat he⟩

theorem heCapabilities_spec_on_heStation :
    heStationConfiguration.heConfiguration = some ⟨800⟩ ∧
    (getHeCapabilities heStationConfiguration heStationPhy = none ↔
      heStationConfiguration.sizes.maxAmpduSize = 4294967295) ∧
    ∀ e, getHeCapabilities heStationConfiguration heStationPhy = some e →
      heMaxAmpduLength heStationConfiguration.sizes = some e.maxAmpduLength ∧
      IsHighest (·.modulationClass = .he) (·.mcsValue.toNat) heStationPhy.mcs
        e.highestMcsSupported ∧
      e.channelWidthSet.toNat =
        (if heStationPhy.channelWidth ≥ 40 ∧ heStationPhy.is2_4Ghz then 1 else 0) +
        (if heStationPhy.channelWidth ≥ 80 ∧ heStationPhy.is5Ghz then 2 else 0) +
        (if heStationPhy.channelWidth ≥ 160 ∧ heStationPhy.is5Ghz then 4 else 0) ∧
      e.heLtfAndGiForHePpdus.toNat =
        (if 800 ≤ 1600 then 1 else 0) + (if 800 = 800 then 2 else 0) :=
  ⟨rfl, @heCapabilities_spec heStationConfiguration ⟨800⟩ rfl heStationPhy⟩

end MultiBandFst
