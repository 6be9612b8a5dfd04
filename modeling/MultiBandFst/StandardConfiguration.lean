import MultiBandFst.CapabilityElements
import MultiBandFst.Handshake

/-!
# The capability flags and `FinishConfigureStandard`

A `RegularWifiMac` keeps five capability flags, all off after its constructor, and its
`MacLow` holds an MSDU and an MPDU aggregator or none. `SetDmgSupported` and
`SetEdmgSupported` also switch QoS and aggregation on (or aggregation off), and
`SetErpSupported (true)` also switches DSSS on. `FinishConfigureStandard` is a switch whose
2.4 GHz HT and HE cases fall through to 802.11g, and 802.11g to the OFDM standards: each
accepted standard adds its own set of flags, `standardFlags`, to those the MAC has, and
configures a maximum contention window of 1023 (`finishConfigureStandard_spec`).

`Receive` asserts `m_qosSupported` for every action frame, FST frames included; every
standard `ChangeBand` switches to turns QoS on (`changeBand_configures_qos`). What the
switch hands to objects declared outside src (the HT configuration's RIFS flag,
`ConfigureDcf`'s per-AC parameters, the aggregators' queues) is not modelled; the
arguments of `ConfigureContentionWindow` are.
-/

namespace MultiBandFst

/-- The capability flags of a `RegularWifiMac`, and whether its `MacLow` holds an MSDU and
an MPDU aggregator. -/
structure MacFlags where
  dmgSupported : Bool
  edmgSupported : Bool
  qosSupported : Bool
  erpSupported : Bool
  dsssSupported : Bool
  msduAggregator : Bool
  mpduAggregator : Bool
  deriving DecidableEq, Repr

/-- What `ConfigureContentionWindow` passes to `ConfigureDcf` for the DCF and for every EDCA
function. -/
structure DcfParameters where
  cwMin : Nat
  cwMax : Nat
  isDsssOnly : Bool
  deriving DecidableEq, Repr

namespace MacFlags

/-- The constructor's flags; a fresh `MacLow` holds no aggregator. -/
def initial : MacFlags := ⟨false, false, false, false, false, false, false⟩

def setQosSupported (f : MacFlags) (enable : Bool) : MacFlags :=
  { f with qosSupported := enable }

def setDsssSupported (f : MacFlags) (enable : Bool) : MacFlags :=
  { f with dsssSupported := enable }

/-- `EnableAggregation`: `MacLow` gets each aggregator it lacks. -/
def enableAggregation (f : MacFlags) : MacFlags :=
  { f with msduAggregator := true, mpduAggregator := true }

def disableAggregation (f : MacFlags) : MacFlags :=
  { f with msduAggregator := false, mpduAggregator := false }

/-- The body `SetDmgSupported` and `SetEdmgSupported` share: store the flag (`write`), then
switch QoS and aggregation on, or aggregation off. -/
def setWigigSupported (write : MacFlags → MacFlags) (f : MacFlags) (enable : Bool) :
    MacFlags :=
  if enable then ((write f).setQosSupported true).enableAggregation
  else (write f).disableAggregation

def setDmgSupported (f : MacFlags) (enable : Bool) : MacFlags :=
  setWigigSupported (fun g => { g with dmgSupported := enable }) f enable

def setEdmgSupported (f : MacFlags) (enable : Bool) : MacFlags :=
  setWigigSupported (fun g => { g with edmgSupported := enable }) f enable

def setErpSupported (f : MacFlags) (enable : Bool) : MacFlags :=
  { (if enable then f.setDsssSupported true else f) with erpSupported := enable }

/-- `ConfigureContentionWindow`: the PHY is DSSS only when DSSS is on and ERP is not. -/
def configureContentionWindow (f : MacFlags) (cwMin cwMax : Nat) : DcfParameters :=
  ⟨cwMin, cwMax, f.dsssSupported && !f.erpSupported⟩

/-- Both aggregators present, or both absent. -/
def AggregatorsAgree (f : MacFlags) : Prop := f.msduAggregator = f.mpduAggregator

/-- The flags on in `f` or in `g`. -/
def union (f g : MacFlags) : MacFlags :=
  ⟨f.dmgSupported || g.dmgSupported, f.edmgSupported || g.edmgSupported,
    f.qosSupported || g.qosSupported, f.erpSupported || g.erpSupported,
    f.dsssSupported || g.dsssSupported, f.msduAggregator || g.msduAggregator,
    f.mpduAggregator || g.mpduAggregator⟩

end MacFlags

open MacFlags

/-! ## `FinishConfigureStandard` -/

/-- From `case WIFI_PHY_STANDARD_holland:` to the end of the switch: the OFDM contention
window. -/
def ofdmCase (f : MacFlags) : MacFlags × DcfParameters :=
  (f, f.configureContentionWindow 15 1023)

/-- From `case WIFI_PHY_STANDARD_80211g:`: ERP on, then the OFDM standards' case. -/
def erpCase (f : MacFlags) : MacFlags × DcfParameters := ofdmCase (f.setErpSupported true)

/-- The body the HT, VHT and HE cases share: aggregation on, the HT configuration asserted
present (`NS_ASSERT (htConfiguration)`), QoS on. -/
def htCase (c : MacConfiguration) (f : MacFlags) : Option MacFlags :=
  c.htConfiguration.map fun _ => f.enableAggregation.setQosSupported true

/-- `FinishConfigureStandard`: `none` for a standard the switch rejects
(`NS_FATAL_ERROR`). -/
def finishConfigureStandard (c : MacConfiguration) (f : MacFlags)
    (standard : WifiPhyStandard) : Option (MacFlags × DcfParameters) :=
  match standard with
  | .std80211ad =>
    let f := f.setDmgSupported true
    some (f, f.configureContentionWindow 15 1023)
  | .std80211ay =>
    let f := f.setEdmgSupported true
    some (f, f.configureContentionWindow 15 1023)
  | .std80211ax_5GHZ | .std80211ac | .std80211n_5GHZ =>
    (htCase c f).map fun f => (f, f.configureContentionWindow 15 1023)
  | .std80211ax_2_4GHZ | .std80211n_2_4GHZ => (htCase c f).map erpCase
  | .std80211g => some (erpCase f)
  | .stdholland | .std80211a | .std80211_10MHZ | .std80211_5MHZ => some (ofdmCase f)
  | .std80211b =>
    let f := f.setDsssSupported true
    some (f, f.configureContentionWindow 31 1023)
  | .other _ => none

/-! ## What the switch sets -/

/-- The flags each accepted standard turns on. -/
def standardFlags : WifiPhyStandard → MacFlags
  | .std80211ad => ⟨true, false, true, false, false, true, true⟩
  | .std80211ay => ⟨false, true, true, false, false, true, true⟩
  | .std80211ax_5GHZ | .std80211ac | .std80211n_5GHZ =>
    ⟨false, false, true, false, false, true, true⟩
  | .std80211ax_2_4GHZ | .std80211n_2_4GHZ => ⟨false, false, true, true, true, true, true⟩
  | .std80211g => ⟨false, false, false, true, true, false, false⟩
  | .std80211b => ⟨false, false, false, false, true, false, false⟩
  | _ => initial

/-- The HT, VHT and HE standards, whose case reads the HT configuration. -/
def usesHtConfiguration : WifiPhyStandard → Bool
  | .std80211ax_5GHZ | .std80211ac | .std80211n_5GHZ | .std80211ax_2_4GHZ
  | .std80211n_2_4GHZ => true
  | _ => false

theorem finishConfigureStandard_eq_none (c : MacConfiguration) (f : MacFlags)
    (s : WifiPhyStandard) :
    finishConfigureStandard c f s = none ↔
      (∃ code, s = .other code) ∨ (usesHtConfiguration s = true ∧ c.htConfiguration = none) := by
  rcases hc : c.htConfiguration with _ | ht <;> cases s <;>
    simp [finishConfigureStandard, htCase, hc, usesHtConfiguration]

/-- An accepted standard adds its flags to the MAC's, and configures its minimum contention
window, a maximum of 1023, and a DSSS-only PHY for DSSS without ERP. -/
theorem finishConfigureStandard_eq_some {c : MacConfiguration} {f : MacFlags}
    {s : WifiPhyStandard} {r : MacFlags × DcfParameters}
    (h : finishConfigureStandard c f s = some r) :
    r.1 = f.union (standardFlags s) ∧
    r.2 = ⟨if s = .std80211b then 31 else 15, 1023, r.1.dsssSupported && !r.1.erpSupported⟩ := by
  obtain ⟨dmg, edmg, qos, erp, dsss, msdu, mpdu⟩ := f
  rcases hc : c.htConfiguration with _ | ht <;> cases s <;>
    simp [finishConfigureStandard, htCase, hc, erpCase, ofdmCase, standardFlags, union,
      initial, setDmgSupported, setEdmgSupported, setWigigSupported, setQosSupported,
      enableAggregation, setErpSupported, setDsssSupported, configureContentionWindow] at h ⊢ <;>
    subst h <;> simp

/-- `FinishConfigureStandard` aborts exactly for a standard the switch does not name and for
an HT, VHT or HE standard without an HT configuration. Otherwise it adds the standard's
flags to the MAC's and configures the standard's minimum contention window (31 for
802.11b, 15 for every other), a maximum of 1023, and a DSSS-only PHY exactly when DSSS is on
and ERP is not. -/
theorem finishConfigureStandard_spec (c : MacConfiguration) (f : MacFlags)
    (s : WifiPhyStandard) :
    (finishConfigureStandard c f s = none ↔
      (∃ code, s = .other code) ∨ (usesHtConfiguration s = true ∧ c.htConfiguration = none)) ∧
    ∀ r, finishConfigureStandard c f s = some r →
      r.1 = f.union (standardFlags s) ∧
      r.2 = ⟨if s = .std80211b then 31 else 15, 1023,
        r.1.dsssSupported && !r.1.erpSupported⟩ :=
  ⟨finishConfigureStandard_eq_none c f s, fun _ => finishConfigureStandard_eq_some⟩

/-- Every standard `ChangeBand` switches to is accepted by a MAC that has the HT
configuration it needs, and turns QoS and both aggregators on: `Receive`'s
`NS_ASSERT (m_qosSupported)` for action frames holds on every MAC an FST switch makes
active. -/
theorem changeBand_configures_qos (c : MacConfiguration) (f : MacFlags) {P : Mac48Address}
    {b : BandID} {i : Bool} {call : BandChangedCall}
    (h : RegularWifiMac.changeBand P b i = some call)
    (hc : usesHtConfiguration call.standard = true → c.htConfiguration.isSome = true) :
    ∃ r, finishConfigureStandard c f call.standard = some r ∧
      r.1.qosSupported = true ∧ r.1.msduAggregator = true ∧ r.1.mpduAggregator = true := by
  have hstd : call.standard = .std80211ad ∨ call.standard = .std80211n_5GHZ ∨
      call.standard = .std80211n_2_4GHZ := by
    unfold RegularWifiMac.changeBand at h
    split_ifs at h <;> cases h <;> simp
  have hsome : finishConfigureStandard c f call.standard ≠ none := fun hn => by
    rcases (finishConfigureStandard_eq_none c f _).mp hn with ⟨code, hcode⟩ | ⟨hu, hn⟩
    · rcases hstd with h | h | h <;> simp [h] at hcode
    · simp [hn, hu] at hc
  obtain ⟨r, hr⟩ := Option.ne_none_iff_exists'.mp hsome
  refine ⟨r, hr, ?_⟩
  rw [(finishConfigureStandard_eq_some hr).1]
  rcases hstd with h | h | h <;> simp [h, union, standardFlags]

/-! ## Runs of configuration calls -/

/-- The calls that change the flags. -/
inductive FlagCall
  | setQosSupported (enable : Bool)
  | setDmgSupported (enable : Bool)
  | setEdmgSupported (enable : Bool)
  | setErpSupported (enable : Bool)
  | setDsssSupported (enable : Bool)
  | enableAggregation
  | disableAggregation
  | finishConfigureStandard (standard : WifiPhyStandard)
  deriving DecidableEq, Repr

def FlagCall.apply (c : MacConfiguration) (f : MacFlags) : FlagCall → Option MacFlags
  | .setQosSupported enable => some (f.setQosSupported enable)
  | .setDmgSupported enable => some (f.setDmgSupported enable)
  | .setEdmgSupported enable => some (f.setEdmgSupported enable)
  | .setErpSupported enable => some (f.setErpSupported enable)
  | .setDsssSupported enable => some (f.setDsssSupported enable)
  | .enableAggregation => some f.enableAggregation
  | .disableAggregation => some f.disableAggregation
  | .finishConfigureStandard standard =>
    (MultiBandFst.finishConfigureStandard c f standard).map Prod.fst

/-- The calls in order; `none` once one aborts. -/
def runCalls (c : MacConfiguration) : MacFlags → List FlagCall → Option MacFlags
  | f, [] => some f
  | f, call :: calls => (call.apply c f).bind fun f' => runCalls c f' calls

theorem aggregatorsAgree_union {f g : MacFlags} (hf : f.AggregatorsAgree)
    (hg : g.AggregatorsAgree) : (f.union g).AggregatorsAgree := by
  simp only [AggregatorsAgree, union] at *
  rw [hf, hg]

theorem aggregatorsAgree_standardFlags (s : WifiPhyStandard) :
    (standardFlags s).AggregatorsAgree := by
  cases s <;> rfl

theorem aggregatorsAgree_apply (c : MacConfiguration) {f f' : MacFlags} (call : FlagCall)
    (hf : f.AggregatorsAgree) (h : call.apply c f = some f') : f'.AggregatorsAgree := by
  cases call with
  | finishConfigureStandard s =>
    obtain ⟨r, hr, rfl⟩ := Option.map_eq_some'.mp (by simpa only [FlagCall.apply] using h)
    rw [(finishConfigureStandard_eq_some hr).1]
    exact aggregatorsAgree_union hf (aggregatorsAgree_standardFlags s)
  | setDmgSupported enable | setEdmgSupported enable =>
    cases h
    cases enable <;> rfl
  | setErpSupported enable =>
    cases h
    cases enable <;> exact hf
  | _ =>
    cases h
    first | rfl | exact hf

theorem aggregatorsAgree_runCalls (c : MacConfiguration) :
    ∀ {calls : List FlagCall} {g f : MacFlags}, g.AggregatorsAgree →
      runCalls c g calls = some f → f.AggregatorsAgree
  | [], _, _, hg, h => by
    cases h
    exact hg
  | call :: _, _, _, hg, h => by
    obtain ⟨g', hg', hrun⟩ := Option.bind_eq_some.mp h
    exact aggregatorsAgree_runCalls c (aggregatorsAgree_apply c call hg hg') hrun

/-- From the constructor's flags, along every run of configuration calls that does not
abort, `MacLow` holds an MSDU aggregator exactly when it holds an MPDU aggregator. -/
theorem aggregators_agree_along_calls (c : MacConfiguration) {calls : List FlagCall}
    {f : MacFlags} (h : runCalls c initial calls = some f) : f.AggregatorsAgree :=
  aggregatorsAgree_runCalls c (g := initial) rfl h

end MultiBandFst
