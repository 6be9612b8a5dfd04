import MultiBandFst.DevicePair

/-!
# The handshake switches both devices to 5 GHz

The other direction of `fst_switches_only_to_5GHz`: the FST code does switch. Take two
devices whose active MACs have no countdown pending and whose 802.11n 5 GHz technology is
registered with a MAC and a station manager. Let the first call `SetupFSTSession` for the
second's address and deliver the frames in order: the Setup-Request, the Setup-Response, the
`TxOk` of the Setup-Response, and, for a positive LLT, the two countdowns. Then both
devices end on 802.11n 5 GHz with their registered MAC active (`handshake_switches_both`),
whatever the LLT and the addresses.
-/

namespace MultiBandFst

namespace MultiBandNetDevice

theorem copyAssociationState_isSome {d : MultiBandNetDevice} (hsm : d.stationManager.isSome)
    (a : Mac48Address) (o n : Nat) : (d.copyAssociationState a o n).isSome := by
  unfold copyAssociationState recordGotAssocTxOk
  split <;> simp [hsm]

/-- `BandChanged` to a standard registered with a MAC and a station manager goes through
from a device with an active MAC, and leaves that MAC active on that standard. -/
theorem bandChanged_of_registered {d : MultiBandNetDevice} {o n : Nat} {s : WifiPhyStandard}
    (ho : d.mac = some o) (hn : (d.technology s).mac = some n)
    (hsm : (d.technology s).stationManager.isSome) (a : Mac48Address) (i : Bool) :
    ∃ d', d.bandChanged s a i = some d' ∧ d'.standard = s ∧ d'.mac = some n ∧
      d'.list = (d.lookup s).list := by
  have hsm' : (((d.switchTechnology s).transferQueues a o n).copyAllAgreements a o
      n).stationManager.isSome := hsm
  obtain ⟨d₁, h₁⟩ := Option.isSome_iff_exists.mp (copyAssociationState_isSome hsm' a o n)
  have hb : d.bandChanged s a i = some (d₁.setMac n ((d₁.macs n).notifyBandChanged s a i)) :=
    bandChanged_eq_some.mpr ⟨o, n, d₁, ho, hn, h₁, rfl⟩
  have he := handles_bandChanged hb
  exact ⟨_, hb, congrArg Handles.standard he, (congrArg Handles.mac he).trans hn,
    congrArg Handles.list he⟩

end MultiBandNetDevice

namespace DeviceSystem

open MultiBandNetDevice MacSystem RegularWifiMac

/-- A device ready for the handshake on MAC `p`: `p` is active, no countdown is pending, and
802.11n 5 GHz is registered with MAC `n` and a station manager. -/
structure Ready (σ : DeviceSystem) (p n : Nat) : Prop where
  active : σ.device.mac = some p
  idle : σ.sim.events = []
  mac5 : (σ.device.technology .std80211n_5GHZ).mac = some n
  station5 : (σ.device.technology .std80211n_5GHZ).stationManager.isSome

/-- An event whose handler calls no `ChangeBand` changes the device by its MAC's step. -/
theorem step_of_no_call (σ : DeviceSystem) (p : Nat) (e : MacEvent)
    (h : (σ.macOutcome p e).changeBand = none) :
    σ.step p e = some ⟨σ.device.setMac p (σ.macOutcome p e).mac, (σ.macOutcome p e).sim⟩ := by
  simp [step, h, bandChangedCallback]

/-- An event whose handler calls `ChangeBand` for the 4.9 GHz band switches a ready device to
802.11n 5 GHz on its registered MAC. -/
theorem step_to_5GHz {σ : DeviceSystem} {p n : Nat} (hp : σ.device.mac = some p)
    (hn : (σ.device.technology .std80211n_5GHZ).mac = some n)
    (hsm : (σ.device.technology .std80211n_5GHZ).stationManager.isSome) {e : MacEvent}
    {P : Mac48Address} {i : Bool}
    (h : (σ.macOutcome p e).changeBand = some ⟨P, .band4_9GHz, i⟩) :
    ∃ σ', σ.step p e = some σ' ∧ σ'.device.standard = .std80211n_5GHZ ∧
      σ'.device.mac = some n := by
  obtain ⟨d', hd, hs, hm, -⟩ := bandChanged_of_registered (d := σ.device.setMac p
    (σ.macOutcome p e).mac) hp hn hsm P i
  have hc : changeBand P .band4_9GHz i = some ⟨.std80211n_5GHZ, P, i⟩ := rfl
  exact ⟨⟨d', (σ.macOutcome p e).sim⟩, by simp only [step, h, bandChangedCallback, hc, hd]; rfl,
    hs, hm⟩

/-- A setup completion with LLT 0 for a 4.9 GHz session switches the device at once. -/
theorem completeSetup_switches_now {σ : DeviceSystem} {p n : Nat} (hp : σ.device.mac = some p)
    (hn : (σ.device.technology .std80211n_5GHZ).mac = some n)
    (hsm : (σ.device.technology .std80211n_5GHZ).stationManager.isSome) {e : MacEvent}
    {P : Mac48Address} {i : Bool}
    (he : σ.macOutcome p e = completeSetup p (σ.device.macs p) σ.sim P i)
    (hb : ((σ.device.macs p).session P).newBandId = .band4_9GHz)
    (hl : ((σ.device.macs p).session P).llt = 0) :
    ∃ σ', σ.step p e = some σ' ∧ σ'.device.standard = .std80211n_5GHZ ∧
      σ'.device.mac = some n :=
  step_to_5GHz hp hn hsm (by rw [he, completeSetup_changeBand, if_pos hl, hb])

/-- With a positive LLT it arms the countdown, the only pending event, and the countdown's
expiry switches the device. -/
theorem completeSetup_switches_on_expiry {σ : DeviceSystem} {p n : Nat}
    (hp : σ.device.mac = some p) (hidle : σ.sim.events = [])
    (hn : (σ.device.technology .std80211n_5GHZ).mac = some n)
    (hsm : (σ.device.technology .std80211n_5GHZ).stationManager.isSome) {e : MacEvent}
    {P : Mac48Address} {i : Bool}
    (he : σ.macOutcome p e = completeSetup p (σ.device.macs p) σ.sim P i)
    (hb : ((σ.device.macs p).session P).newBandId = .band4_9GHz)
    (hl : ((σ.device.macs p).session P).llt ≠ 0) :
    ∃ σ₁, σ.step p e = some σ₁ ∧ σ₁.sim.fire.all (·.1.owner == p) = true ∧
      ∃ σ', σ₁.step p .expire = some σ' ∧ σ'.device.standard = .std80211n_5GHZ ∧
        σ'.device.mac = some n := by
  have hsim : (σ.macOutcome p e).sim.fire = some (⟨σ.sim.lastUid + 1,
      σ.sim.now + countDownDuration ((σ.device.macs p).session P).llt, p, P, .band4_9GHz, i⟩,
      ⟨σ.sim.now + countDownDuration ((σ.device.macs p).session P).llt, σ.sim.lastUid + 1,
        []⟩) := by
    rw [he, completeSetup_sim, if_neg hl, hb]
    simp [Simulator.fire, Simulator.earliest, Simulator.cancel, hidle]
  refine ⟨_, step_of_no_call σ p e (by rw [he, completeSetup_changeBand, if_neg hl]),
    by simp [hsim], step_to_5GHz (σ := ⟨σ.device.setMac p (σ.macOutcome p e).mac,
      (σ.macOutcome p e).sim⟩) (P := P) (i := i) hp hn hsm ?_⟩
  show (MacSystem.step p ⟨_, (σ.macOutcome p e).sim⟩ .expire).changeBand = _
  simp only [MacSystem.step, hsim]

/-- A Setup-Response with status 0 for MAC `p`'s address completes the setup as the
initiator. -/
theorem macOutcome_setupResponse (σ : DeviceSystem) (p : Nat) {A : Mac48Address}
    (hA : (σ.device.macs p).address = A) (P : Mac48Address) (tok : UInt8) :
    σ.macOutcome p (.receive ⟨⟨A, P⟩, .fst (.setupResponse tok 0)⟩) =
      completeSetup p (σ.device.macs p) σ.sim P true := by
  subst hA
  simp [macOutcome]

/-- A Setup-Request for MAC `p`'s address installs the responder's session and queues the
Setup-Response. -/
theorem macOutcome_setupRequest (σ : DeviceSystem) (p : Nat) {B : Mac48Address}
    (hB : (σ.device.macs p).address = B) (A : Mac48Address) (tok : UInt8)
    (st : SessionTransitionElement) (llt : UInt32) :
    σ.macOutcome p (.receive ⟨⟨B, A⟩, .fst (.setupRequest tok st llt)⟩) =
      ⟨((σ.device.macs p).putSession A ⟨st.fstsID, .initial, false, st.newBand, llt, none⟩)
        |>.sendFstSetupResponse A tok 0, σ.sim, none⟩ := by
  subst hB
  simp [macOutcome]

end DeviceSystem

namespace DevicePair

open MultiBandNetDevice DeviceSystem RegularWifiMac

/-- The handshake between MAC `p` of `a` and MAC `q` of `b`, frames delivered in order:
`SetupFSTSession` for `b`'s address, the Setup-Request `a`'s MAC builds delivered to `b`, the
Setup-Response delivered to `a`, its `TxOk` at `b`, and for a positive LLT the two
countdowns. -/
def handshake (ν : DevicePair) (p q : Nat) : List PairEvent :=
  [.atMac .a p (.setupFSTSession (ν.b.device.macs q).address),
    .deliver .b p q ⟨⟨(ν.b.device.macs q).address, (ν.a.device.macs p).address⟩,
      .fst (.setupRequest 10 ⟨(ν.a.device.macs p).fstId + 1, .band4_9GHz, .band60GHz⟩
        (ν.a.device.macs p).llt)⟩,
    .deliver .a q p ⟨⟨(ν.a.device.macs p).address, (ν.b.device.macs q).address⟩,
      .fst (.setupResponse 10 0)⟩,
    .atMac .b q (.txOk ⟨⟨(ν.a.device.macs p).address, (ν.b.device.macs q).address⟩,
      .fst (.setupResponse 10 0)⟩)] ++
  if (ν.a.device.macs p).llt = 0 then [] else [.atMac .a p .expire, .atMac .b q .expire]

theorem run_atMac (ν ν' : DevicePair) {s : Side} {p : Nat} {e : MacEvent} {σ' : DeviceSystem}
    (he : ν.enabled (.atMac s p e) = true) (h : (ν.dev s).step p e = some σ')
    (hν : ν.set s σ' = ν') (es : List PairEvent) : ν.run (.atMac s p e :: es) = ν'.run es := by
  simp [run, he, step, PairEvent.target, h, hν]

theorem run_deliver (ν ν' : DevicePair) {s : Side} {q p : Nat} {item : WifiMacQueueItem}
    {σ' : DeviceSystem} (he : item ∈ ((ν.dev s.other).device.macs q).txop)
    (h : (ν.dev s).step p (.receive item) = some σ') (hν : ν.set s σ' = ν')
    (es : List PairEvent) : ν.run (.deliver s q p item :: es) = ν'.run es := by
  simp [run, enabled, he, step, PairEvent.target, h, hν]

/-- Two ready devices that run the handshake in order both end on 802.11n 5 GHz, each with
its registered MAC active, whatever the LLT. Each frame is delivered from the DCA queue that
holds it, where it stays after its `TxOk`: the model does not dequeue. -/
theorem handshake_switches_both {ν : DevicePair} {p q n n' : Nat} (ha : ν.a.Ready p n)
    (hb : ν.b.Ready q n') :
    ∃ ν', ν.run (ν.handshake p q) = some ν' ∧
      ν'.a.device.standard = .std80211n_5GHZ ∧ ν'.a.device.mac = some n ∧
      ν'.b.device.standard = .std80211n_5GHZ ∧ ν'.b.device.mac = some n' := by
  obtain ⟨a, b⟩ := ν
  set A := (a.device.macs p).address
  set B := (b.device.macs q).address
  set a₁ : DeviceSystem := ⟨a.device.setMac p ((a.device.macs p).setupFSTSession B), a.sim⟩
  set b₁ : DeviceSystem := ⟨b.device.setMac q (((b.device.macs q).putSession A
    ⟨(a.device.macs p).fstId + 1, .initial, false, .band4_9GHz, (a.device.macs p).llt, none⟩)
      |>.sendFstSetupResponse A 10 0), b.sim⟩
  have h₁ : a.step p (.setupFSTSession B) = some a₁ := rfl
  have h₂ : b.step q (.receive ⟨⟨B, A⟩, .fst (.setupRequest 10
      ⟨(a.device.macs p).fstId + 1, .band4_9GHz, .band60GHz⟩ (a.device.macs p).llt)⟩) =
      some b₁ := by
    rw [step_of_no_call _ _ _ (by rw [macOutcome_setupRequest b q rfl]),
      macOutcome_setupRequest b q rfl]
  have hea : a₁.macOutcome p (.receive ⟨⟨A, B⟩, .fst (.setupResponse 10 0)⟩) =
      completeSetup p (a₁.device.macs p) a₁.sim B true :=
    macOutcome_setupResponse a₁ p (by simp [a₁, A, setupFSTSession]) B 10
  have heb : b₁.macOutcome q (.txOk ⟨⟨A, B⟩, .fst (.setupResponse 10 0)⟩) =
      completeSetup q (b₁.device.macs q) b₁.sim A false := rfl
  have hsa : (a₁.device.macs p).session B =
      ⟨(a.device.macs p).fstId + 1, .initial, true, .band4_9GHz, (a.device.macs p).llt, none⟩ := by
    simp [a₁, session_setupFSTSession]
  have hsb : (b₁.device.macs q).session A =
      ⟨(a.device.macs p).fstId + 1, .initial, false, .band4_9GHz, (a.device.macs p).llt, none⟩ := by
    simp [b₁, sendFstSetupResponse, session_putSession]
  have hresp : (⟨⟨A, B⟩, .fst (.setupResponse 10 0)⟩ : WifiMacQueueItem) ∈
      (b₁.device.macs q).txop := by
    simp [b₁, B, sendFstSetupResponse]
  simp only [handshake, List.cons_append, List.nil_append]
  rw [run_atMac ⟨a, b⟩ ⟨a₁, b⟩ (s := .a) (by simpa [enabled, dev] using ha.active) h₁ rfl,
    run_deliver ⟨a₁, b⟩ ⟨a₁, b₁⟩ (s := .b) (by simp [dev, Side.other, a₁, setupFSTSession]) h₂ rfl]
  by_cases hl : (a.device.macs p).llt = 0
  · rw [if_pos hl]
    obtain ⟨a', ha', hsa', hma'⟩ := completeSetup_switches_now (σ := a₁) ha.active ha.mac5
      ha.station5 hea (by rw [hsa]) (by rw [hsa]; exact hl)
    obtain ⟨b', hb', hsb', hmb'⟩ := completeSetup_switches_now (σ := b₁) hb.active hb.mac5
      hb.station5 heb (by rw [hsb]) (by rw [hsb]; exact hl)
    rw [run_deliver ⟨a₁, b₁⟩ ⟨a', b₁⟩ (s := .a) hresp ha' rfl,
      run_atMac ⟨a', b₁⟩ ⟨a', b'⟩ (s := .b) (by simpa [enabled, dev] using hresp) hb' rfl]
    exact ⟨_, rfl, hsa', hma', hsb', hmb'⟩
  · rw [if_neg hl]
    obtain ⟨a₂, ha₂, hfa, a', ha', hsa', hma'⟩ := completeSetup_switches_on_expiry (σ := a₁)
      ha.active ha.idle ha.mac5 ha.station5 hea (by rw [hsa]) (by rw [hsa]; exact hl)
    obtain ⟨b₂, hb₂, hfb, b', hb', hsb', hmb'⟩ := completeSetup_switches_on_expiry (σ := b₁)
      hb.active hb.idle hb.mac5 hb.station5 heb (by rw [hsb]) (by rw [hsb]; exact hl)
    rw [run_deliver ⟨a₁, b₁⟩ ⟨a₂, b₁⟩ (s := .a) hresp ha₂ rfl,
      run_atMac ⟨a₂, b₁⟩ ⟨a₂, b₂⟩ (s := .b) (by simpa [enabled, dev] using hresp) hb₂ rfl,
      run_atMac ⟨a₂, b₂⟩ ⟨a', b₂⟩ (s := .a) (by simpa [enabled, dev] using hfa) ha' rfl,
      run_atMac ⟨a', b₂⟩ ⟨a', b'⟩ (s := .b) (by simpa [enabled, dev] using hfb) hb' rfl]
    exact ⟨_, rfl, hsa', hma', hsb', hmb'⟩

/-- The two stations of `stationPair` with LLT 5: each switch waits for its countdown. -/
def patientStationPair : DevicePair :=
  ⟨⟨dualBandStation MacSystem.stationA 5, ⟨0, 0, []⟩⟩,
    ⟨dualBandStation MacSystem.stationB 5, ⟨0, 0, []⟩⟩⟩

/-- A dual-band station at time 0 is ready on its 60 GHz MAC, with its 5 GHz MAC at
handle 1, whatever its address and LLT. -/
theorem dualBandStation_ready (address : Mac48Address) (llt : UInt32) :
    Ready ⟨dualBandStation address llt, ⟨0, 0, []⟩⟩ 0 1 :=
  ⟨rfl, rfl, rfl, rfl⟩

/-- The handshake with LLT 0, which switches at once, and with LLT 5, which switches when
the countdowns expire. -/
theorem handshake_switches_both_on_stationPair :
    stationPair.a.Ready 0 1 ∧ stationPair.b.Ready 0 1 ∧
      (∃ ν', stationPair.run (stationPair.handshake 0 0) = some ν' ∧
        ν'.a.device.standard = .std80211n_5GHZ ∧ ν'.a.device.mac = some 1 ∧
        ν'.b.device.standard = .std80211n_5GHZ ∧ ν'.b.device.mac = some 1) ∧
    (patientStationPair.a.device.macs 0).llt = 5 ∧
      patientStationPair.a.Ready 0 1 ∧ patientStationPair.b.Ready 0 1 ∧
      ∃ ν', patientStationPair.run (patientStationPair.handshake 0 0) = some ν' ∧
        ν'.a.device.standard = .std80211n_5GHZ ∧ ν'.a.device.mac = some 1 ∧
        ν'.b.device.standard = .std80211n_5GHZ ∧ ν'.b.device.mac = some 1 :=
  have ha := dualBandStation_ready MacSystem.stationA 0
  have hb := dualBandStation_ready MacSystem.stationB 0
  have ha' := dualBandStation_ready MacSystem.stationA 5
  have hb' := dualBandStation_ready MacSystem.stationB 5
  ⟨ha, hb, handshake_switches_both ha hb, rfl, ha', hb', handshake_switches_both ha' hb'⟩

end DevicePair

end MultiBandFst
