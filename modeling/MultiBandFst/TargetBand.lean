import MultiBandFst.DevicePair

/-!
# FST only ever switches a device to 802.11n 5 GHz

`SetupFSTSession` proposes the 4.9 GHz band whatever band the MAC is on, a responder takes
the band of the Setup-Request it receives, and a countdown is scheduled with the band of
the session that arms it. So every band a session, a queued Setup-Request or a pending
countdown holds is 4.9 GHz or the band 0 of a record `operator[]` inserted (`BandsOk`),
and every step of either device keeps that (`DeviceSystem.BandsOk.step`). `ChangeBand`
maps 4.9 GHz to 802.11n 5 GHz and band 0 to nothing, so along any interleaving of two
devices each device stays on its standard or moves to 802.11n 5 GHz: the FST code never
switches a device to 60 GHz or to 2.4 GHz, back or forth.
-/

namespace MultiBandFst

/-- The target band a queued frame proposes: the new band of a Setup-Request. -/
def WifiMacQueueItem.proposedBand (item : WifiMacQueueItem) : Option BandID :=
  match item.packet with
  | .fst (.setupRequest _ st _) => some st.newBand
  | _ => none

/-- The bands the FST code can put in a session, a frame or a countdown: the 4.9 GHz band
`SetupFSTSession` proposes, and the band 0 of a value-initialised record. -/
def BandID.Proposable (b : BandID) : Prop := b = .band4_9GHz ∨ b = ⟨0⟩

namespace MacSystem

open RegularWifiMac Simulator

/-- After one event a pending countdown was pending before, or was just scheduled with the
target band one of the MAC's sessions had. -/
theorem events_step (self : Nat) (σ : MacSystem) (e : MacEvent) {ev : ScheduledEvent}
    (h : ev ∈ (σ.step self e).sim.events) :
    ev ∈ σ.sim.events ∨ ∃ P, ev.bandId = (σ.mac.session P).newBandId := by
  have hc : ∀ P i, ev ∈ (completeSetup self σ.mac σ.sim P i).sim.events →
      ev ∈ σ.sim.events ∨ ∃ P, ev.bandId = (σ.mac.session P).newBandId := fun P i hm => by
    rw [completeSetup_sim] at hm
    split at hm
    · exact .inl hm
    · exact (mem_schedule hm).imp_right fun hb => ⟨P, hb⟩
  cases e with
  | receive item =>
    obtain ⟨⟨dst, P⟩, pkt⟩ := item
    by_cases hd : dst = σ.mac.address
    · subst hd
      rcases pkt with _ | (_ | ⟨_, status⟩ | _ | _ | _) <;> simp at h
      all_goals first | exact .inl h | skip
      split at h
      · exact hc _ _ h
      · exact .inl h
    · simp [hd] at h
      exact .inl h
  | txOk item =>
    obtain ⟨⟨P, src⟩, pkt⟩ := item
    rcases pkt with _ | (_ | _ | _ | _ | _) <;> simp [txOk] at h
    all_goals first | exact .inl h | exact hc _ _ h
  | macTxOk a | macRxOk a =>
    simp only [step_macTxOk, step_macRxOk, resetLinkLossCountDown_sim] at h
    split at h
    · exact (mem_schedule h).imp mem_of_mem_cancel fun hb => ⟨a, hb⟩
    · exact .inl h
  | expire =>
    simp only [step] at h
    split at h
    · exact .inl h
    · exact .inl ((fire_eq_some ‹_›).2 ev h)
  | _ => simp at h; exact .inl h

/-- A `ChangeBand` call passes the target band of one of the MAC's sessions, or the band a
pending countdown was scheduled with. -/
theorem changeBand_bandId (self : Nat) (σ : MacSystem) (e : MacEvent) {c : ChangeBandCall}
    (h : (σ.step self e).changeBand = some c) :
    (∃ P, c.bandId = (σ.mac.session P).newBandId) ∨
      ∃ ev ∈ σ.sim.events, c.bandId = ev.bandId := by
  rw [changeBand_step] at h
  cases e with
  | receive item =>
    obtain ⟨⟨dst, P⟩, pkt⟩ := item
    rcases pkt with _ | (_ | _ | _ | _ | _) <;> simp only [changeBandSite] at h <;> try cases h
    split_ifs at h
    cases h
    exact .inl ⟨P, rfl⟩
  | txOk item =>
    obtain ⟨⟨P, src⟩, pkt⟩ := item
    rcases pkt with _ | (_ | _ | _ | _ | _) <;> simp only [changeBandSite] at h <;> try cases h
    split_ifs at h
    cases h
    exact .inl ⟨P, rfl⟩
  | expire =>
    obtain ⟨⟨f, sim'⟩, hf, rfl⟩ := Option.map_eq_some'.mp h
    exact .inr ⟨f, (fire_eq_some hf).1, rfl⟩
  | _ => cases h

/-- The target band of P's session after one event: the band it had, the 4.9 GHz band of a
`SetupFSTSession`, or the band a received Setup-Request proposes. -/
theorem newBandId_step (self : Nat) (σ : MacSystem) (e : MacEvent) (P : Mac48Address) :
    ((σ.step self e).mac.session P).newBandId = (σ.mac.session P).newBandId ∨
      ((σ.step self e).mac.session P).newBandId = .band4_9GHz ∨
      ∃ item, e = .receive item ∧
        item.proposedBand = some ((σ.step self e).mac.session P).newBandId := by
  have hk : ((σ.step self e).mac.session P).newBandId =
      ((sessionInstall σ.mac P e).getD (σ.mac.session P).key).2.1 :=
    congrArg (fun k => k.2.1) (key_step self σ e P)
  cases hs : sessionInstall σ.mac P e with
  | none => exact .inl (by rw [hk, hs]; rfl)
  | some k =>
    rw [hk, hs, Option.getD_some]
    rcases sessionInstall_eq_some hs with ⟨-, rfl⟩ | ⟨tok, st, llt, rfl, rfl⟩
    · exact .inr (.inl rfl)
    · exact .inr (.inr ⟨_, rfl, rfl⟩)

/-- The only Setup-Request a MAC sends is the one `SetupFSTSession` builds, for 4.9 GHz. -/
theorem proposedBand_sentFrames {m : RegularWifiMac} {e : MacEvent} {item : WifiMacQueueItem}
    (h : item ∈ sentFrames m e) {b : BandID} (hb : item.proposedBand = some b) :
    b = .band4_9GHz := by
  obtain ⟨a, hp, hreq⟩ := fst_of_mem_sentFrames h
  unfold WifiMacQueueItem.proposedBand at hb
  rw [hp] at hb
  cases a with
  | setupRequest tok st llt => exact Option.some.inj hb ▸ hreq tok st llt rfl
  | _ => cases hb

end MacSystem

namespace DeviceSystem

open MultiBandNetDevice MacSystem

/-- A frame a MAC holds after the band-changed callback was held by some MAC before it,
unless it is the Ack-Request the callback queued, which proposes no band. -/
theorem txop_callback {d d' : MultiBandNetDevice} {c : Option ChangeBandCall}
    (h : bandChangedCallback d c = some d') {x : Nat} {item : WifiMacQueueItem}
    (hm : item ∈ (d'.macs x).txop) :
    (∃ y, item ∈ (d.macs y).txop) ∨ item.proposedBand = none := by
  cases c with
  | none => cases h; exact .inl ⟨x, hm⟩
  | some c =>
    simp only [bandChangedCallback] at h
    split at h
    · cases h; exact .inl ⟨x, hm⟩
    · obtain ⟨o, n, -, ho, hn, -, -⟩ := bandChanged_eq_some.mp h
      have hq := bandChanged_queue h ho hn x .txop
      simp only [RegularWifiMac.queue] at hq
      rw [hq, List.mem_append, List.mem_append] at hm
      rcases hm with (hm | hm) | hm <;> split_ifs at hm
      · exact .inl ⟨o, List.mem_of_mem_filter hm⟩
      · exact .inl ⟨x, hm⟩
      · exact .inl ⟨o, List.mem_of_mem_filter hm⟩
      · cases hm
      · rw [List.mem_singleton] at hm
        exact .inr (hm ▸ rfl)
      · cases hm

/-- A callback for a proposable band leaves the device on its standard or moves it to
802.11n 5 GHz. -/
theorem standard_callback {d d' : MultiBandNetDevice} {c : Option ChangeBandCall}
    (h : bandChangedCallback d c = some d') (hc : ∀ c', c = some c' → c'.bandId.Proposable) :
    d'.standard = d.standard ∨ d'.standard = .std80211n_5GHZ := by
  cases c with
  | none => cases h; exact .inl rfl
  | some c =>
    simp only [bandChangedCallback] at h
    rcases hc c rfl with hb | hb <;> rw [hb] at h
    · exact .inr (congrArg Handles.standard (handles_bandChanged h))
    · cases h; exact .inl rfl

/-- Every band the device's MACs and its scheduler hold is one FST can propose. -/
structure BandsOk (σ : DeviceSystem) : Prop where
  session : ∀ x P, ((σ.device.macs x).session P).newBandId.Proposable
  request : ∀ x, ∀ item ∈ (σ.device.macs x).txop, ∀ b, item.proposedBand = some b →
    b.Proposable
  events : ∀ ev ∈ σ.sim.events, ev.bandId.Proposable

/-- Every step of the device keeps `BandsOk`, provided a received frame proposes a
proposable band. -/
theorem BandsOk.step {σ σ' : DeviceSystem} {p : Nat} {e : MacEvent} (hσ : σ.BandsOk)
    (he : ∀ item b, e = .receive item → item.proposedBand = some b → b.Proposable)
    (h : σ.step p e = some σ') : σ'.BandsOk := by
  obtain ⟨d', hd, rfl⟩ := Option.map_eq_some'.mp h
  refine ⟨fun x P => ?_, fun x item hm b hb => ?_, fun ev hev => ?_⟩
  · rw [session_callback hd x P, setMac_macs]
    split_ifs with hx
    · subst hx
      rcases newBandId_step x ⟨σ.device.macs x, σ.sim⟩ e P with hb | hb | ⟨item, rfl, hb⟩
      · exact hb ▸ hσ.session x P
      · exact .inl hb
      · exact he item _ rfl hb
    · exact hσ.session x P
  · rcases txop_callback hd hm with ⟨y, hy⟩ | hn
    · rw [setMac_macs] at hy
      split_ifs at hy with hyp
      · subst hyp
        rw [macOutcome, txop_step, List.mem_append] at hy
        rcases hy with hy | hy
        · exact hσ.request y item hy b hb
        · exact .inl (proposedBand_sentFrames hy hb)
      · exact hσ.request y item hy b hb
    · cases hn.symm.trans hb
  · rcases events_step p ⟨σ.device.macs p, σ.sim⟩ e hev with hev | ⟨P, hP⟩
    · exact hσ.events ev hev
    · exact hP ▸ hσ.session p P

/-- A step from a `BandsOk` device leaves it on its standard or moves it to 802.11n 5 GHz. -/
theorem BandsOk.standard_step {σ σ' : DeviceSystem} {p : Nat} {e : MacEvent} (hσ : σ.BandsOk)
    (h : σ.step p e = some σ') :
    σ'.device.standard = σ.device.standard ∨ σ'.device.standard = .std80211n_5GHZ := by
  obtain ⟨d', hd, rfl⟩ := Option.map_eq_some'.mp h
  have hb : ∀ c, (σ.macOutcome p e).changeBand = some c → c.bandId.Proposable := fun c hc => by
    rcases changeBand_bandId p ⟨σ.device.macs p, σ.sim⟩ e hc with ⟨P, hP⟩ | ⟨ev, hev, hP⟩
    · exact hP ▸ hσ.session p P
    · exact hP ▸ hσ.events ev hev
  simpa using standard_callback hd hb

end DeviceSystem

namespace DevicePair

open MultiBandNetDevice MacSystem

/-- Both devices are `BandsOk`. -/
def BandsOk (ν : DevicePair) : Prop := ∀ s, (ν.dev s).BandsOk

/-- A received frame is one a MAC of a device queued. -/
theorem enabled_receive {ν : DevicePair} {ev : PairEvent} (he : ν.enabled ev = true)
    {item : WifiMacQueueItem} (hr : ev.target.2.2 = .receive item) :
    ∃ s q, item ∈ ((ν.dev s).device.macs q).txop := by
  cases ev with
  | atMac s p e =>
    cases e <;> simp [PairEvent.target] at hr
    simp [enabled] at he
  | deliver s q p item' =>
    cases hr
    exact ⟨s.other, q, by simpa [enabled] using he⟩

/-- One enabled step keeps `BandsOk` and leaves each device on its standard or moves it to
802.11n 5 GHz. -/
theorem BandsOk.step {ν ν' : DevicePair} {ev : PairEvent} (hν : ν.BandsOk)
    (he : ν.enabled ev = true) (h : ν.step ev = some ν') :
    ν'.BandsOk ∧ ∀ s, (ν'.dev s).device.standard = (ν.dev s).device.standard ∨
      (ν'.dev s).device.standard = .std80211n_5GHZ := by
  unfold DevicePair.step at h
  obtain ⟨σ', hσ, rfl⟩ := Option.map_eq_some'.mp h
  have hr : ∀ item b, ev.target.2.2 = .receive item → item.proposedBand = some b →
      b.Proposable := fun item b hi hb => by
    obtain ⟨s, q, hq⟩ := enabled_receive he hi
    exact (hν s).request q item hq b hb
  refine ⟨fun s => ?_, fun s => ?_⟩ <;> rw [dev_set] <;> split_ifs with hs
  · exact (hν _).step hr hσ
  · exact hν s
  · exact hs ▸ (hν _).standard_step hσ
  · exact .inl rfl

/-- Along any run of two devices whose MACs, frames and countdowns hold only bands FST can
propose, each device ends on the standard it started on or on 802.11n 5 GHz. -/
theorem fst_switches_only_to_5GHz {ν ν' : DevicePair} {es : List PairEvent} (hν : ν.BandsOk)
    (h : ν.run es = some ν') (s : Side) :
    (ν'.dev s).device.standard = (ν.dev s).device.standard ∨
      (ν'.dev s).device.standard = .std80211n_5GHZ := by
  induction es generalizing ν with
  | nil => cases h; exact .inl rfl
  | cons ev es ih =>
    simp only [run] at h
    split_ifs at h with he
    obtain ⟨ν₁, h₁, h⟩ := Option.bind_eq_some.mp h
    obtain ⟨hν₁, hs⟩ := hν.step he h₁
    rcases ih hν₁ h with h' | h'
    · exact h'.symm ▸ hs s
    · exact .inr h'

/-- The stations of `stationPair` hold no session, no frame and no countdown. -/
theorem stationPair_bandsOk : stationPair.BandsOk := by
  intro s
  refine ⟨fun x P => .inr ?_, fun x item hm => ?_, fun ev hev => ?_⟩
  · cases s <;> by_cases hx : x = 0 <;>
      simp [stationPair, dev, dualBandStation, dualBandDevice, RegularWifiMac.session, idleMac,
        FstSession.empty, hx]
  · cases s <;> by_cases hx : x = 0 <;>
      simp [stationPair, dev, dualBandStation, dualBandDevice, idleMac, hx] at hm
  · cases s <;> simp [stationPair, dev] at hev

theorem fst_switches_only_to_5GHz_on_switchRun :
    stationPair.BandsOk ∧ ∃ ν', stationPair.run switchRun = some ν' ∧
      ((ν'.dev .a).device.standard = (stationPair.dev .a).device.standard ∨
        (ν'.dev .a).device.standard = .std80211n_5GHZ) := by
  obtain ⟨ν', hν'⟩ := Option.isSome_iff_exists.mp (by decide : (stationPair.run switchRun).isSome)
  exact ⟨stationPair_bandsOk, ν', hν', fst_switches_only_to_5GHz stationPair_bandsOk hν' .a⟩

end DevicePair

end MultiBandFst
