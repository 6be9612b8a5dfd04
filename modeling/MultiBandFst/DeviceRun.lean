import MultiBandFst.BandSwitch

/-!
# A device running its MACs' FST code

A `DeviceSystem` is one `MultiBandNetDevice` with the scheduler. An event reaches one of
the device's MACs as in `MacSystem`; when that MAC calls `ChangeBand`, the band-changed
callback, which the device wires to all its MACs, runs `BandChanged` at once, inside the
handler, after the handler's own writes.

`changeBandSite` says which events call `ChangeBand` and with what: the two completions of
a setup with LLT 0, each passing its own literal initiator flag, and an expiring countdown.
`step_switches_band` says what the device then does: for the three bands `ChangeBand`
knows it switches to the registered technology of the mapped standard, for any other band
ID it does nothing, although the session already says `TRANSITION_DONE`.
-/

namespace MultiBandFst

namespace MacSystem

open RegularWifiMac

/-- The `ChangeBand` call an event makes, as the handlers' call sites have it: a success
Setup-Response received from `P`, or the `TxOk` of a Setup-Response to `P`, while `P`'s
session has LLT 0, calls it with the session's target band and the site's literal flag; an
expiring countdown calls it with the arguments it was scheduled with. -/
def changeBandSite (m : RegularWifiMac) (sim : Simulator) : MacEvent → Option ChangeBandCall
  | .receive ⟨⟨dst, P⟩, .fst (.setupResponse _ status)⟩ =>
    if dst = m.address ∧ status = 0 ∧ (m.session P).llt = 0 then
      some ⟨P, (m.session P).newBandId, true⟩ else none
  | .txOk ⟨⟨P, _⟩, .fst (.setupResponse ..)⟩ =>
    if (m.session P).llt = 0 then some ⟨P, (m.session P).newBandId, false⟩ else none
  | .expire => sim.fire.map fun f => ⟨f.1.peerStation, f.1.bandId, f.1.isInitiator⟩
  | _ => none

theorem changeBand_step (self : Nat) (σ : MacSystem) (e : MacEvent) :
    (σ.step self e).changeBand = changeBandSite σ.mac σ.sim e := by
  cases e with
  | receive item =>
    obtain ⟨⟨dst, P⟩, pkt⟩ := item
    by_cases hd : dst = σ.mac.address
    · subst hd
      rcases pkt with _ | (_ | ⟨_, status⟩ | _ | _ | _) <;> simp [changeBandSite]
      by_cases hs : status = 0 <;> simp [hs, completeSetup_changeBand]
    · rcases pkt with _ | (_ | _ | _ | _ | _) <;> simp [changeBandSite, hd]
  | txOk item =>
    obtain ⟨⟨P, src⟩, pkt⟩ := item
    rcases pkt with _ | (_ | _ | _ | _ | _) <;>
      simp [step, txOk, changeBandSite, completeSetup_changeBand]
  | macTxOk a | macRxOk a => exact resetLinkLossCountDown_changeBand ..
  | expire => simp only [step, changeBandSite]; split <;> simp_all
  | _ => rfl

end MacSystem

structure DeviceSystem where
  device : MultiBandNetDevice
  sim : Simulator

namespace DeviceSystem

open MultiBandNetDevice MacSystem

/-- What event `e` at the device's MAC `p` does to that MAC and to the scheduler. -/
def macOutcome (σ : DeviceSystem) (p : Nat) (e : MacEvent) : MacOutcome :=
  MacSystem.step p ⟨σ.device.macs p, σ.sim⟩ e

/-- The band-changed callback the device wires to its MACs: `ChangeBand` maps the band to
a standard, and `BandChanged` runs for it. -/
def bandChangedCallback (d : MultiBandNetDevice) : Option ChangeBandCall →
    Option MultiBandNetDevice
  | none => some d
  | some c => match RegularWifiMac.changeBand c.peerStation c.bandId c.isInitiator with
    | none => some d
    | some b => d.bandChanged b.standard b.address b.isInitiator

/-- Event `e` at the device's MAC `p`. A countdown runs the `ChangeBand` of the MAC that
scheduled it, which reads nothing of that MAC; the callback runs on the device. -/
def step (σ : DeviceSystem) (p : Nat) (e : MacEvent) : Option DeviceSystem :=
  (bandChangedCallback (σ.device.setMac p (σ.macOutcome p e).mac) (σ.macOutcome p e).changeBand).map
    (⟨·, (σ.macOutcome p e).sim⟩)

end DeviceSystem

end MultiBandFst
