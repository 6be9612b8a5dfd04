import MultiBandFst.DeviceRun
import MultiBandFst.SessionPair

/-!
# Two devices across a band switch

Two `MultiBandNetDevice`s, `a` and `b`, each a `DeviceSystem` with its scheduler. An event
reaches one MAC of one device: a call of the active MAC (`EstablishFastSessionTransferSession`
goes to `m_mac->SetupFSTSession`), the `TxOk` of a frame that MAC queued, `MacTxOk`/`MacRxOk`,
time, the countdown that MAC scheduled, or a frame one of the other device's MACs queued,
received in any order, any number of times or never. Each device keeps its own clock: a
countdown reads nothing of the other device, and delivery is unordered already.

Sessions live in each MAC's own `m_fstSessionMap`, and `BandChanged` moves queues but no
session (`session_callback`). Over a whole run, a MAC's record for a peer changes key only by
that MAC's own `SetupFSTSession` or received Setup-Request (`key_run`), so a MAC that took
no part in the setup holds the default record, and its Ack-Request names ID 0
(`uninstalled_mac_holds_default`). `switched_handshake_loses_session` is such a run.
-/

namespace MultiBandFst

namespace DeviceSystem

open RegularWifiMac MultiBandNetDevice MacSystem

/-- The band-changed callback moves no session. -/
theorem session_callback {d d' : MultiBandNetDevice} {c : Option ChangeBandCall}
    (h : bandChangedCallback d c = some d') (x : Nat) (P : Mac48Address) :
    (d'.macs x).session P = (d.macs x).session P := by
  cases c with
  | none => cases h; rfl
  | some c =>
    simp only [bandChangedCallback] at h
    split at h
    · cases h; rfl
    · obtain ⟨o, n, -, ho, hn, -, -⟩ := bandChanged_eq_some.mp h
      exact bandChanged_session h ho hn x P

/-- A device step changes only the session keys of the MAC the event reaches, as its
handler does. -/
theorem key_macs_step {σ σ' : DeviceSystem} {p : Nat} {e : MacEvent} (h : σ.step p e = some σ')
    (x : Nat) (P : Mac48Address) :
    ((σ'.device.macs x).session P).key = if x = p then
        (sessionInstall (σ.device.macs p) P e).getD ((σ.device.macs p).session P).key
      else ((σ.device.macs x).session P).key := by
  obtain ⟨d', hd, rfl⟩ := Option.map_eq_some'.mp h
  rw [show (d'.macs x).session P = _ from session_callback hd x P, setMac_macs]
  split_ifs with hx
  · subst hx; exact key_step x ⟨σ.device.macs x, σ.sim⟩ e P
  · rfl

/-- A call of the active MAC's `SetupFSTSession` is the device's
`EstablishFastSessionTransferSession`. -/
theorem step_setupFSTSession_of_active (σ : DeviceSystem) {p : Nat} (hp : σ.device.mac = some p)
    (a : Mac48Address) : σ.step p (.setupFSTSession a) =
      (σ.device.establishFastSessionTransferSession a).map (⟨·, σ.sim⟩) := by
  simp [step, macOutcome, bandChangedCallback, establishFastSessionTransferSession, hp]

end DeviceSystem

namespace MacEvent

/-- The two events that install a session for `P`: a `SetupFSTSession (P)` call and a
Setup-Request from `P`. -/
def installs (P : Mac48Address) : MacEvent → Bool
  | .setupFSTSession a => a = P
  | .receive ⟨⟨_, sender⟩, .fst (.setupRequest ..)⟩ => sender = P
  | _ => false

theorem sessionInstall_of_installs {m : RegularWifiMac} {P : Mac48Address} {e : MacEvent}
    (h : e.installs P = false) : MacSystem.sessionInstall m P e = none := by
  cases e with
  | setupFSTSession a => simpa [installs, MacSystem.sessionInstall] using h
  | receive item =>
    obtain ⟨⟨dst, sender⟩, pkt⟩ := item
    rcases pkt with _ | (_ | _ | _ | _ | _) <;> simp_all [installs, MacSystem.sessionInstall]
  | _ => rfl

end MacEvent

def Side.other : Side → Side
  | .a => .b
  | .b => .a

/-- Two multi-band devices, each with its scheduler. -/
structure DevicePair where
  a : DeviceSystem
  b : DeviceSystem

inductive PairEvent
  /-- Event `e` at MAC `p` of side `s`. -/
  | atMac (s : Side) (p : Nat) (e : MacEvent)
  /-- The frame `item`, queued at MAC `q` of the other side, received by MAC `p` of `s`. -/
  | deliver (s : Side) (q p : Nat) (item : WifiMacQueueItem)
  deriving DecidableEq

/-- The side, the MAC and the MAC event an event comes to. -/
def PairEvent.target : PairEvent → Side × Nat × MacEvent
  | .atMac s p e => (s, p, e)
  | .deliver s _ p item => (s, p, .receive item)

/-- The event installs a session for `P` at MAC `x` of side `s`. -/
def PairEvent.installs (s : Side) (x : Nat) (P : Mac48Address) (ev : PairEvent) : Bool :=
  ev.target.1 = s && ev.target.2.1 = x && ev.target.2.2.installs P

namespace DevicePair

open MultiBandNetDevice MacSystem

def dev (ν : DevicePair) : Side → DeviceSystem
  | .a => ν.a
  | .b => ν.b

def set (ν : DevicePair) : Side → DeviceSystem → DevicePair
  | .a, σ => { ν with a := σ }
  | .b, σ => { ν with b := σ }

@[simp] theorem dev_set (ν : DevicePair) (s t : Side) (σ : DeviceSystem) :
    (ν.set s σ).dev t = if t = s then σ else ν.dev t := by
  cases s <;> cases t <;> rfl

/-- What the code does with an event: the device of its side runs it on its MAC. `none` is
a null dereference in `BandChanged`. -/
def step (ν : DevicePair) (ev : PairEvent) : Option DevicePair :=
  ((ν.dev ev.target.1).step ev.target.2.1 ev.target.2.2).map (ν.set ev.target.1)

/-- What the environment may do. Calls go to the active MAC; a MAC gets the `TxOk` of a
frame it queued and the countdowns it scheduled; a delivered frame is one the other
device's MAC queued. `Receive` comes only by delivery and `NotifyBandChanged` only from
`BandChanged`. -/
def enabled (ν : DevicePair) : PairEvent → Bool
  | .atMac s p (.setupFSTSession _) | .atMac s p (.sendFstTearDownFrame _) =>
    (ν.dev s).device.mac = some p
  | .atMac s p (.txOk item) => item ∈ ((ν.dev s).device.macs p).txop
  | .atMac _ _ (.receive _) | .atMac _ _ (.notifyBandChanged ..) => false
  | .atMac s p .expire => (ν.dev s).sim.fire.all (·.1.owner == p)
  | .atMac _ _ _ => true
  | .deliver s q _ item => item ∈ ((ν.dev s.other).device.macs q).txop

/-- A run of enabled events; `none` if one is not enabled or dereferences a null handle. -/
def run : DevicePair → List PairEvent → Option DevicePair
  | ν, [] => some ν
  | ν, ev :: es => if ν.enabled ev then (ν.step ev).bind (run · es) else none

/-- One step keeps the key of every record but those the event installs. -/
theorem key_step {ν ν' : DevicePair} {ev : PairEvent} (h : ν.step ev = some ν') (s : Side)
    (x : Nat) (P : Mac48Address) (hi : ev.installs s x P = false) :
    (((ν'.dev s).device.macs x).session P).key = (((ν.dev s).device.macs x).session P).key := by
  unfold step at h
  unfold PairEvent.installs at hi
  generalize ev.target = tg at h hi
  obtain ⟨t, p, e⟩ := tg
  obtain ⟨σ', hσ, rfl⟩ := Option.map_eq_some'.mp h
  rw [dev_set]
  split_ifs with hs
  · subst hs
    rw [DeviceSystem.key_macs_step hσ x P]
    split_ifs with hx
    · subst hx
      simp only [decide_True, Bool.true_and] at hi
      rw [MacEvent.sessionInstall_of_installs hi]
      rfl
    · rfl
  · rfl

/-- Along a run, a record's key changes only by an event that installs it. -/
theorem key_run {ν ν' : DevicePair} {es : List PairEvent} (h : ν.run es = some ν') (s : Side)
    (x : Nat) (P : Mac48Address) (hi : ∀ ev ∈ es, ev.installs s x P = false) :
    (((ν'.dev s).device.macs x).session P).key = (((ν.dev s).device.macs x).session P).key := by
  induction es generalizing ν with
  | nil => cases h; rfl
  | cons ev es ih =>
    simp only [run] at h
    split_ifs at h
    obtain ⟨ν₁, h₁, h⟩ := Option.bind_eq_some.mp h
    rw [ih h fun ev' hm => hi ev' (List.mem_cons_of_mem _ hm)]
    exact key_step h₁ s x P (hi ev (List.mem_cons_self _ _))

/-- On a run from devices whose MACs hold no session, a MAC that never called
`SetupFSTSession (P)` and never received a Setup-Request from `P` holds for `P` only the
record `m_fstSessionMap[P]` inserts: ID 0, target band 0, LLT 0, not the initiator's. Its
`NotifyBandChanged` as an initiator queues an Ack-Request with FSTS ID 0. -/
theorem uninstalled_mac_holds_default {ν ν' : DevicePair} {es : List PairEvent}
    (hfresh : ∀ s x, ((ν.dev s).device.macs x).fstSessionMap = fun _ => none)
    (h : ν.run es = some ν') (s : Side) (x : Nat) (P : Mac48Address)
    (hi : ∀ ev ∈ es, ev.installs s x P = false) :
    (((ν'.dev s).device.macs x).session P).key = FstSession.empty.key ∧
      (((ν'.dev s).device.macs x).ackRequestFrame P).packet = .fst (.ackRequest 0 0) := by
  have hk := key_run h s x P hi
  rw [show ((ν.dev s).device.macs x).session P = FstSession.empty by
    simp [RegularWifiMac.session, hfresh]] at hk
  refine ⟨hk, ?_⟩
  have hid := congrArg Prod.fst hk
  simp only [FstSession.key] at hid
  simp [RegularWifiMac.ackRequestFrame, hid, FstSession.empty]

/-- The dual-band station of `dualBandDevice` at `address`, with LLT `llt` on both MACs. -/
def dualBandStation (address : Mac48Address) (llt : UInt32) : MultiBandNetDevice :=
  { dualBandDevice [] with
    macs := fun x => { (dualBandDevice []).macs x with address := address, llt := llt } }

/-- Two such stations with LLT 0, at `stationA` and `stationB`, at time 0. -/
def stationPair : DevicePair :=
  ⟨⟨dualBandStation stationA 0, ⟨0, 0, []⟩⟩, ⟨dualBandStation stationB 0, ⟨0, 0, []⟩⟩⟩

/-- The frames of session 1 between the two stations. -/
def setupRequestAB : WifiMacQueueItem :=
  ⟨⟨stationB, stationA⟩, .fst (.setupRequest 10 ⟨1, .band4_9GHz, .band60GHz⟩ 0)⟩

def setupResponseBA : WifiMacQueueItem := ⟨⟨stationA, stationB⟩, .fst (.setupResponse 10 0)⟩

def ackRequestAB (fstsID : UInt32) : WifiMacQueueItem :=
  ⟨⟨stationB, stationA⟩, .fst (.ackRequest 0 fstsID)⟩

def ackResponseBA (fstsID : UInt32) : WifiMacQueueItem :=
  ⟨⟨stationA, stationB⟩, .fst (.ackResponse 0 fstsID)⟩

/-- `a` sets up session 1 with `b` on 60 GHz, the Setup-Response completes it at both ends
and both switch to 5 GHz; `a`'s new MAC sends its Ack-Request, `b`'s new MAC answers, both
get the Ack-Response through, and `a` tears the session down. -/
def switchRun : List PairEvent :=
  [.atMac .a 0 (.setupFSTSession stationB), .deliver .b 0 0 setupRequestAB,
   .deliver .a 0 0 setupResponseBA, .atMac .b 0 (.txOk setupResponseBA),
   .deliver .b 1 1 (ackRequestAB 0), .deliver .a 1 1 (ackResponseBA 0),
   .atMac .b 1 (.txOk (ackResponseBA 0)), .atMac .a 1 (.sendFstTearDownFrame stationB)]

/-- After `switchRun`, session 1's records are still `TRANSITION_DONE` on the 60 GHz MACs;
the records in `TRANSITION_CONFIRMED` are default entries of the 5 GHz MACs, and the
Ack-Request, the Ack-Response and the Teardown carry FSTS ID 0. -/
theorem switched_handshake_loses_session :
    (stationPair.run switchRun).map (fun ν =>
      (((ν.a.device.macs 0).session stationB, (ν.b.device.macs 0).session stationA),
        ((ν.a.device.macs 1).session stationB, (ν.b.device.macs 1).session stationA),
        ((ν.a.device.macs 1).txop, (ν.b.device.macs 1).txop))) =
      some ((⟨1, .transitionDone, true, .band4_9GHz, 0, none⟩,
          ⟨1, .transitionDone, false, .band4_9GHz, 0, none⟩),
        (⟨0, .transitionConfirmed, false, ⟨0⟩, 0, none⟩,
          ⟨0, .transitionConfirmed, false, ⟨0⟩, 0, none⟩),
        ([setupRequestAB, ackRequestAB 0, ⟨⟨stationB, stationA⟩, .fst (.tearDown 0)⟩],
          [setupResponseBA, ackResponseBA 0])) := by
  decide

/-- `a`'s 5 GHz MAC takes part in `switchRun` without installing a session for `stationB`. -/
theorem uninstalled_mac_holds_default_on_switchRun :
    (∀ s x, ((stationPair.dev s).device.macs x).fstSessionMap = fun _ => none) ∧
    ∃ ν', stationPair.run switchRun = some ν' ∧
      (∀ ev ∈ switchRun, ev.installs .a 1 stationB = false) ∧
      (((ν'.dev .a).device.macs 1).session stationB).key = FstSession.empty.key ∧
      (((ν'.dev .a).device.macs 1).ackRequestFrame stationB).packet = .fst (.ackRequest 0 0) := by
  have hfresh : ∀ s x, ((stationPair.dev s).device.macs x).fstSessionMap = fun _ => none :=
    fun s x => by
      cases s <;> by_cases hx : x = 0 <;>
        simp [stationPair, dev, dualBandStation, dualBandDevice, idleMac, hx]
  have hi : ∀ ev ∈ switchRun, ev.installs .a 1 stationB = false := by decide
  obtain ⟨ν', hν'⟩ := Option.isSome_iff_exists.mp (by decide : (stationPair.run switchRun).isSome)
  exact ⟨hfresh, ν', hν', hi, uninstalled_mac_holds_default hfresh hν' .a 1 stationB hi⟩

end DevicePair

end MultiBandFst
