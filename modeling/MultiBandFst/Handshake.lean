import MultiBandFst.RegularWifiMac
import Mathlib.Data.List.Nodup

/-!
# One MAC's FST sessions over any sequence of events

A `MacSystem` is one `RegularWifiMac` with the scheduler. Its events are everything that
reaches the FST code: `SetupFSTSession` and `SendFstTearDownFrame` calls, any received
frame, the `TxOk` of any frame, `MacTxOk`/`MacRxOk`, `NotifyBandChanged` from the device,
time passing, and the scheduler running its next countdown. A step hands back the
`ChangeBand` it called.

`session_state_step` is the handshake graph as the code walks it: six moves, none of them
guarded by the session's current state or its role.
-/

namespace MultiBandFst

structure MacSystem where
  mac : RegularWifiMac
  sim : Simulator

inductive MacEvent
  | setupFSTSession (staAddress : Mac48Address)
  | sendFstTearDownFrame (dest : Mac48Address)
  | receive (item : WifiMacQueueItem)
  | txOk (item : WifiMacQueueItem)
  | macTxOk (address : Mac48Address)
  | macRxOk (address : Mac48Address)
  | notifyBandChanged (standard : WifiPhyStandard) (address : Mac48Address) (isInitiator : Bool)
  | advance (t : Nat)
  | expire
  deriving DecidableEq, Repr

namespace MacSystem

open RegularWifiMac

/-- One event on the MAC `self`; a countdown that expires calls `ChangeBand` with the
arguments it was scheduled with. -/
def step (self : Nat) (σ : MacSystem) : MacEvent → MacOutcome
  | .setupFSTSession a => ⟨σ.mac.setupFSTSession a, σ.sim, none⟩
  | .sendFstTearDownFrame a => ⟨σ.mac.sendFstTearDownFrame a, σ.sim, none⟩
  | .receive item => σ.mac.receive self σ.sim item
  | .txOk item => σ.mac.txOk self σ.sim item
  | .macTxOk a => σ.mac.macTxOk self σ.sim a
  | .macRxOk a => σ.mac.macRxOk self σ.sim a
  | .notifyBandChanged std a i => ⟨σ.mac.notifyBandChanged std a i, σ.sim, none⟩
  | .advance t => ⟨σ.mac, σ.sim.advance t, none⟩
  | .expire => match σ.sim.fire with
    | none => ⟨σ.mac, σ.sim, none⟩
    | some (e, sim) => ⟨σ.mac, sim, some ⟨e.peerStation, e.bandId, e.isInitiator⟩⟩

def next (self : Nat) (σ : MacSystem) (e : MacEvent) : MacSystem :=
  ⟨(σ.step self e).mac, (σ.step self e).sim⟩

def run (self : Nat) : MacSystem → List MacEvent → MacSystem
  | σ, [] => σ
  | σ, e :: es => run self (σ.next self e) es

@[simp] theorem next_mac (self : Nat) (σ : MacSystem) (e : MacEvent) :
    (σ.next self e).mac = (σ.step self e).mac := rfl

@[simp] theorem next_sim (self : Nat) (σ : MacSystem) (e : MacEvent) :
    (σ.next self e).sim = (σ.step self e).sim := rfl

@[simp] theorem step_receive (self : Nat) (σ : MacSystem) (item : WifiMacQueueItem) :
    σ.step self (.receive item) = σ.mac.receive self σ.sim item := rfl

@[simp] theorem step_txOk (self : Nat) (σ : MacSystem) (item : WifiMacQueueItem) :
    σ.step self (.txOk item) = σ.mac.txOk self σ.sim item := rfl

@[simp] theorem step_macTxOk (self : Nat) (σ : MacSystem) (a : Mac48Address) :
    σ.step self (.macTxOk a) = resetLinkLossCountDown self σ.mac σ.sim a := rfl

@[simp] theorem step_macRxOk (self : Nat) (σ : MacSystem) (a : Mac48Address) :
    σ.step self (.macRxOk a) = resetLinkLossCountDown self σ.mac σ.sim a := rfl

@[simp] theorem step_setupFSTSession (self : Nat) (σ : MacSystem) (a : Mac48Address) :
    σ.step self (.setupFSTSession a) = ⟨σ.mac.setupFSTSession a, σ.sim, none⟩ := rfl

@[simp] theorem step_sendFstTearDownFrame (self : Nat) (σ : MacSystem) (a : Mac48Address) :
    σ.step self (.sendFstTearDownFrame a) = ⟨σ.mac.sendFstTearDownFrame a, σ.sim, none⟩ := rfl

@[simp] theorem step_notifyBandChanged (self : Nat) (σ : MacSystem) (std : WifiPhyStandard)
    (a : Mac48Address) (i : Bool) :
    σ.step self (.notifyBandChanged std a i) = ⟨σ.mac.notifyBandChanged std a i, σ.sim, none⟩ :=
  rfl

@[simp] theorem step_advance (self : Nat) (σ : MacSystem) (t : Nat) :
    σ.step self (.advance t) = ⟨σ.mac, σ.sim.advance t, none⟩ := rfl

/-- The systems a MAC reaches from an empty session table and an empty event queue. -/
inductive Reachable (self : Nat) : MacSystem → Prop
  | init (m : RegularWifiMac) (sim : Simulator) :
      m.fstSessionMap = (fun _ => none) → sim.events = [] → Reachable self ⟨m, sim⟩
  | step {σ : MacSystem} (e : MacEvent) : Reachable self σ → Reachable self (σ.next self e)

/-- The handshake graph as the code walks it: the state event `e` moves P's session `s`
to, if it moves it. `me` is the MAC's own address. -/
def handshakeMove (me P : Mac48Address) (s : FstSession) : MacEvent → Option FstSessionState
  | .setupFSTSession a => if a = P then some .initial else none
  | .receive ⟨⟨dst, sender⟩, .fst x⟩ =>
    if dst = me ∧ sender = P then
      match x with
      | .setupRequest .. => some .initial
      | .setupResponse _ status => if status = 0 then some (setupDoneState s.llt) else none
      | .tearDown _ => some .initial
      | .ackRequest .. => none
      | .ackResponse .. => some .transitionConfirmed
    else none
  | .txOk ⟨⟨dst, _⟩, .fst (.setupResponse ..)⟩ =>
    if dst = P then some (setupDoneState s.llt) else none
  | .txOk ⟨⟨dst, _⟩, .fst (.ackResponse ..)⟩ =>
    if dst = P then some .transitionConfirmed else none
  | _ => none

/-- The state of P's session after one event: the move `handshakeMove` names, or the old
state. -/
theorem currentState_step (self : Nat) (σ : MacSystem) (e : MacEvent) (P : Mac48Address) :
    ((σ.step self e).mac.session P).currentState =
      (handshakeMove σ.mac.address P (σ.mac.session P) e).getD
        (σ.mac.session P).currentState := by
  cases e with
  | setupFSTSession a =>
    by_cases h : P = a
    · subst h; simp [handshakeMove, session_setupFSTSession]
    · simp [handshakeMove, session_setupFSTSession, h, Ne.symm h]
  | sendFstTearDownFrame a => simp [step, sendFstTearDownFrame, handshakeMove]
  | receive item =>
    obtain ⟨⟨dst, sender⟩, pkt⟩ := item
    by_cases hd : dst = σ.mac.address
    · subst hd
      cases pkt with
      | data _ => simp [step, receive, handshakeMove]
      | fst x =>
        by_cases hs : sender = P
        · subst hs
          cases x <;> simp [step, receive, handshakeMove, session_putSession,
            completeSetup_session, sendFstSetupResponse, sendFstAckResponse,
            session_confirmTransition]
          split <;> simp [completeSetup_session]
        · cases x <;> simp [step, receive, handshakeMove, session_putSession,
            completeSetup_session, sendFstSetupResponse, sendFstAckResponse,
            session_confirmTransition, Ne.symm hs, hs]
          split <;> simp [completeSetup_session, Ne.symm hs]
    · cases pkt <;> simp [step, receive, handshakeMove, hd]
  | txOk item =>
    obtain ⟨⟨dst, src⟩, pkt⟩ := item
    by_cases hP : dst = P
    · subst hP
      rcases pkt with _ | (_ | _ | _ | _ | _) <;>
        simp [step, txOk, handshakeMove, completeSetup_session, session_confirmTransition,
          setupDoneState]
    · rcases pkt with _ | (_ | _ | _ | _ | _) <;>
        simp [step, txOk, handshakeMove, completeSetup_session, session_confirmTransition, hP,
          Ne.symm hP]
  | macTxOk a => simp [step, macTxOk, resetLinkLossCountDown_state, handshakeMove]
  | macRxOk a => simp [step, macRxOk, resetLinkLossCountDown_state, handshakeMove]
  | notifyBandChanged std a i => simp [step, session_notifyBandChanged, handshakeMove]
  | advance t => simp [step, handshakeMove]
  | expire => simp only [step, handshakeMove]; split <;> rfl

/-- A move reads the session only through its LLT: never its state, its role or its ID. -/
theorem handshakeMove_of_llt_eq (me P : Mac48Address) {s s' : FstSession}
    (h : s'.llt = s.llt) (e : MacEvent) : handshakeMove me P s' e = handshakeMove me P s e := by
  unfold handshakeMove
  rw [h]

/-- The state of P's session after any event is the move of the handshake graph the event
names, or the old state; and the move does not depend on the state, the role or the ID of
the session, only on its LLT. -/
theorem session_state_step (self : Nat) (σ : MacSystem) (e : MacEvent) (P : Mac48Address) :
    ((σ.step self e).mac.session P).currentState =
      (handshakeMove σ.mac.address P (σ.mac.session P) e).getD
        (σ.mac.session P).currentState ∧
    ∀ s : FstSession, s.llt = (σ.mac.session P).llt →
      handshakeMove σ.mac.address P s e = handshakeMove σ.mac.address P (σ.mac.session P) e :=
  ⟨currentState_step self σ e P, fun _ h => handshakeMove_of_llt_eq _ _ h e⟩

/-- The frames a MAC queues in reply to an event, all from its own address. -/
def sentFrames (m : RegularWifiMac) : MacEvent → List WifiMacQueueItem
  | .setupFSTSession a =>
    [⟨⟨a, m.address⟩, .fst (.setupRequest 10 ⟨m.fstId + 1, .band4_9GHz, .band60GHz⟩ m.llt)⟩]
  | .sendFstTearDownFrame a => [⟨⟨a, m.address⟩, .fst (.tearDown 0)⟩]
  | .receive ⟨⟨dst, sender⟩, .fst (.setupRequest tok _ _)⟩ =>
    if dst = m.address then [⟨⟨sender, m.address⟩, .fst (.setupResponse tok 0)⟩] else []
  | .receive ⟨⟨dst, sender⟩, .fst (.ackRequest tok fstsID)⟩ =>
    if dst = m.address then [⟨⟨sender, m.address⟩, .fst (.ackResponse tok fstsID)⟩] else []
  | .notifyBandChanged _ a i =>
    if i then [⟨⟨a, m.address⟩, .fst (.ackRequest 0 (m.session a).id)⟩] else []
  | _ => []

theorem txop_step (self : Nat) (σ : MacSystem) (e : MacEvent) :
    (σ.step self e).mac.txop = σ.mac.txop ++ sentFrames σ.mac e := by
  have hr : ∀ a, (resetLinkLossCountDown self σ.mac σ.sim a).mac.txop = σ.mac.txop := fun a => by
    rcases resetLinkLossCountDown_mac self σ.mac σ.sim a with h | ⟨s, h⟩ <;> simp [h]
  cases e with
  | receive item =>
    obtain ⟨⟨dst, P⟩, pkt⟩ := item
    by_cases hd : dst = σ.mac.address
    · subst hd
      rcases pkt with _ | (_ | ⟨_, status⟩ | _ | _ | _) <;>
        simp [sentFrames, sendFstSetupResponse, sendFstAckResponse, queueFst, confirmTransition]
      split <;> simp [completeSetup_txop]
    · rcases pkt with _ | (_ | _ | _ | _ | _) <;> simp [sentFrames, hd]
  | txOk item =>
    obtain ⟨⟨P, src⟩, pkt⟩ := item
    rcases pkt with _ | (_ | _ | _ | _ | _) <;>
      simp [step, txOk, sentFrames, completeSetup_txop, confirmTransition]
  | macTxOk a | macRxOk a => simp [step, macTxOk, macRxOk, sentFrames, hr]
  | notifyBandChanged std a i =>
    cases i <;> simp [step, notifyBandChanged, sendFstAckRequest, queueFst, sentFrames]
  | expire => simp only [step, sentFrames, List.append_nil]; split <;> rfl
  | setupFSTSession a => simp [step, setupFSTSession, queueFst, sentFrames]
  | sendFstTearDownFrame a => simp [step, sendFstTearDownFrame, queueFst, sentFrames]
  | advance t => simp [step, sentFrames]

theorem address_step (self : Nat) (σ : MacSystem) (e : MacEvent) :
    (σ.step self e).mac.address = σ.mac.address := by
  have hc : ∀ P i, (completeSetup self σ.mac σ.sim P i).mac.address = σ.mac.address :=
    fun P i => by obtain ⟨s, h⟩ := completeSetup_mac self σ.mac σ.sim P i; simp [h]
  have hr : ∀ a, (resetLinkLossCountDown self σ.mac σ.sim a).mac.address = σ.mac.address :=
    fun a => by
      rcases resetLinkLossCountDown_mac self σ.mac σ.sim a with h | ⟨s, h⟩ <;> simp [h]
  cases e with
  | receive item =>
    obtain ⟨⟨dst, P⟩, pkt⟩ := item
    by_cases hd : dst = σ.mac.address
    · subst hd
      rcases pkt with _ | (_ | ⟨_, status⟩ | _ | _ | _) <;>
        simp [sendFstSetupResponse, sendFstAckResponse, confirmTransition]
      split <;> simp [hc]
    · rcases pkt with _ | (_ | _ | _ | _ | _) <;> simp [hd]
  | txOk item =>
    obtain ⟨⟨P, src⟩, pkt⟩ := item
    rcases pkt with _ | (_ | _ | _ | _ | _) <;> simp [step, txOk, hc, confirmTransition]
  | macTxOk a | macRxOk a => simp [step, macTxOk, macRxOk, hr]
  | notifyBandChanged std a i => cases i <;> simp [step, notifyBandChanged, sendFstAckRequest]
  | expire => simp only [step]; split <;> rfl
  | setupFSTSession a => simp [step, setupFSTSession]
  | sendFstTearDownFrame a => simp [step, sendFstTearDownFrame]
  | advance t => rfl

/-- The key of the session an event installs for `P` in place of the old one: a
`SetupFSTSession (P)` call, or a Setup-Request received from `P`. -/
def sessionInstall (m : RegularWifiMac) (P : Mac48Address) :
    MacEvent → Option (UInt32 × BandID × UInt32 × Bool)
  | .setupFSTSession a => if a = P then some (m.fstId + 1, .band4_9GHz, m.llt, true) else none
  | .receive ⟨⟨dst, sender⟩, .fst (.setupRequest _ st llt)⟩ =>
    if dst = m.address ∧ sender = P then some (st.fstsID, st.newBand, llt, false) else none
  | _ => none

/-- Only the two installs change a session's key; every other move keeps it. -/
theorem key_step (self : Nat) (σ : MacSystem) (e : MacEvent) (P : Mac48Address) :
    ((σ.step self e).mac.session P).key =
      (sessionInstall σ.mac P e).getD (σ.mac.session P).key := by
  cases e with
  | setupFSTSession a =>
    by_cases h : P = a
    · subst h; simp [sessionInstall, session_setupFSTSession, FstSession.key]
    · simp [sessionInstall, session_setupFSTSession, h, Ne.symm h]
  | receive item =>
    obtain ⟨⟨dst, sender⟩, pkt⟩ := item
    by_cases hd : dst = σ.mac.address
    · subst hd
      by_cases hs : sender = P
      · subst hs
        rcases pkt with _ | (_ | ⟨_, status⟩ | _ | _ | _) <;>
          simp [sessionInstall, session_putSession, sendFstSetupResponse, sendFstAckResponse,
            session_confirmTransition, FstSession.key]
        split <;> simp [completeSetup_session, FstSession.key]
      · rcases pkt with _ | (_ | ⟨_, status⟩ | _ | _ | _) <;>
          simp [sessionInstall, session_putSession, sendFstSetupResponse, sendFstAckResponse,
            session_confirmTransition, Ne.symm hs, hs]
        split <;> simp [completeSetup_session, Ne.symm hs]
    · rcases pkt with _ | (_ | _ | _ | _ | _) <;> simp [sessionInstall, hd]
  | txOk item =>
    obtain ⟨⟨dst, src⟩, pkt⟩ := item
    by_cases hP : P = dst
    · subst hP
      rcases pkt with _ | (_ | _ | _ | _ | _) <;>
        simp [step, txOk, sessionInstall, completeSetup_session, session_confirmTransition,
          FstSession.key]
    · rcases pkt with _ | (_ | _ | _ | _ | _) <;>
        simp [step, txOk, sessionInstall, completeSetup_session, session_confirmTransition, hP]
  | macTxOk a | macRxOk a =>
    simp only [step, macTxOk, macRxOk, resetLinkLossCountDown_session, sessionInstall,
      Option.getD_none]
    split <;> simp_all [FstSession.key]
  | notifyBandChanged std a i => simp [step, session_notifyBandChanged, sessionInstall]
  | sendFstTearDownFrame a => simp [step, sendFstTearDownFrame, sessionInstall]
  | advance t => rfl
  | expire => simp only [step, sessionInstall]; split <;> rfl

/-- Two stations for the runs below. -/
def stationA : Mac48Address := ⟨0xA⟩
def stationB : Mac48Address := ⟨0xB⟩

/-- A MAC at `stationA` with LLT 5, no session and an empty queue, and its system at time 0. -/
def idleMac : RegularWifiMac :=
  ⟨stationA, .dmgSta, stationA, 0, [], fun _ => ⟨[], fun _ => none⟩, 0, 5, fun _ => none⟩

def idleSystem : MacSystem := ⟨idleMac, ⟨0, 0, []⟩⟩

/-- `idleMac` after it answered a Setup-Request from `stationB` for session 1. -/
def respondedMac : RegularWifiMac :=
  (idleSystem.next 0
    (.receive ⟨⟨stationA, stationB⟩, .fst (.setupRequest 1 ⟨1, .band4_9GHz, .band60GHz⟩ 5)⟩)).mac

/-- A responder's session still in `initial` jumps to `transitionConfirmed` on an
Ack-Response: the move is not guarded by the state. -/
theorem ackResponse_jumps_initial_to_confirmed :
    (respondedMac.session stationB).currentState = .initial ∧
      ((respondedMac.receive 0 idleSystem.sim
        ⟨⟨stationA, stationB⟩, .fst (.ackResponse 0 1)⟩).mac.session stationB).currentState =
          .transitionConfirmed := by
  decide

/-- `Receive` never compares an FSTS ID with the session's, and never checks that the
sender has a session: it reaches the record through `m_fstSessionMap[P]`, which inserts the
default one. A Teardown or an Ack-Response from any peer sets the state of its record,
whatever ID it carries; an Ack-Request is answered with one Ack-Response carrying its own
token and ID, and the table, the scheduler and the rest of the MAC stay as they were. For a
peer with no record, a Teardown or an Ack-Response creates one, and a success
Setup-Response creates one in `TRANSITION_DONE` and calls `ChangeBand` with its band. -/
theorem receive_ignores_fstsID (self : Nat) (m : RegularWifiMac) (sim : Simulator)
    (P : Mac48Address) (tok : UInt8) (fstsID : UInt32) :
    m.receive self sim ⟨⟨m.address, P⟩, .fst (.tearDown fstsID)⟩ =
        ⟨m.putSession P { m.session P with currentState := .initial }, sim, none⟩ ∧
    m.receive self sim ⟨⟨m.address, P⟩, .fst (.ackResponse tok fstsID)⟩ =
        ⟨m.putSession P { m.session P with currentState := .transitionConfirmed }, sim, none⟩ ∧
    m.receive self sim ⟨⟨m.address, P⟩, .fst (.ackRequest tok fstsID)⟩ =
        ⟨{ m with txop := m.txop ++ [⟨⟨P, m.address⟩, .fst (.ackResponse tok fstsID)⟩] }, sim,
          none⟩ ∧
    (m.fstSessionMap P = none →
      (m.receive self sim ⟨⟨m.address, P⟩, .fst (.tearDown fstsID)⟩).mac.fstSessionMap P =
        some FstSession.empty ∧
      (m.receive self sim ⟨⟨m.address, P⟩, .fst (.ackResponse tok fstsID)⟩).mac.fstSessionMap
        P = some { FstSession.empty with currentState := .transitionConfirmed } ∧
      m.receive self sim ⟨⟨m.address, P⟩, .fst (.setupResponse tok 0)⟩ =
        ⟨m.putSession P { FstSession.empty with currentState := .transitionDone }, sim,
          some ⟨P, FstSession.empty.newBandId, true⟩⟩) := by
  refine ⟨by simp [receive], by simp [receive, confirmTransition],
    by simp [receive, sendFstAckResponse, queueFst], fun hs => ?_⟩
  have he : m.session P = .empty := by simp [session, hs]
  refine ⟨?_, ?_, ?_⟩ <;>
    simp [receive, confirmTransition, completeSetup, putSession, he, FstSession.empty]

/-- `stationB` has no record at `idleMac`: a Teardown with ID 9 creates the default
record, an Ack-Response with ID 9 creates one in `TRANSITION_CONFIRMED`, and a success
Setup-Response creates one in `TRANSITION_DONE` and calls `ChangeBand` for band 0. -/
theorem receive_ignores_fstsID_from_stranger :
    idleMac.fstSessionMap stationB = none ∧
    (idleMac.receive 0 idleSystem.sim
        ⟨⟨idleMac.address, stationB⟩, .fst (.tearDown 9)⟩).mac.fstSessionMap stationB =
      some FstSession.empty ∧
    (idleMac.receive 0 idleSystem.sim
        ⟨⟨idleMac.address, stationB⟩, .fst (.ackResponse 0 9)⟩).mac.fstSessionMap stationB =
      some { FstSession.empty with currentState := .transitionConfirmed } ∧
    idleMac.receive 0 idleSystem.sim ⟨⟨idleMac.address, stationB⟩, .fst (.setupResponse 0 0)⟩ =
      ⟨idleMac.putSession stationB { FstSession.empty with currentState := .transitionDone },
        idleSystem.sim, some ⟨stationB, FstSession.empty.newBandId, true⟩⟩ :=
  ⟨rfl, (receive_ignores_fstsID 0 idleMac idleSystem.sim stationB 0 9).2.2.2 rfl⟩

/-- An Ack-Response from a peer with no session creates one, in `transitionConfirmed`. -/
theorem ackResponse_from_stranger_creates_session :
    idleMac.fstSessionMap stationB = none ∧
      ((idleMac.receive 0 idleSystem.sim
        ⟨⟨stationA, stationB⟩, .fst (.ackResponse 0 7)⟩).mac.fstSessionMap stationB).map
          (·.currentState) = some .transitionConfirmed := by
  decide

/-- `idleSystem` after `SetupFSTSession (stationB)`, a success Setup-Response from
`stationB` at time 0, time passing to 10, and a Teardown from `stationB`. -/
def tornDownSystem : MacSystem :=
  idleSystem.run 0
    [.setupFSTSession stationB,
     .receive ⟨⟨stationA, stationB⟩, .fst (.setupResponse 10 0)⟩,
     .advance 10,
     .receive ⟨⟨stationA, stationB⟩, .fst (.tearDown 1)⟩]

/-- A Teardown does not cancel the countdown: armed at time 0 by the Setup-Response, it
still calls `ChangeBand` at time 160, after the session went back to `initial`. -/
theorem teardown_leaves_countdown_armed :
    (tornDownSystem.mac.session stationB).currentState = .initial ∧
      tornDownSystem.sim.now = 10 ∧
      (tornDownSystem.step 0 .expire).changeBand = some ⟨stationB, .band4_9GHz, true⟩ ∧
      (tornDownSystem.step 0 .expire).sim.now = 160 := by
  decide

end MacSystem

/-- The `SetupFSTSession` calls among the events. -/
def MacEvent.isSetup : MacEvent → Bool
  | .setupFSTSession _ => true
  | _ => false

/-! ## What a step leaves of the MAC, and the FSTS IDs a MAC proposes -/

theorem uint32_toNat_add (a b : UInt32) : (a + b).toNat = (a.toNat + b.toNat) % 4294967296 := rfl

theorem uint32_toNat_ofNat (n : Nat) : (UInt32.ofNat n).toNat = n % 4294967296 := rfl

theorem uint32_eq_of_toNat_eq {a b : UInt32} (h : a.toNat = b.toNat) : a = b :=
  UInt32.eq_of_toBitVec_eq (BitVec.eq_of_toNat_eq h)

namespace MacSystem

open RegularWifiMac

/-- No handler touches the MAC's EDCA queues or its LLT, and only `SetupFSTSession` moves
`m_fstId`, by one. -/
theorem frame_step (self : Nat) (σ : MacSystem) (e : MacEvent) :
    (σ.step self e).mac.edca = σ.mac.edca ∧ (σ.step self e).mac.llt = σ.mac.llt ∧
      (σ.step self e).mac.fstId = if e.isSetup then σ.mac.fstId + 1 else σ.mac.fstId := by
  have hc : ∀ P i, (completeSetup self σ.mac σ.sim P i).mac.edca = σ.mac.edca ∧
      (completeSetup self σ.mac σ.sim P i).mac.llt = σ.mac.llt ∧
      (completeSetup self σ.mac σ.sim P i).mac.fstId = σ.mac.fstId := fun P i => by
    obtain ⟨s, h⟩ := completeSetup_mac self σ.mac σ.sim P i
    simp [h]
  cases e with
  | receive item =>
    obtain ⟨⟨dst, P⟩, pkt⟩ := item
    by_cases hd : dst = σ.mac.address
    · subst hd
      rcases pkt with _ | (_ | ⟨_, status⟩ | _ | _ | _) <;>
        simp [MacEvent.isSetup, sendFstSetupResponse, sendFstAckResponse, confirmTransition,
          queueFst]
      split
      · exact hc _ _
      · simp
    · rcases pkt with _ | (_ | _ | _ | _ | _) <;> simp [hd, MacEvent.isSetup]
  | txOk item =>
    obtain ⟨⟨P, src⟩, pkt⟩ := item
    rcases pkt with _ | (_ | _ | _ | _ | _) <;>
      simp [step, txOk, MacEvent.isSetup, confirmTransition]
    all_goals exact hc _ _
  | macTxOk a | macRxOk a =>
    rcases resetLinkLossCountDown_mac self σ.mac σ.sim a with h | ⟨s, h⟩ <;>
      simp [step_macTxOk, step_macRxOk, h, MacEvent.isSetup]
  | notifyBandChanged std a i =>
    cases i <;> simp [MacEvent.isSetup, notifyBandChanged, sendFstAckRequest, queueFst]
  | expire => simp only [step]; split <;> simp [MacEvent.isSetup]
  | setupFSTSession a => simp [MacEvent.isSetup, setupFSTSession, queueFst]
  | sendFstTearDownFrame a => simp [MacEvent.isSetup, sendFstTearDownFrame, queueFst]
  | advance t => simp [MacEvent.isSetup]

/-- The FSTS IDs of the Setup-Requests in a queue, in queue order. -/
def requestIds (q : WifiMacQueue) : List UInt32 :=
  q.filterMap fun item => match item.packet with
    | .fst (.setupRequest _ st _) => some st.fstsID
    | _ => none

theorem requestIds_append (a b : WifiMacQueue) :
    requestIds (a ++ b) = requestIds a ++ requestIds b :=
  List.filterMap_append ..

theorem requestIds_sentFrames (m : RegularWifiMac) (e : MacEvent) :
    requestIds (sentFrames m e) = if e.isSetup then [m.fstId + 1] else [] := by
  cases e with
  | receive item =>
    obtain ⟨⟨dst, P⟩, pkt⟩ := item
    rcases pkt with _ | (_ | _ | _ | _ | _) <;> simp [sentFrames, requestIds, MacEvent.isSetup]
  | notifyBandChanged std a i => cases i <;> rfl
  | _ => rfl

/-- The IDs `m_fstId + 1, m_fstId + 2, …` a run's `SetupFSTSession` calls propose. -/
theorem requestIds_run (self : Nat) (σ : MacSystem) (es : List MacEvent) :
    requestIds (σ.run self es).mac.txop = requestIds σ.mac.txop ++
      (List.range (es.countP MacEvent.isSetup)).map fun j => σ.mac.fstId + UInt32.ofNat (j + 1) := by
  induction es generalizing σ with
  | nil => simp [run]
  | cons e es ih =>
    rw [run, ih, next_mac, txop_step, requestIds_append, requestIds_sentFrames,
      (frame_step self σ e).2.2, List.countP_cons]
    cases e.isSetup
    · simp
    · simp only [if_true, List.append_assoc, List.range_succ_eq_map, List.map_cons, List.map_map,
        List.singleton_append]
      congr 3
      funext j
      have : (1 : UInt32).toNat = 1 := rfl
      apply uint32_eq_of_toNat_eq
      simp only [Function.comp, uint32_toNat_add, uint32_toNat_ofNat]
      omega

/-- `k` IDs counting up from `f + 1` in 32 bits are distinct exactly when `k ≤ 2^32`. -/
theorem nodup_ids_iff (f : UInt32) (k : Nat) :
    ((List.range k).map fun j => f + UInt32.ofNat (j + 1)).Nodup ↔ k ≤ 4294967296 := by
  constructor
  · intro h
    by_contra hk
    have := List.inj_on_of_nodup_map h (List.mem_range.mpr (by omega : 0 < k))
      (List.mem_range.mpr (by omega : 4294967296 < k))
      (uint32_eq_of_toNat_eq (by simp only [uint32_toNat_add, uint32_toNat_ofNat]))
    omega
  · intro hk
    refine List.Nodup.map_on (fun i hi j hj hij => ?_) (List.nodup_range k)
    rw [List.mem_range] at hi hj
    have := congrArg UInt32.toNat hij
    simp only [uint32_toNat_add, uint32_toNat_ofNat] at this
    omega

/-- Along any run of one MAC, the Setup-Requests it queues carry the FSTS IDs
`m_fstId + 1, m_fstId + 2, …` in 32-bit arithmetic, one per `SetupFSTSession` call. They are
pairwise distinct exactly when the run makes at most 2^32 calls: the next call proposes the
first ID again. -/
theorem setupRequest_ids_along_run (self : Nat) (σ : MacSystem) (es : List MacEvent) :
    requestIds (σ.run self es).mac.txop = requestIds σ.mac.txop ++
      (List.range (es.countP MacEvent.isSetup)).map (fun j => σ.mac.fstId + UInt32.ofNat (j + 1)) ∧
    (((List.range (es.countP MacEvent.isSetup)).map fun j =>
        σ.mac.fstId + UInt32.ofNat (j + 1)).Nodup ↔ es.countP MacEvent.isSetup ≤ 4294967296) :=
  ⟨requestIds_run self σ es, nodup_ids_iff _ _⟩

end MacSystem

end MultiBandFst
