import MultiBandFst.Simulator
import MultiBandFst.MacQueue

/-!
# The FST handlers of `RegularWifiMac`

The session table `m_fstSessionMap`, the session counter `m_fstId`, the LLT attribute, and
every handler of the FST code in `regular-wifi-mac.cc`: `SetupFSTSession`, the `SendFst*`
frame builders, `NotifyBandChanged`, `TxOk`, `ChangeBand`, the FST branch of `Receive`,
and `MacTxOk`/`MacRxOk`. A lookup through `operator[]` inserts the value-initialised
record, so `session` reads and `putSession` writes it back. A frame is sent by appending
it to the DCA queue, as `m_txop->Queue` does. A handler hands back the `ChangeBand` it
called, if any: the band switch itself is the device's business.
-/

namespace MultiBandFst

/-- The station roles `BandChanged` tells apart; every other role is `other`. -/
inductive TypeOfStation
  | sta
  | ap
  | dmgSta
  | dmgAp
  | other (code : Nat)
  deriving DecidableEq, Repr

/-- The state of one MAC the FST code and `BandChanged` read and write. `macState` is the
association state code `GetMacState` returns. No event takes a frame out of a queue: channel
access, which dequeues a frame when it is sent, is not modelled, so `txop` and the EDCA
queues hold every frame the MAC was given, and a `TxOk` reports a frame that stays there. -/
structure RegularWifiMac where
  address : Mac48Address
  typeOfStation : TypeOfStation
  bssid : Mac48Address
  macState : Nat
  txop : WifiMacQueue
  edca : AcIndex → QosTxop
  fstId : UInt32
  llt : UInt32
  fstSessionMap : Mac48Address → Option FstSession

structure ChangeBandCall where
  peerStation : Mac48Address
  bandId : BandID
  isInitiator : Bool
  deriving DecidableEq, Repr

structure BandChangedCall where
  standard : WifiPhyStandard
  address : Mac48Address
  isInitiator : Bool
  deriving DecidableEq, Repr

/-- What a handler leaves behind: its MAC, the scheduler, and the `ChangeBand` it called. -/
structure MacOutcome where
  mac : RegularWifiMac
  sim : Simulator
  changeBand : Option ChangeBandCall

/-- `MicroSeconds (LLT * 32)`: the product is formed in the 32-bit `LLT`. -/
def countDownDuration (llt : UInt32) : Nat := (llt * 32).toNat

/-- The product modulo 2^32. -/
theorem countDownDuration_eq (llt : UInt32) :
    countDownDuration llt = llt.toNat * 32 % 4294967296 :=
  rfl

/-- The duration is `LLT × 32` exactly when the product fits in 32 bits: `LLT < 2^27`. -/
theorem countDownDuration_eq_mul_iff (llt : UInt32) :
    countDownDuration llt = llt.toNat * 32 ↔ llt.toNat < 134217728 := by
  rw [countDownDuration_eq]
  omega

/-- The duration is zero, for a positive LLT too, exactly at the multiples of 2^27. -/
theorem countDownDuration_eq_zero_iff (llt : UInt32) :
    countDownDuration llt = 0 ↔ llt.toNat % 134217728 = 0 := by
  rw [countDownDuration_eq]
  omega

namespace RegularWifiMac

/-- The record `m_fstSessionMap[a]` yields: the one held for `a`, or the empty one. -/
def session (m : RegularWifiMac) (a : Mac48Address) : FstSession :=
  (m.fstSessionMap a).getD .empty

def putSession (m : RegularWifiMac) (a : Mac48Address) (s : FstSession) : RegularWifiMac :=
  { m with fstSessionMap := fun b => if b = a then some s else m.fstSessionMap b }

/-- `m_txop->Queue` of an FST action frame addressed to `dest`. -/
def queueFst (m : RegularWifiMac) (dest : Mac48Address) (action : FstAction) : RegularWifiMac :=
  { m with txop := m.txop ++ [⟨⟨dest, m.address⟩, .fst action⟩] }

def setupFSTSession (m : RegularWifiMac) (staAddress : Mac48Address) : RegularWifiMac :=
  let fstId := m.fstId + 1
  let sessionTransition : SessionTransitionElement := ⟨fstId, .band4_9GHz, .band60GHz⟩
  let fstSession : FstSession := ⟨fstId, .initial, true, .band4_9GHz, m.llt, none⟩
  ({ m with fstId := fstId }.putSession staAddress fstSession).queueFst staAddress
    (.setupRequest 10 sessionTransition m.llt)

def sendFstSetupResponse (m : RegularWifiMac) (dest : Mac48Address) (token : UInt8)
    (status : UInt16) : RegularWifiMac :=
  m.queueFst dest (.setupResponse token status)

def sendFstAckRequest (m : RegularWifiMac) (dest : Mac48Address) (dialog : UInt8)
    (fstsID : UInt32) : RegularWifiMac :=
  m.queueFst dest (.ackRequest dialog fstsID)

def sendFstAckResponse (m : RegularWifiMac) (dest : Mac48Address) (dialog : UInt8)
    (fstsID : UInt32) : RegularWifiMac :=
  m.queueFst dest (.ackResponse dialog fstsID)

def sendFstTearDownFrame (m : RegularWifiMac) (dest : Mac48Address) : RegularWifiMac :=
  m.queueFst dest (.tearDown 0)

def notifyBandChanged (m : RegularWifiMac) (_standard : WifiPhyStandard)
    (address : Mac48Address) (isInitiator : Bool) : RegularWifiMac :=
  if isInitiator then
    let fstSession := m.session address
    (m.putSession address fstSession).sendFstAckRequest address 0 fstSession.id
  else m

/-- The move both ends make once the Setup-Response went through: the initiator on its
receipt, the responder on its `TxOk`. Each call site passes its own literal
`isInitiator`; `self` is the MAC the countdown will call back. -/
def completeSetup (self : Nat) (m : RegularWifiMac) (sim : Simulator) (peer : Mac48Address)
    (isInitiator : Bool) : MacOutcome :=
  let fstSession := m.session peer
  if fstSession.llt = 0 then
    ⟨m.putSession peer { fstSession with currentState := .transitionDone }, sim,
      some ⟨peer, fstSession.newBandId, isInitiator⟩⟩
  else
    let r := sim.schedule (countDownDuration fstSession.llt) self peer fstSession.newBandId
      isInitiator
    ⟨m.putSession peer
      { fstSession with currentState := .setupCompletion, linkLossCountDownEvent := r.1 },
      r.2, none⟩

/-- The Ack-Response went through: the initiator received it, or the responder got its
`TxOk`. -/
def confirmTransition (m : RegularWifiMac) (peer : Mac48Address) : RegularWifiMac :=
  m.putSession peer { m.session peer with currentState := .transitionConfirmed }

def txOk (self : Nat) (m : RegularWifiMac) (sim : Simulator) (item : WifiMacQueueItem) :
    MacOutcome :=
  match item.packet with
  | .fst (.setupResponse _ _) => completeSetup self m sim item.hdr.addr1 false
  | .fst (.ackResponse _ _) => ⟨m.confirmTransition item.hdr.addr1, sim, none⟩
  | _ => ⟨m, sim, none⟩

/-- `ChangeBand` maps the three bands it knows to a standard for the band-changed
callback and does nothing for any other. -/
def changeBand (peerStation : Mac48Address) (bandId : BandID) (isInitiator : Bool) :
    Option BandChangedCall :=
  if bandId = .band60GHz then some ⟨.std80211ad, peerStation, isInitiator⟩
  else if bandId = .band4_9GHz then some ⟨.std80211n_5GHZ, peerStation, isInitiator⟩
  else if bandId = .band2_4GHz then some ⟨.std80211n_2_4GHZ, peerStation, isInitiator⟩
  else none

/-- The FST branch of `Receive`. Frames for another address are ignored; data frames go
up through the derived classes and reach the FST code only as `MacRxOk`. -/
def receive (self : Nat) (m : RegularWifiMac) (sim : Simulator) (item : WifiMacQueueItem) :
    MacOutcome :=
  if item.hdr.addr1 ≠ m.address then ⟨m, sim, none⟩ else
  let sender := item.hdr.addr2
  match item.packet with
  | .data _ => ⟨m, sim, none⟩
  | .fst (.setupRequest token st llt) =>
    ⟨(m.putSession sender ⟨st.fstsID, .initial, false, st.newBand, llt, none⟩)
      |>.sendFstSetupResponse sender token 0, sim, none⟩
  | .fst (.setupResponse _ status) =>
    if status = 0 then completeSetup self m sim sender true else ⟨m, sim, none⟩
  | .fst (.tearDown _) =>
    ⟨m.putSession sender { m.session sender with currentState := .initial }, sim, none⟩
  | .fst (.ackRequest token fstsID) => ⟨m.sendFstAckResponse sender token fstsID, sim, none⟩
  | .fst (.ackResponse _ _) => ⟨m.confirmTransition sender, sim, none⟩

/-- The body `MacTxOk` and `MacRxOk` share: a frame exchanged with `address` while its
countdown runs cancels it and schedules it again for the full duration. -/
def resetLinkLossCountDown (self : Nat) (m : RegularWifiMac) (sim : Simulator)
    (address : Mac48Address) : MacOutcome :=
  match m.fstSessionMap address with
  | none => ⟨m, sim, none⟩
  | some fstSession =>
    if fstSession.currentState = .setupCompletion ∧
        sim.isRunning fstSession.linkLossCountDownEvent then
      let r := (sim.cancel fstSession.linkLossCountDownEvent).schedule
        (countDownDuration fstSession.llt) self address fstSession.newBandId
        fstSession.isInitiator
      ⟨m.putSession address { fstSession with linkLossCountDownEvent := r.1 }, r.2, none⟩
    else ⟨m, sim, none⟩

def macTxOk (self : Nat) (m : RegularWifiMac) (sim : Simulator) (address : Mac48Address) :
    MacOutcome :=
  resetLinkLossCountDown self m sim address

def macRxOk (self : Nat) (m : RegularWifiMac) (sim : Simulator) (address : Mac48Address) :
    MacOutcome :=
  resetLinkLossCountDown self m sim address

/-! ## The session table -/

@[simp] theorem putSession_fstSessionMap (m : RegularWifiMac) (a b : Mac48Address)
    (s : FstSession) : (m.putSession a s).fstSessionMap b =
      if b = a then some s else m.fstSessionMap b := rfl

theorem session_putSession (m : RegularWifiMac) (a b : Mac48Address) (s : FstSession) :
    (m.putSession a s).session b = if b = a then s else m.session b := by
  by_cases h : b = a <;> simp [session, h]

@[simp] theorem putSession_address (m : RegularWifiMac) (a : Mac48Address) (s : FstSession) :
    (m.putSession a s).address = m.address := rfl

@[simp] theorem putSession_txop (m : RegularWifiMac) (a : Mac48Address) (s : FstSession) :
    (m.putSession a s).txop = m.txop := rfl

@[simp] theorem putSession_edca (m : RegularWifiMac) (a : Mac48Address) (s : FstSession) :
    (m.putSession a s).edca = m.edca := rfl

@[simp] theorem putSession_llt (m : RegularWifiMac) (a : Mac48Address) (s : FstSession) :
    (m.putSession a s).llt = m.llt := rfl

@[simp] theorem putSession_fstId (m : RegularWifiMac) (a : Mac48Address) (s : FstSession) :
    (m.putSession a s).fstId = m.fstId := rfl

@[simp] theorem queueFst_fstSessionMap (m : RegularWifiMac) (dest : Mac48Address)
    (x : FstAction) : (m.queueFst dest x).fstSessionMap = m.fstSessionMap := rfl

@[simp] theorem queueFst_txop (m : RegularWifiMac) (dest : Mac48Address) (x : FstAction) :
    (m.queueFst dest x).txop = m.txop ++ [⟨⟨dest, m.address⟩, .fst x⟩] := rfl

@[simp] theorem queueFst_address (m : RegularWifiMac) (dest : Mac48Address) (x : FstAction) :
    (m.queueFst dest x).address = m.address := rfl

@[simp] theorem queueFst_llt (m : RegularWifiMac) (dest : Mac48Address) (x : FstAction) :
    (m.queueFst dest x).llt = m.llt := rfl

@[simp] theorem queueFst_fstId (m : RegularWifiMac) (dest : Mac48Address) (x : FstAction) :
    (m.queueFst dest x).fstId = m.fstId := rfl

/-! ## What each handler does to the session table -/

/-- The state `completeSetup` moves a session with this LLT to. -/
def setupDoneState (llt : UInt32) : FstSessionState :=
  if llt = 0 then .transitionDone else .setupCompletion

@[simp] theorem session_queueFst (m : RegularWifiMac) (dest : Mac48Address) (x : FstAction)
    (P : Mac48Address) : (m.queueFst dest x).session P = m.session P := rfl

theorem session_setupFSTSession (m : RegularWifiMac) (a P : Mac48Address) :
    (m.setupFSTSession a).session P =
      if P = a then ⟨m.fstId + 1, .initial, true, .band4_9GHz, m.llt, none⟩ else m.session P := by
  simp only [setupFSTSession, session_queueFst, session_putSession]
  rfl

theorem session_notifyBandChanged (m : RegularWifiMac) (std : WifiPhyStandard)
    (a P : Mac48Address) (i : Bool) : (m.notifyBandChanged std a i).session P = m.session P := by
  unfold notifyBandChanged
  split
  · simp only [sendFstAckRequest, session_queueFst, session_putSession]
    split <;> simp_all
  · rfl

theorem session_confirmTransition (m : RegularWifiMac) (peer P : Mac48Address) :
    (m.confirmTransition peer).session P = if P = peer then
      { m.session peer with currentState := .transitionConfirmed } else m.session P :=
  session_putSession _ _ _ _

theorem completeSetup_session (self : Nat) (m : RegularWifiMac) (sim : Simulator)
    (peer P : Mac48Address) (i : Bool) : (completeSetup self m sim peer i).mac.session P =
      if P = peer then { m.session peer with
        currentState := setupDoneState (m.session peer).llt,
        linkLossCountDownEvent := if (m.session peer).llt = 0 then
          (m.session peer).linkLossCountDownEvent else some (sim.lastUid + 1) }
      else m.session P := by
  by_cases h : (m.session peer).llt = 0 <;>
    by_cases hP : P = peer <;> simp [completeSetup, session_putSession, setupDoneState, h, hP]

theorem completeSetup_changeBand (self : Nat) (m : RegularWifiMac) (sim : Simulator)
    (peer : Mac48Address) (i : Bool) : (completeSetup self m sim peer i).changeBand =
      if (m.session peer).llt = 0 then some ⟨peer, (m.session peer).newBandId, i⟩ else none := by
  by_cases h : (m.session peer).llt = 0 <;> simp [completeSetup, h]

theorem completeSetup_sim (self : Nat) (m : RegularWifiMac) (sim : Simulator)
    (peer : Mac48Address) (i : Bool) : (completeSetup self m sim peer i).sim =
      if (m.session peer).llt = 0 then sim else (sim.schedule
        (countDownDuration (m.session peer).llt) self peer (m.session peer).newBandId i).2 := by
  by_cases h : (m.session peer).llt = 0 <;> simp [completeSetup, h]

theorem completeSetup_txop (self : Nat) (m : RegularWifiMac) (sim : Simulator)
    (peer : Mac48Address) (i : Bool) : (completeSetup self m sim peer i).mac.txop = m.txop := by
  by_cases h : (m.session peer).llt = 0 <;> simp [completeSetup, h]

/-- `CompleteSetup` writes the peer's record and nothing else of the MAC. -/
theorem completeSetup_mac (self : Nat) (m : RegularWifiMac) (sim : Simulator)
    (peer : Mac48Address) (i : Bool) :
    ∃ s, (completeSetup self m sim peer i).mac = m.putSession peer s := by
  by_cases h : (m.session peer).llt = 0 <;> simp only [completeSetup, h, if_true, if_false] <;>
    exact ⟨_, rfl⟩

/-- A refresh writes the peer's record, or nothing. -/
theorem resetLinkLossCountDown_mac (self : Nat) (m : RegularWifiMac) (sim : Simulator)
    (a : Mac48Address) : (resetLinkLossCountDown self m sim a).mac = m ∨
      ∃ s, (resetLinkLossCountDown self m sim a).mac = m.putSession a s := by
  unfold resetLinkLossCountDown
  split
  · exact .inl rfl
  · split
    · exact .inr ⟨_, rfl⟩
    · exact .inl rfl

theorem resetLinkLossCountDown_state (self : Nat) (m : RegularWifiMac) (sim : Simulator)
    (a P : Mac48Address) : ((resetLinkLossCountDown self m sim a).mac.session P).currentState =
      (m.session P).currentState := by
  unfold resetLinkLossCountDown
  split
  · rfl
  · rename_i s hs
    split
    · simp only [session_putSession]
      split <;> simp_all [session]
    · rfl

theorem resetLinkLossCountDown_changeBand (self : Nat) (m : RegularWifiMac) (sim : Simulator)
    (a : Mac48Address) : (resetLinkLossCountDown self m sim a).changeBand = none := by
  unfold resetLinkLossCountDown; split
  · rfl
  · split <;> rfl

theorem resetLinkLossCountDown_session (self : Nat) (m : RegularWifiMac) (sim : Simulator)
    (a P : Mac48Address) : (resetLinkLossCountDown self m sim a).mac.session P =
      if P = a ∧ (m.session a).currentState = .setupCompletion ∧
          sim.isRunning (m.session a).linkLossCountDownEvent then
        { m.session a with linkLossCountDownEvent := some (sim.lastUid + 1) }
      else m.session P := by
  unfold resetLinkLossCountDown
  cases h : m.fstSessionMap a with
  | none =>
    have : m.session a = .empty := by simp [session, h]
    simp [this, FstSession.empty]
  | some s =>
    have hs : m.session a = s := by simp [session, h]
    by_cases hc : s.currentState = .setupCompletion ∧ sim.isRunning s.linkLossCountDownEvent
    · simp only [hc, and_self, if_true, session_putSession, hs]
      by_cases hP : P = a <;> simp [hP]
    · simp only [hc, if_false, hs]
      by_cases hP : P = a
      · subst hP; simp_all
      · simp [hP]

theorem resetLinkLossCountDown_sim (self : Nat) (m : RegularWifiMac) (sim : Simulator)
    (a : Mac48Address) : (resetLinkLossCountDown self m sim a).sim =
      if (m.session a).currentState = .setupCompletion ∧
          sim.isRunning (m.session a).linkLossCountDownEvent then
        ((sim.cancel (m.session a).linkLossCountDownEvent).schedule
          (countDownDuration (m.session a).llt) self a (m.session a).newBandId
          (m.session a).isInitiator).2
      else sim := by
  unfold resetLinkLossCountDown
  cases h : m.fstSessionMap a with
  | none => simp [session, h, FstSession.empty]
  | some s =>
    have hs : m.session a = s := by simp [session, h]
    simp only [hs, h]
    split <;> rfl

/-! ## `Receive` and `TxOk`, frame by frame -/

section Frames

variable (self : Nat) (m : RegularWifiMac) (sim : Simulator) (P : Mac48Address)

@[simp] theorem receive_of_ne {dst : Mac48Address} (h : dst ≠ m.address) (x : Packet) :
    m.receive self sim ⟨⟨dst, P⟩, x⟩ = ⟨m, sim, none⟩ := by
  simp [receive, h]

@[simp] theorem receive_data (n : Nat) :
    m.receive self sim ⟨⟨m.address, P⟩, .data n⟩ = ⟨m, sim, none⟩ := by
  simp [receive]

@[simp] theorem receive_setupRequest (tok : UInt8) (st : SessionTransitionElement)
    (llt : UInt32) : m.receive self sim ⟨⟨m.address, P⟩, .fst (.setupRequest tok st llt)⟩ =
      ⟨(m.putSession P ⟨st.fstsID, .initial, false, st.newBand, llt, none⟩)
        |>.sendFstSetupResponse P tok 0, sim, none⟩ := by
  simp [receive]

@[simp] theorem receive_setupResponse (tok : UInt8) (status : UInt16) :
    m.receive self sim ⟨⟨m.address, P⟩, .fst (.setupResponse tok status)⟩ =
      if status = 0 then completeSetup self m sim P true else ⟨m, sim, none⟩ := by
  simp [receive]

@[simp] theorem receive_tearDown (fstsID : UInt32) :
    m.receive self sim ⟨⟨m.address, P⟩, .fst (.tearDown fstsID)⟩ =
      ⟨m.putSession P { m.session P with currentState := .initial }, sim, none⟩ := by
  simp [receive]

@[simp] theorem receive_ackRequest (tok : UInt8) (fstsID : UInt32) :
    m.receive self sim ⟨⟨m.address, P⟩, .fst (.ackRequest tok fstsID)⟩ =
      ⟨m.sendFstAckResponse P tok fstsID, sim, none⟩ := by
  simp [receive]

@[simp] theorem receive_ackResponse (tok : UInt8) (fstsID : UInt32) :
    m.receive self sim ⟨⟨m.address, P⟩, .fst (.ackResponse tok fstsID)⟩ =
      ⟨m.confirmTransition P, sim, none⟩ := by
  simp [receive]

@[simp] theorem txOk_setupResponse (src : Mac48Address) (tok : UInt8) (status : UInt16) :
    m.txOk self sim ⟨⟨P, src⟩, .fst (.setupResponse tok status)⟩ =
      completeSetup self m sim P false := rfl

@[simp] theorem txOk_ackResponse (src : Mac48Address) (tok : UInt8) (fstsID : UInt32) :
    m.txOk self sim ⟨⟨P, src⟩, .fst (.ackResponse tok fstsID)⟩ =
      ⟨m.confirmTransition P, sim, none⟩ := rfl

/-- Every other frame's `TxOk` goes to `m_txOkCallback` and leaves the FST state alone. -/
theorem txOk_other (item : WifiMacQueueItem)
    (h1 : ∀ tok status, item.packet ≠ .fst (.setupResponse tok status))
    (h2 : ∀ tok fstsID, item.packet ≠ .fst (.ackResponse tok fstsID)) :
    m.txOk self sim item = ⟨m, sim, none⟩ := by
  unfold txOk
  split
  · rename_i h; exact absurd h (h1 _ _)
  · rename_i h; exact absurd h (h2 _ _)
  · rfl

end Frames

end RegularWifiMac

end MultiBandFst
