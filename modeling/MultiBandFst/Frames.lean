import Mathlib.Data.List.Basic

/-!
# Addresses, bands, FST frames and session records

The values the multi-band fast session transfer code passes around: MAC addresses, the
Band ID a session transition element names, the PHY standards a `MultiBandNetDevice`
keys its technologies by, the five FST action frames, the queue items a MAC transmits,
and the `FstSession` record a `RegularWifiMac` keeps for each peer. Header
serialisation is not modelled: a frame is the values of its fields.
-/

namespace MultiBandFst

structure Mac48Address where
  bits : BitVec 48
  deriving DecidableEq, Repr

/-- A Band ID field value. `static_cast<BandID>` keeps any code a frame carries. -/
structure BandID where
  code : UInt8
  deriving DecidableEq, Repr

namespace BandID

def band2_4GHz : BandID := ⟨2⟩
def band4_9GHz : BandID := ⟨4⟩
def band60GHz : BandID := ⟨5⟩

end BandID

/-- The standards `ChangeBand` and `FinishConfigureStandard` name; every other enumerator of
the enum is `other`. -/
inductive WifiPhyStandard
  | std80211ad
  | std80211n_5GHZ
  | std80211n_2_4GHZ
  | std80211ay
  | std80211ac
  | std80211ax_5GHZ
  | std80211ax_2_4GHZ
  | std80211g
  | stdholland
  | std80211a
  | std80211_10MHZ
  | std80211_5MHZ
  | std80211b
  | other (code : Nat)
  deriving DecidableEq, Repr

inductive FstSessionState
  | initial
  | setupCompletion
  | transitionDone
  | transitionConfirmed
  deriving DecidableEq, Repr

/-- The handle `Simulator::Schedule` returns; the default `EventId` is `none`. -/
abbrev EventId := Option Nat

structure FstSession where
  id : UInt32
  currentState : FstSessionState
  isInitiator : Bool
  newBandId : BandID
  llt : UInt32
  linkLossCountDownEvent : EventId
  deriving DecidableEq, Repr

/-- The value-initialised record `m_fstSessionMap[a]` inserts for a peer it does not hold. -/
def FstSession.empty : FstSession := ⟨0, .initial, false, ⟨0⟩, 0, none⟩

/-- What a session agrees on with its peer's: ID, target band, LLT and role. -/
def FstSession.key (s : FstSession) : UInt32 × BandID × UInt32 × Bool :=
  (s.id, s.newBandId, s.llt, s.isInitiator)

structure SessionTransitionElement where
  fstsID : UInt32
  newBand : BandID
  oldBand : BandID
  deriving DecidableEq, Repr

inductive FstAction
  | setupRequest (dialogToken : UInt8) (sessionTransition : SessionTransitionElement)
      (llt : UInt32)
  | setupResponse (dialogToken : UInt8) (statusCode : UInt16)
  | ackRequest (dialogToken : UInt8) (fstsID : UInt32)
  | ackResponse (dialogToken : UInt8) (fstsID : UInt32)
  | tearDown (fstsID : UInt32)
  deriving DecidableEq, Repr

/-- A data payload is opaque; FST action frames carry their fields. -/
inductive Packet
  | data (payload : Nat)
  | fst (action : FstAction)
  deriving DecidableEq, Repr

/-- `addr1` is the receiver and `addr2` the transmitter. -/
structure WifiMacHeader where
  addr1 : Mac48Address
  addr2 : Mac48Address
  deriving DecidableEq, Repr

structure WifiMacQueueItem where
  hdr : WifiMacHeader
  packet : Packet
  deriving DecidableEq, Repr

abbrev WifiMacQueue := List WifiMacQueueItem

end MultiBandFst
