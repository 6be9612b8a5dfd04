import MultiBandFst.Frames

/-!
# Transmit queues and block-ack agreements

A `RegularWifiMac` owns one DCA queue (its `Txop`) and four EDCA queues, one `QosTxop`
per access category, each with its block-ack agreements. `WifiMacQueue` and `QosTxop`
are declared outside src, so `CopyBlockAckAgreements` follows its contract in the spec;
`TransferPacketsByAddress` moves frames between two queues that may be the same object,
so it is modelled with the MACs it reads and writes, in `Device`.
-/

namespace MultiBandFst

inductive AcIndex
  | acBE
  | acBK
  | acVI
  | acVO
  deriving DecidableEq, Repr

/-- Modelled from the spec: a block-ack agreement holds its negotiated starting sequence
number, buffer size, inactivity timeout and immediate/delayed mode. -/
structure BlockAckAgreement where
  startingSequence : UInt16
  bufferSize : UInt16
  timeout : UInt16
  immediate : Bool
  deriving DecidableEq, Repr

/-- Modelled from the spec: a `QosTxop` is its queue and at most one agreement per peer. -/
structure QosTxop where
  queue : WifiMacQueue
  agreements : Mac48Address → Option BlockAckAgreement

/-- Modelled from the spec: `QosTxop::CopyBlockAckAgreements` installs the agreement the
source holds for `addr`, if any, on the target, replacing the target's own. -/
def copyBlockAckAgreements (addr : Mac48Address) (source target : QosTxop) : QosTxop :=
  match source.agreements addr with
  | none => target
  | some a => { target with agreements := fun b => if b = addr then some a else target.agreements b }

theorem copyBlockAckAgreements_queue (addr : Mac48Address) (source target : QosTxop) :
    (copyBlockAckAgreements addr source target).queue = target.queue := by
  unfold copyBlockAckAgreements; split <;> rfl

theorem copyBlockAckAgreements_self (addr : Mac48Address) (q : QosTxop) :
    copyBlockAckAgreements addr q q = q := by
  unfold copyBlockAckAgreements
  split
  · rfl
  · rename_i a ha
    cases q
    congr 1
    funext b
    split <;> simp_all

theorem copyBlockAckAgreements_agreements (addr : Mac48Address) (source target : QosTxop)
    (b : Mac48Address) : (copyBlockAckAgreements addr source target).agreements b =
      if b = addr then (source.agreements addr).or (target.agreements b)
      else target.agreements b := by
  unfold copyBlockAckAgreements
  split <;> rename_i h <;> by_cases hb : b = addr <;> simp [h, hb]

end MultiBandFst
