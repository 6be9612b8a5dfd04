import MultiBandFst.RegularWifiMac

/-!
# `MultiBandNetDevice`: the technology table and the band switch

A device keys one `WifiTechnology` (PHY, MAC and station manager handles) by PHY standard
in `m_list`, and keeps non-owning references to the active one. Handles are pointers into
the device's MACs and station managers, so two entries, or the old and the new MAC of a
switch, may be the same object. Every lookup goes through `m_list[standard]`, which
inserts a technology of null handles for a standard the table does not hold, and a
dereference of a null handle ends the run (`none`).

`bandChanged` is `BandChanged`: switch the active technology, move the peer's frames from
the old MAC's five queues to the new MAC's, copy the block-ack agreements, carry the
association state over by the new MAC's role, and notify the new MAC.
-/

namespace MultiBandFst

/-- An ns-3 `Ptr`: `none` is the null pointer. -/
abbrev Ptr := Option Nat

structure WifiTechnology where
  phy : Ptr
  mac : Ptr
  stationManager : Ptr
  deriving DecidableEq, Repr

/-- The value-initialised technology `m_list[standard]` inserts: three null handles. -/
def WifiTechnology.empty : WifiTechnology := ⟨none, none, none⟩

/-- Modelled from the spec: the station-tracking table `RecordGotAssocTxOk` marks a peer
associated in. -/
structure WifiRemoteStationManager where
  associated : Mac48Address → Bool

/-- The five queues of a MAC: its DCA queue and one EDCA queue per access category. -/
inductive QueueId
  | txop
  | edca (ac : AcIndex)
  deriving DecidableEq, Repr

namespace RegularWifiMac

def queue (m : RegularWifiMac) : QueueId → WifiMacQueue
  | .txop => m.txop
  | .edca ac => (m.edca ac).queue

def setQueue (m : RegularWifiMac) : QueueId → WifiMacQueue → RegularWifiMac
  | .txop, q => { m with txop := q }
  | .edca ac, q =>
    { m with edca := fun b => if b = ac then { m.edca ac with queue := q } else m.edca b }

theorem queue_setQueue (m : RegularWifiMac) (q r : QueueId) (w : WifiMacQueue) :
    (m.setQueue q w).queue r = if r = q then w else m.queue r := by
  cases q <;> cases r <;> simp [setQueue, queue]
  rename_i a b
  by_cases h : b = a <;> simp [h]

/-- A MAC without its five queues and its block-ack agreements: its role, association and
FST state. -/
structure Core where
  address : Mac48Address
  typeOfStation : TypeOfStation
  bssid : Mac48Address
  macState : Nat
  fstId : UInt32
  llt : UInt32
  fstSessionMap : Mac48Address → Option FstSession

def core (m : RegularWifiMac) : Core :=
  ⟨m.address, m.typeOfStation, m.bssid, m.macState, m.fstId, m.llt, m.fstSessionMap⟩

@[simp] theorem core_setQueue (m : RegularWifiMac) (q : QueueId) (w : WifiMacQueue) :
    (m.setQueue q w).core = m.core := by cases q <;> rfl

@[simp] theorem setQueue_agreements (m : RegularWifiMac) (q : QueueId) (w : WifiMacQueue)
    (ac : AcIndex) : ((m.setQueue q w).edca ac).agreements = (m.edca ac).agreements := by
  cases q <;> simp only [setQueue]; split <;> simp_all

/-- Modelled from the spec: the derived MAC's `Enqueue (packet, to)` appends the data frame
for `to` (`dest` here) to the EDCA queue of the frame's access category, fixed at this
point. -/
def enqueue (m : RegularWifiMac) (packet : Nat) (dest : Mac48Address) (ac : AcIndex) :
    RegularWifiMac :=
  m.setQueue (.edca ac) (m.queue (.edca ac) ++ [⟨⟨dest, m.address⟩, .data packet⟩])

end RegularWifiMac

structure MultiBandNetDevice where
  list : WifiPhyStandard → Option WifiTechnology
  mac : Ptr
  phy : Ptr
  stationManager : Ptr
  standard : WifiPhyStandard
  macs : Nat → RegularWifiMac
  stationManagers : Nat → WifiRemoteStationManager

namespace MultiBandNetDevice

def setMac (d : MultiBandNetDevice) (p : Nat) (m : RegularWifiMac) : MultiBandNetDevice :=
  { d with macs := fun q => if q = p then m else d.macs q }

def addNewWifiTechnology (d : MultiBandNetDevice) (phy mac station : Ptr)
    (standard : WifiPhyStandard) : MultiBandNetDevice :=
  { d with list := fun s => if s = standard then some ⟨phy, mac, station⟩ else d.list s }

/-- What `m_list[standard]` yields. -/
def technology (d : MultiBandNetDevice) (standard : WifiPhyStandard) : WifiTechnology :=
  (d.list standard).getD .empty

/-- What `m_list[standard]` leaves in the table: the entry, inserted if it was missing. -/
def lookup (d : MultiBandNetDevice) (standard : WifiPhyStandard) : MultiBandNetDevice :=
  { d with list := fun s => if s = standard then some (d.technology standard) else d.list s }

def switchTechnology (d : MultiBandNetDevice) (standard : WifiPhyStandard) :
    MultiBandNetDevice :=
  let t := d.technology standard
  { d.lookup standard with
    mac := t.mac, phy := t.phy, stationManager := t.stationManager, standard := standard }

def getTechnologyMac (d : MultiBandNetDevice) (standard : WifiPhyStandard) :
    Ptr × MultiBandNetDevice :=
  ((d.technology standard).mac, d.lookup standard)

def getTechnologyPhy (d : MultiBandNetDevice) (standard : WifiPhyStandard) :
    Ptr × MultiBandNetDevice :=
  ((d.technology standard).phy, d.lookup standard)

/-- Modelled from the spec: `TransferPacketsByAddress (address, target)` on queue `q` of
MAC `o` removes, in order, every frame addressed to `address` and appends them, in the
same order, to queue `q` of MAC `n`. The source is written before the target is read, so
for `o = n` the frames end behind the others. -/
def transferPacketsByAddress (d : MultiBandNetDevice) (q : QueueId) (address : Mac48Address)
    (o n : Nat) : MultiBandNetDevice :=
  let source := (d.macs o).queue q
  let d := d.setMac o ((d.macs o).setQueue q (source.filter (·.hdr.addr1 != address)))
  d.setMac n ((d.macs n).setQueue q ((d.macs n).queue q ++ source.filter (·.hdr.addr1 == address)))

/-- `CopyBlockAckAgreements` from the `ac` queue of MAC `o` to that of MAC `n`. -/
def copyAgreements (d : MultiBandNetDevice) (ac : AcIndex) (address : Mac48Address)
    (o n : Nat) : MultiBandNetDevice :=
  let target := copyBlockAckAgreements address ((d.macs o).edca ac) ((d.macs n).edca ac)
  d.setMac n { d.macs n with edca := fun b => if b = ac then target else (d.macs n).edca b }

/-- `RecordGotAssocTxOk (address)` on the active station manager. -/
def recordGotAssocTxOk (d : MultiBandNetDevice) (address : Mac48Address) :
    Option MultiBandNetDevice :=
  d.stationManager.map fun sm => { d with stationManagers := fun x => if x = sm then
    ⟨fun a => a == address || (d.stationManagers sm).associated a⟩ else d.stationManagers x }

/-- The association state `BandChanged` carries over, by the new MAC's role. -/
def copyAssociationState (d : MultiBandNetDevice) (address : Mac48Address) (o n : Nat) :
    Option MultiBandNetDevice :=
  match (d.macs n).typeOfStation with
  | .dmgSta | .sta =>
    some (d.setMac n { d.macs n with bssid := (d.macs o).bssid, macState := (d.macs o).macState })
  | .ap | .dmgAp => d.recordGotAssocTxOk address
  | .other _ => some d

/-- The five `TransferPacketsByAddress` calls of `BandChanged`, DCA queue first. -/
def transferQueues (d : MultiBandNetDevice) (address : Mac48Address) (o n : Nat) :
    MultiBandNetDevice :=
  d.transferPacketsByAddress .txop address o n
    |>.transferPacketsByAddress (.edca .acVO) address o n
    |>.transferPacketsByAddress (.edca .acVI) address o n
    |>.transferPacketsByAddress (.edca .acBE) address o n
    |>.transferPacketsByAddress (.edca .acBK) address o n

/-- The four `CopyBlockAckAgreements` calls of `BandChanged`. -/
def copyAllAgreements (d : MultiBandNetDevice) (address : Mac48Address) (o n : Nat) :
    MultiBandNetDevice :=
  d.copyAgreements .acVO address o n
    |>.copyAgreements .acVI address o n
    |>.copyAgreements .acBE address o n
    |>.copyAgreements .acBK address o n

/-- `BandChanged`: the old MAC is the active one before the switch, the new one after it. -/
def bandChanged (d : MultiBandNetDevice) (standard : WifiPhyStandard) (address : Mac48Address)
    (isInitiator : Bool) : Option MultiBandNetDevice := do
  let o ← d.mac
  let d := d.switchTechnology standard
  let n ← d.mac
  let d ← ((d.transferQueues address o n).copyAllAgreements address o n).copyAssociationState
    address o n
  pure (d.setMac n ((d.macs n).notifyBandChanged standard address isInitiator))

/-- `Send`: the packet, with the LLC/SNAP header of its protocol number (part of the opaque
payload here), goes through `m_mac->Enqueue (packet, realTo)`; `NotifyTx` only fires a
trace. `m_mac` is dereferenced unchecked, so without an active MAC the run ends. -/
def send (d : MultiBandNetDevice) (packet : Nat) (dest : Mac48Address) (ac : AcIndex) :
    Option MultiBandNetDevice :=
  d.mac.map fun p => d.setMac p ((d.macs p).enqueue packet dest ac)

def establishFastSessionTransferSession (d : MultiBandNetDevice) (address : Mac48Address) :
    Option MultiBandNetDevice :=
  d.mac.map fun p => d.setMac p ((d.macs p).setupFSTSession address)

/-! ## Small lemmas -/

@[simp] theorem setMac_macs (d : MultiBandNetDevice) (p : Nat) (m : RegularWifiMac) (x : Nat) :
    (d.setMac p m).macs x = if x = p then m else d.macs x := rfl

@[simp] theorem setMac_list (d : MultiBandNetDevice) (p : Nat) (m : RegularWifiMac) :
    (d.setMac p m).list = d.list := rfl

@[simp] theorem setMac_mac (d : MultiBandNetDevice) (p : Nat) (m : RegularWifiMac) :
    (d.setMac p m).mac = d.mac := rfl

@[simp] theorem setMac_phy (d : MultiBandNetDevice) (p : Nat) (m : RegularWifiMac) :
    (d.setMac p m).phy = d.phy := rfl

@[simp] theorem setMac_stationManager (d : MultiBandNetDevice) (p : Nat) (m : RegularWifiMac) :
    (d.setMac p m).stationManager = d.stationManager := rfl

@[simp] theorem setMac_standard (d : MultiBandNetDevice) (p : Nat) (m : RegularWifiMac) :
    (d.setMac p m).standard = d.standard := rfl

@[simp] theorem setMac_stationManagers (d : MultiBandNetDevice) (p : Nat) (m : RegularWifiMac) :
    (d.setMac p m).stationManagers = d.stationManagers := rfl

/-- The table and the active handles: all of a device that is not a MAC or a station
manager. -/
structure Handles where
  list : WifiPhyStandard → Option WifiTechnology
  mac : Ptr
  phy : Ptr
  stationManager : Ptr
  standard : WifiPhyStandard

def handles (d : MultiBandNetDevice) : Handles :=
  ⟨d.list, d.mac, d.phy, d.stationManager, d.standard⟩

@[simp] theorem handles_setMac (d : MultiBandNetDevice) (p : Nat) (m : RegularWifiMac) :
    (d.setMac p m).handles = d.handles := rfl

@[simp] theorem handles_transferPacketsByAddress (d : MultiBandNetDevice) (q : QueueId)
    (a : Mac48Address) (o n : Nat) : (d.transferPacketsByAddress q a o n).handles = d.handles :=
  rfl

@[simp] theorem handles_copyAgreements (d : MultiBandNetDevice) (ac : AcIndex)
    (a : Mac48Address) (o n : Nat) : (d.copyAgreements ac a o n).handles = d.handles := rfl

@[simp] theorem handles_transferQueues (d : MultiBandNetDevice) (a : Mac48Address) (o n : Nat) :
    (d.transferQueues a o n).handles = d.handles := by
  simp only [transferQueues, handles_transferPacketsByAddress]

@[simp] theorem handles_copyAllAgreements (d : MultiBandNetDevice) (a : Mac48Address)
    (o n : Nat) : (d.copyAllAgreements a o n).handles = d.handles := by
  simp only [copyAllAgreements, handles_copyAgreements]

theorem handles_recordGotAssocTxOk {d d' : MultiBandNetDevice} {a : Mac48Address}
    (h : d.recordGotAssocTxOk a = some d') : d'.handles = d.handles := by
  obtain ⟨sm, -, rfl⟩ := Option.map_eq_some'.mp h
  rfl

theorem handles_copyAssociationState {d d' : MultiBandNetDevice} {a : Mac48Address} {o n : Nat}
    (h : d.copyAssociationState a o n = some d') : d'.handles = d.handles := by
  unfold copyAssociationState at h
  split at h <;> first | exact handles_recordGotAssocTxOk h | (cases h; rfl)

theorem technology_lookup (d : MultiBandNetDevice) (s t : WifiPhyStandard) :
    (d.lookup s).technology t = d.technology t := by
  by_cases h : t = s <;> simp [lookup, technology, h]

theorem lookup_list (d : MultiBandNetDevice) (s t : WifiPhyStandard) :
    (d.lookup s).list t = if t = s then some (d.technology s) else d.list t := rfl

/-! ## The MACs under each step of `BandChanged` -/

theorem queue_transferPacketsByAddress (d : MultiBandNetDevice) (q r : QueueId)
    (a : Mac48Address) (o n x : Nat) :
    ((d.transferPacketsByAddress q a o n).macs x).queue r =
      if r = q then
        (if x = o then ((d.macs o).queue q).filter (·.hdr.addr1 != a) else (d.macs x).queue q) ++
          (if x = n then ((d.macs o).queue q).filter (·.hdr.addr1 == a) else [])
      else (d.macs x).queue r := by
  by_cases hr : r = q <;> by_cases hn : x = n <;> by_cases ho : x = o <;> subst_vars <;>
    simp [transferPacketsByAddress, RegularWifiMac.queue_setQueue, *]

@[simp] theorem core_transferPacketsByAddress (d : MultiBandNetDevice) (q : QueueId)
    (a : Mac48Address) (o n x : Nat) :
    ((d.transferPacketsByAddress q a o n).macs x).core = (d.macs x).core := by
  simp only [transferPacketsByAddress, setMac_macs]
  split_ifs <;> subst_vars <;> simp only [RegularWifiMac.core_setQueue]

@[simp] theorem agreements_transferPacketsByAddress (d : MultiBandNetDevice) (q : QueueId)
    (a : Mac48Address) (o n x : Nat) (ac : AcIndex) :
    (((d.transferPacketsByAddress q a o n).macs x).edca ac).agreements =
      ((d.macs x).edca ac).agreements := by
  simp only [transferPacketsByAddress, setMac_macs]
  split_ifs <;> subst_vars <;> simp only [RegularWifiMac.setQueue_agreements]

@[simp] theorem queue_copyAgreements (d : MultiBandNetDevice) (ac : AcIndex) (a : Mac48Address)
    (o n x : Nat) (r : QueueId) :
    ((d.copyAgreements ac a o n).macs x).queue r = (d.macs x).queue r := by
  simp only [copyAgreements, setMac_macs]
  split_ifs with hx
  · subst hx
    cases r with
    | txop => rfl
    | edca b =>
      simp only [RegularWifiMac.queue]
      split_ifs with hb
      · subst hb; exact copyBlockAckAgreements_queue _ _ _
      · rfl
  · rfl

@[simp] theorem core_copyAgreements (d : MultiBandNetDevice) (ac : AcIndex) (a : Mac48Address)
    (o n x : Nat) : ((d.copyAgreements ac a o n).macs x).core = (d.macs x).core := by
  simp only [copyAgreements, setMac_macs]
  split_ifs <;> subst_vars <;> rfl

theorem agreements_copyAgreements (d : MultiBandNetDevice) (ac b : AcIndex) (a c : Mac48Address)
    (o n x : Nat) : (((d.copyAgreements ac a o n).macs x).edca b).agreements c =
      if x = n ∧ b = ac ∧ c = a then (((d.macs o).edca ac).agreements a).or
        (((d.macs n).edca ac).agreements a)
      else ((d.macs x).edca b).agreements c := by
  by_cases hx : x = n <;> by_cases hb : b = ac <;> by_cases hc : c = a <;>
    simp [copyAgreements, copyBlockAckAgreements_agreements, hx, hb, hc]

@[simp] theorem switchTechnology_macs (d : MultiBandNetDevice) (s : WifiPhyStandard) :
    (d.switchTechnology s).macs = d.macs := rfl

@[simp] theorem switchTechnology_mac (d : MultiBandNetDevice) (s : WifiPhyStandard) :
    (d.switchTechnology s).mac = (d.technology s).mac := rfl

/-- `BandChanged` goes through exactly when both the old and the new MAC handle are set
and the association step finds its station manager. -/
theorem bandChanged_eq_some {d d' : MultiBandNetDevice} {s : WifiPhyStandard}
    {a : Mac48Address} {i : Bool} :
    d.bandChanged s a i = some d' ↔ ∃ o n d₁, d.mac = some o ∧ (d.technology s).mac = some n ∧
      (((d.switchTechnology s).transferQueues a o n).copyAllAgreements a o n).copyAssociationState
        a o n = some d₁ ∧
      d' = d₁.setMac n ((d₁.macs n).notifyBandChanged s a i) := by
  simp only [bandChanged, Option.bind_eq_bind, Option.bind_eq_some, switchTechnology_mac]
  constructor
  · rintro ⟨o, ho, n, hn, d₁, h₁, h⟩
    exact ⟨o, n, d₁, ho, hn, h₁, (Option.some.inj h).symm⟩
  · rintro ⟨o, n, d₁, ho, hn, h₁, rfl⟩
    exact ⟨o, ho, n, hn, d₁, h₁, rfl⟩

theorem handles_bandChanged {d d' : MultiBandNetDevice} {s : WifiPhyStandard}
    {a : Mac48Address} {i : Bool} (h : d.bandChanged s a i = some d') :
    d'.handles = (d.switchTechnology s).handles := by
  obtain ⟨o, n, d₁, -, -, h₁, rfl⟩ := bandChanged_eq_some.mp h
  rw [handles_setMac, handles_copyAssociationState h₁]
  rfl

end MultiBandNetDevice

end MultiBandFst
