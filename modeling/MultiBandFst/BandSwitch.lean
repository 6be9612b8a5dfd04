import MultiBandFst.TechnologyTable

/-!
# What `BandChanged` does to the device's MACs

`BandChanged (standard, P, isInitiator)` reads the old MAC before the switch and the new
one after it, and then works on the two through their queues, which may be one object. The
lemmas below say what each of its steps does to every MAC of the device, and
`bandChanged_queue`, `bandChanged_agreements`, `bandChanged_association` and
`bandChanged_session` put them together for the whole call. The two cases the code does not
tell apart follow: two distinct MACs, and a switch to the band already active, where the old
and the new MAC are the same object and nothing guards the self-transfer.
-/

namespace MultiBandFst

namespace RegularWifiMac

/-- The Ack-Request `NotifyBandChanged` queues on MAC `m` for peer `a` when `m` is the
initiator: it carries the ID of the session `m` holds for `a`. -/
def ackRequestFrame (m : RegularWifiMac) (a : Mac48Address) : WifiMacQueueItem :=
  ⟨⟨a, m.address⟩, .fst (.ackRequest 0 (m.session a).id)⟩

theorem ackRequestFrame_congr {m m' : RegularWifiMac} (a : Mac48Address)
    (ha : m'.core.address = m.core.address) (hs : m'.core.fstSessionMap = m.core.fstSessionMap) :
    m'.ackRequestFrame a = m.ackRequestFrame a := by
  simp only [core] at ha hs
  simp only [ackRequestFrame, session, ha, hs]

theorem queue_notifyBandChanged (m : RegularWifiMac) (s : WifiPhyStandard) (a : Mac48Address)
    (i : Bool) (r : QueueId) : (m.notifyBandChanged s a i).queue r =
      m.queue r ++ (if r = .txop ∧ i = true then [m.ackRequestFrame a] else []) := by
  cases i <;> cases r <;>
    simp [notifyBandChanged, queue, sendFstAckRequest, queueFst, ackRequestFrame, putSession]

@[simp] theorem edca_notifyBandChanged (m : RegularWifiMac) (s : WifiPhyStandard)
    (a : Mac48Address) (i : Bool) : (m.notifyBandChanged s a i).edca = m.edca := by
  cases i <;> rfl

/-- Apart from the record it may insert for the peer, `NotifyBandChanged` leaves the MAC's
role, association and FST state alone. -/
theorem core_notifyBandChanged (m : RegularWifiMac) (s : WifiPhyStandard) (a : Mac48Address)
    (i : Bool) : (m.notifyBandChanged s a i).core =
      { m.core with fstSessionMap := (m.notifyBandChanged s a i).fstSessionMap } := by
  cases i <;> rfl

end RegularWifiMac

namespace MultiBandNetDevice

open RegularWifiMac MacSystem

section Steps

variable (d : MultiBandNetDevice) (a : Mac48Address) (o n x : Nat)

theorem queue_transferQueues (r : QueueId) :
    ((d.transferQueues a o n).macs x).queue r =
      (if x = o then ((d.macs o).queue r).filter (·.hdr.addr1 != a) else (d.macs x).queue r) ++
        (if x = n then ((d.macs o).queue r).filter (·.hdr.addr1 == a) else []) := by
  cases r with
  | txop => simp [transferQueues, queue_transferPacketsByAddress]
  | edca ac => cases ac <;> simp [transferQueues, queue_transferPacketsByAddress]

@[simp] theorem core_transferQueues : ((d.transferQueues a o n).macs x).core = (d.macs x).core := by
  simp only [transferQueues, core_transferPacketsByAddress]

@[simp] theorem agreements_transferQueues (ac : AcIndex) :
    (((d.transferQueues a o n).macs x).edca ac).agreements = ((d.macs x).edca ac).agreements := by
  simp only [transferQueues, agreements_transferPacketsByAddress]

@[simp] theorem queue_copyAllAgreements (r : QueueId) :
    ((d.copyAllAgreements a o n).macs x).queue r = (d.macs x).queue r := by
  simp only [copyAllAgreements, queue_copyAgreements]

@[simp] theorem core_copyAllAgreements :
    ((d.copyAllAgreements a o n).macs x).core = (d.macs x).core := by
  simp only [copyAllAgreements, core_copyAgreements]

theorem agreements_copyAllAgreements (b : AcIndex) (c : Mac48Address) :
    (((d.copyAllAgreements a o n).macs x).edca b).agreements c =
      if x = n ∧ c = a then (((d.macs o).edca b).agreements a).or (((d.macs n).edca b).agreements a)
      else ((d.macs x).edca b).agreements c := by
  cases b <;> simp [copyAllAgreements, agreements_copyAgreements]

@[simp] theorem stationManagers_transferQueues :
    (d.transferQueues a o n).stationManagers = d.stationManagers := by
  simp only [transferQueues, transferPacketsByAddress, setMac_stationManagers]

@[simp] theorem stationManagers_copyAllAgreements :
    (d.copyAllAgreements a o n).stationManagers = d.stationManagers := by
  simp only [copyAllAgreements, copyAgreements, setMac_stationManagers]

end Steps

section Association

variable {d d₁ : MultiBandNetDevice} {a : Mac48Address} {o n : Nat}

/-- A STA or DMG STA new MAC takes the old MAC's BSSID and state; nothing else of any MAC
changes. -/
theorem macs_copyAssociationState (h : d.copyAssociationState a o n = some d₁) (x : Nat) :
    d₁.macs x =
      if x = n ∧ ((d.macs n).typeOfStation = .dmgSta ∨ (d.macs n).typeOfStation = .sta) then
        { d.macs n with bssid := (d.macs o).bssid, macState := (d.macs o).macState }
      else d.macs x := by
  unfold copyAssociationState recordGotAssocTxOk at h
  split at h <;> rename_i ht
  all_goals first
    | (cases h; by_cases hx : x = n <;> simp [hx, ht])
    | (obtain ⟨sm, -, rfl⟩ := Option.map_eq_some'.mp h; simp [ht])

/-- An AP or DMG AP new MAC has the active station manager record the peer as associated;
for any other role the station managers are untouched. -/
theorem stationManagers_copyAssociationState (h : d.copyAssociationState a o n = some d₁) :
    if (d.macs n).typeOfStation = .ap ∨ (d.macs n).typeOfStation = .dmgAp then
      ∃ sm, d.stationManager = some sm ∧ d₁.stationManagers = fun y => if y = sm then
        ⟨fun c => c == a || (d.stationManagers sm).associated c⟩ else d.stationManagers y
    else d₁.stationManagers = d.stationManagers := by
  unfold copyAssociationState recordGotAssocTxOk at h
  split at h <;> rename_i ht
  all_goals first
    | (cases h; simp [ht])
    | (obtain ⟨sm, hsm, rfl⟩ := Option.map_eq_some'.mp h; simp [ht, hsm])

end Association

section Whole

variable {d d' : MultiBandNetDevice} {s : WifiPhyStandard} {a : Mac48Address} {i : Bool}
  {o n : Nat}

/-- The device that `BandChanged` between the MACs `o` and `n` builds before it notifies
the new MAC. -/
theorem bandChanged_steps (h : d.bandChanged s a i = some d') (ho : d.mac = some o)
    (hn : (d.technology s).mac = some n) : ∃ d₁,
      (((d.switchTechnology s).transferQueues a o n).copyAllAgreements a o n).copyAssociationState
        a o n = some d₁ ∧ d' = d₁.setMac n ((d₁.macs n).notifyBandChanged s a i) := by
  obtain ⟨o', n', d₁, ho', hn', h₁, rfl⟩ := bandChanged_eq_some.mp h
  cases ho.symm.trans ho'
  cases hn.symm.trans hn'
  exact ⟨d₁, h₁, rfl⟩

/-- What the MACs hold once `BandChanged` has moved the queues, copied the agreements and
carried the association over, just before it notifies the new MAC. -/
theorem bandChanged_before_notify {d₁ : MultiBandNetDevice}
    (h₁ : (((d.switchTechnology s).transferQueues a o n).copyAllAgreements a o n).copyAssociationState
      a o n = some d₁) (y : Nat) :
    (∀ r, (d₁.macs y).queue r =
      (if y = o then ((d.macs o).queue r).filter (·.hdr.addr1 != a) else (d.macs y).queue r) ++
        (if y = n then ((d.macs o).queue r).filter (·.hdr.addr1 == a) else [])) ∧
    (∀ b c, ((d₁.macs y).edca b).agreements c =
      if y = n ∧ c = a then (((d.macs o).edca b).agreements a).or (((d.macs n).edca b).agreements a)
      else ((d.macs y).edca b).agreements c) ∧
    (d₁.macs y).core =
      if y = n ∧ ((d.macs n).typeOfStation = .dmgSta ∨ (d.macs n).typeOfStation = .sta) then
        { (d.macs n).core with bssid := (d.macs o).bssid, macState := (d.macs o).macState }
      else (d.macs y).core := by
  set D := ((d.switchTechnology s).transferQueues a o n).copyAllAgreements a o n with hD
  have hc : ∀ z, (D.macs z).core = (d.macs z).core := fun z => by simp [hD]
  have hq : ∀ z r, (D.macs z).queue r =
      (if z = o then ((d.macs o).queue r).filter (·.hdr.addr1 != a) else (d.macs z).queue r) ++
        (if z = n then ((d.macs o).queue r).filter (·.hdr.addr1 == a) else []) :=
    fun z r => by simp [hD, queue_transferQueues]
  have hg : ∀ z b c, ((D.macs z).edca b).agreements c =
      if z = n ∧ c = a then (((d.macs o).edca b).agreements a).or (((d.macs n).edca b).agreements a)
      else ((d.macs z).edca b).agreements c :=
    fun z b c => by simp [hD, agreements_copyAllAgreements]
  have ht : (D.macs n).typeOfStation = (d.macs n).typeOfStation := congrArg Core.typeOfStation (hc n)
  have hb : (D.macs o).bssid = (d.macs o).bssid := congrArg Core.bssid (hc o)
  have hs : (D.macs o).macState = (d.macs o).macState := congrArg Core.macState (hc o)
  rw [macs_copyAssociationState h₁ y, ht, hb, hs]
  by_cases hy : y = n ∧ ((d.macs n).typeOfStation = .dmgSta ∨ (d.macs n).typeOfStation = .sta)
  · simp only [if_pos hy]
    obtain ⟨rfl, -⟩ := hy
    exact ⟨fun r => by rw [← hq]; cases r <;> rfl, hg y, by rw [← hc y]; rfl⟩
  · simp only [if_neg hy]
    exact ⟨hq y, hg y, hc y⟩

theorem fstSessionMap_before_notify {d₁ : MultiBandNetDevice}
    (h₁ : (((d.switchTechnology s).transferQueues a o n).copyAllAgreements a o n).copyAssociationState
      a o n = some d₁) (y : Nat) : (d₁.macs y).fstSessionMap = (d.macs y).fstSessionMap := by
  have := congrArg Core.fstSessionMap (bandChanged_before_notify h₁ y).2.2
  split_ifs at this with hy
  · obtain ⟨rfl, -⟩ := hy
    exact this
  · exact this

/-- Every queue of every MAC after `BandChanged` from `o` to `n`: the old MAC loses the
peer's frames, the new MAC gets them behind its own, and an initiator's new MAC then queues
its Ack-Request. For `o = n` the peer's frames end behind all the others. -/
theorem bandChanged_queue (h : d.bandChanged s a i = some d') (ho : d.mac = some o)
    (hn : (d.technology s).mac = some n) (x : Nat) (r : QueueId) :
    (d'.macs x).queue r =
      (if x = o then ((d.macs o).queue r).filter (·.hdr.addr1 != a) else (d.macs x).queue r) ++
        (if x = n then ((d.macs o).queue r).filter (·.hdr.addr1 == a) else []) ++
        (if x = n ∧ r = .txop ∧ i = true then [(d.macs n).ackRequestFrame a] else []) := by
  obtain ⟨d₁, h₁, rfl⟩ := bandChanged_steps h ho hn
  obtain ⟨hq, -, hc⟩ := bandChanged_before_notify h₁ x
  by_cases hx : x = n
  · subst hx
    have hf : (d₁.macs x).ackRequestFrame a = (d.macs x).ackRequestFrame a := by
      apply ackRequestFrame_congr <;> rw [hc] <;> split_ifs <;> rfl
    simp [queue_notifyBandChanged, hq, hf]
  · simp [hx, hq]

/-- Every block-ack agreement after `BandChanged`: the new MAC holds, in each access
category, the old MAC's agreement for the peer if there is one. -/
theorem bandChanged_agreements (h : d.bandChanged s a i = some d') (ho : d.mac = some o)
    (hn : (d.technology s).mac = some n) (x : Nat) (b : AcIndex) (c : Mac48Address) :
    ((d'.macs x).edca b).agreements c =
      if x = n ∧ c = a then (((d.macs o).edca b).agreements a).or (((d.macs n).edca b).agreements a)
      else ((d.macs x).edca b).agreements c := by
  obtain ⟨d₁, h₁, rfl⟩ := bandChanged_steps h ho hn
  obtain ⟨-, hg, -⟩ := bandChanged_before_notify h₁ x
  by_cases hx : x = n
  · subst hx
    simp [hg]
  · simp [hx, hg]

/-- `BandChanged` changes no session of any MAC: `NotifyBandChanged` at most inserts the
record a lookup of the peer returns. -/
theorem bandChanged_session (h : d.bandChanged s a i = some d') (ho : d.mac = some o)
    (hn : (d.technology s).mac = some n) (x : Nat) (c : Mac48Address) :
    (d'.macs x).session c = (d.macs x).session c := by
  obtain ⟨d₁, h₁, rfl⟩ := bandChanged_steps h ho hn
  have hm := fstSessionMap_before_notify h₁ x
  by_cases hx : x = n
  · subst hx
    simp only [setMac_macs, if_pos, session_notifyBandChanged]
    simp only [session, hm]
  · simp only [setMac_macs, if_neg hx, session, hm]

/-- The rest of each MAC's state after `BandChanged`: a STA or DMG STA new MAC takes the old
MAC's BSSID and state, and nothing else changes but the session map. -/
theorem bandChanged_core (h : d.bandChanged s a i = some d') (ho : d.mac = some o)
    (hn : (d.technology s).mac = some n) (x : Nat) :
    { (d'.macs x).core with fstSessionMap := (d.macs x).fstSessionMap } =
      if x = n ∧ ((d.macs n).typeOfStation = .dmgSta ∨ (d.macs n).typeOfStation = .sta) then
        { (d.macs n).core with bssid := (d.macs o).bssid, macState := (d.macs o).macState }
      else (d.macs x).core := by
  obtain ⟨d₁, h₁, rfl⟩ := bandChanged_steps h ho hn
  obtain ⟨-, -, hc⟩ := bandChanged_before_notify h₁ x
  have hm := fstSessionMap_before_notify h₁ x
  rw [← hc]
  by_cases hx : x = n
  · subst hx
    simp only [setMac_macs, if_pos, core_notifyBandChanged]
    simp only [core, hm]
  · simp only [setMac_macs, if_neg hx, core, hm]

/-- The station managers after `BandChanged`: an AP or DMG AP new MAC has the new active
station manager record the peer as associated. -/
theorem bandChanged_stationManagers (h : d.bandChanged s a i = some d') (ho : d.mac = some o)
    (hn : (d.technology s).mac = some n) :
    if (d.macs n).typeOfStation = .ap ∨ (d.macs n).typeOfStation = .dmgAp then
      ∃ sm, (d.technology s).stationManager = some sm ∧ d'.stationManagers = fun y => if y = sm
        then ⟨fun c => c == a || (d.stationManagers sm).associated c⟩ else d.stationManagers y
    else d'.stationManagers = d.stationManagers := by
  obtain ⟨d₁, h₁, rfl⟩ := bandChanged_steps h ho hn
  have := stationManagers_copyAssociationState h₁
  have hc : ((((d.switchTechnology s).transferQueues a o n).copyAllAgreements a o n).macs
      n).core = (d.macs n).core := by simp
  rw [show (_ : RegularWifiMac).typeOfStation = _ from congrArg Core.typeOfStation hc] at this
  exact this

theorem bandChanged_macs_of_ne (h : d.bandChanged s a i = some d') (ho : d.mac = some o)
    (hn : (d.technology s).mac = some n) {x : Nat} (hxo : x ≠ o) (hxn : x ≠ n) :
    d'.macs x = d.macs x := by
  obtain ⟨d₁, h₁, rfl⟩ := bandChanged_steps h ho hn
  rw [setMac_macs, if_neg hxn, macs_copyAssociationState h₁, if_neg (fun h => hxn h.1)]
  simp [transferQueues, copyAllAgreements, copyAgreements, transferPacketsByAddress, hxo, hxn]

end Whole

theorem handles_switchTechnology_of_tracks {d : MultiBandNetDevice} (ht : d.Tracks)
    {p : Nat} (hp : d.mac = some p) : (d.switchTechnology d.standard).handles = d.handles := by
  have hl : d.list d.standard = some ⟨d.phy, d.mac, d.stationManager⟩ := by
    unfold Tracks technology at ht
    cases hl : d.list d.standard with
    | none => simp [hl, WifiTechnology.empty, hp] at ht
    | some t => rw [hl] at ht; exact congrArg some ht
  have hlist : (d.lookup d.standard).list = d.list := funext fun t => by
    rw [lookup_list]
    split_ifs with hs
    · rw [hs, technology, hl]
      rfl
    · rfl
  simp only [handles, switchTechnology, hlist, technology, hl, Option.getD_some]

/-- `BandChanged` between two distinct MACs, the old active one and the one registered for
the target standard. Each of the five queues of the new MAC gets the peer's frames of the
same queue of the old MAC behind its own, in order, and the old MAC keeps its other frames
in order; an initiator's new MAC then also queues its Ack-Request in the DCA queue. The new
MAC holds the old MAC's block-ack agreements for the peer, and takes over the association
state by its role. The queues hold what the model queued, which it never dequeues: frames
already sent move with the rest. -/
theorem bandChanged_between_distinct_macs (d d' : MultiBandNetDevice) (s : WifiPhyStandard)
    (P : Mac48Address) (i : Bool) (o n : Nat) (ho : d.mac = some o)
    (hn : (d.technology s).mac = some n) (hon : o ≠ n) (h : d.bandChanged s P i = some d') :
    (∀ q, (d'.macs n).queue q = (d.macs n).queue q ++
      ((d.macs o).queue q).filter (·.hdr.addr1 == P) ++
      (if q = .txop ∧ i = true then [(d.macs n).ackRequestFrame P] else [])) ∧
    (∀ q, (d'.macs o).queue q = ((d.macs o).queue q).filter (·.hdr.addr1 != P)) ∧
    (∀ ac ag, ((d.macs o).edca ac).agreements P = some ag →
      ((d'.macs n).edca ac).agreements P = some ag) ∧
    (((d.macs n).typeOfStation = .dmgSta ∨ (d.macs n).typeOfStation = .sta) →
      (d'.macs n).bssid = (d.macs o).bssid ∧ (d'.macs n).macState = (d.macs o).macState) ∧
    (((d.macs n).typeOfStation = .ap ∨ (d.macs n).typeOfStation = .dmgAp) →
      ∃ sm, (d.technology s).stationManager = some sm ∧ (d'.stationManagers sm).associated P) := by
  refine ⟨fun q => ?_, fun q => ?_, fun ac ag hag => ?_, fun hsta => ?_, fun hap => ?_⟩
  · simp [bandChanged_queue h ho hn, Ne.symm hon]
  · simp [bandChanged_queue h ho hn, hon]
  · simp [bandChanged_agreements h ho hn, hag]
  · have hc := bandChanged_core h ho hn n
    rw [if_pos ⟨rfl, hsta⟩] at hc
    exact ⟨congrArg Core.bssid hc, congrArg Core.macState hc⟩
  · have hs := bandChanged_stationManagers h ho hn
    rw [if_pos hap] at hs
    obtain ⟨sm, hsm, hd⟩ := hs
    exact ⟨sm, hsm, by simp [hd]⟩

/-- A third station, for frames to a peer other than the one that switches. -/
def stationC : Mac48Address := ⟨0xC⟩

/-- A data frame from `stationA` to `P`. -/
def frameTo (P : Mac48Address) (payload : Nat) : WifiMacQueueItem :=
  ⟨⟨P, MacSystem.stationA⟩, .data payload⟩

/-- A station at `stationA` with a 60 GHz DMG STA MAC (handle 0, DCA queue `q`) and a 5 GHz
STA MAC (handle 1), each with the station manager of the same handle, active on 60 GHz. -/
def dualBandDevice (q : WifiMacQueue) : MultiBandNetDevice where
  list s := if s = .std80211ad then some ⟨some 0, some 0, some 0⟩
    else if s = .std80211n_5GHZ then some ⟨some 1, some 1, some 1⟩ else none
  mac := some 0
  phy := some 0
  stationManager := some 0
  standard := .std80211ad
  macs x := if x = 0 then { MacSystem.idleMac with txop := q }
    else { MacSystem.idleMac with typeOfStation := .sta }
  stationManagers _ := ⟨fun _ => false⟩

/-- The dual-band station with a frame for `stationB` ahead of one for `stationC`. -/
def busyDevice : MultiBandNetDevice := dualBandDevice [frameTo stationB 1, frameTo stationC 2]

theorem bandChanged_between_distinct_macs_on_busyDevice :
    ∃ d', busyDevice.mac = some 0 ∧ (busyDevice.technology .std80211n_5GHZ).mac = some 1 ∧
      (0 : Nat) ≠ 1 ∧ busyDevice.bandChanged .std80211n_5GHZ stationB false = some d' ∧
    (∀ q, (d'.macs 1).queue q = (busyDevice.macs 1).queue q ++
      ((busyDevice.macs 0).queue q).filter (·.hdr.addr1 == stationB) ++
      (if q = .txop ∧ false = true then [(busyDevice.macs 1).ackRequestFrame stationB] else [])) ∧
    (∀ q, (d'.macs 0).queue q = ((busyDevice.macs 0).queue q).filter (·.hdr.addr1 != stationB)) ∧
    (∀ ac ag, ((busyDevice.macs 0).edca ac).agreements stationB = some ag →
      ((d'.macs 1).edca ac).agreements stationB = some ag) ∧
    (((busyDevice.macs 1).typeOfStation = .dmgSta ∨ (busyDevice.macs 1).typeOfStation = .sta) →
      (d'.macs 1).bssid = (busyDevice.macs 0).bssid ∧
        (d'.macs 1).macState = (busyDevice.macs 0).macState) ∧
    (((busyDevice.macs 1).typeOfStation = .ap ∨ (busyDevice.macs 1).typeOfStation = .dmgAp) →
      ∃ sm, (busyDevice.technology .std80211n_5GHZ).stationManager = some sm ∧
        (d'.stationManagers sm).associated stationB) :=
  ⟨_, rfl, rfl, by decide, rfl,
    bandChanged_between_distinct_macs busyDevice _ _ _ _ 0 1 rfl rfl (by decide) rfl⟩

/-- An initiator's switch puts an Ack-Request in the new MAC's DCA queue, which held no frame
and received none for the peer. -/
theorem initiator_switch_adds_ack_request :
    ((dualBandDevice []).bandChanged .std80211n_5GHZ stationB true).map (fun d => (d.macs 1).txop) =
      some [⟨⟨stationB, MacSystem.stationA⟩, .fst (.ackRequest 0 0)⟩] := by
  decide

/-- `BandChanged` to the standard already active, with the active handles those of its
entry: the old and the new MAC are one object. Each of its queues keeps the other peers'
frames in order and then has the peer's frames behind them; an initiator also queues its
Ack-Request. Agreements, BSSID, MAC state and sessions stay as they were, every other MAC is
untouched, and an AP or DMG AP has the active station manager record the peer as
associated. -/
theorem bandChanged_to_active_standard (d d' : MultiBandNetDevice) (P : Mac48Address)
    (i : Bool) (ht : d.Tracks) (h : d.bandChanged d.standard P i = some d') :
    ∃ n, d.mac = some n ∧ d'.handles = d.handles ∧
    (∀ x q, (d'.macs x).queue q = if x = n then
      ((d.macs n).queue q).filter (·.hdr.addr1 != P) ++
        ((d.macs n).queue q).filter (·.hdr.addr1 == P) ++
        (if q = .txop ∧ i = true then [(d.macs n).ackRequestFrame P] else [])
      else (d.macs x).queue q) ∧
    (∀ x ac c, ((d'.macs x).edca ac).agreements c = ((d.macs x).edca ac).agreements c) ∧
    (∀ x, { (d'.macs x).core with fstSessionMap := (d.macs x).fstSessionMap } = (d.macs x).core) ∧
    (∀ x c, (d'.macs x).session c = (d.macs x).session c) ∧
    (∀ x, x ≠ n → d'.macs x = d.macs x) ∧
    (if (d.macs n).typeOfStation = .ap ∨ (d.macs n).typeOfStation = .dmgAp then
      ∃ sm, d.stationManager = some sm ∧ d'.stationManagers = fun y => if y = sm
        then ⟨fun c => c == P || (d.stationManagers sm).associated c⟩ else d.stationManagers y
    else d'.stationManagers = d.stationManagers) := by
  obtain ⟨o, n, -, ho, hn, -, -⟩ := bandChanged_eq_some.mp h
  have hmac : (d.technology d.standard).mac = d.mac := congrArg WifiTechnology.mac ht
  have hon : n = o := Option.some.inj (hn.symm.trans (hmac.trans ho))
  subst hon
  refine ⟨n, ho, ?_, fun x q => ?_, fun x ac c => ?_, fun x => ?_,
    bandChanged_session h ho hn, fun x hx => bandChanged_macs_of_ne h ho hn hx hx, ?_⟩
  · rw [handles_bandChanged h, handles_switchTechnology_of_tracks ht ho]
  · rw [bandChanged_queue h ho hn]
    by_cases hx : x = n <;> simp [hx]
  · rw [bandChanged_agreements h ho hn]
    by_cases hx : x = n <;> by_cases hc : c = P <;> simp [hx, hc]
  · rw [bandChanged_core h ho hn]
    split_ifs with hx
    · obtain ⟨rfl, -⟩ := hx
      rfl
    · rfl
  · have hs := bandChanged_stationManagers h ho hn
    rwa [congrArg WifiTechnology.stationManager ht] at hs

/-- Switching to the band already active moves the peer's frame behind the other peer's. -/
theorem switch_to_active_band_reorders_queue :
    (busyDevice.bandChanged .std80211ad stationB false).map (fun d => (d.macs 0).txop) =
      some [frameTo stationC 2, frameTo stationB 1] := by
  decide

theorem bandChanged_to_active_standard_on_busyDevice :
    busyDevice.Tracks ∧ ∃ d', busyDevice.bandChanged busyDevice.standard stationB false = some d' ∧
    ∃ n, busyDevice.mac = some n ∧ d'.handles = busyDevice.handles ∧
    (∀ x q, (d'.macs x).queue q = if x = n then
      ((busyDevice.macs n).queue q).filter (·.hdr.addr1 != stationB) ++
        ((busyDevice.macs n).queue q).filter (·.hdr.addr1 == stationB) ++
        (if q = .txop ∧ false = true then [(busyDevice.macs n).ackRequestFrame stationB] else [])
      else (busyDevice.macs x).queue q) ∧
    (∀ x ac c, ((d'.macs x).edca ac).agreements c = ((busyDevice.macs x).edca ac).agreements c) ∧
    (∀ x, { (d'.macs x).core with fstSessionMap := (busyDevice.macs x).fstSessionMap } =
      (busyDevice.macs x).core) ∧
    (∀ x c, (d'.macs x).session c = (busyDevice.macs x).session c) ∧
    (∀ x, x ≠ n → d'.macs x = busyDevice.macs x) ∧
    (if (busyDevice.macs n).typeOfStation = .ap ∨ (busyDevice.macs n).typeOfStation = .dmgAp then
      ∃ sm, busyDevice.stationManager = some sm ∧ d'.stationManagers = fun y => if y = sm
        then ⟨fun c => c == stationB || (busyDevice.stationManagers sm).associated c⟩
        else busyDevice.stationManagers y
    else d'.stationManagers = busyDevice.stationManagers) :=
  ⟨by decide, _, rfl, bandChanged_to_active_standard busyDevice _ stationB false (by decide) rfl⟩

end MultiBandNetDevice

end MultiBandFst
