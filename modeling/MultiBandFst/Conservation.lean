import MultiBandFst.DevicePair
import Mathlib.Algebra.BigOperators.Group.Finset

/-!
# What runs of two devices conserve

`BandChanged` reads the technology table through `m_list[standard]` and switches the active
handles to the entry it finds, so along any run each standard keeps its technology and a
device whose active handles are those of its active standard's entry keeps that
(`table_fixed_along_run`). The FST handlers only append FST action frames to the DCA
queue, and `BandChanged` moves the peer's frames from each queue of the old MAC to the same
queue of the new MAC: the frames it keeps and the frames it moves are the two halves of one
filter, also when the two MACs are one object. So, counted over any set of MACs that holds
every MAC handle of the device's table, each data frame sits in each queue kind as often
after any run as before (`data_frames_conserved`). No event of the model dequeues (see
`RegularWifiMac`), so this says that the FST code and the switch neither lose nor copy a
frame, not that a frame outlives its transmission.
-/

namespace MultiBandFst

/-- The frames `TransferPacketsByAddress` keeps and those it moves make up the queue. -/
theorem count_filter_addr (l : WifiMacQueue) (a : Mac48Address) (y : WifiMacQueueItem) :
    (l.filter (·.hdr.addr1 != a)).count y + (l.filter (·.hdr.addr1 == a)).count y = l.count y := by
  rw [add_comm, ← List.count_append]
  exact (List.filter_append_perm _ l).count_eq y

namespace MacSystem

open RegularWifiMac

/-- One event leaves the number of copies of a data frame in each queue of the MAC. -/
theorem count_queue_step (self : Nat) (σ : MacSystem) (e : MacEvent) {y : WifiMacQueueItem}
    {payload : Nat} (hy : y.packet = .data payload) (r : QueueId) :
    ((σ.step self e).mac.queue r).count y = (σ.mac.queue r).count y := by
  cases r with
  | txop =>
    have hs : (sentFrames σ.mac e).count y = 0 := List.count_eq_zero.mpr fun hm => by
      obtain ⟨a, hp, -⟩ := fst_of_mem_sentFrames hm
      rw [hy] at hp
      cases hp
    simp only [queue, txop_step, List.count_append, hs, Nat.add_zero]
  | edca ac => simp only [queue, (frame_step self σ e).1]

end MacSystem

namespace DeviceSystem

open MultiBandNetDevice

/-- The band-changed callback leaves the device's handles as they were, or switches them to
a standard's entry. -/
theorem handles_callback {d d' : MultiBandNetDevice} {c : Option ChangeBandCall}
    (h : bandChangedCallback d c = some d') :
    d'.handles = d.handles ∨ ∃ std, d'.handles = (d.switchTechnology std).handles := by
  cases c with
  | none => cases h; exact .inl rfl
  | some c =>
    simp only [bandChangedCallback] at h
    split at h
    · cases h; exact .inl rfl
    · exact .inr ⟨_, handles_bandChanged h⟩

end DeviceSystem

namespace MultiBandNetDevice

open RegularWifiMac

/-- Every MAC handle the device's table holds, and the active one, is in `S`. -/
structure HandlesIn (S : Finset Nat) (d : MultiBandNetDevice) : Prop where
  active : ∀ p, d.mac = some p → p ∈ S
  table : ∀ std t p, d.list std = some t → t.mac = some p → p ∈ S

section HandlesIn

variable {S : Finset Nat} {d d' : MultiBandNetDevice}

theorem HandlesIn.congr (hS : d.HandlesIn S) (h : d'.handles = d.handles) : d'.HandlesIn S := by
  have hm : d'.mac = d.mac := congrArg Handles.mac h
  have hl : d'.list = d.list := congrArg Handles.list h
  exact ⟨fun p hp => hS.active p (hm ▸ hp), fun std t p h₁ => hS.table std t p (hl ▸ h₁)⟩

theorem HandlesIn.technology_mac (hS : d.HandlesIn S) {s : WifiPhyStandard} {n : Nat}
    (hn : (d.technology s).mac = some n) : n ∈ S := by
  unfold technology at hn
  cases hl : d.list s with
  | none => rw [hl] at hn; cases hn
  | some t => rw [hl] at hn; exact hS.table s t n hl hn

theorem HandlesIn.switched (hS : d.HandlesIn S) (s : WifiPhyStandard) :
    (d.switchTechnology s).HandlesIn S where
  active p hp := hS.technology_mac hp
  table std t p hl ht := by
    change (d.lookup s).list std = some t at hl
    rw [lookup_list] at hl
    split_ifs at hl
    · cases hl; exact hS.technology_mac ht
    · exact hS.table std t p hl ht

theorem HandlesIn.callback (hS : d.HandlesIn S) {c : Option ChangeBandCall}
    (h : DeviceSystem.bandChangedCallback d c = some d') : d'.HandlesIn S := by
  rcases DeviceSystem.handles_callback h with hh | ⟨std, hh⟩
  · exact hS.congr hh
  · exact (hS.switched std).congr hh

end HandlesIn

/-- `BandChanged` between two MACs of `S` leaves the number of copies of a data frame in
each queue kind, summed over `S`: the old MAC's frames for the peer reappear at the new
MAC, and the Ack-Request it may queue is no data frame. -/
theorem count_bandChanged {S : Finset Nat} {d d' : MultiBandNetDevice} {s : WifiPhyStandard}
    {a : Mac48Address} {i : Bool} (hS : d.HandlesIn S) (h : d.bandChanged s a i = some d')
    {y : WifiMacQueueItem} {payload : Nat} (hy : y.packet = .data payload) (r : QueueId) :
    ∑ x ∈ S, ((d'.macs x).queue r).count y = ∑ x ∈ S, ((d.macs x).queue r).count y := by
  obtain ⟨o, n, -, ho, hn, -, -⟩ := bandChanged_eq_some.mp h
  have hack : ∀ c : Prop, [Decidable c] →
      (if c then [(d.macs n).ackRequestFrame a] else []).count y = 0 := fun c _ => by
    split_ifs
    · refine List.count_eq_zero.mpr fun hm => ?_
      rw [List.mem_singleton] at hm
      rw [hm] at hy
      cases hy
    · rfl
  have hsplit := count_filter_addr ((d.macs o).queue r) a y
  have hx : ∀ x, ((d'.macs x).queue r).count y +
      (if x = o then (((d.macs o).queue r).filter (·.hdr.addr1 == a)).count y else 0) =
      ((d.macs x).queue r).count y +
        (if x = n then (((d.macs o).queue r).filter (·.hdr.addr1 == a)).count y else 0) := by
    intro x
    rw [bandChanged_queue h ho hn x r, List.count_append, List.count_append, hack]
    by_cases hxo : x = o <;> by_cases hxn : x = n <;> subst_vars <;> simp_all
  have hsum := Finset.sum_congr rfl fun x (_ : x ∈ S) => hx x
  rw [Finset.sum_add_distrib, Finset.sum_add_distrib, Finset.sum_ite_eq', Finset.sum_ite_eq',
    if_pos (hS.active o ho), if_pos (hS.technology_mac hn)] at hsum
  omega

end MultiBandNetDevice

namespace DeviceSystem

open MultiBandNetDevice MacSystem

theorem technology_step {σ σ' : DeviceSystem} {p : Nat} {e : MacEvent}
    (h : σ.step p e = some σ') (std : WifiPhyStandard) :
    σ'.device.technology std = σ.device.technology std := by
  obtain ⟨d', hd, rfl⟩ := Option.map_eq_some'.mp h
  have hl : ∀ {d₁ d₂ : MultiBandNetDevice}, d₁.handles = d₂.handles →
      d₁.technology std = d₂.technology std := fun {d₁ d₂} hh => by
    rw [technology, technology, show d₁.list = d₂.list from congrArg Handles.list hh]
  rcases handles_callback hd with hh | ⟨s, hh⟩
  · exact hl hh
  · exact (hl hh).trans (technology_lookup _ s std)

theorem tracks_step {σ σ' : DeviceSystem} {p : Nat} {e : MacEvent} (h : σ.step p e = some σ')
    (ht : σ.device.Tracks) : σ'.device.Tracks := by
  obtain ⟨d', hd, rfl⟩ := Option.map_eq_some'.mp h
  rcases handles_callback hd with hh | ⟨s, hh⟩
  · exact (tracks_congr (hh.trans (handles_setMac _ _ _))).mpr ht
  · exact (tracks_congr hh).mpr (tracks_switchTechnology _ _)

theorem handlesIn_step {S : Finset Nat} {σ σ' : DeviceSystem} {p : Nat} {e : MacEvent}
    (hS : σ.device.HandlesIn S) (h : σ.step p e = some σ') : σ'.device.HandlesIn S := by
  obtain ⟨d', hd, rfl⟩ := Option.map_eq_some'.mp h
  exact (hS.congr (handles_setMac _ _ _)).callback hd

/-- A device step leaves the number of copies of a data frame in each queue kind, summed
over a set of MACs that holds the table's handles. -/
theorem count_step {S : Finset Nat} {σ σ' : DeviceSystem} {p : Nat} {e : MacEvent}
    (hS : σ.device.HandlesIn S) (h : σ.step p e = some σ') {y : WifiMacQueueItem}
    {payload : Nat} (hy : y.packet = .data payload) (r : QueueId) :
    ∑ x ∈ S, ((σ'.device.macs x).queue r).count y =
      ∑ x ∈ S, ((σ.device.macs x).queue r).count y := by
  obtain ⟨d', hd, rfl⟩ := Option.map_eq_some'.mp h
  have hc : ∑ x ∈ S, ((d'.macs x).queue r).count y =
      ∑ x ∈ S, (((σ.device.setMac p (σ.macOutcome p e).mac).macs x).queue r).count y := by
    cases hc : (σ.macOutcome p e).changeBand with
    | none => rw [hc] at hd; cases hd; rfl
    | some c =>
      rw [hc, bandChangedCallback] at hd
      split at hd
      · cases hd; rfl
      · exact count_bandChanged (hS.congr (handles_setMac _ _ _)) hd hy r
  refine hc.trans (Finset.sum_congr rfl fun x _ => ?_)
  rw [setMac_macs]
  split_ifs with hx
  · subst hx
    exact count_queue_step x _ e hy r
  · rfl

end DeviceSystem

namespace DevicePair

open MultiBandNetDevice MacSystem

/-- A reflexive and transitive relation that every device step establishes holds, on each
side, between the start and the end of any run. -/
theorem run_rel {R : DeviceSystem → DeviceSystem → Prop} (hrefl : ∀ σ, R σ σ)
    (htrans : ∀ σ₁ σ₂ σ₃, R σ₁ σ₂ → R σ₂ σ₃ → R σ₁ σ₃)
    (hstep : ∀ σ σ' p e, σ.step p e = some σ' → R σ σ') {ν ν' : DevicePair}
    {es : List PairEvent} (h : ν.run es = some ν') (s : Side) : R (ν.dev s) (ν'.dev s) := by
  induction es generalizing ν with
  | nil => cases h; exact hrefl _
  | cons ev es ih =>
    simp only [run] at h
    split_ifs at h
    obtain ⟨ν₁, h₁, h⟩ := Option.bind_eq_some.mp h
    refine htrans _ _ _ ?_ (ih h)
    unfold DevicePair.step at h₁
    obtain ⟨σ', hσ, rfl⟩ := Option.map_eq_some'.mp h₁
    rw [dev_set]
    split_ifs with hs
    · exact hs ▸ hstep _ _ _ _ hσ
    · exact hrefl _

/-- Along any run of two devices, each standard keeps its technology, and a device whose
active handles are those of its active standard's entry keeps that. -/
theorem table_fixed_along_run {ν ν' : DevicePair} {es : List PairEvent} (h : ν.run es = some ν')
    (s : Side) : (∀ std, (ν'.dev s).device.technology std = (ν.dev s).device.technology std) ∧
      ((ν.dev s).device.Tracks → (ν'.dev s).device.Tracks) :=
  run_rel (R := fun σ σ' => (∀ std, σ'.device.technology std = σ.device.technology std) ∧
      (σ.device.Tracks → σ'.device.Tracks))
    (fun _ => ⟨fun _ => rfl, id⟩)
    (fun _ _ _ h₁ h₂ => ⟨fun std => (h₂.1 std).trans (h₁.1 std), h₂.2 ∘ h₁.2⟩)
    (fun _ _ _ _ hσ => ⟨DeviceSystem.technology_step hσ, DeviceSystem.tracks_step hσ⟩) h s

theorem table_fixed_along_run_on_switchRun :
    ∃ ν', stationPair.run switchRun = some ν' ∧
      (∀ std, (ν'.dev .a).device.technology std = (stationPair.dev .a).device.technology std) ∧
      ((stationPair.dev .a).device.Tracks → (ν'.dev .a).device.Tracks) := by
  obtain ⟨ν', hν'⟩ := Option.isSome_iff_exists.mp (by decide : (stationPair.run switchRun).isSome)
  exact ⟨ν', hν', table_fixed_along_run hν' .a⟩

/-- Along any run of two devices, and counted over sets of MACs that hold each device's
table handles, every queue kind of each device holds as many copies of each data frame at
the end as at the start. The queues are those of the model, which nothing dequeues. -/
theorem data_frames_conserved {ν ν' : DevicePair} {es : List PairEvent} {S : Side → Finset Nat}
    (hS : ∀ s, (ν.dev s).device.HandlesIn (S s)) (h : ν.run es = some ν') {y : WifiMacQueueItem}
    {payload : Nat} (hy : y.packet = .data payload) (s : Side) (r : QueueId) :
    ∑ x ∈ S s, (((ν'.dev s).device.macs x).queue r).count y =
      ∑ x ∈ S s, (((ν.dev s).device.macs x).queue r).count y :=
  ((run_rel (R := fun σ σ' => σ.device.HandlesIn (S s) → σ'.device.HandlesIn (S s) ∧
      ∑ x ∈ S s, ((σ'.device.macs x).queue r).count y =
        ∑ x ∈ S s, ((σ.device.macs x).queue r).count y)
    (fun _ hS => ⟨hS, rfl⟩)
    (fun _ _ _ h₁ h₂ hS => ⟨(h₂ (h₁ hS).1).1, ((h₂ (h₁ hS).1).2).trans (h₁ hS).2⟩)
    (fun _ _ _ _ hσ hS =>
      ⟨DeviceSystem.handlesIn_step hS hσ, DeviceSystem.count_step hS hσ hy r⟩)
    h s) (hS s)).2

theorem dualBandStation_handlesIn (address : Mac48Address) (llt : UInt32) :
    (dualBandStation address llt).HandlesIn {0, 1} where
  active p hp := by cases hp; decide
  table std t p hl ht := by
    simp only [dualBandStation, dualBandDevice] at hl
    split_ifs at hl <;> cases hl <;> cases ht <;> decide

/-- `stationPair` with a data frame for `b` ahead of one for `stationC` in the DCA queue of
`a`'s 60 GHz MAC. -/
def loadedStationPair : DevicePair :=
  { stationPair with
    a := { stationPair.a with
      device := stationPair.a.device.setMac 0
        { stationPair.a.device.macs 0 with txop := [frameTo stationB 1, frameTo stationC 2] } } }

/-- On `switchRun` the frame for `b` moves from `a`'s 60 GHz MAC to its 5 GHz MAC, and the
count over both MACs stays one. -/
theorem data_frames_conserved_on_switchRun :
    (∀ s, (loadedStationPair.dev s).device.HandlesIn {0, 1}) ∧
      (frameTo stationB 1).packet = .data 1 ∧
      ∃ ν', loadedStationPair.run switchRun = some ν' ∧
      ∑ x ∈ {0, 1}, (((ν'.dev .a).device.macs x).queue .txop).count (frameTo stationB 1) =
        ∑ x ∈ {0, 1}, (((loadedStationPair.dev .a).device.macs x).queue .txop).count
          (frameTo stationB 1) ∧
      (((loadedStationPair.dev .a).device.macs 0).queue .txop).count (frameTo stationB 1) = 1 ∧
      (((ν'.dev .a).device.macs 0).queue .txop).count (frameTo stationB 1) = 0 ∧
      (((ν'.dev .a).device.macs 1).queue .txop).count (frameTo stationB 1) = 1 := by
  have hS : ∀ s, (loadedStationPair.dev s).device.HandlesIn {0, 1}
    | .a => (dualBandStation_handlesIn stationA 0).congr rfl
    | .b => dualBandStation_handlesIn stationB 0
  obtain ⟨ν', hν', hc⟩ := Option.map_eq_some'.mp (by decide :
    (loadedStationPair.run switchRun).map (fun ν =>
      ((((ν.dev .a).device.macs 0).queue .txop).count (frameTo stationB 1),
        (((ν.dev .a).device.macs 1).queue .txop).count (frameTo stationB 1))) = some (0, 1))
  obtain ⟨h0, h1⟩ := Prod.mk.inj hc
  exact ⟨hS, rfl, ν', hν', data_frames_conserved hS hν' rfl .a .txop, rfl, h0, h1⟩

end DevicePair

end MultiBandFst
