import MultiBandFst.Device
import MultiBandFst.Handshake

/-!
# The technology table over any sequence of calls

The calls of `MultiBandNetDevice` that touch `m_list` or the active handles, run in any
order. Each reaches the table through `m_list[standard]`, so a lookup of a standard that was
never registered inserts an entry of null handles, and a second `AddNewWifiTechnology` of a
standard replaces the first. What a lookup sees is still exactly a registry of the latest
registrations (`technology_table_law`). The active handles follow the entry of the active
standard from the activation on, until that standard is registered again.

A call that dereferences a null handle (`BandChanged` or `Send` with no active MAC, the
association step of an AP without a station manager) ends the run.
-/

namespace MultiBandFst

/-- The calls on a device's technology table and active handles. -/
inductive TableOp
  | addNewWifiTechnology (phy mac station : Ptr) (standard : WifiPhyStandard)
  | getTechnologyMac (standard : WifiPhyStandard)
  | getTechnologyPhy (standard : WifiPhyStandard)
  | switchTechnology (standard : WifiPhyStandard)
  | bandChanged (standard : WifiPhyStandard) (address : Mac48Address) (isInitiator : Bool)
  | send (packet : Nat) (dest : Mac48Address) (ac : AcIndex)

namespace TableOp

/-- The standard a call names; `Send` names none. -/
def standard : TableOp → Option WifiPhyStandard
  | .addNewWifiTechnology _ _ _ t | .getTechnologyMac t | .getTechnologyPhy t
  | .switchTechnology t | .bandChanged t _ _ => some t
  | .send .. => none

end TableOp

namespace MultiBandNetDevice

def apply (d : MultiBandNetDevice) : TableOp → Option MultiBandNetDevice
  | .addNewWifiTechnology phy mac station s => some (d.addNewWifiTechnology phy mac station s)
  | .getTechnologyMac s => some (d.getTechnologyMac s).2
  | .getTechnologyPhy s => some (d.getTechnologyPhy s).2
  | .switchTechnology s => some (d.switchTechnology s)
  | .bandChanged s a i => d.bandChanged s a i
  | .send packet dest ac => d.send packet dest ac

/-- The active handles are those of the active standard's entry. -/
def Tracks (d : MultiBandNetDevice) : Prop :=
  d.technology d.standard = ⟨d.phy, d.mac, d.stationManager⟩

instance (d : MultiBandNetDevice) : Decidable d.Tracks :=
  inferInstanceAs (Decidable (_ = _))

theorem list_switchTechnology (d : MultiBandNetDevice) (s : WifiPhyStandard) :
    (d.switchTechnology s).list = (d.lookup s).list := rfl

theorem tracks_switchTechnology (d : MultiBandNetDevice) (s : WifiPhyStandard) :
    (d.switchTechnology s).Tracks := by
  show (d.lookup s).technology s = _
  rw [technology_lookup]
  rfl

/-- Whether the handles track the table depends on nothing but the handles. -/
theorem tracks_congr {d d' : MultiBandNetDevice} (h : d'.handles = d.handles) :
    d'.Tracks ↔ d.Tracks := by
  simp only [handles, Handles.mk.injEq] at h
  obtain ⟨hl, hm, hp, hs, hst⟩ := h
  simp only [Tracks, technology, hl, hm, hp, hs, hst]

end MultiBandNetDevice

end MultiBandFst
