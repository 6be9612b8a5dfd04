import MultiBandFst.Frames

/-!
# The discrete-event scheduler

The part of ns-3's `Simulator` the FST code uses: `Schedule` of a `ChangeBand` call after
a delay, `EventId::Cancel` and `EventId::IsRunning`. Events run in timestamp order and,
at equal timestamps, in the order they were scheduled. Time is in microseconds.
-/

namespace MultiBandFst

/-- A pending `ChangeBand (peerStation, bandId, isInitiator)` on the MAC `owner`. -/
structure ScheduledEvent where
  uid : Nat
  time : Nat
  owner : Nat
  peerStation : Mac48Address
  bandId : BandID
  isInitiator : Bool
  deriving DecidableEq, Repr

structure Simulator where
  now : Nat
  lastUid : Nat
  events : List ScheduledEvent
  deriving DecidableEq, Repr

namespace Simulator

def schedule (sim : Simulator) (delay owner : Nat) (peerStation : Mac48Address)
    (bandId : BandID) (isInitiator : Bool) : EventId × Simulator :=
  let uid := sim.lastUid + 1
  let e : ScheduledEvent := ⟨uid, sim.now + delay, owner, peerStation, bandId, isInitiator⟩
  (some uid, { sim with lastUid := uid, events := sim.events ++ [e] })

def cancel (sim : Simulator) : EventId → Simulator
  | none => sim
  | some uid => { sim with events := sim.events.filter (·.uid != uid) }

def isRunning (sim : Simulator) : EventId → Bool
  | none => false
  | some uid => sim.events.any (·.uid == uid)

/-- The event that runs next: the earliest, and among equally early ones the first. -/
def earliest : List ScheduledEvent → Option ScheduledEvent
  | [] => none
  | e :: es => match earliest es with
    | none => some e
    | some f => if f.time < e.time then some f else some e

/-- Run the next event: the clock moves to its time and it leaves the queue. -/
def fire (sim : Simulator) : Option (ScheduledEvent × Simulator) :=
  (earliest sim.events).map fun e => (e, { sim.cancel (some e.uid) with now := e.time })

/-- Let time pass to `t`, provided no pending event is skipped. -/
def advance (sim : Simulator) (t : Nat) : Simulator :=
  if sim.now ≤ t ∧ sim.events.all (t ≤ ·.time) then { sim with now := t } else sim

@[simp] theorem schedule_fst (sim : Simulator) (d o : Nat) (p : Mac48Address) (b : BandID)
    (i : Bool) : (sim.schedule d o p b i).1 = some (sim.lastUid + 1) := rfl

@[simp] theorem schedule_now (sim : Simulator) (d o : Nat) (p : Mac48Address) (b : BandID)
    (i : Bool) : (sim.schedule d o p b i).2.now = sim.now := rfl

@[simp] theorem schedule_lastUid (sim : Simulator) (d o : Nat) (p : Mac48Address)
    (b : BandID) (i : Bool) : (sim.schedule d o p b i).2.lastUid = sim.lastUid + 1 := rfl

@[simp] theorem schedule_events (sim : Simulator) (d o : Nat) (p : Mac48Address)
    (b : BandID) (i : Bool) : (sim.schedule d o p b i).2.events =
      sim.events ++ [⟨sim.lastUid + 1, sim.now + d, o, p, b, i⟩] := rfl

@[simp] theorem cancel_now (sim : Simulator) (id : EventId) : (sim.cancel id).now = sim.now := by
  cases id <;> rfl

@[simp] theorem cancel_lastUid (sim : Simulator) (id : EventId) :
    (sim.cancel id).lastUid = sim.lastUid := by
  cases id <;> rfl

theorem mem_cancel {sim : Simulator} {uid : Nat} {e : ScheduledEvent} :
    e ∈ (sim.cancel (some uid)).events ↔ e ∈ sim.events ∧ e.uid ≠ uid := by
  simp [cancel]

theorem isRunning_some {sim : Simulator} {uid : Nat} :
    sim.isRunning (some uid) = true ↔ ∃ e ∈ sim.events, e.uid = uid := by
  simp [isRunning]

theorem earliest_mem : ∀ {es : List ScheduledEvent} {e : ScheduledEvent},
    earliest es = some e → e ∈ es
  | [], _, h => by simp [earliest] at h
  | x :: xs, e, h => by
    simp only [earliest] at h
    split at h
    · cases h; exact List.mem_cons_self _ _
    · rename_i f hf
      split at h <;> cases h
      · exact List.mem_cons_of_mem _ (earliest_mem hf)
      · exact List.mem_cons_self _ _

theorem mem_of_mem_cancel {sim : Simulator} {v : EventId} {e : ScheduledEvent}
    (h : e ∈ (sim.cancel v).events) : e ∈ sim.events := by
  cases v with
  | none => exact h
  | some u => exact (mem_cancel.mp h).1

theorem mem_schedule {sim : Simulator} {d o : Nat} {p : Mac48Address} {b : BandID} {i : Bool}
    {e : ScheduledEvent} (h : e ∈ (sim.schedule d o p b i).2.events) :
    e ∈ sim.events ∨ e.bandId = b := by
  rw [schedule_events, List.mem_append, List.mem_singleton] at h
  rcases h with h | rfl
  · exact .inl h
  · exact .inr rfl

@[simp] theorem advance_events (sim : Simulator) (t : Nat) :
    (sim.advance t).events = sim.events := by
  unfold advance; split <;> rfl

/-- The event that runs was pending, and the queue it leaves holds only pending events. -/
theorem fire_eq_some {sim sim' : Simulator} {f : ScheduledEvent} (h : sim.fire = some (f, sim')) :
    f ∈ sim.events ∧ ∀ e ∈ sim'.events, e ∈ sim.events := by
  obtain ⟨g, hg, hgs⟩ := Option.map_eq_some'.mp h
  cases hgs
  exact ⟨earliest_mem hg, fun _ => mem_of_mem_cancel⟩

/-- Running an event cancels its uid. -/
theorem fire_events {sim sim' : Simulator} {f : ScheduledEvent} (h : sim.fire = some (f, sim')) :
    sim'.events = (sim.cancel (some f.uid)).events := by
  obtain ⟨g, -, hgs⟩ := Option.map_eq_some'.mp h
  cases hgs
  rfl

end Simulator

end MultiBandFst
