import MultiBandFst.LinkLoss

/-!
# A countdown ends only by running or by a re-arm

The FST code cancels a link-loss countdown only through the `EventId` its session holds,
and only in `MacTxOk`/`MacRxOk` while that session waits in `setupCompletion`, to schedule
it again (`countdown_ends_by_firing_or_rearm`). A new `SetupFSTSession`, a Setup-Request,
a repeated Setup-Response, a Teardown or an Ack-Response rewrites the session's state or
its `EventId` and leaves the event in the scheduler, held by no waiting session
(`overwrite_leaves_countdown_untracked`). Such an event stays so, and it stays pending
until the scheduler runs it and calls `ChangeBand` with the peer, band and role it was
scheduled with (`untracked_countdown_runs`).

Each uid the scheduler hands out is above every pending one, so pending events have
distinct uids (`Reachable.uidsNodup`) and a uid names one event.
-/

namespace MultiBandFst

namespace Simulator

/-- Every pending event has its own uid. -/
def UidsNodup (sim : Simulator) : Prop := (sim.events.map (·.uid)).Nodup

theorem uidsNodup_cancel {sim : Simulator} (h : sim.UidsNodup) (v : EventId) :
    (sim.cancel v).UidsNodup := by
  cases v with
  | none => exact h
  | some u => exact h.sublist ((List.filter_sublist _).map _)

theorem uidsNodup_schedule {sim : Simulator} (h : sim.UidsNodup)
    (hle : ∀ e ∈ sim.events, e.uid ≤ sim.lastUid) (d o : Nat) (p : Mac48Address)
    (b : BandID) (i : Bool) : (sim.schedule d o p b i).2.UidsNodup := by
  simp only [UidsNodup, schedule_events, List.map_append, List.map_cons, List.map_nil]
  refine List.nodup_append.mpr ⟨h, List.nodup_singleton _, ?_⟩
  simp only [List.disjoint_singleton, List.mem_map, not_exists, not_and]
  intro e he heq
  have := hle e he
  omega

theorem eq_of_uid_eq {sim : Simulator} (h : sim.UidsNodup) {e f : ScheduledEvent}
    (he : e ∈ sim.events) (hf : f ∈ sim.events) (huid : e.uid = f.uid) : e = f :=
  List.inj_on_of_nodup_map h he hf huid

theorem find?_uid_of_mem {sim : Simulator} (h : sim.UidsNodup) {c : ScheduledEvent}
    (hc : c ∈ sim.events) : sim.events.find? (·.uid == c.uid) = some c := by
  cases hf : sim.events.find? (·.uid == c.uid) with
  | none => simpa using List.find?_eq_none.mp hf c hc
  | some f =>
    have hu : f.uid = c.uid := by simpa using List.find?_some hf
    rw [eq_of_uid_eq h (List.mem_of_find?_eq_some hf) hc hu]

end Simulator

namespace MacSystem

open RegularWifiMac Simulator

/-- No session waiting in `setupCompletion` holds the event with uid `u`, so no
`MacTxOk` or `MacRxOk` cancels it. -/
def Untracked (σ : MacSystem) (u : Nat) : Prop :=
  ∀ P, (σ.mac.session P).currentState = .setupCompletion →
    (σ.mac.session P).linkLossCountDownEvent ≠ some u

/-- The events that rewrite P's session without cancelling its countdown: a
`SetupFSTSession (P)`, and from P a Setup-Request, a success Setup-Response, a Teardown
or an Ack-Response; and the `TxOk` of a Setup-Response or an Ack-Response to P. -/
def overwrites (me P : Mac48Address) : MacEvent → Bool
  | .setupFSTSession a => a == P
  | .receive ⟨⟨dst, sender⟩, .fst (.setupRequest ..)⟩ => dst == me && sender == P
  | .receive ⟨⟨dst, sender⟩, .fst (.setupResponse _ status)⟩ =>
    dst == me && sender == P && status == 0
  | .receive ⟨⟨dst, sender⟩, .fst (.tearDown _)⟩ => dst == me && sender == P
  | .receive ⟨⟨dst, sender⟩, .fst (.ackResponse ..)⟩ => dst == me && sender == P
  | .txOk ⟨⟨dst, _⟩, .fst (.setupResponse ..)⟩ => dst == P
  | .txOk ⟨⟨dst, _⟩, .fst (.ackResponse ..)⟩ => dst == P
  | _ => false

/-! ## What one event does to the scheduler and to a waiting session -/

/-- One event leaves the queue as it was, schedules an event, cancels and schedules again
the countdown of a session waiting in `setupCompletion` (`MacTxOk`/`MacRxOk`), or runs
the next event. -/
theorem sim_step (self : Nat) (σ : MacSystem) (e : MacEvent) :
    (σ.step self e).sim.events = σ.sim.events ∨
    (∃ d o P b i, (σ.step self e).sim = (σ.sim.schedule d o P b i).2) ∨
    (∃ a u, (e = .macTxOk a ∨ e = .macRxOk a) ∧
      (σ.mac.session a).currentState = .setupCompletion ∧
      (σ.mac.session a).linkLossCountDownEvent = some u ∧
      ∃ d o P b i, (σ.step self e).sim = ((σ.sim.cancel (some u)).schedule d o P b i).2) ∨
    (e = .expire ∧ ∃ f, σ.sim.fire = some (f, (σ.step self e).sim)) := by
  have hc : ∀ P i, (completeSetup self σ.mac σ.sim P i).sim.events = σ.sim.events ∨
      ∃ d o Q b j, (completeSetup self σ.mac σ.sim P i).sim = (σ.sim.schedule d o Q b j).2 :=
    fun P i => by
      rw [completeSetup_sim]
      split
      · exact .inl rfl
      · exact .inr ⟨_, _, _, _, _, rfl⟩
  cases e with
  | receive item =>
    obtain ⟨⟨dst, P⟩, pkt⟩ := item
    by_cases hd : dst = σ.mac.address
    · subst hd
      rcases pkt with _ | (_ | ⟨_, status⟩ | _ | _ | _) <;>
        simp only [step_receive, receive_data, receive_setupRequest, receive_setupResponse,
          receive_tearDown, receive_ackRequest, receive_ackResponse]
      all_goals first | exact .inl trivial | split
      · exact (hc _ _).imp_right .inl
      · exact .inl rfl
    · exact .inl (by simp [hd])
  | txOk item =>
    obtain ⟨⟨P, src⟩, pkt⟩ := item
    rcases pkt with _ | (_ | _ | _ | _ | _) <;> simp only [step_txOk, txOk]
    all_goals first | exact .inl trivial | exact (hc _ _).imp_right .inl
  | macTxOk a | macRxOk a =>
    simp only [step_macTxOk, step_macRxOk, resetLinkLossCountDown_sim]
    split_ifs with h
    · obtain ⟨hw, hrun⟩ := h
      cases hu : (σ.mac.session a).linkLossCountDownEvent with
      | none => simp [hu, isRunning] at hrun
      | some u => exact .inr (.inr (.inl ⟨a, u, by simp, hw, hu, _, _, _, _, _, rfl⟩))
    · exact .inl rfl
  | expire =>
    simp only [step]
    split
    · exact .inl rfl
    · exact .inr (.inr (.inr ⟨trivial, _, ‹_›⟩))
  | advance t => exact .inl (advance_events _ _)
  | _ => exact .inl rfl

/-- After one event a session waits in `setupCompletion` only with the record it had, or
with the uid the event just handed out. -/
theorem waiting_step (self : Nat) (σ : MacSystem) (e : MacEvent) (P : Mac48Address)
    (hw : ((σ.next self e).mac.session P).currentState = .setupCompletion) :
    (σ.next self e).mac.session P = σ.mac.session P ∨
      ((σ.next self e).mac.session P).linkLossCountDownEvent = some (σ.sim.lastUid + 1) := by
  have hc : ∀ Q i, ((completeSetup self σ.mac σ.sim Q i).mac.session P).currentState =
      .setupCompletion → (completeSetup self σ.mac σ.sim Q i).mac.session P = σ.mac.session P ∨
        ((completeSetup self σ.mac σ.sim Q i).mac.session P).linkLossCountDownEvent =
          some (σ.sim.lastUid + 1) := fun Q i hw => by
    rw [completeSetup_session] at hw ⊢
    split_ifs at hw ⊢ with hP hl
    · simp [setupDoneState, hl] at hw
    · exact .inr rfl
    · exact .inl rfl
  cases e with
  | setupFSTSession a =>
    by_cases hP : P = a
    · subst hP; simp [session_setupFSTSession] at hw
    · exact .inl (by simp [session_setupFSTSession, hP])
  | receive item =>
    obtain ⟨⟨dst, Q⟩, pkt⟩ := item
    by_cases hd : dst = σ.mac.address
    · subst hd
      rcases pkt with _ | (_ | ⟨_, status⟩ | _ | _ | _)
      · exact .inl (by simp)
      · by_cases hP : P = Q
        · subst hP; simp [sendFstSetupResponse, session_putSession] at hw
        · exact .inl (by simp [sendFstSetupResponse, session_putSession, hP])
      · by_cases hs : status = 0
        · simp only [next_mac, step_receive, receive_setupResponse, if_pos hs] at hw ⊢
          exact hc _ _ hw
        · exact .inl (by simp [hs])
      · exact .inl (by simp [sendFstAckResponse])
      · by_cases hP : P = Q
        · subst hP; simp [session_confirmTransition] at hw
        · exact .inl (by simp [session_confirmTransition, hP])
      · by_cases hP : P = Q
        · subst hP; simp [session_putSession] at hw
        · exact .inl (by simp [session_putSession, hP])
    · exact .inl (by simp [hd])
  | txOk item =>
    obtain ⟨⟨Q, src⟩, pkt⟩ := item
    rcases pkt with _ | (_ | _ | _ | _ | _)
    · exact .inl rfl
    · exact .inl rfl
    · exact hc _ _ hw
    · exact .inl rfl
    · by_cases hP : P = Q
      · subst hP; simp [session_confirmTransition] at hw
      · exact .inl (by simp [session_confirmTransition, hP])
    · exact .inl rfl
  | macTxOk a | macRxOk a =>
    simp only [next_mac, step_macTxOk, step_macRxOk, resetLinkLossCountDown_session]
    split_ifs
    · exact .inr rfl
    · exact .inl rfl
  | notifyBandChanged std a i => exact .inl (session_notifyBandChanged σ.mac std a P i)
  | sendFstTearDownFrame a => exact .inl rfl
  | advance t => exact .inl rfl
  | expire =>
    simp only [next_mac, step]
    split <;> exact .inl rfl

/-- An event that `overwrites` P's session leaves it out of `setupCompletion`, or holding
the uid the event just handed out. -/
theorem overwrites_step (self : Nat) (σ : MacSystem) {e : MacEvent} {P : Mac48Address}
    (he : overwrites σ.mac.address P e = true) :
    ((σ.next self e).mac.session P).currentState ≠ .setupCompletion ∨
      ((σ.next self e).mac.session P).linkLossCountDownEvent = some (σ.sim.lastUid + 1) := by
  have hc : ∀ i, ((completeSetup self σ.mac σ.sim P i).mac.session P).currentState ≠
      .setupCompletion ∨
      ((completeSetup self σ.mac σ.sim P i).mac.session P).linkLossCountDownEvent =
        some (σ.sim.lastUid + 1) := fun i => by
    rw [completeSetup_session, if_pos rfl]
    by_cases hl : (σ.mac.session P).llt = 0
    · exact .inl (by simp [setupDoneState, hl])
    · exact .inr (by simp [hl])
  cases e with
  | setupFSTSession a =>
    simp only [overwrites, beq_iff_eq] at he
    subst he
    exact .inl (by simp [session_setupFSTSession])
  | receive item =>
    obtain ⟨⟨dst, Q⟩, pkt⟩ := item
    rcases pkt with _ | (_ | ⟨_, status⟩ | _ | _ | _) <;>
      simp only [overwrites, Bool.and_eq_true, beq_iff_eq, Bool.false_eq_true] at he
    · obtain ⟨rfl, rfl⟩ := he
      exact .inl (by simp [sendFstSetupResponse, session_putSession])
    · obtain ⟨⟨rfl, rfl⟩, rfl⟩ := he
      rw [next_mac, step_receive, receive_setupResponse, if_pos rfl]
      exact hc true
    · obtain ⟨rfl, rfl⟩ := he
      exact .inl (by simp [session_confirmTransition])
    · obtain ⟨rfl, rfl⟩ := he
      exact .inl (by simp [session_putSession])
  | txOk item =>
    obtain ⟨⟨Q, src⟩, pkt⟩ := item
    rcases pkt with _ | (_ | _ | _ | _ | _) <;>
      simp only [overwrites, beq_iff_eq, Bool.false_eq_true] at he <;> subst he
    · exact hc false
    · exact .inl (by simp [confirmTransition, session_putSession])
  | _ => simp [overwrites] at he

/-! ## Reachable systems -/

theorem Reachable.uidsNodup {self : Nat} {σ : MacSystem} (r : Reachable self σ) :
    σ.sim.UidsNodup := by
  induction r with
  | init m sim _ hs => simp [UidsNodup, hs]
  | @step σ e r ih =>
    have hle := r.fresh.events_le
    show (σ.step self e).sim.UidsNodup
    rcases sim_step self _ e with h | ⟨d, o, P, b, i, h⟩ | ⟨a, u, -, -, -, d, o, P, b, i, h⟩ |
      ⟨-, f, hf⟩
    · unfold UidsNodup; rw [h]; exact ih
    · rw [h]; exact uidsNodup_schedule ih hle _ _ _ _ _
    · rw [h]; exact uidsNodup_schedule (uidsNodup_cancel ih _) (events_le_cancel hle _) _ _ _ _ _
    · unfold UidsNodup; rw [fire_events hf]; exact uidsNodup_cancel ih _

/-- A step keeps an event untracked: a session that starts waiting gets a uid above every
pending one. -/
theorem untracked_next (self : Nat) {σ : MacSystem} {u : Nat} (hu : σ.Untracked u)
    (hle : u ≤ σ.sim.lastUid) (e : MacEvent) : (σ.next self e).Untracked u := by
  intro P hw hP
  rcases waiting_step self σ e P hw with hs | hs
  · rw [hs] at hw hP
    exact hu P hw hP
  · rw [hs] at hP
    cases hP
    omega

/-- In a reachable system, an event that takes a pending event out of the scheduler
without running it is a `MacTxOk` or `MacRxOk` re-arming it as some peer's countdown. -/
theorem removed_cases {self : Nat} {σ : MacSystem} (r : Reachable self σ)
    {c : ScheduledEvent} (hc : c ∈ σ.sim.events) {e : MacEvent}
    (hn : c ∉ (σ.next self e).sim.events) :
    (e = .expire ∧ σ.sim.fire.map Prod.fst = some c) ∨
      ∃ a, (e = .macTxOk a ∨ e = .macRxOk a) ∧ σ.countdown a = some c := by
  have hnd := r.uidsNodup
  rw [next_sim] at hn
  rcases sim_step self σ e with h | ⟨d, o, P, b, i, h⟩ | ⟨a, u, he, hw, hu, d, o, P, b, i, h⟩ |
    ⟨rfl, f, hf⟩
  · exact absurd (by rw [h]; exact hc) hn
  · exact absurd (by rw [h, schedule_events]; exact List.mem_append_left _ hc) hn
  · have hcu : c.uid = u := by
      by_contra hne
      exact hn (by
        rw [h, schedule_events]
        exact List.mem_append_left _ (mem_cancel.mpr ⟨hc, hne⟩))
    refine .inr ⟨a, he, countdown_eq_some.mpr ⟨hw, u, hu, ?_⟩⟩
    rw [← hcu]
    exact find?_uid_of_mem hnd hc
  · have hfc : f = c := by
      refine eq_of_uid_eq hnd (fire_eq_some hf).1 hc ?_
      by_contra hne
      exact hn (by rw [fire_events hf]; exact mem_cancel.mpr ⟨hc, Ne.symm hne⟩)
    exact .inl ⟨rfl, by rw [hf, hfc]; rfl⟩

/-- Along a run from a reachable system, a pending event stays pending to the end, keeping
any property each step preserves while it is pending; or the run splits at the first event
that takes it out. -/
theorem run_until_removed {self : Nat} (c : ScheduledEvent) (I : MacSystem → Prop)
    (hI : ∀ σ e, Reachable self σ → c ∈ σ.sim.events → I σ → I (σ.next self e))
    (es : List MacEvent) {σ : MacSystem} (r : Reachable self σ) (hc : c ∈ σ.sim.events)
    (hi : I σ) : (c ∈ (σ.run self es).sim.events ∧ I (σ.run self es)) ∨
      ∃ es₁ e es₂, es = es₁ ++ e :: es₂ ∧ Reachable self (σ.run self es₁) ∧
        c ∈ (σ.run self es₁).sim.events ∧ I (σ.run self es₁) ∧
        c ∉ ((σ.run self es₁).next self e).sim.events := by
  induction es generalizing σ with
  | nil => exact .inl ⟨hc, hi⟩
  | cons e es ih =>
    by_cases hn : c ∈ (σ.next self e).sim.events
    · rcases ih (r.step e) hn (hI σ e r hc hi) with h | ⟨es₁, e', es₂, rfl, h⟩
      · exact .inl h
      · exact .inr ⟨e :: es₁, e', es₂, rfl, h⟩
    · exact .inr ⟨[], e, es, rfl, r, hc, hi, hn⟩

theorem Reachable.run {self : Nat} {σ : MacSystem} (r : Reachable self σ) :
    ∀ es, Reachable self (σ.run self es)
  | [] => r
  | e :: es => (r.step e).run es

/-- Along any run from a reachable system, pending events have distinct uids; and a pending
countdown leaves the scheduler only when it runs, or when `MacTxOk`/`MacRxOk` cancels it to
schedule it again as the countdown of the session that holds it. -/
theorem countdown_ends_by_firing_or_rearm {self : Nat} {σ : MacSystem} (r : Reachable self σ)
    {c : ScheduledEvent} (hc : c ∈ σ.sim.events) (es : List MacEvent) :
    (∀ k ≤ es.length, ((σ.run self (es.take k)).sim.events.map (·.uid)).Nodup) ∧
    (c ∈ (σ.run self es).sim.events ∨
      ∃ es₁ e es₂, es = es₁ ++ e :: es₂ ∧
        ((e = .expire ∧ (σ.run self es₁).sim.fire.map Prod.fst = some c) ∨
          ∃ a, (e = .macTxOk a ∨ e = .macRxOk a) ∧ (σ.run self es₁).countdown a = some c)) := by
  refine ⟨fun k _ => (r.run _).uidsNodup, ?_⟩
  rcases run_until_removed c (fun _ => True) (fun _ _ _ _ _ => trivial) es r hc trivial with
    ⟨h, -⟩ | ⟨es₁, e, es₂, rfl, r₁, hc₁, -, hn⟩
  · exact .inl h
  · exact .inr ⟨es₁, e, es₂, rfl, removed_cases r₁ hc₁ hn⟩

theorem countdown_ends_by_firing_or_rearm_when_armed :
    Reachable 0 armedSystem ∧ ⟨1, 160, 0, stationB, .band4_9GHz, true⟩ ∈ armedSystem.sim.events ∧
      (∀ k ≤ [MacEvent.macTxOk stationB].length,
        ((armedSystem.run 0 ([MacEvent.macTxOk stationB].take k)).sim.events.map (·.uid)).Nodup) ∧
      (⟨1, 160, 0, stationB, .band4_9GHz, true⟩ ∈
          (armedSystem.run 0 [.macTxOk stationB]).sim.events ∨
        ∃ es₁ e es₂, [.macTxOk stationB] = es₁ ++ e :: es₂ ∧
          ((e = .expire ∧ (armedSystem.run 0 es₁).sim.fire.map Prod.fst =
              some ⟨1, 160, 0, stationB, .band4_9GHz, true⟩) ∨
            ∃ a, (e = .macTxOk a ∨ e = .macRxOk a) ∧
              (armedSystem.run 0 es₁).countdown a =
                some ⟨1, 160, 0, stationB, .band4_9GHz, true⟩)) :=
  have r : Reachable 0 armedSystem := .step _ (.step _ (.init idleMac _ rfl rfl))
  ⟨r, by decide, countdown_ends_by_firing_or_rearm r (by decide) _⟩

/-- An event that `overwrites` P's session leaves P's countdown held by no waiting
session. -/
theorem overwrites_untracked {self : Nat} {σ : MacSystem} (r : Reachable self σ)
    {P : Mac48Address} {c : ScheduledEvent} (hc : σ.countdown P = some c) {e : MacEvent}
    (he : overwrites σ.mac.address P e = true) : (σ.next self e).Untracked c.uid := by
  obtain ⟨-, u, hu, hp⟩ := countdown_eq_some.mp hc
  have hcu : c.uid = u := by simpa using List.find?_some hp
  have hmem : c ∈ σ.sim.events := List.mem_of_find?_eq_some hp
  have hle := r.fresh.events_le c hmem
  intro Q hwQ hQ
  have hfresh : ((σ.next self e).mac.session Q).linkLossCountDownEvent ≠
      some (σ.sim.lastUid + 1) := by
    rw [hQ]; simp only [ne_eq, Option.some.injEq]; omega
  rcases waiting_step self σ e Q hwQ with hs | hs
  · have hQP : Q = P := (r.fresh.target Q _ c (hs ▸ hQ) hmem rfl).1.symm.trans
      (r.fresh.target P u c hu hmem hcu).1
    subst hQP
    rcases overwrites_step self σ he with h | h
    · exact h hwQ
    · exact hfresh h
  · exact hfresh hs

/-- A new `SetupFSTSession (P)`, a Setup-Request, a success Setup-Response, a Teardown or
an Ack-Response from P, or the `TxOk` of a Setup-Response or an Ack-Response to P, leaves
P's pending countdown in the scheduler, held by no waiting session. -/
theorem overwrite_leaves_countdown_untracked {self : Nat} {σ : MacSystem}
    (r : Reachable self σ) {P : Mac48Address} {c : ScheduledEvent} (hc : σ.countdown P = some c)
    {e : MacEvent} (he : overwrites σ.mac.address P e = true) :
    c ∈ (σ.next self e).sim.events ∧ (σ.next self e).Untracked c.uid := by
  obtain ⟨-, u, -, hp⟩ := countdown_eq_some.mp hc
  refine ⟨?_, overwrites_untracked r hc he⟩
  by_contra hn
  rcases removed_cases r (List.mem_of_find?_eq_some hp) hn with ⟨rfl, -⟩ | ⟨a, rfl | rfl, -⟩ <;>
    simp [overwrites] at he

/-- A second success Setup-Response from `stationB`, at time 0. -/
def repeatedResponse : MacEvent := .receive ⟨⟨stationA, stationB⟩, .fst (.setupResponse 10 0)⟩

theorem overwrite_leaves_countdown_untracked_on_repeated_response :
    Reachable 0 armedSystem ∧
      armedSystem.countdown stationB = some ⟨1, 160, 0, stationB, .band4_9GHz, true⟩ ∧
      overwrites armedSystem.mac.address stationB repeatedResponse = true ∧
      ⟨1, 160, 0, stationB, .band4_9GHz, true⟩ ∈ (armedSystem.next 0 repeatedResponse).sim.events ∧
      (armedSystem.next 0 repeatedResponse).Untracked 1 :=
  have r : Reachable 0 armedSystem := .step _ (.step _ (.init idleMac _ rfl rfl))
  ⟨r, by decide, by decide,
    overwrite_leaves_countdown_untracked (P := stationB) r (by decide) (by decide)⟩

/-- A pending event no waiting session holds stays so, and stays pending until the
scheduler runs it and calls `ChangeBand` with the peer, band and role it was scheduled
with. -/
theorem untracked_countdown_runs {self : Nat} {σ : MacSystem} (r : Reachable self σ)
    {c : ScheduledEvent} (hc : c ∈ σ.sim.events) (hu : σ.Untracked c.uid)
    (es : List MacEvent) :
    (c ∈ (σ.run self es).sim.events ∧ (σ.run self es).Untracked c.uid) ∨
      ∃ es₁ es₂, es = es₁ ++ .expire :: es₂ ∧
        (σ.run self es₁).sim.fire.map Prod.fst = some c ∧
        ((σ.run self es₁).step self .expire).changeBand =
          some ⟨c.peerStation, c.bandId, c.isInitiator⟩ := by
  rcases run_until_removed c (Untracked · c.uid)
      (fun σ e r hc hu => untracked_next self hu (r.fresh.events_le c hc) e) es r hc hu with
    h | ⟨es₁, e, es₂, rfl, r₁, hc₁, hu₁, hn⟩
  · exact .inl h
  · rcases removed_cases r₁ hc₁ hn with ⟨rfl, hf⟩ | ⟨a, -, ha⟩
    · obtain ⟨⟨f, sim'⟩, hfs, rfl⟩ := Option.map_eq_some'.mp hf
      exact .inr ⟨es₁, es₂, rfl, hf, by simp only [step, hfs]⟩
    · obtain ⟨hw, u, hu', hp⟩ := countdown_eq_some.mp ha
      have hcu : c.uid = u := by simpa using List.find?_some hp
      exact absurd (hcu ▸ hu') (hu₁ a hw)

theorem untracked_countdown_runs_after_repeated_response :
    Reachable 0 (armedSystem.next 0 repeatedResponse) ∧
      ⟨1, 160, 0, stationB, .band4_9GHz, true⟩ ∈ (armedSystem.next 0 repeatedResponse).sim.events ∧
      (armedSystem.next 0 repeatedResponse).Untracked 1 ∧
      ((⟨1, 160, 0, stationB, .band4_9GHz, true⟩ ∈
          ((armedSystem.next 0 repeatedResponse).run 0 [.expire]).sim.events ∧
          ((armedSystem.next 0 repeatedResponse).run 0 [.expire]).Untracked 1) ∨
        ∃ es₁ es₂, [.expire] = es₁ ++ .expire :: es₂ ∧
          ((armedSystem.next 0 repeatedResponse).run 0 es₁).sim.fire.map Prod.fst =
            some ⟨1, 160, 0, stationB, .band4_9GHz, true⟩ ∧
          (((armedSystem.next 0 repeatedResponse).run 0 es₁).step 0 .expire).changeBand =
            some ⟨stationB, .band4_9GHz, true⟩) :=
  have r : Reachable 0 armedSystem := .step _ (.step _ (.init idleMac _ rfl rfl))
  have hu := overwrites_untracked (c := ⟨1, 160, 0, stationB, .band4_9GHz, true⟩) r
    (by decide) (by decide : overwrites armedSystem.mac.address stationB repeatedResponse = true)
  ⟨r.step _, by decide, hu, untracked_countdown_runs (r.step _) (by decide) hu _⟩

end MacSystem

end MultiBandFst
