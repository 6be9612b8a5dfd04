import MultiBandFst.Handshake

/-!
# The link-loss countdown

While P's session waits in `setupCompletion`, its `LinkLossCountDownEvent` is a pending
`ChangeBand` for P. `Fresh` says the uids the scheduler hands out are never reused and
that the event a session holds is for that session's peer and target band; it holds in
every reachable system. From it, `countdown_next_rearm` and `countdown_next_other` say
what one event does to P's countdown, and `countdown_run` follows a whole run: the
countdown expires one duration after the last event that armed or re-armed it.
-/

namespace MultiBandFst

namespace MacSystem

open RegularWifiMac Simulator

/-- The pending event with uid `u`, if any. -/
def pending (σ : MacSystem) (u : Nat) : Option ScheduledEvent :=
  σ.sim.events.find? (·.uid == u)

/-- P's link-loss countdown: the pending event P's session holds while it waits in
`setupCompletion`. -/
def countdown (σ : MacSystem) (P : Mac48Address) : Option ScheduledEvent :=
  if (σ.mac.session P).currentState = .setupCompletion then
    (σ.mac.session P).linkLossCountDownEvent.bind σ.pending
  else none

/-- The events that arm or re-arm P's countdown: a success Setup-Response from P, the
`TxOk` of a Setup-Response to P, and a frame exchanged with P. -/
def rearms (me P : Mac48Address) : MacEvent → Bool
  | .receive ⟨⟨dst, sender⟩, .fst (.setupResponse _ status)⟩ =>
    dst == me && sender == P && status == 0
  | .txOk ⟨⟨dst, _⟩, .fst (.setupResponse ..)⟩ => dst == P
  | .macTxOk a => a == P
  | .macRxOk a => a == P
  | _ => false

/-- Uids are handed out once, and a session's event is for its own peer and band. -/
structure Fresh (σ : MacSystem) : Prop where
  events_le : ∀ e ∈ σ.sim.events, e.uid ≤ σ.sim.lastUid
  held_le : ∀ P u, (σ.mac.session P).linkLossCountDownEvent = some u → u ≤ σ.sim.lastUid
  target : ∀ P u e, (σ.mac.session P).linkLossCountDownEvent = some u → e ∈ σ.sim.events →
    e.uid = u → e.peerStation = P ∧ e.bandId = (σ.mac.session P).newBandId

/-! ## Pending events under the scheduler's operations -/

theorem find?_filter_uid (l : List ScheduledEvent) {u v : Nat} (h : u ≠ v) :
    (l.filter (·.uid != v)).find? (·.uid == u) = l.find? (·.uid == u) := by
  induction l with
  | nil => rfl
  | cons e l ih =>
    simp only [List.filter_cons]
    split
    · simp only [List.find?_cons, ih]
    · rename_i hne
      have : (e.uid == u) = false := by simp at hne ⊢; omega
      simp only [List.find?_cons, this, ih]

theorem find?_filter_self (l : List ScheduledEvent) (v : Nat) :
    (l.filter (·.uid != v)).find? (·.uid == v) = none := by
  simp

theorem find?_cancel (sim : Simulator) (v u : Nat) :
    (sim.cancel (some v)).events.find? (·.uid == u) =
      if u = v then none else sim.events.find? (·.uid == u) := by
  by_cases h : u = v
  · subst h; simp [cancel]
  · simp only [cancel, h, if_false]; exact find?_filter_uid _ h

theorem find?_schedule (sim : Simulator) (hle : ∀ e ∈ sim.events, e.uid ≤ sim.lastUid)
    (d o : Nat) (p : Mac48Address) (b : BandID) (i : Bool) (u : Nat) :
    (sim.schedule d o p b i).2.events.find? (·.uid == u) =
      if u = sim.lastUid + 1 then some ⟨sim.lastUid + 1, sim.now + d, o, p, b, i⟩
      else sim.events.find? (·.uid == u) := by
  rw [schedule_events, List.find?_append]
  by_cases h : u = sim.lastUid + 1
  · subst h
    have : sim.events.find? (·.uid == sim.lastUid + 1) = none := by
      simp only [List.find?_eq_none, beq_iff_eq]
      intro e he; have := hle e he; omega
    simp [this]
  · cases hf : sim.events.find? (·.uid == u) <;> simp [h, Ne.symm h]

theorem events_le_cancel {sim : Simulator} (hle : ∀ e ∈ sim.events, e.uid ≤ sim.lastUid)
    (v : EventId) : ∀ e ∈ (sim.cancel v).events, e.uid ≤ (sim.cancel v).lastUid := by
  intro e he
  rw [cancel_lastUid]
  cases v with
  | none => exact hle e he
  | some v => exact hle e (mem_cancel.mp he).1

/-! ## `Fresh` holds of every reachable system -/

namespace Fresh

variable {σ σ' : MacSystem}

/-- A step that leaves the scheduler alone, and each session's countdown as it was (with
its band) or dropped, keeps `Fresh`. -/
theorem of_keep (h : Fresh σ) (hsim : σ'.sim = σ.sim)
    (hkeep : ∀ P, (σ'.mac.session P).linkLossCountDownEvent = none ∨
      ((σ'.mac.session P).linkLossCountDownEvent = (σ.mac.session P).linkLossCountDownEvent ∧
        (σ'.mac.session P).newBandId = (σ.mac.session P).newBandId)) : Fresh σ' := by
  refine ⟨hsim ▸ h.events_le, fun P u hu => ?_, fun P u e hu he heu => ?_⟩ <;>
    rcases hkeep P with h0 | ⟨h1, h2⟩ <;> simp_all
  · exact h.held_le P u hu
  · exact h.target P u e hu he heu

/-- A step that only drops pending events, or moves the clock, keeps `Fresh`. -/
theorem of_drop (h : Fresh σ) (hmac : σ'.mac = σ.mac) (huid : σ'.sim.lastUid = σ.sim.lastUid)
    (hsub : ∀ e ∈ σ'.sim.events, e ∈ σ.sim.events) : Fresh σ' := by
  refine ⟨fun e he => huid ▸ h.events_le e (hsub e he), fun P u hu => ?_,
    fun P u e hu he heu => ?_⟩
  · rw [hmac] at hu; rw [huid]; exact h.held_le P u hu
  · rw [hmac] at hu ⊢; exact h.target P u e hu (hsub e he) heu

/-- Scheduling P's countdown under a fresh uid, after cancelling an event or not, keeps
`Fresh` when no other session changes. -/
theorem of_schedule (h : Fresh σ) (sim0 : Simulator) (huid : sim0.lastUid = σ.sim.lastUid)
    (hsub : ∀ e ∈ sim0.events, e ∈ σ.sim.events) (P : Mac48Address) (d o : Nat) (i : Bool)
    (hsim : σ'.sim = (sim0.schedule d o P (σ'.mac.session P).newBandId i).2)
    (hP : (σ'.mac.session P).linkLossCountDownEvent = some (σ.sim.lastUid + 1))
    (hkeep : ∀ Q, Q ≠ P → σ'.mac.session Q = σ.mac.session Q) : Fresh σ' := by
  have hnew : ∀ e ∈ σ'.sim.events, (e ∈ σ.sim.events ∧ e.uid ≤ σ.sim.lastUid) ∨
      e = ⟨σ.sim.lastUid + 1, sim0.now + d, o, P, (σ'.mac.session P).newBandId, i⟩ := by
    intro e he
    rw [hsim, schedule_events, List.mem_append, List.mem_singleton] at he
    rcases he with he | rfl
    · exact .inl ⟨hsub e he, h.events_le e (hsub e he)⟩
    · exact .inr (by rw [huid])
  have hlast : σ'.sim.lastUid = σ.sim.lastUid + 1 := by rw [hsim, schedule_lastUid, huid]
  refine ⟨fun e he => ?_, fun Q u hu => ?_, fun Q u e hu he heu => ?_⟩
  · rcases hnew e he with ⟨-, hle⟩ | rfl <;> simp only [hlast] <;> omega
  · by_cases hQ : Q = P
    · subst hQ; rw [hP] at hu; cases hu; omega
    · rw [hkeep Q hQ] at hu; have := h.held_le Q u hu; omega
  · by_cases hQ : Q = P
    · subst hQ
      rw [hP] at hu; cases hu
      rcases hnew e he with ⟨-, hle⟩ | rfl
      · omega
      · exact ⟨rfl, rfl⟩
    · rw [hkeep Q hQ] at hu ⊢
      have hu' := h.held_le Q u hu
      rcases hnew e he with ⟨he', -⟩ | rfl
      · exact h.target Q u e hu he' heu
      · simp at heu; omega

end Fresh

theorem fresh_completeSetup (self : Nat) {m : RegularWifiMac} {sim : Simulator}
    (h : Fresh ⟨m, sim⟩) (peer : Mac48Address) (i : Bool) :
    Fresh ⟨(completeSetup self m sim peer i).mac, (completeSetup self m sim peer i).sim⟩ := by
  by_cases hl : (m.session peer).llt = 0
  · refine h.of_keep (by simp [completeSetup_sim, hl]) fun P => .inr ?_
    by_cases hP : P = peer <;> simp [completeSetup_session, hl, hP]
  · refine h.of_schedule sim rfl (fun _ he => he) peer (countDownDuration (m.session peer).llt)
      self i ?_ ?_ ?_
    · simp [completeSetup_sim, completeSetup_session, hl]
    · simp [completeSetup_session, hl]
    · intro Q hQ; simp [completeSetup_session, hQ]

theorem fresh_resetLinkLossCountDown (self : Nat) {m : RegularWifiMac} {sim : Simulator}
    (h : Fresh ⟨m, sim⟩) (a : Mac48Address) :
    Fresh ⟨(resetLinkLossCountDown self m sim a).mac,
      (resetLinkLossCountDown self m sim a).sim⟩ := by
  by_cases hc : (m.session a).currentState = .setupCompletion ∧
      sim.isRunning (m.session a).linkLossCountDownEvent
  · refine h.of_schedule (sim.cancel (m.session a).linkLossCountDownEvent) (by simp)
      (fun e he => ?_) a (countDownDuration (m.session a).llt) self (m.session a).isInitiator
      ?_ ?_ ?_
    · cases hv : (m.session a).linkLossCountDownEvent with
      | none => simpa [hv, cancel] using he
      | some v => rw [hv] at he; exact (mem_cancel.mp he).1
    · simp [resetLinkLossCountDown_sim, resetLinkLossCountDown_session, hc]
    · simp [resetLinkLossCountDown_session, hc]
    · intro Q hQ; simp [resetLinkLossCountDown_session, hQ]
  · refine h.of_keep (by simp [resetLinkLossCountDown_sim, hc]) fun P => .inr ?_
    simp [resetLinkLossCountDown_session, hc]

theorem Fresh.preserved (self : Nat) {σ : MacSystem} (h : Fresh σ) (e : MacEvent) :
    Fresh (σ.next self e) := by
  obtain ⟨m, sim⟩ := σ
  have keep : ∀ m' : RegularWifiMac, (∀ P, m'.session P = m.session P) → Fresh ⟨m', sim⟩ :=
    fun m' hm => h.of_keep rfl fun P => .inr (by simp [hm])
  cases e with
  | setupFSTSession a =>
    refine h.of_keep rfl fun P => ?_
    by_cases hP : P = a <;> simp [MacSystem.next, step, session_setupFSTSession, hP]
  | sendFstTearDownFrame a =>
    exact keep _ fun P => by simp [MacSystem.next, step, sendFstTearDownFrame]
  | receive item =>
    obtain ⟨⟨dst, sender⟩, pkt⟩ := item
    by_cases hd : dst = m.address
    · subst hd
      rcases pkt with _ | (⟨tok, st, l⟩ | ⟨tok, status⟩ | ⟨tok, id⟩ | ⟨tok, id⟩ | id) <;>
        simp only [MacSystem.next, step, receive_data, receive_setupRequest,
          receive_setupResponse, receive_ackRequest, receive_ackResponse, receive_tearDown]
      · exact h
      · refine h.of_keep rfl fun P => ?_
        by_cases hP : P = sender <;> simp [sendFstSetupResponse, session_putSession, hP]
      · split
        · exact fresh_completeSetup self h sender true
        · exact h
      · exact keep _ fun P => by simp [sendFstAckResponse]
      · refine h.of_keep rfl fun P => .inr ?_
        by_cases hP : P = sender <;> simp [session_confirmTransition, hP]
      · refine h.of_keep rfl fun P => .inr ?_
        by_cases hP : P = sender <;> simp [session_putSession, hP]
    · simpa [MacSystem.next, step, hd] using h
  | txOk item =>
    obtain ⟨⟨dst, src⟩, pkt⟩ := item
    rcases pkt with _ | (_ | ⟨tok, status⟩ | _ | ⟨tok, id⟩ | _)
    · exact h
    · exact h
    · exact fresh_completeSetup self h dst false
    · exact h
    · refine h.of_keep rfl fun P => .inr ?_
      by_cases hP : P = dst <;>
        simp [MacSystem.next, step, session_confirmTransition, hP]
    · exact h
  | macTxOk a => exact fresh_resetLinkLossCountDown self h a
  | macRxOk a => exact fresh_resetLinkLossCountDown self h a
  | notifyBandChanged std a i => exact keep _ fun P => session_notifyBandChanged m std a P i
  | advance t =>
    refine h.of_drop rfl ?_ fun e he => ?_ <;>
      simp only [MacSystem.next, step, advance] at * <;> split at * <;> simp_all
  | expire =>
    simp only [MacSystem.next, step]
    split
    · exact h
    · rename_i x y hf
      simp only [fire, Option.map_eq_some'] at hf
      obtain ⟨f, -, hf⟩ := hf
      cases hf
      exact h.of_drop rfl (by simp) fun e he => (mem_cancel.mp he).1

theorem Reachable.fresh {self : Nat} {σ : MacSystem} (r : Reachable self σ) : Fresh σ := by
  induction r with
  | init m sim hm hs => exact ⟨by simp [hs], by simp [session, hm, FstSession.empty],
      by simp [session, hm, FstSession.empty]⟩
  | step e _ ih => exact ih.preserved self e

/-! ## What one event does to P's countdown -/

/-- `sim'` keeps each event of `sim` with a uid up to `sim.lastUid`, or drops it. -/
def Keeps (sim sim' : Simulator) : Prop :=
  ∀ u ≤ sim.lastUid, sim'.events.find? (·.uid == u) = sim.events.find? (·.uid == u) ∨
    sim'.events.find? (·.uid == u) = none

theorem keeps_refl (sim : Simulator) : Keeps sim sim := fun _ _ => .inl rfl

theorem keeps_cancel (sim : Simulator) (v : EventId) : Keeps sim (sim.cancel v) := by
  intro u _
  cases v with
  | none => exact .inl rfl
  | some v => rw [find?_cancel]; split <;> simp

theorem keeps_schedule {sim0 : Simulator} (sim : Simulator) (hk : Keeps sim0 sim)
    (huid : sim.lastUid = sim0.lastUid) (hle : ∀ e ∈ sim.events, e.uid ≤ sim.lastUid)
    (d o : Nat) (p : Mac48Address) (b : BandID) (i : Bool) :
    Keeps sim0 (sim.schedule d o p b i).2 := by
  intro u hu
  rw [find?_schedule sim hle, if_neg (by omega)]
  exact hk u hu

theorem keeps_completeSetup (self : Nat) {m : RegularWifiMac} {sim : Simulator}
    (h : Fresh ⟨m, sim⟩) (Q : Mac48Address) (i : Bool) :
    Keeps sim (completeSetup self m sim Q i).sim := by
  rw [completeSetup_sim]
  split
  · exact keeps_refl sim
  · exact keeps_schedule sim (keeps_refl sim) rfl h.events_le _ _ _ _ _

theorem keeps_resetLinkLossCountDown (self : Nat) {m : RegularWifiMac} {sim : Simulator}
    (h : Fresh ⟨m, sim⟩) (a : Mac48Address) :
    Keeps sim (resetLinkLossCountDown self m sim a).sim := by
  rw [resetLinkLossCountDown_sim]
  split
  · exact keeps_schedule _ (keeps_cancel sim _) (by simp) (events_le_cancel h.events_le _)
      _ _ _ _ _
  · exact keeps_refl sim

/-- An event either arms or re-arms P's countdown, or stops it, or leaves P's session as
it was and each pending event in place or gone. -/
theorem next_cases (self : Nat) {σ : MacSystem} (h : Fresh σ) (e : MacEvent)
    (P : Mac48Address) : rearms σ.mac.address P e = true ∨ (σ.next self e).countdown P = none ∨
      ((σ.next self e).mac.session P = σ.mac.session P ∧ Keeps σ.sim (σ.next self e).sim) := by
  obtain ⟨m, sim⟩ := σ
  have stop : ∀ σ' : MacSystem, (σ'.mac.session P).currentState ≠ .setupCompletion ∨
      (σ'.mac.session P).linkLossCountDownEvent = none → σ'.countdown P = none := by
    intro σ' ho; rcases ho with ho | ho <;> simp [countdown, ho]
  have same : ∀ e', ((⟨m, sim⟩ : MacSystem).next self e').mac.session P = m.session P →
      ((⟨m, sim⟩ : MacSystem).next self e').sim = sim →
      ((⟨m, sim⟩ : MacSystem).next self e').mac.session P = m.session P ∧
        Keeps sim ((⟨m, sim⟩ : MacSystem).next self e').sim :=
    fun _ h1 h2 => ⟨h1, by rw [h2]; exact keeps_refl _⟩
  cases e with
  | setupFSTSession a =>
    by_cases hP : P = a
    · exact .inr (.inl (stop _ (.inr (by simp [session_setupFSTSession, hP]))))
    · exact .inr (.inr (same _ (by simp [session_setupFSTSession, hP]) rfl))
  | sendFstTearDownFrame a =>
    exact .inr (.inr (same _ (by simp [sendFstTearDownFrame]) rfl))
  | receive item =>
    obtain ⟨⟨dst, sender⟩, pkt⟩ := item
    by_cases hd : dst = m.address
    · subst hd
      by_cases hP : sender = P
      · subst hP
        rcases pkt with _ | (⟨tok, st, l⟩ | ⟨tok, status⟩ | ⟨tok, id⟩ | ⟨tok, id⟩ | id)
        · exact .inr (.inr (same _ (by simp) (by simp)))
        · exact .inr (.inl (stop _ (.inr (by simp [sendFstSetupResponse, session_putSession]))))
        · by_cases hs : status = 0
          · exact .inl (by simp [rearms, hs])
          · exact .inr (.inr (same _ (by simp [hs]) (by simp [hs])))
        · exact .inr (.inr (same _ (by simp [sendFstAckResponse]) (by simp)))
        · exact .inr (.inl (stop _ (.inl (by simp [session_confirmTransition]))))
        · exact .inr (.inl (stop _ (.inl (by simp [session_putSession]))))
      · refine .inr (.inr ?_)
        rcases pkt with _ | (⟨tok, st, l⟩ | ⟨tok, status⟩ | ⟨tok, id⟩ | ⟨tok, id⟩ | id)
        · exact same _ (by simp) (by simp)
        · exact same _ (by simp [sendFstSetupResponse, session_putSession, Ne.symm hP]) (by simp)
        · by_cases hs : status = 0
          · simpa [hs, completeSetup_session, Ne.symm hP] using
              keeps_completeSetup self h sender true
          · exact same _ (by simp [hs]) (by simp [hs])
        · exact same _ (by simp [sendFstAckResponse]) (by simp)
        · exact same _ (by simp [session_confirmTransition, Ne.symm hP]) (by simp)
        · exact same _ (by simp [session_putSession, Ne.symm hP]) (by simp)
    · exact .inr (.inr (same _ (by simp [hd]) (by simp [hd])))
  | txOk item =>
    obtain ⟨⟨dst, src⟩, pkt⟩ := item
    rcases pkt with _ | (_ | _ | _ | _ | _)
    · exact .inr (.inr (same _ rfl rfl))
    · exact .inr (.inr (same _ rfl rfl))
    · by_cases hP : dst = P
      · exact .inl (by simp [rearms, hP])
      · exact .inr (.inr (by simpa [completeSetup_session, Ne.symm hP] using
          keeps_completeSetup self h dst false))
    · exact .inr (.inr (same _ rfl rfl))
    · by_cases hP : dst = P
      · subst hP; exact .inr (.inl (stop _ (.inl (by simp [session_confirmTransition]))))
      · exact .inr (.inr (same _ (by simp [session_confirmTransition, Ne.symm hP]) rfl))
    · exact .inr (.inr (same _ rfl rfl))
  | macTxOk a | macRxOk a =>
    by_cases hP : a = P
    · exact .inl (by simp [rearms, hP])
    · exact .inr (.inr (by simpa [resetLinkLossCountDown_session, Ne.symm hP] using
        keeps_resetLinkLossCountDown self h a))
  | notifyBandChanged std a i =>
    exact .inr (.inr (same _ (by simp [session_notifyBandChanged]) rfl))
  | advance t =>
    refine .inr (.inr ⟨rfl, ?_⟩)
    simp only [MacSystem.next, step, advance]
    split
    · exact fun _ _ => .inl rfl
    · exact keeps_refl _
  | expire =>
    refine .inr (.inr ⟨by simp only [MacSystem.next, step]; split <;> rfl, ?_⟩)
    simp only [MacSystem.next, step]
    split
    · exact keeps_refl _
    · rename_i x y hf
      simp only [fire, Option.map_eq_some'] at hf
      obtain ⟨f, -, hf⟩ := hf
      cases hf
      exact keeps_cancel sim _

theorem countdown_eq_some {σ : MacSystem} {P : Mac48Address} {c : ScheduledEvent} :
    σ.countdown P = some c ↔ (σ.mac.session P).currentState = .setupCompletion ∧
      ∃ u, (σ.mac.session P).linkLossCountDownEvent = some u ∧ σ.pending u = some c := by
  unfold countdown
  split <;> rename_i hs
  · cases (σ.mac.session P).linkLossCountDownEvent <;> simp [hs]
  · simp [hs]

/-- In every reachable system, P's running countdown calls `ChangeBand` for P with the
target band P's session holds now: the uid the session keeps is never handed to another
event, and a session installed anew holds no uid. -/
theorem countdown_targets_own_session {self : Nat} {σ : MacSystem} (r : Reachable self σ)
    {P : Mac48Address} {c : ScheduledEvent} (h : σ.countdown P = some c) :
    c.peerStation = P ∧ c.bandId = (σ.mac.session P).newBandId := by
  obtain ⟨-, u, hu, hc⟩ := countdown_eq_some.mp h
  exact r.fresh.target P u c hu (List.mem_of_find?_eq_some hc)
    (by simpa using List.find?_some hc)

/-- `idleSystem` after `SetupFSTSession (stationB)` and a success Setup-Response from
`stationB`: the LLT is 5, so the countdown runs. -/
def armedSystem : MacSystem :=
  idleSystem.run 0
    [.setupFSTSession stationB, .receive ⟨⟨stationA, stationB⟩, .fst (.setupResponse 10 0)⟩]

theorem countdown_targets_own_session_when_armed :
    Reachable 0 armedSystem ∧ ∃ c, armedSystem.countdown stationB = some c ∧
      c.peerStation = stationB ∧ c.bandId = (armedSystem.mac.session stationB).newBandId := by
  have r : Reachable 0 armedSystem := .step _ (.step _ (.init idleMac _ rfl rfl))
  obtain ⟨c, hc⟩ := Option.isSome_iff_exists.mp
    (by decide : (armedSystem.countdown stationB).isSome)
  exact ⟨r, c, hc, countdown_targets_own_session r hc⟩

/-- A countdown that still runs after an event that does not re-arm it is the one that
ran before, and P's LLT has not changed. -/
theorem countdown_next_other (self : Nat) {σ : MacSystem} (h : Fresh σ) {e : MacEvent}
    {P : Mac48Address} (hr : rearms σ.mac.address P e = false) {c c' : ScheduledEvent}
    (hc : σ.countdown P = some c) (hc' : (σ.next self e).countdown P = some c') :
    c' = c ∧ ((σ.next self e).mac.session P).llt = (σ.mac.session P).llt := by
  rcases next_cases self h e P with h1 | h1 | ⟨hs, hk⟩
  · simp [hr] at h1
  · simp [h1] at hc'
  · refine ⟨?_, by rw [hs]⟩
    obtain ⟨-, u, hu, hc⟩ := countdown_eq_some.mp hc
    obtain ⟨-, u', hu', hc'⟩ := countdown_eq_some.mp hc'
    rw [hs, hu] at hu'
    cases hu'
    rcases hk u (h.held_le P u hu) with hk | hk
    · exact Option.some.inj (hc'.symm.trans (hk.trans hc))
    · exact absurd (hc'.symm.trans hk) (by simp)

theorem countdown_completeSetup (self : Nat) {m : RegularWifiMac} {sim : Simulator}
    (h : Fresh ⟨m, sim⟩) (P : Mac48Address) (i : Bool) {c' : ScheduledEvent}
    (hc' : countdown ⟨(completeSetup self m sim P i).mac, (completeSetup self m sim P i).sim⟩ P =
      some c') :
    c'.time = sim.now + countDownDuration ((completeSetup self m sim P i).mac.session P).llt := by
  obtain ⟨hst, u, hu, hc'⟩ := countdown_eq_some.mp hc'
  by_cases hl : (m.session P).llt = 0
  · simp [completeSetup_session, setupDoneState, hl] at hst
  · simp only [completeSetup_session, hl, if_true, if_false, Option.some.injEq] at hu
    subst hu
    simp only [pending, completeSetup_sim, hl, if_false, find?_schedule sim h.events_le,
      if_true, Option.some.injEq] at hc'
    subst hc'
    simp [completeSetup_session, hl]

theorem countdown_resetLinkLossCountDown (self : Nat) {m : RegularWifiMac} {sim : Simulator}
    (h : Fresh ⟨m, sim⟩) (P : Mac48Address) {c' : ScheduledEvent}
    (hc' : countdown ⟨(resetLinkLossCountDown self m sim P).mac,
      (resetLinkLossCountDown self m sim P).sim⟩ P = some c') :
    c' = ⟨sim.lastUid + 1, sim.now + countDownDuration (m.session P).llt, self, P,
      (m.session P).newBandId, (m.session P).isInitiator⟩ := by
  obtain ⟨hst, u, hu, hc'⟩ := countdown_eq_some.mp hc'
  by_cases hcond : (m.session P).currentState = .setupCompletion ∧
      sim.isRunning (m.session P).linkLossCountDownEvent
  · simp only [resetLinkLossCountDown_session, hcond, and_self, if_true,
      Option.some.injEq] at hu
    subst hu
    simp only [pending, resetLinkLossCountDown_sim, hcond, and_self, if_true,
      find?_schedule _ (events_le_cancel h.events_le _), cancel_lastUid, cancel_now,
      Option.some.injEq] at hc'
    exact hc'.symm
  · simp only [resetLinkLossCountDown_session, hcond, and_false, if_false] at hst hu
    simp only [pending, resetLinkLossCountDown_sim, hcond, if_false] at hc'
    refine absurd ⟨hst, ?_⟩ hcond
    rw [hu, isRunning_some]
    exact ⟨c', List.mem_of_find?_eq_some hc', by simpa using List.find?_some hc'⟩

/-- An event that arms or re-arms P's countdown, and leaves it running, schedules it one
duration of P's LLT after the clock. -/
theorem countdown_next_rearm (self : Nat) {σ : MacSystem} (h : Fresh σ) {e : MacEvent}
    {P : Mac48Address} (hr : rearms σ.mac.address P e = true) {c' : ScheduledEvent}
    (hc' : (σ.next self e).countdown P = some c') :
    c'.time = σ.sim.now + countDownDuration ((σ.next self e).mac.session P).llt := by
  obtain ⟨m, sim⟩ := σ
  cases e with
  | receive item =>
    obtain ⟨⟨dst, sender⟩, _ | (_ | ⟨tok, status⟩ | _ | _ | _)⟩ := item <;>
      simp [rearms] at hr
    obtain ⟨⟨rfl, rfl⟩, rfl⟩ := hr
    have hn : (⟨m, sim⟩ : MacSystem).next self
        (.receive ⟨⟨m.address, sender⟩, .fst (.setupResponse tok 0)⟩) =
        ⟨(completeSetup self m sim sender true).mac, (completeSetup self m sim sender true).sim⟩ :=
      by simp [MacSystem.next]
    rw [hn] at hc' ⊢
    exact countdown_completeSetup self h _ true hc'
  | txOk item =>
    obtain ⟨⟨dst, src⟩, _ | (_ | ⟨tok, status⟩ | _ | _ | _)⟩ := item <;> simp [rearms] at hr
    subst hr
    exact countdown_completeSetup self h dst false hc'
  | macTxOk a | macRxOk a =>
    simp only [rearms, beq_iff_eq] at hr
    subst hr
    rw [countdown_resetLinkLossCountDown self h a hc']
    simp only [next_mac, step_macTxOk, step_macRxOk, resetLinkLossCountDown_session]
    split <;> rfl
  | _ => simp [rearms] at hr

/-- A MAC whose LLT attribute is 2^27, after `SetupFSTSession (stationB)` and `stationB`'s
success Setup-Response at time 0. -/
def wrappedInitiator : MacSystem :=
  (MacSystem.mk { idleMac with llt := 134217728 } ⟨0, 0, []⟩).run 0
    [.setupFSTSession stationB, .receive ⟨⟨stationA, stationB⟩, .fst (.setupResponse 10 0)⟩]

/-- `idleSystem` after a Setup-Request from `stationB` with LLT 2^27 + 1, the `TxOk` of its
Setup-Response at time 0, time passing to 10, and a frame received from `stationB`. -/
def wrappedResponder : MacSystem :=
  idleSystem.run 0
    [.receive ⟨⟨stationA, stationB⟩,
      .fst (.setupRequest 10 ⟨1, .band4_9GHz, .band60GHz⟩ 134217729)⟩,
     .txOk ⟨⟨stationB, stationA⟩, .fst (.setupResponse 10 0)⟩, .advance 10, .macRxOk stationB]

/-- `LLT * 32` wraps in 32 bits. With the LLT attribute at 2^27 the Setup-Response arms a
countdown of length 0, which calls `ChangeBand` at once; with LLT 2^27 + 1 from a
Setup-Request, `MacRxOk` at time 10 re-arms it for 32 µs. -/
theorem countdown_wraps_at_large_llt :
    (wrappedInitiator.mac.session stationB).llt.toNat = 134217728 ∧
      (wrappedInitiator.countdown stationB).map (·.time) = some 0 ∧
      (wrappedInitiator.step 0 .expire).changeBand = some ⟨stationB, .band4_9GHz, true⟩ ∧
      (wrappedInitiator.step 0 .expire).sim.now = 0 ∧
      (wrappedResponder.mac.session stationB).llt.toNat = 134217729 ∧
      (wrappedResponder.countdown stationB).map (·.time) = some 42 := by
  decide

/-- The clock of the last event of `es` that arms or re-arms P's countdown, each read in
the system the event happens in; `t` if there is none. -/
def lastRearm (self : Nat) (P : Mac48Address) : MacSystem → List MacEvent → Nat → Nat
  | _, [], t => t
  | σ, e :: es, t =>
    lastRearm self P (σ.next self e) es (if rearms σ.mac.address P e then σ.sim.now else t)

/-- While P's countdown runs, it expires one duration of P's LLT after the last event that
armed or re-armed it. -/
theorem countdown_run (self : Nat) {σ : MacSystem} (h : Fresh σ) (P : Mac48Address)
    (es : List MacEvent) (t : Nat) {c : ScheduledEvent} (hc : σ.countdown P = some c)
    (ht : c.time = t + countDownDuration (σ.mac.session P).llt)
    (hwhile : ∀ k ≤ es.length, ((σ.run self (es.take k)).countdown P).isSome) :
    ∃ c', (σ.run self es).countdown P = some c' ∧
      c'.time = lastRearm self P σ es t + countDownDuration ((σ.run self es).mac.session P).llt := by
  induction es generalizing σ t c with
  | nil => exact ⟨c, hc, ht⟩
  | cons e es ih =>
    obtain ⟨c1, hc1⟩ := Option.isSome_iff_exists.mp (hwhile 1 (by simp))
    have hc1 : (σ.next self e).countdown P = some c1 := by simpa [run] using hc1
    have hw : ∀ k ≤ es.length, (((σ.next self e).run self (es.take k)).countdown P).isSome :=
      fun k hk => by simpa [run] using hwhile (k + 1) (by simp; omega)
    cases hr : rearms σ.mac.address P e
    · obtain ⟨rfl, hl⟩ := countdown_next_other self h hr hc hc1
      simpa [run, lastRearm, hr] using
        ih (h.preserved self e) t hc1 (by rw [hl]; exact ht) hw
    · simpa [run, lastRearm, hr] using
        ih (h.preserved self e) σ.sim.now hc1 (countdown_next_rearm self h hr hc1) hw

/-- A frame exchanged with P while its countdown runs cancels that event and schedules a
new one, for the same peer and band, one duration after the clock, with the session's
own `IsInitiator`. -/
theorem countdown_refresh (self : Nat) {σ : MacSystem} (h : Fresh σ) {P : Mac48Address}
    {c : ScheduledEvent} (hc : σ.countdown P = some c) :
    (∀ x ∈ (resetLinkLossCountDown self σ.mac σ.sim P).sim.events, x.uid ≠ c.uid) ∧
      countdown ⟨(resetLinkLossCountDown self σ.mac σ.sim P).mac,
        (resetLinkLossCountDown self σ.mac σ.sim P).sim⟩ P =
        some ⟨σ.sim.lastUid + 1, σ.sim.now + countDownDuration (σ.mac.session P).llt, self,
          c.peerStation, c.bandId, (σ.mac.session P).isInitiator⟩ := by
  obtain ⟨m, sim⟩ := σ
  obtain ⟨hst, u, hu, hcu⟩ := countdown_eq_some.mp hc
  have hmem := List.mem_of_find?_eq_some hcu
  have huid : c.uid = u := by simpa using List.find?_some hcu
  obtain ⟨hpeer, hband⟩ := h.target P u c hu hmem huid
  have hrun : (m.session P).currentState = .setupCompletion ∧
      sim.isRunning (m.session P).linkLossCountDownEvent := by
    rw [hu, isRunning_some]; exact ⟨hst, c, hmem, huid⟩
  have hle := h.held_le P u hu
  refine ⟨fun x hx => ?_, ?_⟩
  · rw [resetLinkLossCountDown_sim, if_pos hrun, schedule_events, List.mem_append,
      List.mem_singleton, hu] at hx
    rcases hx with hx | rfl
    · exact huid ▸ (mem_cancel.mp hx).2
    · dsimp only at hle ⊢; rw [cancel_lastUid]; omega
  · rw [countdown_eq_some]
    refine ⟨by simp [resetLinkLossCountDown_session, hrun, hst], sim.lastUid + 1,
      by simp [resetLinkLossCountDown_session, hrun], ?_⟩
    simp only [pending, resetLinkLossCountDown_sim, hrun, and_self, if_true,
      find?_schedule _ (events_le_cancel h.events_le _), cancel_lastUid, cancel_now, hpeer,
      hband]

/-- From any reachable system: once an event arms P's countdown, and for as long as it
runs, it expires `LLT * 32` microseconds, the product taken in 32 bits, after the last
event that armed or re-armed it; and each `MacTxOk`/`MacRxOk` for P cancels the running
event and schedules its replacement for the same peer and band, with the session's
`IsInitiator`. -/
theorem countdown_follows_last_exchange (self : Nat) {σ : MacSystem}
    (hσ : Reachable self σ) (P : Mac48Address) :
    (∀ a es, rearms σ.mac.address P a = true →
      (∀ k ≤ es.length, ((σ.run self (a :: es.take k)).countdown P).isSome) →
      ∃ c, (σ.run self (a :: es)).countdown P = some c ∧
        c.time = lastRearm self P (σ.next self a) es σ.sim.now +
          ((σ.run self (a :: es)).mac.session P).llt.toNat * 32 % 4294967296) ∧
    (∀ c, σ.countdown P = some c → ∀ e ∈ [MacEvent.macTxOk P, .macRxOk P],
      (∀ x ∈ (σ.next self e).sim.events, x.uid ≠ c.uid) ∧
      (σ.next self e).countdown P =
        some ⟨σ.sim.lastUid + 1, σ.sim.now + (σ.mac.session P).llt.toNat * 32 % 4294967296,
          self, c.peerStation, c.bandId, (σ.mac.session P).isInitiator⟩) := by
  have h := hσ.fresh
  refine ⟨fun a es ha hwhile => ?_, fun c hc e he => ?_⟩
  · obtain ⟨c1, hc1⟩ := Option.isSome_iff_exists.mp (hwhile 0 (Nat.zero_le _))
    have hc1 : (σ.next self a).countdown P = some c1 := by simpa [run] using hc1
    simpa only [countDownDuration_eq] using
      countdown_run self (h.preserved self a) P es σ.sim.now hc1
        (countdown_next_rearm self h ha hc1) fun k hk => by simpa [run] using hwhile k hk
  · simp only [List.mem_cons, List.mem_singleton, List.not_mem_nil, or_false] at he
    rcases he with rfl | rfl <;>
      simpa only [countDownDuration_eq] using countdown_refresh self h hc

/-- `armedSystem` runs a countdown for `stationB`. A `MacTxOk` at time 0 re-arms it, time
passes to 3, and a `MacRxOk` re-arms it again: it then expires `LLT * 32` after the last
re-arm. The first refresh cancels the armed event and schedules its replacement. -/
theorem countdown_follows_last_exchange_when_armed :
    Reachable 0 armedSystem ∧
    (∃ c, (armedSystem.run 0 [.macTxOk stationB, .advance 3, .macRxOk stationB]).countdown
        stationB = some c ∧
      c.time = lastRearm 0 stationB (armedSystem.next 0 (.macTxOk stationB))
          [.advance 3, .macRxOk stationB] armedSystem.sim.now +
        ((armedSystem.run 0 [.macTxOk stationB, .advance 3, .macRxOk stationB]).mac.session
          stationB).llt.toNat * 32 % 4294967296) ∧
    ∃ c, armedSystem.countdown stationB = some c ∧
      (∀ x ∈ (armedSystem.next 0 (.macTxOk stationB)).sim.events, x.uid ≠ c.uid) ∧
      (armedSystem.next 0 (.macTxOk stationB)).countdown stationB =
        some ⟨armedSystem.sim.lastUid + 1,
          armedSystem.sim.now + (armedSystem.mac.session stationB).llt.toNat * 32 % 4294967296,
          0, c.peerStation, c.bandId, (armedSystem.mac.session stationB).isInitiator⟩ := by
  have r : Reachable 0 armedSystem := .step _ (.step _ (.init idleMac _ rfl rfl))
  obtain ⟨hrun, hrefresh⟩ := countdown_follows_last_exchange 0 r stationB
  obtain ⟨c, hc⟩ := Option.isSome_iff_exists.mp
    (by decide : (armedSystem.countdown stationB).isSome)
  exact ⟨r, hrun _ _ (by decide) (by decide), c, hc, hrefresh c hc _ (by simp)⟩

/-- `idleSystem` after it initiated a session with `stationB`, answered `stationB`'s own
Setup-Request (the requests crossed), and then got `stationB`'s success Setup-Response. -/
def crossedSystem : MacSystem :=
  idleSystem.run 0
    [.setupFSTSession stationB,
     .receive ⟨⟨stationA, stationB⟩, .fst (.setupRequest 1 ⟨1, .band4_9GHz, .band60GHz⟩ 5)⟩,
     .receive ⟨⟨stationA, stationB⟩, .fst (.setupResponse 10 0)⟩]

/-- The Setup-Response armed the countdown with the literal `true`; the first `MacTxOk`
re-arms it with the responder session's `false`. -/
theorem refresh_flips_countdown_initiator :
    (crossedSystem.countdown stationB).map (·.isInitiator) = some true ∧
      ((crossedSystem.next 0 (.macTxOk stationB)).countdown stationB).map (·.isInitiator) =
        some false := by
  decide

end MacSystem

end MultiBandFst
