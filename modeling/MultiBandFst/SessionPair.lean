import MultiBandFst.Handshake

/-!
# Two MACs setting up a session with each other

The FST steps of two MACs, `a` and `b`, that share the scheduler: each side's
`SetupFSTSession` and `SendFstTearDownFrame` calls, any frame the other side queued delivered
to it in any order and any number of times (or never), the `TxOk` of any frame it queued,
`MacTxOk`/`MacRxOk`, time and countdowns. `NotifyBandChanged` comes from the device after a
band switch, on the MAC of the new band, and is not a step of this pair; a `ChangeBand`
call is handed to the device and changes nothing here.

Crossing `SetupFSTSession` calls leave both sides as responders
(`crossing_setups_leave_two_responders`). With one initiator that calls `SetupFSTSession`
once (`single_setup_sessions_agree`), the two records agree on ID, target band and LLT
whenever both are past `INITIAL`, and exactly one of them is the initiator's.
-/

namespace MultiBandFst

namespace MacSystem

open RegularWifiMac

/-! ## What one step of a MAC can do -/

/-- Every frame a step queues comes from the MAC's own address, and is a reply to the event
in one of five ways. -/
theorem mem_sentFrames {m : RegularWifiMac} {e : MacEvent} {x : WifiMacQueueItem}
    (h : x ∈ sentFrames m e) : x.hdr.addr2 = m.address ∧
      ((e = .setupFSTSession x.hdr.addr1 ∧ x.packet = .fst (.setupRequest 10
          ⟨m.fstId + 1, .band4_9GHz, .band60GHz⟩ m.llt)) ∨
        (e = .sendFstTearDownFrame x.hdr.addr1 ∧ x.packet = .fst (.tearDown 0)) ∨
        (∃ tok st llt, e = .receive ⟨⟨m.address, x.hdr.addr1⟩, .fst (.setupRequest tok st llt)⟩ ∧
          x.packet = .fst (.setupResponse tok 0)) ∨
        (∃ tok fstsID, e = .receive ⟨⟨m.address, x.hdr.addr1⟩, .fst (.ackRequest tok fstsID)⟩ ∧
          x.packet = .fst (.ackResponse tok fstsID)) ∨
        ∃ std, e = .notifyBandChanged std x.hdr.addr1 true ∧
          x.packet = .fst (.ackRequest 0 (m.session x.hdr.addr1).id)) := by
  cases e with
  | setupFSTSession a => simp only [sentFrames, List.mem_singleton] at h; subst h; simp
  | sendFstTearDownFrame a => simp only [sentFrames, List.mem_singleton] at h; subst h; simp
  | receive item =>
    obtain ⟨⟨dst, sender⟩, pkt⟩ := item
    rcases pkt with _ | (⟨tok, st, llt⟩ | _ | ⟨tok, fstsID⟩ | _ | _) <;>
      simp only [sentFrames, List.not_mem_nil] at h
    · split_ifs at h with hd
      · simp only [List.mem_singleton] at h
        subst h hd
        simp
      · simp at h
    · split_ifs at h with hd
      · simp only [List.mem_singleton] at h
        subst h hd
        simp
      · simp at h
  | notifyBandChanged std a i =>
    cases i <;> simp only [sentFrames, List.mem_singleton, if_true, Bool.false_eq_true,
      if_false, List.not_mem_nil] at h
    subst h
    simp
  | _ => simp [sentFrames] at h

/-- A MAC sends FST action frames only, and a Setup-Request among them proposes 4.9 GHz. -/
theorem fst_of_mem_sentFrames {m : RegularWifiMac} {e : MacEvent} {x : WifiMacQueueItem}
    (h : x ∈ sentFrames m e) : ∃ a, x.packet = .fst a ∧
      ∀ tok st llt, a = .setupRequest tok st llt → st.newBand = .band4_9GHz := by
  rcases (mem_sentFrames h).2 with ⟨-, hp⟩ | ⟨-, hp⟩ | ⟨_, _, _, -, hp⟩ | ⟨_, _, -, hp⟩ |
    ⟨_, -, hp⟩ <;> refine ⟨_, hp, fun tok st llt ha => ?_⟩ <;> cases ha
  rfl

/-- The two ways an event installs a new session for `P`. -/
theorem sessionInstall_eq_some {m : RegularWifiMac} {P : Mac48Address} {e : MacEvent}
    {k : UInt32 × BandID × UInt32 × Bool} (h : sessionInstall m P e = some k) :
    (e = .setupFSTSession P ∧ k = (m.fstId + 1, .band4_9GHz, m.llt, true)) ∨
      ∃ tok st llt, e = .receive ⟨⟨m.address, P⟩, .fst (.setupRequest tok st llt)⟩ ∧
        k = (st.fstsID, st.newBand, llt, false) := by
  cases e with
  | setupFSTSession a =>
    simp only [sessionInstall] at h
    split_ifs at h with ha
    cases h
    exact .inl ⟨by rw [ha], rfl⟩
  | receive item =>
    obtain ⟨⟨dst, sender⟩, pkt⟩ := item
    by_cases hd : dst = m.address ∧ sender = P
    · obtain ⟨rfl, rfl⟩ := hd
      rcases pkt with _ | (⟨tok, st, llt⟩ | _ | _ | _ | _) <;> simp [sessionInstall] at h
      exact .inr ⟨tok, st, llt, rfl, h.symm⟩
    · rcases pkt with _ | (_ | _ | _ | _ | _) <;> simp [sessionInstall, hd] at h
  | _ => simp [sessionInstall] at h

/-- The moves that take a session past `INITIAL`: a Setup-Response or an Ack-Response
received from `P`, or the `TxOk` of one sent to `P`. -/
theorem handshakeMove_ne_initial {me P : Mac48Address} {s : FstSession} {e : MacEvent}
    {st : FstSessionState} (h : handshakeMove me P s e = some st) (hst : st ≠ .initial) :
    (∃ tok status, e = .receive ⟨⟨me, P⟩, .fst (.setupResponse tok status)⟩) ∨
    (∃ tok fstsID, e = .receive ⟨⟨me, P⟩, .fst (.ackResponse tok fstsID)⟩) ∨
    (∃ src tok status, e = .txOk ⟨⟨P, src⟩, .fst (.setupResponse tok status)⟩) ∨
    (∃ src tok fstsID, e = .txOk ⟨⟨P, src⟩, .fst (.ackResponse tok fstsID)⟩) := by
  cases e with
  | setupFSTSession a =>
    simp only [handshakeMove] at h
    split_ifs at h
    cases h
    exact absurd rfl hst
  | receive item =>
    obtain ⟨⟨dst, sender⟩, pkt⟩ := item
    by_cases hd : dst = me ∧ sender = P
    · obtain ⟨rfl, rfl⟩ := hd
      rcases pkt with _ | (_ | ⟨tok, status⟩ | _ | ⟨tok, fstsID⟩ | _)
      · simp [handshakeMove] at h
      · simp [handshakeMove] at h
        exact absurd h.symm hst
      · exact .inl ⟨tok, status, rfl⟩
      · simp [handshakeMove] at h
      · exact .inr (.inl ⟨tok, fstsID, rfl⟩)
      · simp [handshakeMove] at h
        exact absurd h.symm hst
    · rcases pkt with _ | (_ | _ | _ | _ | _) <;> simp [handshakeMove, hd] at h
  | txOk item =>
    obtain ⟨⟨dst, src⟩, pkt⟩ := item
    by_cases hd : dst = P
    · subst hd
      rcases pkt with _ | (_ | ⟨tok, status⟩ | _ | ⟨tok, fstsID⟩ | _) <;>
        simp [handshakeMove] at h
      · exact .inr (.inr (.inl ⟨src, tok, status, rfl⟩))
      · exact .inr (.inr (.inr ⟨src, tok, fstsID, rfl⟩))
    · rcases pkt with _ | (_ | _ | _ | _ | _) <;> simp [handshakeMove, hd] at h
  | _ => simp [handshakeMove] at h

end MacSystem

inductive Side
  | a
  | b
  deriving DecidableEq, Repr

/-- Two MACs and the scheduler they share. -/
structure MacPair where
  a : RegularWifiMac
  b : RegularWifiMac
  sim : Simulator

namespace MacPair

open RegularWifiMac MacSystem

/-- Side `s`'s own MAC, and the other side's. -/
def mac (π : MacPair) : Side → RegularWifiMac
  | .a => π.a
  | .b => π.b

def peer (π : MacPair) : Side → RegularWifiMac
  | .a => π.b
  | .b => π.a

/-- One FST step of side `s`, with the handle `0` or `1` the scheduler calls it back by. -/
def next (π : MacPair) : Side → MacEvent → MacPair
  | .a, e => ⟨((MacSystem.mk π.a π.sim).step 0 e).mac, π.b, ((MacSystem.mk π.a π.sim).step 0 e).sim⟩
  | .b, e => ⟨π.a, ((MacSystem.mk π.b π.sim).step 1 e).mac, ((MacSystem.mk π.b π.sim).step 1 e).sim⟩

/-- The events a side's FST code sees in the pair: a frame the other side queued, the
`TxOk` of a frame it queued itself, and every call, refresh, time step and countdown.
`NotifyBandChanged` is the device's. -/
def enabled (π : MacPair) (s : Side) : MacEvent → Bool
  | .receive item => decide (item ∈ (π.peer s).txop)
  | .txOk item => decide (item ∈ (π.mac s).txop)
  | .notifyBandChanged .. => false
  | _ => true

def run : MacPair → List (Side × MacEvent) → MacPair
  | π, [] => π
  | π, (s, e) :: es => run (π.next s e) es

def admissible : MacPair → List (Side × MacEvent) → Bool
  | _, [] => true
  | π, (s, e) :: es => π.enabled s e && admissible (π.next s e) es

/-- The frames an initiator sends its responder: Setup-Requests and Teardowns. -/
def initiatorFrame : Packet → Bool
  | .fst (.setupRequest ..) | .fst (.tearDown _) => true
  | _ => false

/-- The frames a responder sends its initiator: Setup-Responses and Teardowns. -/
def responderFrame : Packet → Bool
  | .fst (.setupResponse ..) | .fst (.tearDown _) => true
  | _ => false

/-- `a` has asked `b` for a session. -/
def Requested (π : MacPair) : Prop :=
  ∃ src tok st llt, (⟨⟨π.b.address, src⟩, .fst (.setupRequest tok st llt)⟩ : WifiMacQueueItem) ∈
    π.a.txop

/-- `b`'s session for `a` is the one a Setup-Request of `a` asks for. -/
def Answers (π : MacPair) : Prop :=
  ∃ src tok st llt, (⟨⟨π.b.address, src⟩, .fst (.setupRequest tok st llt)⟩ : WifiMacQueueItem) ∈
    π.a.txop ∧ (π.b.session π.a.address).key = (st.fstsID, st.newBand, llt, false)

/-- What holds of a pair in which `a` is the only initiator: `a` sends `b` only requests and
teardowns and `b` only responses and teardowns; every request of `a` asks for the session `a`
holds; and `b`'s session is one `a` asked for as soon as `b` has answered or moved it past
`INITIAL`. -/
structure SetupInv (π : MacPair) : Prop where
  distinct : π.a.address ≠ π.b.address
  senderA : ∀ x ∈ π.a.txop, x.hdr.addr2 = π.a.address
  senderB : ∀ x ∈ π.b.txop, x.hdr.addr2 = π.b.address
  toB : ∀ x ∈ π.a.txop, x.hdr.addr1 = π.b.address → initiatorFrame x.packet
  toA : ∀ x ∈ π.b.txop, x.hdr.addr1 = π.a.address → responderFrame x.packet
  request : ∀ src tok st llt,
    (⟨⟨π.b.address, src⟩, .fst (.setupRequest tok st llt)⟩ : WifiMacQueueItem) ∈ π.a.txop →
    (π.a.session π.b.address).key = (st.fstsID, st.newBand, llt, true)
  response : ∀ src tok status,
    (⟨⟨π.a.address, src⟩, .fst (.setupResponse tok status)⟩ : WifiMacQueueItem) ∈ π.b.txop →
    π.Answers
  responder : (π.b.session π.a.address).currentState ≠ .initial → π.Answers
  initiator : (π.a.session π.b.address).currentState ≠ .initial → π.Requested

theorem Requested.mono {π π' : MacPair} (h : π.Requested) (hb : π'.b.address = π.b.address)
    (ht : ∀ x ∈ π.a.txop, x ∈ π'.a.txop) : π'.Requested := by
  obtain ⟨src, tok, st, llt, hm⟩ := h
  exact ⟨src, tok, st, llt, hb ▸ ht _ hm⟩

theorem Answers.requested {π : MacPair} (h : π.Answers) : π.Requested := by
  obtain ⟨src, tok, st, llt, hm, -⟩ := h
  exact ⟨src, tok, st, llt, hm⟩

theorem Answers.mono {π π' : MacPair} (h : π.Answers) (ha : π'.a.address = π.a.address)
    (hb : π'.b = π.b) (ht : ∀ x ∈ π.a.txop, x ∈ π'.a.txop) : π'.Answers := by
  obtain ⟨src, tok, st, llt, hm, hk⟩ := h
  exact ⟨src, tok, st, llt, hb ▸ ht _ hm, by rw [hb, ha]; exact hk⟩

theorem next_a_addresses (π : MacPair) (e : MacEvent) :
    (π.next .a e).a.address = π.a.address ∧ (π.next .a e).b = π.b :=
  ⟨address_step 0 ⟨π.a, π.sim⟩ e, rfl⟩

theorem next_b_addresses (π : MacPair) (e : MacEvent) :
    (π.next .b e).a = π.a ∧ (π.next .b e).b.address = π.b.address :=
  ⟨rfl, address_step 1 ⟨π.b, π.sim⟩ e⟩

/-- A new request of `a` to `b` comes only from a `SetupFSTSession (b)` call. -/
theorem requested_next_a {π : MacPair} {e : MacEvent} (h : (π.next .a e).Requested) :
    π.Requested ∨ e = .setupFSTSession π.b.address := by
  obtain ⟨src, tok, st, llt, hm⟩ := h
  have hm' : _ ∈ π.a.txop ++ sentFrames π.a e := (txop_step 0 ⟨π.a, π.sim⟩ e) ▸ hm
  rcases List.mem_append.mp hm' with hm' | hm'
  · exact .inl ⟨src, tok, st, llt, hm'⟩
  · have h := (mem_sentFrames hm').2
    simp at h
    exact .inr h.1

/-- One step of `a` keeps the invariant, unless it is a second `SetupFSTSession (b)` call. -/
theorem SetupInv.next_a {π : MacPair} {e : MacEvent} (hi : π.SetupInv)
    (he : π.enabled .a e = true) (hcall : e = .setupFSTSession π.b.address → ¬ π.Requested) :
    (π.next .a e).SetupInv := by
  obtain ⟨hA, hB⟩ := next_a_addresses π e
  have hT : (π.next .a e).a.txop = π.a.txop ++ sentFrames π.a e := txop_step 0 ⟨π.a, π.sim⟩ e
  have hsub : ∀ x ∈ π.a.txop, x ∈ (π.next .a e).a.txop :=
    fun x hx => hT ▸ List.mem_append_left _ hx
  -- what `a` can receive from `b`, and the frames to `b` it can get a `TxOk` for
  have hrecv : ∀ item, e = .receive item → item.hdr.addr1 = π.a.address →
      item.hdr.addr2 = π.b.address ∧ responderFrame item.packet := by
    rintro item rfl hto
    have hmem : item ∈ π.b.txop := by simpa [enabled, peer] using he
    exact ⟨hi.senderB _ hmem, hi.toA _ hmem hto⟩
  have htx : ∀ item, e = .txOk item → item.hdr.addr1 = π.b.address →
      initiatorFrame item.packet := by
    rintro item rfl hto
    exact hi.toB _ (by simpa [enabled, mac] using he) hto
  -- `a`'s session for `b` takes a new key only from the call
  have hkey : ((π.next .a e).a.session π.b.address).key =
      if e = .setupFSTSession π.b.address then (π.a.fstId + 1, .band4_9GHz, π.a.llt, true)
      else (π.a.session π.b.address).key := by
    have hk := key_step 0 ⟨π.a, π.sim⟩ e π.b.address
    cases hs : sessionInstall π.a π.b.address e with
    | none =>
      rw [hs] at hk
      split_ifs with hc
      · subst hc; simp [sessionInstall] at hs
      · exact hk
    | some k =>
      rw [hs] at hk
      rcases sessionInstall_eq_some hs with ⟨hc, rfl⟩ | ⟨tok, st, llt, rfl, -⟩
      · rw [if_pos hc]; exact hk
      · simpa [responderFrame] using (hrecv _ rfl rfl).2
  constructor
  case distinct => rw [hA, hB]; exact hi.distinct
  case senderA =>
    intro x hx
    rw [hA]
    rcases List.mem_append.mp (hT ▸ hx) with hx | hx
    · exact hi.senderA x hx
    · exact (mem_sentFrames hx).1
  case senderB => exact hi.senderB
  case toB =>
    intro x hx hto
    rcases List.mem_append.mp (hT ▸ hx) with hx | hx
    · exact hi.toB x hx hto
    · rcases (mem_sentFrames hx).2 with ⟨-, hp⟩ | ⟨-, hp⟩ | ⟨tok, st, llt, hev, -⟩ |
        ⟨tok, fstsID, hev, -⟩ | ⟨std, hev, -⟩
      · simp [hp, initiatorFrame]
      · simp [hp, initiatorFrame]
      · simpa [responderFrame] using (hrecv _ hev rfl).2
      · simpa [responderFrame] using (hrecv _ hev rfl).2
      · simp [hev, enabled] at he
  case toA => exact fun x hx hto => hi.toA x hx (hA ▸ hto)
  case request =>
    intro src tok st llt hx
    show ((π.next .a e).a.session π.b.address).key = _
    rw [hkey]
    rcases List.mem_append.mp (hT ▸ hx) with hx | hx
    · have hc : e ≠ .setupFSTSession π.b.address := fun hc => hcall hc ⟨src, tok, st, llt, hx⟩
      rw [if_neg hc]
      exact hi.request src tok st llt hx
    · have h := (mem_sentFrames hx).2
      simp at h
      obtain ⟨hc, rfl, rfl, rfl⟩ := h
      exact if_pos hc
  case response =>
    intro src tok status hx
    rw [hA] at hx
    exact (hi.response src tok status hx).mono hA hB hsub
  case responder =>
    intro h
    rw [hA, hB] at h
    exact (hi.responder h).mono hA hB hsub
  case initiator =>
    intro h
    rw [show (π.next .a e).b.address = π.b.address from rfl,
      show (π.next .a e).a = ((MacSystem.mk π.a π.sim).step 0 e).mac from rfl,
      currentState_step] at h
    cases hm : handshakeMove π.a.address π.b.address (π.a.session π.b.address) e with
    | none =>
      rw [hm] at h
      exact (hi.initiator h).mono rfl hsub
    | some st =>
      rw [hm] at h
      rcases handshakeMove_ne_initial hm h with ⟨tok, status, rfl⟩ | ⟨tok, fstsID, rfl⟩ |
        ⟨src, tok, status, rfl⟩ | ⟨src, tok, fstsID, rfl⟩
      · have hmem := by simpa [enabled, peer] using he
        exact (hi.response _ _ _ hmem).requested.mono rfl hsub
      · simpa [responderFrame] using (hrecv _ rfl rfl).2
      · simpa [initiatorFrame] using htx _ rfl rfl
      · simpa [initiatorFrame] using htx _ rfl rfl

/-- One step of `b` keeps the invariant, unless `b` calls `SetupFSTSession (a)` itself. -/
theorem SetupInv.next_b {π : MacPair} {e : MacEvent} (hi : π.SetupInv)
    (he : π.enabled .b e = true) (hcall : e ≠ .setupFSTSession π.a.address) :
    (π.next .b e).SetupInv := by
  obtain ⟨hA, hB⟩ := next_b_addresses π e
  have hT : (π.next .b e).b.txop = π.b.txop ++ sentFrames π.b e := txop_step 1 ⟨π.b, π.sim⟩ e
  -- `b` receives from `a` only requests and teardowns
  have hrecv : ∀ item, e = .receive item → item.hdr.addr1 = π.b.address →
      initiatorFrame item.packet := by
    rintro item rfl hto
    exact hi.toB _ (by simpa [enabled, peer] using he) hto
  -- `b`'s session for `a` is one `a` asked for once `b` has installed one, and stays one
  have hk := key_step 1 ⟨π.b, π.sim⟩ e π.a.address
  have hinst : ∀ k, sessionInstall π.b π.a.address e = some k → (π.next .b e).Answers := by
    intro k hs
    rw [hs] at hk
    rcases sessionInstall_eq_some hs with ⟨hc, -⟩ | ⟨tok, st, llt, rfl, rfl⟩
    · exact absurd hc hcall
    · exact ⟨π.a.address, tok, st, llt, by simpa [enabled, peer, hB] using he, hk⟩
  have hans : π.Answers → (π.next .b e).Answers := by
    intro h
    cases hs : sessionInstall π.b π.a.address e with
    | some k => exact hinst k hs
    | none =>
      rw [hs] at hk
      obtain ⟨src, tok, st, llt, hm, hkey⟩ := h
      exact ⟨src, tok, st, llt, by rw [hA, hB]; exact hm, by rw [hA]; exact hk.trans hkey⟩
  constructor
  case distinct => rw [hA, hB]; exact hi.distinct
  case senderA => rw [hA]; exact hi.senderA
  case senderB =>
    intro x hx
    rw [hB]
    rcases List.mem_append.mp (hT ▸ hx) with hx | hx
    · exact hi.senderB x hx
    · exact (mem_sentFrames hx).1
  case toB => intro x hx hto; rw [hA] at hx; rw [hB] at hto; exact hi.toB x hx hto
  case toA =>
    intro x hx hto
    rw [hA] at hto
    rcases List.mem_append.mp (hT ▸ hx) with hx | hx
    · exact hi.toA x hx hto
    · rcases (mem_sentFrames hx).2 with ⟨hc, -⟩ | ⟨-, hp⟩ | ⟨tok, st, llt, -, hp⟩ |
        ⟨tok, fstsID, hev, -⟩ | ⟨std, hev, -⟩
      · exact absurd (hto ▸ hc) hcall
      · simp [hp, responderFrame]
      · simp [hp, responderFrame]
      · simpa [initiatorFrame] using hrecv _ hev rfl
      · simp [hev, enabled] at he
  case request =>
    intro src tok st llt hx
    rw [hA, hB] at hx ⊢
    exact hi.request src tok st llt hx
  case response =>
    intro src tok status hx
    rw [hA] at hx
    rcases List.mem_append.mp (hT ▸ hx) with hx | hx
    · exact hans (hi.response src tok status hx)
    · have h := (mem_sentFrames hx).2
      simp at h
      obtain ⟨tok', ⟨st, llt, rfl⟩, -⟩ := h
      exact hinst (st.fstsID, st.newBand, llt, false) (by simp [sessionInstall])
  case responder =>
    intro h
    rw [hA, show (π.next .b e).b = ((MacSystem.mk π.b π.sim).step 1 e).mac from rfl,
      currentState_step] at h
    cases hm : handshakeMove π.b.address π.a.address (π.b.session π.a.address) e with
    | none =>
      rw [hm] at h
      exact hans (hi.responder h)
    | some st =>
      rw [hm] at h
      rcases handshakeMove_ne_initial hm h with ⟨tok, status, rfl⟩ | ⟨tok, fstsID, rfl⟩ |
        ⟨src, tok, status, rfl⟩ | ⟨src, tok, fstsID, rfl⟩
      · simpa [initiatorFrame] using hrecv _ rfl rfl
      · simpa [initiatorFrame] using hrecv _ rfl rfl
      · exact hans (hi.response _ _ _ (by simpa [enabled, mac] using he))
      · have hm : (⟨⟨π.a.address, src⟩, .fst (.ackResponse tok fstsID)⟩ : WifiMacQueueItem) ∈
            π.b.txop := by simpa [enabled, mac] using he
        simpa [responderFrame] using hi.toA _ hm rfl
  case initiator =>
    intro h
    rw [hA, hB] at h
    exact (hi.initiator h).mono hB (fun x hx => hA ▸ hx)

/-- Two MACs at distinct addresses that have queued nothing and hold no session past
`INITIAL` for each other. -/
structure Fresh (π : MacPair) : Prop where
  distinct : π.a.address ≠ π.b.address
  txopA : π.a.txop = []
  txopB : π.b.txop = []
  idleA : (π.a.session π.b.address).currentState = .initial
  idleB : (π.b.session π.a.address).currentState = .initial

theorem Fresh.setupInv {π : MacPair} (h : π.Fresh) : π.SetupInv where
  distinct := h.distinct
  senderA := by simp [h.txopA]
  senderB := by simp [h.txopB]
  toB := by simp [h.txopA]
  toA := by simp [h.txopB]
  request := by simp [h.txopA]
  response := by simp [h.txopB]
  responder := fun hb => absurd h.idleB hb
  initiator := fun ha => absurd h.idleA ha

theorem Fresh.not_requested {π : MacPair} (h : π.Fresh) : ¬ π.Requested := by
  rintro ⟨src, tok, st, llt, hm⟩
  simp [h.txopA] at hm

/-- Along any admissible run in which `b` never calls `SetupFSTSession (a)` and `a` calls
`SetupFSTSession (b)` at most once in all, and not at all once it has asked, the invariant
holds at the end. -/
theorem SetupInv.run_of_single_setup {π : MacPair} {es : List (Side × MacEvent)}
    (hi : π.SetupInv) (hadm : π.admissible es = true)
    (hb : (.b, .setupFSTSession π.a.address) ∉ es)
    (honce : es.count (.a, .setupFSTSession π.b.address) ≤ 1)
    (hreq : π.Requested → (.a, .setupFSTSession π.b.address) ∉ es) :
    (π.run es).SetupInv := by
  induction es generalizing π with
  | nil => exact hi
  | cons se es ih =>
    obtain ⟨s, e⟩ := se
    simp only [admissible, Bool.and_eq_true] at hadm
    simp only [List.mem_cons, not_or] at hb
    cases s with
    | a =>
      obtain ⟨hA, hB⟩ := next_a_addresses π e
      have hcall : e = .setupFSTSession π.b.address → ¬ π.Requested :=
        fun hc hr => hreq hr (hc ▸ List.mem_cons_self _ _)
      refine ih (hi.next_a hadm.1 hcall) hadm.2 (by rw [hA]; exact hb.2)
        (by rw [hB]; exact (List.count_le_count_cons ..).trans honce) fun hr => ?_
      rw [hB]
      rcases requested_next_a hr with hr | rfl
      · exact fun hm => hreq hr (List.mem_cons_of_mem _ hm)
      · rw [List.count_cons_self] at honce
        exact List.count_eq_zero.mp (by omega)
    | b =>
      obtain ⟨hA, hB⟩ := next_b_addresses π e
      have hcall : e ≠ .setupFSTSession π.a.address := fun hc => hb.1 (by rw [hc])
      refine ih (hi.next_b hadm.1 hcall) hadm.2 (by rw [hA]; exact hb.2)
        (by rw [hB]; exact (List.count_le_count_cons ..).trans honce) fun hr => ?_
      have hr' : π.Requested := hr.mono hB.symm (fun x hx => hA ▸ hx)
      rw [hB]
      exact fun hm => hreq hr' (List.mem_cons_of_mem _ hm)

theorem run_addresses (π : MacPair) (es : List (Side × MacEvent)) :
    (π.run es).a.address = π.a.address ∧ (π.run es).b.address = π.b.address := by
  induction es generalizing π with
  | nil => exact ⟨rfl, rfl⟩
  | cons se es ih =>
    obtain ⟨ha, hb⟩ := ih (π.next se.1 se.2)
    rcases se with ⟨_ | _, e⟩
    · exact ⟨ha.trans (next_a_addresses π e).1, hb.trans (congrArg _ (next_a_addresses π e).2)⟩
    · exact ⟨ha.trans (congrArg _ (next_b_addresses π e).1), hb.trans (next_b_addresses π e).2⟩

/-- Under the invariant, a responder past `INITIAL` holds the key of a request of `a`, and
`a` holds the same key as its initiator. -/
theorem SetupInv.keys_agree {π : MacPair} (hi : π.SetupInv)
    (hb : (π.b.session π.a.address).currentState ≠ .initial) :
    ∃ id band llt, (π.a.session π.b.address).key = (id, band, llt, true) ∧
      (π.b.session π.a.address).key = (id, band, llt, false) := by
  obtain ⟨src, tok, st, llt, hm, hk⟩ := hi.responder hb
  exact ⟨st.fstsID, st.newBand, llt, hi.request src tok st llt hm, hk⟩

/-- With `a` the only side to call `SetupFSTSession`, and once, `b`'s record for `a` is past
`INITIAL` only when it carries the ID, target band and LLT of `a`'s record for `b`, with `a`
the initiator and `b` not. -/
theorem single_setup_sessions_agree (π : MacPair) (es : List (Side × MacEvent))
    (hfresh : π.Fresh) (hadm : π.admissible es = true)
    (honce : es.count (.a, .setupFSTSession π.b.address) ≤ 1)
    (hnone : (.b, .setupFSTSession π.a.address) ∉ es)
    (hb : ((π.run es).b.session π.a.address).currentState ≠ .initial) :
    ((π.run es).a.session π.b.address).id = ((π.run es).b.session π.a.address).id ∧
      ((π.run es).a.session π.b.address).newBandId =
        ((π.run es).b.session π.a.address).newBandId ∧
      ((π.run es).a.session π.b.address).llt = ((π.run es).b.session π.a.address).llt ∧
      ((π.run es).a.session π.b.address).isInitiator = true ∧
      ((π.run es).b.session π.a.address).isInitiator = false := by
  have hi := hfresh.setupInv.run_of_single_setup hadm hnone honce
    fun hr => absurd hr hfresh.not_requested
  obtain ⟨hra, hrb⟩ := run_addresses π es
  rw [← hra] at hb
  rw [← hra, ← hrb]
  obtain ⟨id, band, llt, ha, hb⟩ := hi.keys_agree hb
  simp only [FstSession.key, Prod.mk.injEq] at ha hb
  exact ⟨ha.1.trans hb.1.symm, ha.2.1.trans hb.2.1.symm, ha.2.2.1.trans hb.2.2.1.symm,
    ha.2.2.2, hb.2.2.2⟩

/-- `idleMac` and its twin at `stationB`, with the scheduler at time 0. -/
def idlePair : MacPair := ⟨idleMac, { idleMac with address := stationB }, ⟨0, 0, []⟩⟩

/-- The Setup-Request `stationA` sends, and the Setup-Response `stationB` sends back. -/
def requestAB : WifiMacQueueItem :=
  ⟨⟨stationB, stationA⟩, .fst (.setupRequest 10 ⟨1, .band4_9GHz, .band60GHz⟩ 5)⟩

def responseBA : WifiMacQueueItem := ⟨⟨stationA, stationB⟩, .fst (.setupResponse 10 0)⟩

/-- The one-initiator handshake: `a` calls, `b` answers and gets the `TxOk`, `a` receives the
answer. -/
def handshakeAB : List (Side × MacEvent) :=
  [(.a, .setupFSTSession stationB), (.b, .receive requestAB), (.b, .txOk responseBA),
   (.a, .receive responseBA)]

theorem single_setup_sessions_agree_on_handshakeAB :
    idlePair.Fresh ∧ idlePair.admissible handshakeAB = true ∧
      handshakeAB.count (.a, .setupFSTSession idlePair.b.address) ≤ 1 ∧
      (.b, .setupFSTSession idlePair.a.address) ∉ handshakeAB ∧
      ((idlePair.run handshakeAB).b.session idlePair.a.address).currentState ≠ .initial ∧
      ((idlePair.run handshakeAB).a.session idlePair.b.address).isInitiator = true :=
  have hfresh : idlePair.Fresh := ⟨by decide, rfl, rfl, rfl, rfl⟩
  have hadm : idlePair.admissible handshakeAB = true := by decide
  have hcount : handshakeAB.count (.a, .setupFSTSession idlePair.b.address) ≤ 1 := by decide
  have hnone : (.b, .setupFSTSession idlePair.a.address) ∉ handshakeAB := by decide
  have hb : ((idlePair.run handshakeAB).b.session idlePair.a.address).currentState ≠
      .initial := by decide
  ⟨hfresh, hadm, hcount, hnone, hb,
    (single_setup_sessions_agree idlePair handshakeAB hfresh hadm hcount hnone hb).2.2.2.1⟩

/-- Crossing calls: both sides call `SetupFSTSession`, each receives the other's request,
and each receives the other's answer. -/
def crossingAB : List (Side × MacEvent) :=
  [(.a, .setupFSTSession stationB), (.b, .setupFSTSession stationA),
   (.b, .receive requestAB),
   (.a, .receive ⟨⟨stationA, stationB⟩, .fst (.setupRequest 10 ⟨1, .band4_9GHz, .band60GHz⟩ 5)⟩),
   (.a, .receive responseBA), (.b, .receive ⟨⟨stationB, stationA⟩, .fst (.setupResponse 10 0)⟩)]

/-- After crossing calls both records are past `INITIAL` and neither is the initiator's. -/
theorem crossing_setups_leave_two_responders :
    idlePair.admissible crossingAB = true ∧
      ((idlePair.run crossingAB).a.session stationB).currentState ≠ .initial ∧
      ((idlePair.run crossingAB).b.session stationA).currentState ≠ .initial ∧
      ((idlePair.run crossingAB).a.session stationB).isInitiator = false ∧
      ((idlePair.run crossingAB).b.session stationA).isInitiator = false := by
  decide

end MacPair

end MultiBandFst
