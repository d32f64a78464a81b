import SimpleSocket.Verify.FlagFrame

/-!
# The disconnect report over runs

What `peerDisconnected()` says over runs of a socket object: failed operations do not lose the
report; when it misses a disconnect that a call has observed; when it reports an association that is
gone already.
-/

namespace NET

open Op Interact SimpleSocket

/-! ## The report is not lost -/

/-- The operations that can clear the flag. -/
def Operation.clears : Operation → Bool
  | .inetConnect .. | .sctpConnect .. | .disconnect => true
  | _ => false

theorem Operation.clears_of_clearsOn {op : Operation} {e : Event} (h : op.clearsOn e) :
    op.clears = true := by
  cases op <;> first | rfl | exact h.elim

/-- If the report stands in the first state, it stands in the second. -/
def ReportLe (a b : SimpleSocket) : Prop :=
  a.mPeerDisconnected = true → b.mPeerDisconnected = true

theorem Operation.associates_of_clears {op : Operation} (h : op.clears = true) :
    op.associates = true := by
  cases op <;> first | rfl | cases h

/-- Only a clearing operation that returns loses the report. -/
theorem CallEffect.reportLe {op : Operation} {a b : SimpleSocket} {evs : List Event}
    {ret : Except Exn Value} (h : CallEffect op a evs ret b)
    (hno : op.clears = true → ∃ x, ret = .error x) : ReportLe a b := by
  intro hflag
  cases h with
  | kept _ h => exact h.flag.2 (Or.inl hflag)
  | reassociated _ hret h =>
    obtain ⟨pre, e, -, -, -, ⟨hclears, -⟩ | ⟨-, hb⟩⟩ := h.last
    · obtain ⟨v, hv⟩ := hret
      obtain ⟨x, hx⟩ := hno (op.clears_of_clearsOn hclears)
      rw [hv] at hx
      cases hx
    · rw [hb, hflag]

/-- Without a successful clearing operation, every state reports what an earlier one did. -/
theorem report_pairwise {K : Kernel posix} {this : SimpleSocket} {k₀ : K.State}
    {es : List CallEntry} {s : SimpleSocket} {k : K.State} (h : SocketRun K this k₀ es s k)
    (hno : ∀ e ∈ es, e.op.op.clears = true → ∃ x, e.result.ret = .error x) :
    (this :: es.map Entry.post).Pairwise ReportLe ∧
      ∀ a ∈ this :: es.map Entry.post, ReportLe a s := by
  refine h.invariant (P := fun es s _ => (this :: es.map Entry.post).Pairwise ReportLe ∧
    ∀ a ∈ this :: es.map Entry.post, ReportLe a s) hno ⟨by simp, by simp [ReportLe]⟩ ?_
  intro es op s k tr r s' k' ⟨hpair, hlast⟩ hG hr _
  have hle : ReportLe s s' := (invoke_effect hr).reportLe hG
  have hall : ∀ a ∈ this :: es.map Entry.post, ReportLe a s' :=
    fun a ha hflag => hle (hlast a ha hflag)
  rw [List.map_append, ← List.cons_append]
  refine ⟨List.pairwise_append.2 ⟨hpair, List.pairwise_singleton _ _, fun a ha b hb => ?_⟩, ?_⟩
  · obtain rfl := List.mem_singleton.1 hb
    exact hall a ha
  · intro a ha
    rcases List.mem_append.1 ha with ha | ha
    · exact hall a ha
    · obtain rfl := List.mem_singleton.1 ha
      exact id

/-- **A failed operation keeps the descriptor and the disconnect report**, and only a normally
returning `connect` of an internet or SCTP socket or `disconnect` clears it: without those, the
report is monotone over the states of a run. -/
theorem disconnect_report_kept (K : Kernel posix) (this : SimpleSocket) (k₀ : K.State)
    {es : List CallEntry} {s : SimpleSocket} {k : K.State} (h : SocketRun K this k₀ es s k) :
    (∀ e ∈ es, ∀ x, e.result.ret = .error x → e.post.mSocket = e.pre.mSocket ∧
      ReportLe e.pre e.post) ∧
    (∀ e ∈ es, e.pre.mPeerDisconnected = true → e.post.mPeerDisconnected = false →
      e.op.op.clears = true ∧ ∃ v, e.result.ret = .ok v) ∧
    ((∀ e ∈ es, e.op.op.clears = true → ∃ x, e.result.ret = .error x) →
      (this :: es.map Entry.post).Pairwise ReportLe) := by
  have heffect := fun e he => invoke_effect (h.entry_runs (e := e) he)
  refine ⟨fun e he x hx => ⟨(heffect e he).socket, (heffect e he).reportLe fun _ => ⟨x, hx⟩⟩,
    fun e he hflag hlost => ?_, fun hno => (report_pairwise h hno).1⟩
  by_contra hcontra
  have hle : ReportLe e.pre e.post := (heffect e he).reportLe fun hc => by
    cases hret : e.result.ret with
    | error x => exact ⟨x, rfl⟩
    | ok v => exact absurd ⟨hc, v, hret⟩ hcontra
  rw [hle hflag] at hlost
  cases hlost

/-- A `disconnect` that fails with `EIO` on a socket whose peer is reported gone. -/
theorem disconnect_report_kept_failed_disconnect :
    ReportLe ⟨3, true⟩ ⟨3, true⟩ ∧ [SimpleSocket.mk 3 true, ⟨3, true⟩].Pairwise ReportLe := by
  let c : Invocation := ⟨.disconnect, ⟨[], [], 0, 0, 0⟩, 0⟩
  let o : Outcome := ⟨.error (.socket ⟨"Disconnect failed (connect)", true, 5⟩), c.vars⟩
  have hr : Runs (invoke c ⟨3, true⟩) [Event.sys .once (.connect 3 .unspec) (.error 5)]
      (o, ⟨3, true⟩) := .cons (.answer rfl) (.nil _)
  have run := disconnect_report_kept (Kernel.free posix) ⟨3, true⟩ ()
    (.single c hr (Kernel.free_accepts _))
  refine ⟨(run.1 _ (List.mem_singleton.2 rfl) _ rfl).2, run.2.2 fun e he _ => ?_⟩
  obtain rfl := List.mem_singleton.1 he
  exact ⟨_, rfl⟩

/-! ## The report is not missed -/

/-- The reply tells that the peer has closed or reset the connection. After a shutdown on this side
`EPIPE` and the end of the stream would tell nothing of the peer: the runs it is meant for have
none. -/
def Event.tells : Event → Prop
  | ⟨.sys _ (.send ..), .error e⟩ => e = Errno.econnreset ∨ e = Errno.epipe
  | ⟨.sys _ (.recv ..), .error e⟩ => e = Errno.econnreset ∨ e = Errno.epipe
  | ⟨.sys _ (.poll ..), .error e⟩ => e = Errno.econnreset ∨ e = Errno.epipe
  | ⟨.sys _ (.recv _ len _), .ok got⟩ => 0 < len ∧ got.bytes = []
  | _ => False

/-- The operations that move bytes over a connection. -/
def Operation.isStream : Operation → Prop
  | .send _ => True
  | .tcpSendAll _ => True
  | .receive _ => True
  | .timedReceive _ _ => True
  | _ => False

/-- The call was told that the peer is gone. -/
def Observes (e : CallEntry) : Prop := e.op.op.isStream ∧ ∃ ev ∈ e.events, Event.tells ev

/-- A `connect` or `disconnect` that returned. -/
def Reconnects (e : CallEntry) : Prop :=
  e.op.op.associates = true ∧ ∃ v, e.result.ret = .ok v

/-- A call has observed the disconnect, and no `connect` or `disconnect` has returned since. -/
def Seen (es : List CallEntry) : Prop := Since Observes Reconnects es

theorem not_marks_of_again {e : Event} (h : e.again = true) : ¬e.marks := by
  obtain ⟨c, rfl⟩ := Event.eq_of_again h
  cases c with
  | send fd data => exact (by decide : ¬hungUp Errno.eintr)
  | _ => exact id

theorem not_associates_of_again {e : Event} (h : e.again = true) : ¬e.associates := by
  obtain ⟨c, rfl⟩ := Event.eq_of_again h
  cases c with
  | connect fd addr =>
    cases addr with
    | unspec => exact (by decide : ¬Errno.eintr = Errno.econnreset)
    | _ => exact id
  | _ => exact id

/-- A stream operation sets the flag exactly when a reply marks the peer as gone. -/
theorem stream_flag {e : CallEntry} (hop : e.op.op.isStream)
    (h : Runs (invoke e.op e.pre) e.events (e.result, e.post)) :
    e.post.mPeerDisconnected = true ↔
      e.pre.mPeerDisconnected = true ∨ ∃ ev ∈ e.events, Event.marks ev := by
  cases invoke_effect h with
  | reassociated hassoc _ _ =>
    exfalso
    generalize e.op.op = op at hop hassoc
    cases op <;> first | exact hop | cases hassoc
  | kept _ h =>
    rw [h.flag]
    refine or_congr_right ⟨fun ⟨ev, hev, hm⟩ => ⟨ev, mem_settled hev, hm⟩, fun ⟨ev, hev, hm⟩ => ?_⟩
    refine ⟨ev, List.mem_filter.2 ⟨hev, ?_⟩, hm⟩
    simpa using fun ha => not_marks_of_again ha hm

/-- **A disconnect that a call has observed stays reported until the next `connect` or `disconnect`
exactly when every call that observes one finds the flag set or gets a reply that sets it.** -/
theorem observed_disconnect_reported_iff {K : Kernel posix} {this s : SimpleSocket}
    {k₀ k : K.State} {es : List CallEntry} (h : SocketRun K this k₀ es s k) :
    (∀ es₁ e es₂, es = es₁ ++ e :: es₂ → Seen (es₁ ++ [e]) → e.post.mPeerDisconnected = true) ↔
      ∀ e ∈ es, Observes e → e.pre.mPeerDisconnected = true ∨ ∃ ev ∈ e.events, Event.marks ev := by
  constructor
  · intro hall e he hobs
    obtain ⟨es₁, es₂, rfl⟩ := List.append_of_mem he
    have hpost := hall es₁ e es₂ rfl (since_snoc.2 (Or.inl hobs))
    exact (stream_flag hobs.1 (h.entry_runs he)).1 hpost
  · intro hmeets
    suffices key : (∀ es₁ e es₂, es = es₁ ++ e :: es₂ → Seen (es₁ ++ [e]) →
        e.post.mPeerDisconnected = true) ∧ (Seen es → s.mPeerDisconnected = true) from key.1
    refine h.invariant (P := fun es s _ => (∀ es₁ e es₂, es = es₁ ++ e :: es₂ →
      Seen (es₁ ++ [e]) → e.post.mPeerDisconnected = true) ∧
      (Seen es → s.mPeerDisconnected = true)) hmeets ?_ ?_
    · exact ⟨fun es₁ e es₂ hes => by simp at hes, fun hs => absurd hs not_since_nil⟩
    · intro es op s k tr r s' k' ⟨hprev, hlast⟩ hG hr _
      have hpost : Seen (es ++ [⟨op, s, tr, r, s'⟩]) → s'.mPeerDisconnected = true := by
        intro hseen
        rcases since_snoc.1 hseen with hobs | ⟨hseen, hno⟩
        · exact (stream_flag hobs.1 hr).2 (hG hobs)
        · refine (invoke_effect hr).reportLe (fun hc => ?_) (hlast hseen)
          cases hret : r.ret with
          | error x => exact ⟨x, rfl⟩
          | ok v => exact absurd ⟨Operation.associates_of_clears hc, v, hret⟩ hno
      exact ⟨forall_split_snoc.2 ⟨hprev, hpost⟩, hpost⟩

/-- A `send` that fails with `ECONNRESET` is reported. -/
theorem observed_disconnect_reported_iff_reset :
    ∃ e : CallEntry, Observes e ∧ e.post.mPeerDisconnected = true := by
  have hr : Runs (invoke ⟨.send [1], ⟨[], [], 0, 0, 0⟩, 0⟩ ⟨3, false⟩)
      [Event.sys .tempFailureRetry (.send 3 [1]) (.error Errno.econnreset)]
      (⟨.ok (.int (-1)), ⟨[], [], 0, 0, 0⟩⟩, ⟨3, true⟩) := .cons (.answer rfl) (.nil _)
  have run : SocketRun (Kernel.free posix) ⟨3, false⟩ () _ _ _ :=
    .single _ hr (Kernel.free_accepts _)
  have key := (observed_disconnect_reported_iff run).2
    (List.forall_mem_singleton.2 fun _ => Or.inr ⟨_, List.mem_singleton.2 rfl, Or.inl rfl⟩)
  refine ⟨_, ?_, key [] _ [] rfl (since_snoc.2 (Or.inl ?_))⟩ <;>
    exact ⟨trivial, _, List.mem_singleton.2 rfl, Or.inl rfl⟩

/-- A `receive` that meets the end of the stream does not set the flag. -/
theorem receive_misses_end_of_stream :
    ¬∀ (K : Kernel posix) (this s : SimpleSocket) (k₀ k : K.State) (es : List CallEntry),
      SocketRun K this k₀ es s k → ∀ es₁ e es₂, es = es₁ ++ e :: es₂ → Seen (es₁ ++ [e]) →
        e.post.mPeerDisconnected = true := by
  intro h
  have hr : Runs (invoke ⟨.receive 4, ⟨[9], [], 0, 0, 0⟩, 0⟩ ⟨3, false⟩)
      [Event.sys .tempFailureRetry (.recv 3 4 0) (.ok ⟨[], by decide⟩)]
      (⟨.ok (.int 0), ⟨[9], [], 0, 0, 0⟩⟩, ⟨3, false⟩) := .cons (.answer rfl) (.nil _)
  have run : SocketRun (Kernel.free posix) ⟨3, false⟩ () _ _ _ :=
    .single _ hr (Kernel.free_accepts _)
  have hflag := h _ _ _ _ _ _ run [] _ [] rfl (since_snoc.2 (Or.inl
    ⟨trivial, _, List.mem_singleton.2 rfl, (by decide : 0 < 4), rfl⟩))
  cases hflag

/-! ## The report is not stale -/

/-- The peer of a socket: it has closed, reset or refused the current association; the receive
direction has been shut down on this side; what happened to another association may still be
reported, an earlier one or one whose `connect` did not return. -/
structure Peer where
  gone : Prop
  receiveShut : Prop
  stray : Prop

/-- A call that starts an association or dissolves one, whatever its reply: what a signal interrupts
goes on in the kernel. -/
def Event.connects : Event → Prop
  | ⟨.sys _ (.connect ..), _⟩ => True
  | ⟨.sys _ (.sctpConnectx ..), _⟩ => True
  | _ => False

/-- A `send` is told that the peer reset or refused the association. -/
def Event.refuses : Event → Prop
  | ⟨.sys _ (.send ..), .error e⟩ => hungUp e
  | _ => False

/-- The peer, or a local shutdown of the receive direction, is reported to a timed receive. -/
def Event.hangsUp : Event → Prop
  | ⟨.sys _ (.poll _ events _), .ok (revents : BitVec 16)⟩ =>
    hasFlag events pollRdHup = true ∧ hasFlag revents pollRdHup = true
  | _ => False

/-- A local shutdown of the receive direction. On a UDP socket without a peer it fails, and has its
effect all the same. -/
def Event.shutsReceive : Event → Prop
  | ⟨.sys _ (.shutdown _ how), _⟩ =>
    how = ShutdownDirection.stopReceive.how ∨ how = ShutdownDirection.stopBoth.how
  | _ => False

/-- What an event tells of the peer, and does to it. -/
structure Peer.Step (p : Peer) (e : Event) (p' : Peer) : Prop where
  -- the association is new after `connect` and `disconnect`
  gone : p'.gone ↔ ¬e.associates ∧ p.gone
  receiveShut : p'.receiveShut ↔ p.receiveShut ∨ e.shutsReceive
  -- what was not reported may outlive its association
  stray : p'.stray → p.stray ∨ e.connects
  hangsUp : e.hangsUp → p.gone ∨ p.receiveShut ∨ p.stray
  refuses : e.refuses → p.gone ∨ p.stray

/-- The kernel's view of the association. The peer can go away at any time, and a report that waits
can get lost. -/
def association : Kernel posix where
  State := Peer
  step := Peer.Step
  idle p p' := (p.gone → p'.gone) ∧ (p'.receiveShut ↔ p.receiveShut) ∧ (p'.stray → p.stray)

/-- The same kernel where a report means the peer of the current association: a `POLLRDHUP` is not
only that of a local shutdown, and no report only that of another association. -/
def honestAssociation : Kernel posix := association.restrict fun p (e : Event) =>
  (e.hangsUp → p.receiveShut ∨ p.stray → p.gone) ∧ (e.refuses → p.stray → p.gone)

theorem marks_iff {e : Event} : e.marks ↔ e.refuses ∨ e.hangsUp := by
  unfold Event.marks Event.refuses Event.hangsUp hungUp
  split <;> simp

/-- While the association stays, the peer stays gone, and it is gone when the flag is set. -/
theorem gone_of_marks {p p' : Peer} {tr : List Event} (h : honestAssociation.Accepts p tr p')
    (hkeeps : ∀ e ∈ tr, ¬e.associates) (hgone : p.gone ∨ ∃ e ∈ tr, Event.marks e) : p'.gone := by
  revert hkeeps hgone
  refine h.relate (P := fun (p : Peer) tr (p' : Peer) => (∀ e ∈ tr, ¬Event.associates e) →
    (p.gone ∨ ∃ e ∈ tr, Event.marks e) → p'.gone) ?_ ?_ ?_
  · intro p _ hgone
    simpa using hgone
  · rintro p e p₁ tr p' ⟨hstep, honestHangUp, honestRefusal⟩ ih hkeeps hgone
    have htail := ih fun e' he' => hkeeps e' (List.mem_cons_of_mem _ he')
    have hnow : p.gone → p₁.gone := fun h => hstep.gone.2 ⟨hkeeps e List.mem_cons_self, h⟩
    rcases hgone with hp | ⟨e', he', hm⟩
    · exact htail (Or.inl (hnow hp))
    · rcases List.mem_cons.1 he' with rfl | he'
      · refine htail (Or.inl (hnow ?_))
        rcases marks_iff.1 hm with hr | hh
        · exact (hstep.refuses hr).elim id (honestRefusal hr)
        · exact (hstep.hangsUp hh).elim id (honestHangUp hh)
      · exact htail (Or.inr ⟨e', he', hm⟩)
  · rintro p p₁ tr p' ⟨hg, -⟩ ih hkeeps hgone
    exact ih hkeeps (hgone.imp_left hg)

/-- The call starts a new association, or ends one, and keeps the report about the old one. -/
def Stale (e : CallEntry) : Prop :=
  e.pre.mPeerDisconnected = true ∧ ∃ ev ∈ e.events, Event.associates ev ∧ ¬e.op.op.clearsOn ev

/-- **The report is about the current association** in every run in which no reply reports a local
shutdown or another association in place of the peer, and no `connect` of a Unix or CAN socket and
no `connect()` of a `disconnect` succeeds while the flag is set. -/
theorem report_current {this s : SimpleSocket} {p₀ p : Peer} {es : List CallEntry}
    (h : SocketRun honestAssociation this p₀ es s p) (h0 : this.mPeerDisconnected = false)
    (hstale : ∀ e ∈ es, ¬Stale e) :
    (s.mPeerDisconnected = true → p.gone) ∧
      ∀ e ∈ es, Reconnects e → e.post.mPeerDisconnected = false := by
  refine h.invariant (P := fun es s (p : Peer) => (s.mPeerDisconnected = true → p.gone) ∧
    ∀ e ∈ es, Reconnects e → e.post.mPeerDisconnected = false) hstale ?_ ?_
  · refine ⟨fun hflag => ?_, fun e he => (nomatch he)⟩
    rw [h0] at hflag
    cases hflag
  · intro es op s p tr r s' p' ⟨hs, hes⟩ hG hr hk
    have hnew : (s'.mPeerDisconnected = true → p'.gone) ∧
        (Reconnects ⟨op, s, tr, r, s'⟩ → s'.mPeerDisconnected = false) := by
      cases invoke_effect hr with
      | kept hop heff =>
        have hkeeps : ∀ e ∈ tr, ¬Event.associates e :=
          (forall_mem_settled (fun e he => not_associates_of_again he) tr).1 heff.keeps
        refine ⟨fun hflag => gone_of_marks hk hkeeps ?_, fun ⟨hassoc, v, hv⟩ => ?_⟩
        · rcases heff.flag.1 hflag with hflag | ⟨e, he, hm⟩
          · exact Or.inl (hs hflag)
          · exact Or.inr ⟨e, mem_settled he, hm⟩
        · obtain ⟨x, hx⟩ := hop hassoc
          rw [hv] at hx
          cases hx
      | reassociated _ _ hre =>
        obtain ⟨pre, e, hevs, -, hassoc, ⟨-, hflag⟩ | ⟨hno, hflag⟩⟩ := hre.last
        · refine ⟨fun hflag' => ?_, fun _ => hflag⟩
          rw [hflag] at hflag'
          cases hflag'
        · have he : e ∈ tr := mem_settled (by simp [hevs])
          have hclear : s'.mPeerDisconnected = false := by
            rw [hflag]
            by_contra hset
            exact hG ⟨by simpa using hset, e, he, hassoc, hno⟩
          refine ⟨fun hflag' => ?_, fun _ => hclear⟩
          rw [hclear] at hflag'
          cases hflag'
    refine ⟨hnew.1, fun e he => ?_⟩
    rcases List.mem_append.1 he with he | he
    · exact hes e he
    · obtain rfl := List.mem_singleton.1 he
      exact hnew.2

/-- The peer refuses the association. -/
theorem refused_idle :
    association.idle (⟨False, False, False⟩ : Peer) (⟨True, False, False⟩ : Peer) :=
  ⟨False.elim, Iff.rfl, id⟩

/-- The refusal is reported to a `send`. -/
theorem refused_step : association.step (⟨True, False, False⟩ : Peer)
    (Event.sys .tempFailureRetry (.send 3 [1]) (.error Errno.econnrefused))
    (⟨True, False, False⟩ : Peer) := by
  refine ⟨iff_of_true trivial ⟨id, trivial⟩, iff_of_false id ?_, False.elim, False.elim, ?_⟩
  · rintro (h | h) <;> exact h
  · exact fun _ => Or.inl trivial

/-- A `send` that the peer refuses is reported, and the peer is gone. -/
theorem report_current_refused : ∃ (es : List CallEntry) (s : SimpleSocket) (p : Peer),
    SocketRun honestAssociation ⟨3, false⟩ ⟨False, False, False⟩ es s p ∧ es.length = 1 ∧
      s.mPeerDisconnected = true ∧ p.gone := by
  have hr : Runs (invoke ⟨.send [1], ⟨[], [], 0, 0, 0⟩, 0⟩ ⟨3, false⟩)
      [Event.sys .tempFailureRetry (.send 3 [1]) (.error Errno.econnrefused)]
      (⟨.ok (.int (-1)), ⟨[], [], 0, 0, 0⟩⟩, ⟨3, true⟩) := .cons (.answer rfl) (.nil _)
  have hk : honestAssociation.Accepts (⟨False, False, False⟩ : Peer)
      [Event.sys .tempFailureRetry (.send 3 [1]) (.error Errno.econnrefused)]
      (⟨True, False, False⟩ : Peer) :=
    .idle refused_idle (.single ⟨refused_step, False.elim, fun _ => False.elim⟩)
  have run : SocketRun honestAssociation ⟨3, false⟩ (⟨False, False, False⟩ : Peer) _ _ _ :=
    .single _ hr hk
  have hcurrent := report_current run rfl (List.forall_mem_singleton.2 fun hst => by cases hst.1)
  exact ⟨_, _, _, run, rfl, rfl, hcurrent.1 rfl⟩

/-- A `disconnect` of a refused UDP socket succeeds and keeps the report. -/
theorem disconnect_keeps_report :
    ¬∀ (this s : SimpleSocket) (p₀ p : Peer) (es : List CallEntry),
      SocketRun association this p₀ es s p → this.mPeerDisconnected = false →
        (s.mPeerDisconnected = true → p.gone) ∧
          ∀ e ∈ es, Reconnects e → e.post.mPeerDisconnected = false := by
  intro h
  have hsend : Runs (invoke ⟨.send [1], ⟨[], [], 0, 0, 0⟩, 0⟩ ⟨3, false⟩)
      [Event.sys .tempFailureRetry (.send 3 [1]) (.error Errno.econnrefused)]
      (⟨.ok (.int (-1)), ⟨[], [], 0, 0, 0⟩⟩, ⟨3, true⟩) := .cons (.answer rfl) (.nil _)
  have hdisc : Runs (invoke ⟨.disconnect, ⟨[], [], 0, 0, 0⟩, 0⟩ ⟨3, true⟩)
      [Event.sys .once (.connect 3 .unspec) (.ok ())]
      (⟨.ok .unit, ⟨[], [], 0, 0, 0⟩⟩, ⟨3, true⟩) := .cons (.answer rfl) (.nil _)
  have hk₁ : association.Accepts (⟨False, False, False⟩ : Peer)
      [Event.sys .tempFailureRetry (.send 3 [1]) (.error Errno.econnrefused)]
      (⟨True, False, False⟩ : Peer) :=
    .idle refused_idle (.single refused_step)
  have hk₂ : association.Accepts (⟨True, False, False⟩ : Peer)
      [Event.sys .once (.connect 3 .unspec) (.ok ())] (⟨False, False, False⟩ : Peer) := by
    refine .single ⟨iff_of_false id fun h => h.1 trivial, iff_of_false id ?_, False.elim,
      False.elim, False.elim⟩
    rintro (h | h) <;> exact h
  have hcurrent := h _ _ _ _ _ (.snoc (.single _ hsend hk₁) _ hdisc hk₂) rfl
  exact hcurrent.1 rfl

end NET
