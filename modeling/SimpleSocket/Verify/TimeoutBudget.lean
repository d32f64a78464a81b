import Mathlib.Algebra.Order.BigOperators.Group.List
import Mathlib.Algebra.Order.Ring.NNRat
import Mathlib.Tactic.NormNum
import SimpleSocket.Verify.Calls

/-!
# The timeout of the timed operations

A timed operation makes one `poll` call, under `TEMP_FAILURE_RETRY`: every attempt that a signal
interrupts is followed by one with the same timeout (`polls_eq`). The time it spends there is the
sum over all attempts, so the timeout bounds it only when nothing was spent before the
interruptions.
-/

namespace NET

open Op Interact SimpleSocket

/-- The timeout passed to a `poll` attempt. -/
def Call.pollTimeout : Call → Option ℤ
  | .sys _ (.poll _ _ timeout) => some timeout
  | _ => none

/-- The timeouts passed to the `poll` attempts of a run, interrupted or not. -/
def pollTimeouts (tr : List Event) : List ℤ := tr.filterMap fun e => Call.pollTimeout e.call

/-- The timed operations, with the timeout of their caller. -/
def Operation.timeout : Operation → Option ℤ
  | .timedReceive _ timeout => some timeout
  | .udpTimedReceiveFrom _ timeout => some timeout
  | .unixTimedReceiveFrom _ timeout => some timeout
  | .canTimedReceiveFrom _ timeout => some timeout
  | .sctpTimedReceive _ timeout => some timeout
  | .sctpTimedReceiveFlag _ timeout => some timeout
  | .tcpTimedAccept timeout => some timeout
  | .sctpTimedAccept timeout => some timeout
  | _ => none

/-! ## Every attempt is given the whole timeout -/

/-- The call is no `poll`, or one with this timeout. -/
def PollsFor (timeout : ℤ) (c : Call) : Prop := ∀ t, Call.pollTimeout c = some t → t = timeout

section Methods

variable {τ : Type} (timeout : ℤ)

/-- Every event of the method is one of these calls. -/
abbrev Op.MakesPolls {α : Type} (m : Op τ α) : Prop := m.Makes fun e => PollsFor timeout e.call

theorem pollsFor_poll (w : Retry) (fd : ℤ) (events : BitVec 16) :
    PollsFor timeout (.sys w (.poll fd events timeout)) := by
  intro t ht
  exact (Option.some.inj ht).symm

theorem pollsFor_of_none {c : Call} (h : Call.pollTimeout c = none) : PollsFor timeout c := by
  intro t ht
  rw [h] at ht
  cases ht

theorem recv_polls (len : ℕ) (flags : ℤ) : (recv len flags).MakesPolls timeout := by
  unfold recv
  refine .bind .thisSocket fun fd => .bind (.sys _ fun r => pollsFor_of_none _ rfl) fun r => ?_
  exact .bind (.modify _) fun _ => .pure _

theorem receiveDatagram_polls (len : ℕ) (kind : AddrKind)
    {report : Except Errno (Received len × kind.Name) → Method Unit}
    (h : ∀ r, (report r).MakesPolls timeout) :
    (receiveDatagram len kind report).MakesPolls timeout := by
  unfold receiveDatagram
  refine .bind .thisSocket fun fd => .bind (.sys _ fun r => pollsFor_of_none _ rfl) fun r => ?_
  refine .bind (.modify _) fun _ => .ite (.throwSocket _ _) ?_
  exact .bind (h r) fun _ => .pure _

theorem udpReceiveFrom_polls (len : ℕ) : (UDPSocket.receiveFrom len).MakesPolls timeout := by
  unfold UDPSocket.receiveFrom
  refine .bind (.lib fun r => pollsFor_of_none _ rfl) fun addr => ?_
  exact receiveDatagram_polls timeout len .inet fun r => .modify _

theorem unixReceiveFrom_polls (len : ℕ) :
    (UnixDatagramSocket.receiveFrom len).MakesPolls timeout := by
  unfold UnixDatagramSocket.receiveFrom
  refine .bind (.lib fun r => pollsFor_of_none _ rfl) fun addr => ?_
  refine receiveDatagram_polls timeout len .un fun r => .bind ?_ fun _ => .modify _
  unfold UnixSocket.extractPath
  exact .ite (.throw _) (.pure _)

theorem getInterfaceName_polls (fd : ℤ) (addr : SockaddrCan) :
    (CANSocket.getInterfaceName fd addr : Op τ Str).MakesPolls timeout := by
  unfold CANSocket.getInterfaceName
  refine .bind (.lib fun r => pollsFor_of_none _ rfl) fun ifr => ?_
  exact .bindSys (fun r => pollsFor_of_none _ rfl) (fun _ => .throwSocket _ _) fun _ => .pure _

theorem canReceiveFrom_polls (len : ℕ) : (CANRawSocket.receiveFrom len).MakesPolls timeout := by
  unfold CANRawSocket.receiveFrom
  refine .bind (.lib fun r => pollsFor_of_none _ rfl) fun addr => ?_
  refine receiveDatagram_polls timeout len .can fun r => .bind .thisSocket fun fd => ?_
  exact .bind (getInterfaceName_polls timeout fd _) fun _ => .modify _

theorem receiveMessage_polls (len : ℕ) (report : SctpSndrcvinfo → Frame → Frame) :
    (SCTPSocket.receiveMessage len report).MakesPolls timeout :=
  .receiveMessage (fun _ => pollsFor_of_none _ rfl) fun _ _ => pollsFor_of_none _ rfl

theorem timedWith_polls {receive : Method ℤ} (h : receive.MakesPolls timeout) (failure : String) :
    (timedWith failure timeout receive).MakesPolls timeout :=
  .timedWith (fun _ _ => pollsFor_poll timeout _ _ _) h failure

theorem timedReceive_polls (len : ℕ) : (timedReceive len timeout).MakesPolls timeout := by
  unfold timedReceive
  refine .bind (.pollReceive fun _ _ => pollsFor_poll timeout _ _ _) fun r => ?_
  refine .ite (.pure _) (.ite (.throwSocket _ _) (.bind (.noteRdHup _) fun _ => .ite ?_ (.pure _)))
  exact .bind (recv_polls timeout _ _) fun n => .ite (.throwSocket _ _) (.pure _)

theorem timedAcceptWith_polls (this : SimpleSocket) (pollFailure acceptFailure : String) :
    (this.timedAcceptWith timeout pollFailure acceptFailure : Op τ SocketHandle).MakesPolls
      timeout :=
  .timedAcceptWith (fun _ => pollsFor_poll timeout _ _ _) fun _ => pollsFor_of_none _ rfl

variable {timeout}

theorem body_polls {op : Operation} (hop : op.timeout = some timeout) :
    op.body.MakesPolls timeout := by
  unfold Operation.timeout at hop
  split at hop <;> cases hop
  · exact .asInt (timedReceive_polls _ _)
  · exact .asInt (timedWith_polls _ (udpReceiveFrom_polls _ _) _)
  · exact .asInt (timedWith_polls _ (unixReceiveFrom_polls _ _) _)
  · exact .asInt (timedWith_polls _ (canReceiveFrom_polls _ _) _)
  · exact .asInt (timedWith_polls _ (receiveMessage_polls _ _ _) _)
  · exact .asInt (timedWith_polls _ (receiveMessage_polls _ _ _) _)
  · exact .asHandle fun this => timedAcceptWith_polls _ this _ _
  · exact .asHandle fun this => timedAcceptWith_polls _ this _ _

/-- All attempts of a run are given the timeout of the caller. -/
theorem polls_eq {c : Invocation} {this this' : SimpleSocket} {tr : List Event} {o : Outcome}
    (hop : c.op.timeout = some timeout) (h : Runs (invoke c this) tr (o, this')) :
    ∀ t ∈ pollTimeouts tr, t = timeout := by
  obtain ⟨s', hr, -⟩ := invoke_runs h
  intro t ht
  obtain ⟨e, he, het⟩ := List.mem_filterMap.1 ht
  exact (body_polls hop).all_of_runs hr e he t het

end Methods

/-! ## The time spent in `poll` -/

/-- The times, in milliseconds, that the `poll` attempts of a run can take: none takes longer than
the timeout it is given. -/
def Durations (tr : List Event) (ds : List ℚ≥0) : Prop :=
  List.Forall₂ (fun d timeout => d ≤ (Int.toNat timeout : ℚ≥0)) ds (pollTimeouts tr)

/-- After interruptions at the times `es`, the last attempt takes no longer than what is left of the
timeout, whenever it ends. -/
def WithinBudget (tr : List Event) (timeout : ℕ) (es : List ℚ≥0) : Prop :=
  ∀ f, Durations tr (es ++ [f]) → (es ++ [f]).sum ≤ (timeout : ℚ≥0)

theorem forall₂_replicate_iff {α β : Type} {R : α → β → Prop} {b : β} {n : ℕ} {ds : List α} :
    List.Forall₂ R ds (List.replicate n b) ↔ ds.length = n ∧ ∀ d ∈ ds, R d b := by
  induction ds generalizing n with
  | nil => cases n <;> simp [List.replicate_succ]
  | cons d ds ih =>
    cases n with
    | zero => simp
    | succ n =>
      rw [List.replicate_succ, List.forall₂_cons, ih, List.forall_mem_cons, List.length_cons]
      constructor
      · intro h
        obtain ⟨hd, hn, hds⟩ := h
        exact ⟨by omega, hd, hds⟩
      · intro h
        obtain ⟨hn, hd, hds⟩ := h
        exact ⟨hd, by omega, hds⟩

theorem durations_iff {tr : List Event} {timeout : ℕ}
    (htr : ∀ t ∈ pollTimeouts tr, t = (timeout : ℤ)) {ds : List ℚ≥0} :
    Durations tr ds ↔ ds.length = (pollTimeouts tr).length ∧ ∀ d ∈ ds, d ≤ (timeout : ℚ≥0) := by
  unfold Durations
  conv_lhs => rw [List.eq_replicate_of_mem htr]
  rw [forall₂_replicate_iff, Int.toNat_natCast]

/-- **The timeout is a budget for the whole call** exactly when no signal interrupts `poll` after
some time has passed. -/
theorem timeout_budget_iff {c : Invocation} {this this' : SimpleSocket} {tr : List Event}
    {o : Outcome} {timeout : ℕ} {es : List ℚ≥0} (hop : c.op.timeout = some (timeout : ℤ))
    (h : Runs (invoke c this) tr (o, this')) (hes : ∃ f, Durations tr (es ++ [f])) :
    WithinBudget tr timeout es ↔ ∀ e ∈ es, e = 0 := by
  have htr := polls_eq hop h
  obtain ⟨f₀, h₀⟩ := hes
  have hsum : ∀ f, (es ++ [f]).sum = es.sum + f := fun f => by simp
  unfold WithinBudget
  simp only [durations_iff htr, hsum, List.forall_mem_append, List.forall_mem_singleton,
    List.length_append, List.length_singleton] at h₀ ⊢
  obtain ⟨hlen, hes, -⟩ := h₀
  constructor
  · intro hb
    -- the last attempt may use up the timeout it is given
    have hle := hb timeout ⟨hlen, hes, le_refl _⟩
    have hzero : es.sum = 0 := le_antisymm (add_le_iff_nonpos_left.1 hle) zero_le
    exact fun e he => List.sum_eq_zero_iff.1 hzero e he
  · intro hzero f h
    obtain ⟨-, -, hf⟩ := h
    rwa [List.sum_eq_zero hzero, zero_add]

/-- An `accept` that waits for a second, with one interruption on the way. -/
def interruptedAccept : List Event :=
  [Event.sys .tempFailureRetry (.poll 3 pollIn 1000) (.error Errno.eintr),
    Event.sys .tempFailureRetry (.poll 3 pollIn 1000) (.ok (0 : BitVec 16))]

theorem interruptedAccept_runs :
    Runs (invoke ⟨.tcpTimedAccept 1000, ⟨[], [], 0, 0, 0⟩, 0⟩ ⟨3, false⟩) interruptedAccept
      (⟨.ok (.handle ⟨-1⟩), ⟨[], [], 0, 0, 0⟩⟩, ⟨3, false⟩) :=
  .cons (.retry rfl) (.cons (.answer rfl) (.nil _))

theorem interruptedAccept_durations {e f : ℚ≥0} (he : e ≤ 1000) (hf : f ≤ 1000) :
    Durations interruptedAccept [e, f] :=
  .cons (by exact_mod_cast he) (.cons (by exact_mod_cast hf) .nil)

/-- An interruption at once costs nothing. -/
theorem timeout_budget_at_once : WithinBudget interruptedAccept 1000 [0] :=
  (timeout_budget_iff rfl interruptedAccept_runs
    ⟨0, interruptedAccept_durations (by norm_num) (by norm_num)⟩).2 (by simp)

/-- An interruption after 600 of the 1000 milliseconds, and the wait can take 1600. -/
theorem interrupted_wait_exceeds_timeout :
    ¬∀ (c : Invocation) (this this' : SimpleSocket) (tr : List Event) (o : Outcome) (timeout : ℕ)
      (es : List ℚ≥0), c.op.timeout = some (timeout : ℤ) → Runs (invoke c this) tr (o, this') →
        (∃ f, Durations tr (es ++ [f])) → WithinBudget tr timeout es := by
  intro h
  have hd := interruptedAccept_durations (e := 600) (f := 1000) (by norm_num) (by norm_num)
  have hb := h _ _ _ _ _ 1000 [600] rfl interruptedAccept_runs ⟨1000, hd⟩ 1000 hd
  norm_num at hb

end NET
