import SimpleSocket.Verify.TcpStream

/-!
# What the send operations report, at every length

The sources narrow lengths and counts to `int`. `sendTo` compares the two narrowed values, so it
compares residues modulo 2^32, and the `-1` of a failed call is one of the residues. `sendAll`
counts exactly and narrows the sum it returns.
-/

namespace NET

open Op Interact SimpleSocket

-- a comparison with a count is never evaluated
attribute [local irreducible] toInt

/-! ## Residues -/

theorem toInt_eq_toInt_iff {a b : ℤ} : toInt a = toInt b ↔ a % 4294967296 = b % 4294967296 := by
  unfold toInt
  rw [Int.bmod_def, Int.bmod_def]
  omega

theorem toInt_neg_one_eq_iff {n : ℕ} : toInt (-1) = toInt n ↔ n % 4294967296 = 4294967295 := by
  rw [toInt_eq_toInt_iff]
  omega

theorem toInt_natCast_eq_iff {m n : ℕ} : toInt m = toInt n ↔ m % 4294967296 = n % 4294967296 := by
  rw [toInt_eq_toInt_iff]
  omega

/-! ## `sendTo` -/

/-- The buffer of the `sendTo` operations. -/
def Operation.datagram : Operation → Option (List UInt8)
  | .udpSendTo data _ _ => some data
  | .unixSendTo data _ => some data
  | .canSendTo data _ => some data
  | _ => none

/-- The event hands a datagram to the kernel. -/
def Event.sends : Event → Bool
  | ⟨.sys _ (.sendto ..), _⟩ => true
  | _ => false

/-- The kernel took exactly the whole buffer as the datagram. -/
def TakenWhole (data : List UInt8) (e : Event) : Prop :=
  ∃ w fd addr n, e = Event.sys w (.sendto fd data addr) (.ok n) ∧ n.count = data.length

/-- The narrowed answer of the kernel is the narrowed length, though it took no whole datagram: it
failed, or it took a different number of bytes with the same residue. -/
def LooksWhole : Event → Prop
  | ⟨.sys _ (.sendto _ data _), .error _⟩ => data.length % 4294967296 = 4294967295
  | ⟨.sys _ (.sendto _ data _), .ok (n : Count data.length)⟩ =>
    n.count ≠ data.length ∧ n.count % 4294967296 = data.length % 4294967296
  | _ => False

theorem not_takenWhole_error {data data' : List UInt8} {w : Retry} {fd : ℤ} {addr : Sockaddr}
    {err : Errno} : ¬TakenWhole data' (Event.sys w (.sendto fd data addr) (.error err)) := by
  intro h
  obtain ⟨w', fd', addr', n, h, -⟩ := h
  cases h

/-- Nothing is taken at an event that sends nothing. -/
theorem not_takenWhole_of_not_sends {data : List UInt8} {e : Event} (he : Event.sends e = false) :
    ¬TakenWhole data e := by
  intro h
  obtain ⟨w, fd, addr, n, rfl, -⟩ := h
  cases he

theorem not_looksWhole_of_not_sends {e : Event} (he : Event.sends e = false) : ¬LooksWhole e := by
  intro h
  unfold LooksWhole at h
  split at h
  · cases he
  · cases he
  · exact h

theorem takenWhole_ok_iff {data : List UInt8} {w : Retry} {fd : ℤ} {addr : Sockaddr}
    {n : Count data.length} :
    TakenWhole data (Event.sys w (.sendto fd data addr) (.ok n)) ↔ n.count = data.length := by
  constructor
  · intro h
    obtain ⟨w', fd', addr', n', h, hn⟩ := h
    cases h
    exact hn
  · exact fun hn => ⟨w, fd, addr, n, rfl, hn⟩

/-- The comparison of residues tells one answer from the whole datagram unless it looks like it. -/
theorem answer_whole_iff {data : List UInt8} {w : Retry} {fd : ℤ} {addr : Sockaddr}
    (reply : Except Errno (Count data.length)) :
    (toInt (ssize (reply.map Count.count)) = toInt data.length ↔
        TakenWhole data (Event.sys w (.sendto fd data addr) reply)) ↔
      ¬LooksWhole (Event.sys w (.sendto fd data addr) reply) := by
  cases reply with
  | error err =>
    change (toInt (-1) = toInt data.length ↔ _) ↔ ¬data.length % 4294967296 = 4294967295
    rw [iff_false_right not_takenWhole_error, toInt_neg_one_eq_iff]
  | ok n =>
    change (toInt n.count = toInt data.length ↔ _) ↔
      ¬(n.count ≠ data.length ∧ n.count % 4294967296 = data.length % 4294967296)
    rw [takenWhole_ok_iff, toInt_natCast_eq_iff]
    constructor
    · intro h hlooks
      obtain ⟨hne, heq⟩ := hlooks
      exact hne (h.1 heq)
    · intro h
      constructor
      · intro heq
        by_contra hne
        exact h ⟨hne, heq⟩
      · intro heq
        rw [heq]

/-- How a `sendTo` ends: before its call, or by the comparison of the answer. -/
inductive SendToEnds {α : Type} (data : List UInt8) : List Event → Except Exn α → Prop
  | before {evs : List Event} (x : Exn) (h : ∀ e ∈ evs, Event.sends e = false) :
      SendToEnds data evs (.error x)
  | answered {evs : List Event} {r : Except Exn α} (w : Retry) (fd : ℤ) (addr : Sockaddr)
      (reply : Except Errno (Count data.length)) (h : ∀ e ∈ evs, Event.sends e = false)
      (hr : (∃ a, r = .ok a) ↔ toInt (ssize (reply.map Count.count)) = toInt data.length) :
      SendToEnds data (evs ++ [Event.sys w (.sendto fd data addr) reply]) r

namespace SendToEnds

variable {α : Type} {data : List UInt8} {evs : List Event} {r : Except Exn α}

theorem map {β : Type} (f : α → β) (h : SendToEnds data evs r) :
    SendToEnds data evs (r.map f) := by
  cases h with
  | before x h => exact .before x h
  | answered w fd addr reply h hr =>
    refine .answered w fd addr reply h (Iff.trans ?_ hr)
    cases r <;> simp [Except.map]

/-- The comparison is right unless the answer looks whole. -/
theorem returns_iff (h : SendToEnds data evs r) :
    ((∃ a, r = .ok a) ↔ ∃ e ∈ evs, TakenWhole data e) ↔ ∀ e ∈ evs, ¬LooksWhole e := by
  cases h with
  | before x h =>
    refine iff_of_true (iff_of_false ?_ ?_) fun e he => not_looksWhole_of_not_sends (h e he)
    · intro h
      obtain ⟨a, ha⟩ := h
      cases ha
    · intro h
      obtain ⟨e, he, hw⟩ := h
      exact not_takenWhole_of_not_sends (h e he) hw
  | @answered evs _ w fd addr reply h hr =>
    have hmem : (∃ e ∈ evs ++ [Event.sys w (.sendto fd data addr) reply], TakenWhole data e) ↔
        TakenWhole data (Event.sys w (.sendto fd data addr) reply) := by
      constructor
      · intro h
        obtain ⟨e, he, hw⟩ := h
        rcases List.mem_append.1 he with he | he
        · exact absurd hw (not_takenWhole_of_not_sends (h e he))
        · rwa [List.mem_singleton.1 he] at hw
      · exact fun hw => ⟨_, by simp, hw⟩
    have hall : (∀ e ∈ evs ++ [Event.sys w (.sendto fd data addr) reply], ¬LooksWhole e) ↔
        ¬LooksWhole (Event.sys w (.sendto fd data addr) reply) := by
      rw [List.forall_mem_append, List.forall_mem_singleton]
      exact and_iff_right fun e he => not_looksWhole_of_not_sends (h e he)
    rw [hr, hmem, hall]
    exact answer_whole_iff reply

end SendToEnds

section SendTo

variable {s : Proc Frame} (data : List UInt8)

/-- The tail of the `sendTo` operations, after the events `pre`. -/
theorem sendDatagram_ends (addr : Sockaddr) (pre : List Event)
    (hpre : ∀ e ∈ pre, Event.sends e = false) :
    (sendDatagram data addr).wp (fun as r _ => SendToEnds data (pre ++ as.map Prod.snd) r) s := by
  rw [wp_sendDatagram]
  intro b reply _
  dsimp only
  split
  · next hne =>
    refine .answered _ _ addr reply hpre (iff_of_false ?_ hne)
    intro h
    obtain ⟨a, ha⟩ := h
    cases ha
  · next heq => exact .answered _ _ addr reply hpre (iff_of_true ⟨_, rfl⟩ (not_not.1 heq))

theorem udpSendTo_ends (address : Str) (port : BitVec 16) :
    (UDPSocket.sendTo data address port).wp
      (fun as r _ => SendToEnds data (as.map Prod.snd) r) s := by
  rw [UDPSocket.sendTo, wp_bind]
  apply wp_inetLocalAddress
  · intro b c b' a
    refine wp_mono (sendDatagram_ends data _ [Event.lib .uninitIn c,
      Event.lib (.inetAton (cStr address)) (some a)] ?_) fun as r s' h => ?_
    · simp [Event.sends]
    · simpa using h
  · intro b c b' b'' a
    refine wp_mono (sendDatagram_ends data _ [Event.lib .uninitIn c,
      Event.lib (.inetAton (cStr address)) none,
      Event.lib (.gethostbyname (cStr address)) (some a)] ?_) fun as r s' h => ?_
    · simp [Event.sends]
    · simpa using h
  · intro b c b' b''
    apply SendToEnds.before
    simp [Event.sends]

theorem unixSendTo_ends (path : Str) :
    (UnixDatagramSocket.sendTo data path).wp
      (fun as r _ => SendToEnds data (as.map Prod.snd) r) s := by
  rw [UnixDatagramSocket.sendTo, wp_bind, wp_unixLocalAddress]
  intro b c
  split
  · apply SendToEnds.before
    simp [Event.sends]
  · refine wp_mono (sendDatagram_ends data _ [Event.lib .uninitUn c] ?_)
      fun as r s' h => ?_
    · simp [Event.sends]
    · simpa using h

theorem canSendTo_ends (interface : Str) :
    (CANRawSocket.sendTo data interface).wp
      (fun as r _ => SendToEnds data (as.map Prod.snd) r) s := by
  simp only [CANRawSocket.sendTo, CANSocket.getInterfaceIndex, wp_bind, wp_thisSocket, wp_ite,
    wp_pure, wp_throwSocket, List.nil_append]
  split
  · refine wp_mono (sendDatagram_ends data _ [] ?_) fun as r s' h => ?_
    · simp
    · simpa using h
  split
  · apply SendToEnds.before
    simp
  refine wp_lib.2 fun b c => wp_sys.2 fun b' reply _ => ?_
  cases reply with
  | error e =>
    apply SendToEnds.before
    simp [Event.sends]
  | ok ifr =>
    simp only [wp_pure]
    refine wp_mono (sendDatagram_ends data _ [Event.lib .uninitIfreq c,
      Event.sys .once (.ioctl s.vars.this.mSocket siocgifindex { c.1 with
        ifrName := strcpy c.1.ifrName interface }) (.ok ifr)] ?_) fun as r s' h => ?_
    · simp [Event.sends]
    · simpa using h

theorem body_sendToEnds {op : Operation} (hop : op.datagram = some data) (s : Proc Frame) :
    op.body.wp (fun as r _ => SendToEnds data (as.map Prod.snd) r) s := by
  unfold Operation.datagram at hop
  split at hop
  · next data' address port =>
    obtain rfl := Option.some.inj hop
    exact wp_asUnit.2 (wp_mono (udpSendTo_ends data' address port) fun as r s' h => h.map _)
  · next data' path =>
    obtain rfl := Option.some.inj hop
    exact wp_asUnit.2 (wp_mono (unixSendTo_ends data' path) fun as r s' h => h.map _)
  · next data' interface =>
    obtain rfl := Option.some.inj hop
    exact wp_asUnit.2 (wp_mono (canSendTo_ends data' interface) fun as r s' h => h.map _)
  · cases hop

end SendTo

/-- **No failed datagram is reported as sent**, exactly when the kernel's answer does not look like
the length of the buffer without being it. -/
theorem sendTo_report_iff {c : Invocation} {this this' : SimpleSocket} {tr : List Event}
    {o : Outcome} {data : List UInt8} (hop : c.op.datagram = some data)
    (h : Runs (invoke c this) tr (o, this')) :
    ((∃ v, o.ret = .ok v) ↔ ∃ e ∈ settled tr, TakenWhole data e) ↔
      ∀ e ∈ settled tr, ¬LooksWhole e := by
  have key := invoke_wp (Q := fun as r _ => SendToEnds data (as.map Prod.snd) r) h
    (body_sendToEnds data hop _)
  rw [map_snd_answers] at key
  exact key.returns_iff

/-- A `sendTo` to all interfaces returns when the narrowed answer is the narrowed length. -/
theorem canSendTo_returns (data : List UInt8) (reply : Except Errno (Count data.length))
    (ha : posix.again (.sys .tempFailureRetry (.sendto 3 data (.can ⟨afCan, 0⟩))) reply = false)
    (heq : toInt (ssize (reply.map Count.count)) = toInt data.length) :
    Runs (invoke ⟨.canSendTo data [], ⟨[], [], 0, 0, 0⟩, 0⟩ ⟨3, false⟩)
      [Event.sys .tempFailureRetry (.sendto 3 data (.can ⟨afCan, 0⟩)) reply]
      (⟨.ok .unit, ⟨[], [], 0, 0, 0⟩⟩, ⟨3, false⟩) := by
  refine @runs_invoke _ _ _ _ ⟨errnoAfter 0 false reply, ⟨⟨3, false⟩, [], [], 0, 0, 0⟩⟩
    (.cons (.answer ha) ?_)
  change Trace ((asUnit (if toInt (ssize (reply.map Count.count)) ≠ toInt data.length then
    throwSocket "Send failed (sendto)" true else Pure.pure ()))
    ⟨errnoAfter 0 false reply, ⟨⟨3, false⟩, [], [], 0, 0, 0⟩⟩) [] _
  rw [if_neg (not_not.2 heq)]
  exact .nil _

/-- A datagram of three bytes that is sent. -/
theorem sendTo_report_three :
    (∃ v, (Except.ok .unit : Except Exn Value) = .ok v) ↔
      ∃ e ∈ [Event.sys .tempFailureRetry (.sendto 3 [1, 2, 3] (.can ⟨afCan, 0⟩))
        (.ok ⟨3, by decide, by decide⟩)], TakenWhole [1, 2, 3] e := by
  have hr := canSendTo_returns [1, 2, 3] (.ok ⟨3, by decide, by decide⟩) rfl rfl
  apply (sendTo_report_iff rfl hr).2
  intro e he
  rw [List.mem_singleton.1 he]
  exact fun hlooks => hlooks.1 rfl

/-- A datagram of 2^32 - 1 bytes that no interface takes, and `sendTo` returns. -/
theorem failed_datagram_reported_sent :
    ¬∀ (c : Invocation) (this this' : SimpleSocket) (tr : List Event) (o : Outcome)
      (data : List UInt8), c.op.datagram = some data → Runs (invoke c this) tr (o, this') →
        ((∃ v, o.ret = .ok v) ↔ ∃ e ∈ settled tr, TakenWhole data e) := by
  intro h
  have hlen : (List.replicate 4294967295 (0 : UInt8)).length = 4294967295 := List.length_replicate
  have hr := canSendTo_returns (List.replicate 4294967295 0) (.error Errno.econnrefused) rfl
    (toInt_neg_one_eq_iff.2 (by rw [hlen]))
  obtain ⟨e, he, hwhole⟩ := (h _ _ _ _ _ _ rfl hr).1 ⟨_, rfl⟩
  rw [List.mem_singleton.1 (mem_settled he)] at hwhole
  exact not_takenWhole_error hwhole

/-! ## `sendAll` -/

/-- What the result of a `sendAll` says: the length when the whole buffer was accepted, and nothing
negative unless the peer has hung up. -/
structure Unambiguous (fd : ℤ) (data : List UInt8) (tr : List Event) (ret : Except Exn Value) :
    Prop where
  complete : tr.flatMap (acceptedBy fd) = data → ret = .ok (.int data.length)
  negative : ∀ n < 0, ret = .ok (.int n) →
    ∃ w rest e, hungUp e ∧ Event.sys w (.send fd rest) (.error e) ∈ tr

/-- **The result of `sendAll` is unambiguous** exactly when the buffer has at most `INT_MAX` bytes,
or is not accepted whole. -/
theorem sendAll_unambiguous_iff {c : Invocation} {this this' : SimpleSocket} {tr : List Event}
    {o : Outcome} {data : List UInt8} (hop : c.op = .tcpSendAll data)
    (h : Runs (invoke c this) tr (o, this')) :
    Unambiguous this.mSocket data tr o.ret ↔
      (tr.flatMap (acceptedBy this.mSocket) = data → data.length ≤ intMax) := by
  obtain ⟨r, hret, hloop⟩ := sendAll_loop hop h
  have hwhole := hloop.complete_iff
  rw [flatMap_settled (acceptedBy_again this.mSocket) tr] at hwhole
  constructor
  · intro hun hacc
    have hval := hun.complete hacc
    rw [hret, hwhole.2 hacc] at hval
    injection hval with hval
    injection hval with hval
    exact toInt_eq_self_iff.1 hval
  · intro hle
    refine ⟨fun hacc => ?_, fun n hn hneg => ?_⟩
    · rw [hret, hwhole.2 hacc]
      simp only [Except.map, toInt_of_le (hle hacc)]
    · rcases hloop.exits with rfl | ⟨rfl, -, pre, w, rest, e, he, hevs⟩ | ⟨_, _, _, _, -, -, rfl⟩
      · rw [hret] at hneg
        injection hneg with hneg
        injection hneg with hneg
        rw [toInt_of_le (hle (hwhole.1 rfl))] at hneg
        omega
      · refine ⟨w, rest, e, he, mem_settled ?_⟩
        rw [hevs]
        exact List.mem_append_right _ (List.mem_singleton.2 rfl)
      · rw [hret] at hneg
        cases hneg

/-- The event is a `send` that failed. -/
def SendFailed : Event → Prop
  | ⟨.sys _ (.send ..), .error _⟩ => True
  | _ => False

/-- Every call can be answered without a failing `send`. -/
theorem exists_answer (c : Call) : ∃ r, posix.again c r = false ∧ ¬SendFailed ⟨c, r⟩ := by
  by_cases hsend : ∃ w fd data, c = .sys w (.send fd data)
  · obtain ⟨w, fd, data, rfl⟩ := hsend
    refine ⟨.ok ⟨min data.length intMax, by omega, by omega, by unfold intMax; omega⟩, ?_, id⟩
    cases w <;> rfl
  · obtain ⟨r, hr⟩ := posix_answers c
    refine ⟨r, hr, fun h => hsend ?_⟩
    unfold SendFailed at h
    split at h
    · next heq =>
      injection heq with hc
      exact ⟨_, _, _, hc⟩
    · exact h.elim

/-- A `sendAll` of any buffer can be accepted whole. -/
theorem sendAll_accepted (data : List UInt8) (vars : Vars) (err : Errno) (this : SimpleSocket) :
    ∃ tr o this', Runs (invoke ⟨.tcpSendAll data, vars, err⟩ this) tr (o, this') ∧
      tr.flatMap (acceptedBy this.mSocket) = data := by
  obtain ⟨tr, ⟨o, this'⟩, hr, hok⟩ :=
    (invoke ⟨.tcpSendAll data, vars, err⟩ this).exists_runs_of
      (P := fun e => ¬SendFailed e) exists_answer
  refine ⟨tr, o, this', hr, ?_⟩
  obtain ⟨r, -, hloop⟩ := sendAll_loop rfl hr
  rw [← flatMap_settled (acceptedBy_again this.mSocket) tr]
  -- the loop ends with a failing call otherwise
  have hlast : ∀ pre w rest e,
      settled tr ≠ pre ++ [Event.sys w (.send this.mSocket rest) (.error e)] := by
    intro pre w rest e hevs
    refine hok (Event.sys w (.send this.mSocket rest) (.error e)) (mem_settled ?_) trivial
    rw [hevs]
    exact List.mem_append_right _ (List.mem_singleton.2 rfl)
  rcases hloop.exits with hr | ⟨-, -, pre, w, rest, e, -, hevs⟩ | ⟨pre, w, rest, e, -, hevs, -⟩
  · exact hloop.complete_iff.1 hr
  · exact absurd hevs (hlast pre w rest e)
  · exact absurd hevs (hlast pre w rest e)

/-- A `sendAll` of two bytes that are accepted. -/
theorem sendAll_unambiguous_two : ∃ tr ret, Unambiguous 3 [1, 2] tr ret ∧
    tr.flatMap (acceptedBy 3) = [1, 2] := by
  obtain ⟨tr, o, this', hr, hacc⟩ := sendAll_accepted [1, 2] ⟨[], [], 0, 0, 0⟩ 0 ⟨3, false⟩
  exact ⟨tr, o.ret, (sendAll_unambiguous_iff rfl hr).2 fun _ => by decide, hacc⟩

/-- The result of a buffer of 2^31 bytes that is accepted whole is negative. -/
theorem sendAll_negative_when_accepted :
    ¬∀ (c : Invocation) (this this' : SimpleSocket) (tr : List Event) (o : Outcome)
      (data : List UInt8), c.op = .tcpSendAll data → Runs (invoke c this) tr (o, this') →
        Unambiguous this.mSocket data tr o.ret := by
  intro h
  have hlen : (List.replicate 2147483648 (0 : UInt8)).length = 2147483648 := List.length_replicate
  obtain ⟨tr, o, this', hr, hacc⟩ :=
    sendAll_accepted (List.replicate 2147483648 0) ⟨[], [], 0, 0, 0⟩ 0 ⟨3, false⟩
  obtain ⟨r, hret, hloop⟩ := sendAll_loop rfl hr
  have hval := (h _ _ _ _ _ _ rfl hr).complete hacc
  rw [← flatMap_settled (acceptedBy_again 3) tr] at hacc
  rw [hret, hloop.complete_iff.2 hacc] at hval
  injection hval with hval
  injection hval with hval
  have hle := toInt_eq_self_iff.1 hval
  rw [hlen] at hle
  exact absurd hle (by decide)

end NET
