import SimpleSocket.Net.Operation

/-!
# One rule for each shared method

The weakest precondition of the methods the operations are put together from, so that the proofs
about an operation never unfold them.
-/

namespace NET

open Op Interact SimpleSocket

/-- What `noteRdHup` does to the variables. -/
def Frame.noted (f : Frame) (revents : BitVec 16) : Frame :=
  if hasFlag revents pollRdHup then { f with this := { f.this with mPeerDisconnected := true } }
  else f

@[simp] theorem Frame.noted_mSocket (f : Frame) (revents : BitVec 16) :
    (f.noted revents).this.mSocket = f.this.mSocket := by
  unfold Frame.noted
  split <;> rfl

@[simp] theorem Frame.noted_vars (f : Frame) (revents : BitVec 16) :
    (f.noted revents).vars = f.vars := by
  unfold Frame.noted
  split <;> rfl

@[simp] theorem Frame.noted_buffer (f : Frame) (revents : BitVec 16) :
    (f.noted revents).buffer = f.buffer := congrArg Vars.buffer (f.noted_vars revents)

theorem pollCount_le_zero (revents : BitVec 16) : pollCount (.ok revents) ≤ 0 ↔ revents = 0 := by
  change (if revents = 0 then (0 : ℤ) else 1) ≤ 0 ↔ revents = 0
  by_cases h : revents = 0
  · rw [if_pos h]
    exact iff_of_true (Int.le_refl 0) h
  · rw [if_neg h]
    exact iff_of_false (by omega) h

theorem not_pollCount_neg (revents : BitVec 16) : ¬pollCount (.ok revents) < 0 := by
  change ¬(if revents = 0 then (0 : ℤ) else 1) < 0
  split <;> omega

/-- The two errors after which `send` returns. -/
def hungUp (e : Errno) : Prop := e = Errno.econnreset ∨ e = Errno.econnrefused

instance (e : Errno) : Decidable (hungUp e) := inferInstanceAs (Decidable (_ ∨ _))

/-- How `send` ends. -/
def sendExit {len : ℕ} (r : Except Errno (Accepted len)) : Except Exn (SendRet len) :=
  match r with
  | .ok _ => .ok (.ofReply r)
  | .error e =>
    if hungUp e then .ok (.ofReply r) else .error (.socket ⟨"Send failed (send)", true, e⟩)

/-- What `send` does to the variables. -/
def Frame.sent (f : Frame) {len : ℕ} : Except Errno (Accepted len) → Frame
  | .ok _ => f
  | .error e => if hungUp e then { f with this := ⟨f.this.mSocket, true⟩ } else f

section Spec

variable {α : Type} {s : Proc Frame}

@[simp] theorem wp_thisSocket {Q : List (Answer posix) → Except Exn ℤ → Proc Frame → Prop} :
    thisSocket.wp Q s ↔ Q [] (.ok s.vars.this.mSocket) s := by
  simp only [thisSocket, wp_bind, wp_get, wp_pure, List.nil_append]

@[simp] theorem wp_store {Q : List (Answer posix) → Except Exn Unit → Proc Frame → Prop}
    (bytes : List UInt8) : (store bytes).wp Q s ↔
      Q [] (.ok ()) ⟨s.errno, { s.vars with buffer := overwrite s.vars.buffer bytes }⟩ := Iff.rfl

@[simp] theorem wp_setPeerDisconnected
    {Q : List (Answer posix) → Except Exn Unit → Proc Frame → Prop} (b : Bool) :
    (setPeerDisconnected b).wp Q s ↔
      Q [] (.ok ()) ⟨s.errno, { s.vars with this := ⟨s.vars.this.mSocket, b⟩ }⟩ := Iff.rfl

@[simp] theorem wp_noteRdHup {Q : List (Answer posix) → Except Exn Unit → Proc Frame → Prop}
    (revents : BitVec 16) :
    (noteRdHup revents).wp Q s ↔ Q [] (.ok ()) ⟨s.errno, s.vars.noted revents⟩ := by
  unfold noteRdHup Frame.noted
  split <;> rfl

@[simp] theorem wp_asInt {Q : List (Answer posix) → Except Exn Value → Proc Frame → Prop}
    {m : Method ℤ} : (asInt m).wp Q s ↔ m.wp (fun as r => Q as (r.map Value.int)) s := by
  simp only [asInt, wp_bind, wp_pure, List.append_nil]
  constructor <;> refine fun h => wp_mono h ?_ <;> rintro as (x | n) s' h <;> exact h

@[simp] theorem wp_asUnit {Q : List (Answer posix) → Except Exn Value → Proc Frame → Prop}
    {m : Method Unit} : (asUnit m).wp Q s ↔ m.wp (fun as r => Q as (r.map fun _ => .unit)) s := by
  simp only [asUnit, wp_bind, wp_pure, List.append_nil]
  constructor <;> refine fun h => wp_mono h ?_ <;> rintro as (x | n) s' h <;> exact h

@[simp] theorem wp_asStr {Q : List (Answer posix) → Except Exn Value → Proc Frame → Prop}
    {m : Method Str} : (asStr m).wp Q s ↔ m.wp (fun as r => Q as (r.map Value.str)) s := by
  simp only [asStr, wp_bind, wp_pure, List.append_nil]
  constructor <;> refine fun h => wp_mono h ?_ <;> rintro as (x | n) s' h <;> exact h

theorem wp_recv {Q : List (Answer posix) → Except Exn ℤ → Proc Frame → Prop} (len : ℕ) (flags : ℤ) :
    (recv len flags).wp Q s ↔ ∀ (b : Bool) (r : Except Errno (Received len)),
      posix.again (.sys .tempFailureRetry (.recv s.vars.this.mSocket len flags)) r = false →
      Q [(b, Event.sys .tempFailureRetry (.recv s.vars.this.mSocket len flags) r)]
        (.ok (ssize (r.map fun got => got.bytes.length)))
        ⟨errnoAfter s.errno b r,
          { s.vars with buffer := overwrite s.vars.buffer (bytesOf r) }⟩ := by
  simp only [recv, wp_bind, wp_thisSocket, wp_store, wp_pure, List.nil_append, List.append_nil]
  exact Iff.rfl

theorem wp_send (buffer : List UInt8)
    {Q : List (Answer posix) → Except Exn (SendRet buffer.length) → Proc Frame → Prop} :
    (SimpleSocket.send buffer).wp Q s ↔ ∀ (b : Bool) (r : Except Errno (Accepted buffer.length)),
      posix.again (.sys .tempFailureRetry (.send s.vars.this.mSocket buffer)) r = false →
      Q [(b, Event.sys .tempFailureRetry (.send s.vars.this.mSocket buffer) r)] (sendExit r)
        ⟨errnoAfter s.errno b r, s.vars.sent r⟩ := by
  simp only [SimpleSocket.send, wp_bind, wp_thisSocket, List.nil_append]
  refine wp_sys.trans (forall_congr' fun b => forall_congr' fun r => imp_congr_right fun _ => ?_)
  simp only [wp_ite, wp_bind, wp_errno, wp_throwSocket, wp_setPeerDisconnected, wp_pure,
    List.append_nil]
  cases r with
  | ok n =>
    have hn : ¬(SendRet.ofReply (.ok n)).val < 0 := by
      rw [SendRet.ofReply_ok]
      omega
    rw [if_neg hn]
    rfl
  | error e =>
    have hn : (SendRet.ofReply (.error e) : SendRet buffer.length).val < 0 := by
      rw [SendRet.ofReply_error]
      omega
    rw [if_pos hn]
    by_cases he : hungUp e
    · simp only [sendExit, Frame.sent, if_pos he]
      exact iff_of_eq (if_pos he)
    · simp only [sendExit, Frame.sent, if_neg he]
      exact iff_of_eq (if_neg he)

theorem wp_pollReceive
    {Q : List (Answer posix) → Except Exn (Except Errno (BitVec 16)) → Proc Frame → Prop}
    (timeout : ℤ) :
    (pollReceive timeout).wp Q s ↔ ∀ (b : Bool) (r : Except Errno (BitVec 16)),
      posix.again (.sys .tempFailureRetry (.poll s.vars.this.mSocket
        (pollIn ||| pollPri ||| pollRdHup) timeout)) r = false →
      Q [(b, Event.sys .tempFailureRetry (.poll s.vars.this.mSocket
          (pollIn ||| pollPri ||| pollRdHup) timeout) r)] (.ok r)
        ⟨errnoAfter s.errno b r, s.vars⟩ :=
  Iff.rfl

/-- The timed receive operations of the derived classes. -/
theorem wp_timedWith {Q : List (Answer posix) → Except Exn ℤ → Proc Frame → Prop}
    (failure : String) (timeout : ℤ) (receive : Method ℤ) :
    (timedWith failure timeout receive).wp Q s ↔ ∀ (b : Bool) (r : Except Errno (BitVec 16)),
      posix.again (.sys .tempFailureRetry (.poll s.vars.this.mSocket
        (pollIn ||| pollPri ||| pollRdHup) timeout)) r = false →
      let ask := (b, Event.sys .tempFailureRetry (.poll s.vars.this.mSocket
        (pollIn ||| pollPri ||| pollRdHup) timeout) r)
      let e := errnoAfter s.errno b r
      if pollCount r = 0 then Q [ask] (.ok 0) ⟨e, s.vars⟩
      else if pollCount r < 0 then Q [ask] (.error (.socket ⟨failure, true, e⟩)) ⟨e, s.vars⟩
      else if readable (pollRevents r) then
        receive.wp (fun as => Q (ask :: as)) ⟨e, s.vars.noted (pollRevents r)⟩
      else Q [ask] (.ok 0) ⟨e, s.vars.noted (pollRevents r)⟩ := by
  simp only [timedWith, wp_bind, wp_pollReceive, wp_noteRdHup, wp_ite, wp_throwSocket, wp_pure,
    List.nil_append, List.append_nil, List.singleton_append, if_true]

/-- By the answer of `poll`: it fails, it reports nothing to read, or the method receives. -/
theorem wp_timedWith_of {Q : List (Answer posix) → Except Exn ℤ → Proc Frame → Prop}
    {failure : String} {timeout : ℤ} {receive : Method ℤ}
    (hfail : ∀ b e, Q [(b, Event.sys .tempFailureRetry (.poll s.vars.this.mSocket
      (pollIn ||| pollPri ||| pollRdHup) timeout) (.error e))]
      (.error (.socket ⟨failure, true, e⟩)) ⟨e, s.vars⟩)
    (hidle : ∀ b revents err, readable revents = false →
      Q [(b, Event.sys .tempFailureRetry (.poll s.vars.this.mSocket
        (pollIn ||| pollPri ||| pollRdHup) timeout) (.ok revents))] (.ok 0)
        ⟨err, s.vars.noted revents⟩)
    (hread : ∀ b revents err, readable revents = true →
      receive.wp (fun as => Q ((b, Event.sys .tempFailureRetry (.poll s.vars.this.mSocket
        (pollIn ||| pollPri ||| pollRdHup) timeout) (.ok revents)) :: as))
        ⟨err, s.vars.noted revents⟩) :
    (timedWith failure timeout receive).wp Q s := by
  rw [wp_timedWith]
  intro b r _
  dsimp only
  cases r with
  | error e => exact hfail b e
  | ok revents =>
    by_cases hzero : revents = 0
    · subst hzero
      exact hidle b 0 _ rfl
    · have hcount : pollCount (.ok revents) = 1 := if_neg hzero
      rw [hcount, if_neg (by decide), if_neg (by decide), pollRevents]
      split
      · next hr => exact hread b revents _ hr
      · next hr => exact hidle b revents _ (Bool.eq_false_iff.2 hr)

theorem wp_receive {Q : List (Answer posix) → Except Exn ℤ → Proc Frame → Prop} (len : ℕ) :
    (SimpleSocket.receive len).wp Q s ↔ ∀ (b : Bool) (r : Except Errno (Received len)),
      posix.again (.sys .tempFailureRetry (.recv s.vars.this.mSocket len 0)) r = false →
      let ask := (b, Event.sys .tempFailureRetry (.recv s.vars.this.mSocket len 0) r)
      let ret := toInt (ssize (r.map fun got => got.bytes.length))
      let s' := ⟨errnoAfter s.errno b r,
        { s.vars with buffer := overwrite s.vars.buffer (bytesOf r) }⟩
      if ret < 0 then Q [ask] (.error (.socket ⟨"Received failed (receive)", true, s'.errno⟩)) s'
      else Q [ask] (.ok ret) s' := by
  simp only [SimpleSocket.receive, wp_bind, wp_recv, wp_ite, wp_throwSocket, wp_pure,
    List.append_nil, if_true]

/-- `timedReceive`: the timeout, a failing `poll`, a readable socket, another readiness. -/
theorem wp_timedReceive {Q : List (Answer posix) → Except Exn ℤ → Proc Frame → Prop} (len : ℕ)
    (timeout : ℤ) :
    (SimpleSocket.timedReceive len timeout).wp Q s ↔ ∀ (b : Bool) (r : Except Errno (BitVec 16)),
      posix.again (.sys .tempFailureRetry (.poll s.vars.this.mSocket
        (pollIn ||| pollPri ||| pollRdHup) timeout)) r = false →
      let ask := (b, Event.sys .tempFailureRetry (.poll s.vars.this.mSocket
        (pollIn ||| pollPri ||| pollRdHup) timeout) r)
      let e := errnoAfter s.errno b r
      let f := s.vars.noted (pollRevents r)
      if pollCount r = 0 then Q [ask] (.ok 0) ⟨e, s.vars⟩
      else if pollCount r < 0 then
        Q [ask] (.error (.socket ⟨"timedReceive failed (poll)", true, e⟩)) ⟨e, s.vars⟩
      else if readable (pollRevents r) then
        ∀ (b' : Bool) (r' : Except Errno (Received len)),
          posix.again (.sys .tempFailureRetry (.recv f.this.mSocket len msgWaitall)) r' = false →
          let got := (b', Event.sys .tempFailureRetry (.recv f.this.mSocket len msgWaitall) r')
          let ret := toInt (ssize (r'.map fun got => got.bytes.length))
          let s' := ⟨errnoAfter e b' r', { f with buffer := overwrite s.vars.buffer (bytesOf r') }⟩
          if ret < 0 then
            Q [ask, got] (.error (.socket ⟨"timedReceive failed (recv)", true, s'.errno⟩)) s'
          else Q [ask, got] (.ok ret) s'
      else Q [ask] (.ok (pollCount r)) ⟨e, f⟩ := by
  simp only [SimpleSocket.timedReceive, wp_bind, wp_pollReceive, wp_recv, wp_noteRdHup, wp_ite,
    wp_throwSocket, wp_pure, List.nil_append, List.append_nil, List.singleton_append, if_true,
    Frame.noted_buffer]

/-- By the answer of `poll`, as for the other timed operations; but what `poll` has returned is
passed on. -/
theorem wp_timedReceive_of {Q : List (Answer posix) → Except Exn ℤ → Proc Frame → Prop} {len : ℕ}
    {timeout : ℤ}
    (hfail : ∀ b e, Q [(b, Event.sys .tempFailureRetry (.poll s.vars.this.mSocket
      (pollIn ||| pollPri ||| pollRdHup) timeout) (.error e))]
      (.error (.socket ⟨"timedReceive failed (poll)", true, e⟩)) ⟨e, s.vars⟩)
    (hidle : ∀ b revents err n, readable revents = false → (n = 0 ∨ n = 1) →
      Q [(b, Event.sys .tempFailureRetry (.poll s.vars.this.mSocket
        (pollIn ||| pollPri ||| pollRdHup) timeout) (.ok revents))] (.ok n)
        ⟨err, s.vars.noted revents⟩)
    (hread : ∀ b revents err, readable revents = true →
      Op.wp (do
        let ret := toInt (← SimpleSocket.recv len msgWaitall)
        if ret < 0 then throwSocket "timedReceive failed (recv)" true else return ret)
        (fun as => Q ((b, Event.sys .tempFailureRetry (.poll s.vars.this.mSocket
          (pollIn ||| pollPri ||| pollRdHup) timeout) (.ok revents)) :: as))
        ⟨err, s.vars.noted revents⟩) :
    (SimpleSocket.timedReceive len timeout).wp Q s := by
  unfold SimpleSocket.timedReceive
  rw [wp_bind, wp_pollReceive]
  intro b r _
  dsimp only
  cases r with
  | error e => exact hfail b e
  | ok revents =>
    by_cases hzero : revents = 0
    · subst hzero
      exact hidle b 0 _ 0 rfl (Or.inl rfl)
    · have hcount : pollCount (.ok revents) = 1 := if_neg hzero
      rw [hcount, if_neg (by decide), if_neg (by decide), pollRevents, wp_bind, wp_noteRdHup]
      dsimp only
      split
      · next hr => exact hread b revents _ hr
      · next hr => exact hidle b revents _ 1 (Bool.eq_false_iff.2 hr) (Or.inr rfl)

-- a comparison with a count is never evaluated
attribute [local irreducible] toInt

/-- The `receiveFrom` operations: the call fails, its count looks like a failure, or `report` tells
the caller about the sender. -/
theorem wp_receiveDatagram {Q : List (Answer posix) → Except Exn ℤ → Proc Frame → Prop} {len : ℕ}
    {kind : AddrKind} {report : Except Errno (Received len × kind.Name) → Method Unit}
    (he : ∀ b e, Q [(b, Event.sys .tempFailureRetry (.recvfrom s.vars.this.mSocket len kind)
      (.error e))] (.error (.socket ⟨"Receive failed (recvfrom)", true, e⟩)) ⟨e, s.vars⟩)
    (hneg : ∀ b got name err, toInt got.bytes.length < 0 → Q [(b, Event.sys .tempFailureRetry
      (.recvfrom s.vars.this.mSocket len kind) (.ok (got, name)))]
      (.error (.socket ⟨"Receive failed (recvfrom)", true, err⟩))
      ⟨err, { s.vars with buffer := overwrite s.vars.buffer got.bytes }⟩)
    (hok : ∀ b got name err, ¬toInt got.bytes.length < 0 → (report (.ok (got, name))).wp
      (fun as r => Q ((b, Event.sys .tempFailureRetry (.recvfrom s.vars.this.mSocket len kind)
        (.ok (got, name))) :: as) (r.map fun _ => toInt got.bytes.length))
      ⟨err, { s.vars with buffer := overwrite s.vars.buffer got.bytes }⟩) :
    (receiveDatagram len kind report).wp Q s := by
  simp only [receiveDatagram, wp_bind, wp_thisSocket, List.nil_append]
  apply wp_sys.2
  intro b r _
  simp only [wp_store, wp_ite, wp_throwSocket, wp_bind, wp_pure, List.append_nil]
  cases r with
  | error e =>
    have hneg : toInt (ssize (Except.map (fun got : Received len × kind.Name =>
        got.1.bytes.length) (.error e : Except Errno _))) < 0 := by simp [Except.map]
    rw [if_pos hneg]
    exact he b e
  | ok got =>
    obtain ⟨got, name⟩ := got
    have hret : ssize (Except.map (fun got : Received len × kind.Name =>
        got.1.bytes.length) (.ok (got, name) : Except Errno _)) = got.bytes.length := rfl
    rw [hret]
    by_cases hlt : toInt got.bytes.length < 0
    · rw [if_pos hlt]
      exact hneg b got name _ hlt
    · rw [if_neg hlt]
      apply wp_mono (hok b got name _ hlt)
      intro as x s' h
      cases x <;> exact h

/-- The tail of the `sendTo` operations. -/
theorem wp_sendDatagram {Q : List (Answer posix) → Except Exn Unit → Proc Frame → Prop}
    (buffer : List UInt8) (addr : Sockaddr) :
    (sendDatagram buffer addr).wp Q s ↔ ∀ (b : Bool) (r : Except Errno (Count buffer.length)),
      posix.again (.sys .tempFailureRetry (.sendto s.vars.this.mSocket buffer addr)) r = false →
      let ask := (b, Event.sys .tempFailureRetry (.sendto s.vars.this.mSocket buffer addr) r)
      let e := errnoAfter s.errno b r
      if toInt (ssize (r.map Count.count)) ≠ toInt buffer.length then
        Q [ask] (.error (.socket ⟨"Send failed (sendto)", true, e⟩)) ⟨e, s.vars⟩
      else Q [ask] (.ok ()) ⟨e, s.vars⟩ := by
  simp only [sendDatagram, wp_bind, wp_thisSocket, List.nil_append]
  refine wp_sys.trans (forall_congr' fun b => forall_congr' fun r => imp_congr_right fun _ => ?_)
  simp only [wp_ite, wp_throwSocket, wp_pure, List.append_nil, if_true]

/-- The operations that set an option make one call, and throw when it fails. -/
theorem wp_setOption {Q : List (Answer posix) → Except Exn Unit → Proc Frame → Prop}
    (level optname : ℤ) (optval : List UInt8) (failure : String) :
    (setOption level optname optval failure).wp Q s ↔ ∀ (b : Bool) (r : Except Errno Unit),
      posix.again (.sys .once (.setsockopt s.vars.this.mSocket level optname optval)) r = false →
      let ask := (b, Event.sys .once (.setsockopt s.vars.this.mSocket level optname optval) r)
      let e := errnoAfter s.errno b r
      if failed r then Q [ask] (.error (.socket ⟨failure, true, e⟩)) ⟨e, s.vars⟩
      else Q [ask] (.ok ()) ⟨e, s.vars⟩ := by
  simp only [setOption, wp_bind, wp_thisSocket, List.nil_append]
  refine wp_sys.trans (forall_congr' fun b => forall_congr' fun r => imp_congr_right fun _ => ?_)
  simp only [wp_ite, wp_throwSocket, wp_pure, List.append_nil, if_true]

variable {τ : Type} {t : Proc τ}

/-- An address in dotted form, a name that is resolved, a name that is not. -/
theorem wp_inetLocalAddress {Q : List (Answer posix) → Except Exn SockaddrIn → Proc τ → Prop}
    {address : Str} {port : BitVec 16}
    (hquad : ∀ b c b' a, Q [(b, Event.lib .uninitIn c),
      (b', Event.lib (.inetAton (cStr address)) (some a))] (.ok ⟨afInet, htons port, a⟩) t)
    (hhost : ∀ b c b' b'' a, Q [(b, Event.lib .uninitIn c),
      (b', Event.lib (.inetAton (cStr address)) none),
      (b'', Event.lib (.gethostbyname (cStr address)) (some a))] (.ok ⟨afInet, htons port, a⟩) t)
    (hfail : ∀ b c b' b'', Q [(b, Event.lib .uninitIn c),
      (b', Event.lib (.inetAton (cStr address)) none),
      (b'', Event.lib (.gethostbyname (cStr address)) none)]
      (.error (.socket ⟨"Failed to resolve address (gethostbyname)", false, 0⟩)) t) :
    (InternetSocket.localAddress address port).wp Q t := by
  simp only [InternetSocket.localAddress, InternetSocket.fillAddress, wp_bind, wp_withLocal]
  apply wp_lib.2
  intro b c
  simp only [wp_modify, List.nil_append]
  apply wp_lib.2
  intro b' parsed
  cases parsed with
  | some a => exact hquad b c b' a
  | none =>
    simp only [wp_bind]
    apply wp_lib.2
    intro b'' host
    cases host with
    | some a => exact hhost b c b' b'' a
    | none => exact hfail b c b' b''

theorem wp_unixLocalAddress {Q : List (Answer posix) → Except Exn SockaddrUn → Proc τ → Prop}
    (path : Str) : (UnixSocket.localAddress path).wp Q t ↔ ∀ b c,
      if sunPathSize ≤ path.length then Q [(b, Event.lib .uninitUn c)]
        (.error (.socket ⟨"Path to socket file is too long", false, 0⟩)) t
      else Q [(b, Event.lib .uninitUn c)] (.ok ⟨afLocal, strcpy c.1.sunPath path⟩) t := by
  simp only [UnixSocket.localAddress, wp_bind]
  refine wp_lib.trans (forall_congr' fun b => forall_congr' fun c => ?_)
  simp only [UnixSocket.fillAddress, wp_withLocal, wp_ite, wp_throwSocket, wp_modify, wp_pure,
    List.append_nil]
  split <;> rfl

end Spec

/-! ## Throwing -/

section Throws

variable {τ α : Type}

/-- The call succeeded with a count that the operation takes for a failure. -/
def Misread : Event → Prop
  | ⟨.sys _ (.sendto _ data _), .ok (n : Count data.length)⟩ => toInt n.count ≠ toInt data.length
  | ⟨.sys _ (.recv ..), .ok got⟩ => toInt got.bytes.length < 0
  | ⟨.sys _ (.recvfrom ..), .ok got⟩ => toInt got.1.bytes.length < 0
  | ⟨.sys _ (.sctpRecvmsg ..), .ok got⟩ => toInt got.1.bytes.length < 0
  | ⟨.sys _ (.sctpSendmsg _ data ..), .ok (n : Count data.length)⟩ => toInt n.count < data.length
  | _ => False

/-- The method throws at once, with the error number it finds. -/
def Op.Throws (m : Op τ α) : Prop :=
  ∃ msg, ∃ g : τ → τ, ∀ s, m s = .ret (.error (.socket ⟨msg, true, s.errno⟩), ⟨s.errno, g s.vars⟩)

theorem Op.Throws.throwSocket (msg : String) : (Op.throwSocket msg true : Op τ α).Throws :=
  ⟨msg, id, fun _ => rfl⟩

theorem Op.Throws.modify (f : τ → τ) {m : Op τ α} (h : m.Throws) :
    (Op.modify f >>= fun _ => m).Throws := by
  obtain ⟨msg, g, hm⟩ := h
  exact ⟨msg, fun v => g (f v), fun s => hm _⟩

theorem Op.Throws.ite {c : Prop} [Decidable c] (hc : c) {m m' : Op τ α} (h : m.Throws) :
    (if c then m else m').Throws := by
  rw [if_pos hc]
  exact h

theorem Op.Throws.ite_neg {c : Prop} [Decidable c] (hc : ¬c) {m m' : Op τ α} (h : m'.Throws) :
    (if c then m else m').Throws := by
  rw [if_neg hc]
  exact h

end Throws

end NET
