import SimpleSocket.Net.Library
import SimpleSocket.Verify.Blame

/-!
# Error codes

Every operation of the library ends with a verdict (`body_final`, `statement_final`,
`utility_final`). So the code of an exception is that of the call that failed last, and it is stale
exactly when a mistaken answer was taken for a failure and no call of the operation has failed.
-/

namespace NET

open Op Interact SimpleSocket

variable {τ α β : Type} {b : Bool}

-- a comparison with a count is never evaluated
attribute [local irreducible] toInt

/-! ## `SimpleSocket` -/

theorem thisSocket_ends : thisSocket.Ends b := .bind .get fun _ => .pure _

theorem new_ends (domain type protocol : ℤ) :
    (SimpleSocket.new domain type protocol : Op τ SimpleSocket).Ends b :=
  .plainCall rfl (fun _ h => h.elim id id) (fun _ => .throwSocket _) fun _ => .pure _

theorem ofFd_ends (fd : ℤ) : (ofFd fd : Op τ SimpleSocket).Ends b :=
  .ite (fun _ => .throwSocket _) fun _ => .pure _

theorem destroy_closes (this : SimpleSocket) : (this.destroy : Op τ Unit).Closes :=
  .bind (.close _ _) fun _ => .pure _

theorem destroy_ends (this : SimpleSocket) : (this.destroy : Op τ Unit).Ends b :=
  .bind (.close _ _) fun _ => .pure _

/-- `recv`, where a result that is negative as an `int` is thrown. -/
theorem recv_ends {len : ℕ} {flags : ℤ} {f : ℤ → Method α}
    (hneg : ∀ n, toInt n < 0 → (f n).Throws) (hok : ∀ n, ¬toInt n < 0 → (f n).Ends b) :
    (recv len flags >>= f).Ends b := by
  unfold recv
  rw [bind_assoc]
  refine .bind thisSocket_ends fun fd => ?_
  rw [bind_assoc]
  refine .call rfl (fun e => ?_) (fun got hm => ?_) fun got hm => ?_
  · rw [bind_assoc]
    exact .modify _ (hneg (-1) (by simp))
  · rw [bind_assoc]
    exact .modify _ (hneg got.bytes.length (hm.resolve_right id))
  · rw [bind_assoc]
    exact .bind (.modify _) fun _ => hok got.bytes.length (mt Or.inl hm)

theorem receive_ends (len : ℕ) : (SimpleSocket.receive len).Ends b :=
  recv_ends (fun _ h => .ite h (.throwSocket _)) fun _ h =>
    .ite (fun h' => absurd h' h) fun _ => .pure _

theorem noteRdHup_ends (revents : BitVec 16) : (noteRdHup revents).Ends b :=
  .ite (fun _ => .modify _) fun _ => .pure _

theorem pollCount_error (e : Errno) : pollCount (.error e) = -1 := rfl

/-- The three exits after `poll`, of which the third goes on. -/
theorem poll_ends {w : Retry} {fd timeout : ℤ} {events : BitVec 16} {failure : String} {x : α}
    {f : Except Errno (BitVec 16) → Op τ α} (hf : ∀ revents, (f (.ok revents)).Ends b) :
    (Op.sys w (.poll fd events timeout) >>= fun r =>
      if pollCount r = 0 then Pure.pure x
      else if pollCount r < 0 then throwSocket failure true else f r).Ends b := by
  refine .plainCall rfl (fun _ h => h.elim id id) (fun e => ?_)
    fun revents => .ite (fun _ => .pure _) fun _ => ?_
  · rw [pollCount_error]
    exact .ite_neg (by omega) (.ite (by omega) (.throwSocket _))
  · exact .ite (fun h => absurd h (not_pollCount_neg revents)) fun _ => hf revents

theorem timedReceive_ends (len : ℕ) (timeout : ℤ) : (timedReceive len timeout).Ends b := by
  unfold timedReceive pollReceive
  rw [bind_assoc]
  refine .bind thisSocket_ends fun fd => poll_ends fun revents => ?_
  refine .bind (noteRdHup_ends _) fun _ => .ite (fun _ => ?_) fun _ => .pure _
  exact recv_ends (fun _ h => .ite h (.throwSocket _)) fun _ h =>
    .ite (fun h' => absurd h' h) fun _ => .pure _

theorem timedWith_ends {failure : String} {timeout : ℤ} {receive : Method ℤ} (h : receive.Ends b) :
    (timedWith failure timeout receive).Ends b := by
  unfold timedWith pollReceive
  rw [bind_assoc]
  refine .bind thisSocket_ends fun fd => poll_ends fun revents => ?_
  exact .bind (noteRdHup_ends _) fun _ => .ite (fun _ => h) fun _ => .pure _

theorem shutdown_ends (type : ShutdownDirection) : (shutdown type).Ends b :=
  .bind thisSocket_ends fun _ => .checked rfl (fun _ h => h.elim id id) (.pure _)

theorem setOption_ends (level optname : ℤ) (optval : List UInt8) (failure : String) :
    (setOption level optname optval failure).Ends b :=
  .bind thisSocket_ends fun _ => .checked rfl (fun _ h => h.elim id id) (.pure _)

theorem listen_ends (backlog : ℤ) : (SimpleSocket.listen backlog).Ends b :=
  .bind thisSocket_ends fun _ => .checked rfl (fun _ h => h.elim id id) (.pure _)

theorem acceptWith_ends (this : SimpleSocket) (failure : String) :
    (this.acceptWith failure : Op τ SocketHandle).Ends b :=
  .plainCall rfl (fun _ h => h.elim id id) (fun _ => .throwSocket _) fun _ => .pure _

theorem timedAcceptWith_ends (this : SimpleSocket) (timeout : ℤ)
    (pollFailure acceptFailure : String) :
    (this.timedAcceptWith timeout pollFailure acceptFailure : Op τ SocketHandle).Ends b :=
  poll_ends fun _ => acceptWith_ends this acceptFailure

/-- The `receiveFrom` operations. -/
theorem receiveDatagram_ends {len : ℕ} {kind : AddrKind}
    {report : Except Errno (Received len × kind.Name) → Method Unit}
    (h : ∀ r, (report r).Careful) : (receiveDatagram len kind report).Ends b := by
  refine .bind thisSocket_ends fun fd => .call rfl (fun e => ?_) (fun got hm => ?_) fun got hm => ?_
  · exact .modify _ (.ite (by simp [Except.map]) (.throwSocket _))
  · have hneg : toInt got.1.bytes.length < 0 := hm.resolve_right id
    exact .modify _ (.ite hneg (.throwSocket _))
  · refine .bind (.modify _) fun _ => .ite (fun h' => absurd (.inl h') hm) fun _ => ?_
    exact .bind (h _) fun _ => .pure _

/-! ### Operations that return after a call has failed -/

theorem send_verdict (buffer : List UInt8) (s : Proc Frame) :
    (SimpleSocket.send buffer).wp (fun as r _ => Verdict (as.map Prod.snd) r ∧
      ∀ x, r = .ok x → x.val < 0 ∨ Sound (as.map Prod.snd)) s := by
  apply (wp_send buffer).2
  intro mark r _
  cases r with
  | ok n =>
    refine ⟨List.forall_mem_singleton.2 fun h => h.elim id id, fun x _ => Or.inr ?_⟩
    exact List.forall_mem_singleton.2 (Or.inl rfl)
  | error e =>
    by_cases hup : hungUp e
    · simp only [sendExit, if_pos hup]
      refine ⟨List.forall_mem_singleton.2 fun h => h.elim id id, fun x hx => Or.inl ?_⟩
      injection hx with hx
      rw [← hx, SendRet.ofReply_error]
      omega
    · simp only [sendExit, if_neg hup]
      refine ⟨verdict_failed rfl e _, fun x hx => ?_⟩
      cases hx

theorem send_final (buffer : List UInt8) : (SimpleSocket.send buffer).Final := by
  refine fun s => wp_mono (send_verdict buffer s) fun as r _ h => ⟨h.1, fun hb => ?_⟩
  cases hb

/-- The loop goes on after a call that did not fail. -/
theorem sendAllFrom_final (buffer : List UInt8) (sent : ℕ) (hs : sent ≤ buffer.length) :
    (TCPSocket.sendAllFrom buffer sent hs).Final := by
  rw [TCPSocket.sendAllFrom]
  split
  · exact .pure _
  · next hne =>
    intro s
    rw [wp_bind]
    refine wp_mono (send_verdict _ s) fun as r s₁ ⟨hv, hsound⟩ => ?_
    cases r with
    | error e => exact ⟨by cases e <;> exact hv, fun hb => by cases hb⟩
    | ok ret =>
      dsimp only
      split
      · rw [wp_pure, List.append_nil]
        exact ⟨hv, fun hb => by cases hb⟩
      · next hr =>
        have hpos := ret.toNat_pos hr (by rw [List.length_drop]; omega)
        refine wp_mono (sendAllFrom_final buffer _ _ s₁) fun as' r' _ ⟨hv', _⟩ => ?_
        rw [List.map_append]
        exact ⟨hv'.append_left hv ((hsound ret rfl).resolve_left hr), fun hb => by cases hb⟩
  termination_by buffer.length - sent
  decreasing_by
    omega

theorem disconnect_final : disconnect.Final := by
  refine .bind thisSocket_ends fun fd s => ?_
  rw [wp_bind]
  apply wp_sys.2
  intro mark r _
  cases r with
  | ok u =>
    refine ⟨List.forall_mem_singleton.2 fun h => h.elim id id, fun hb => ?_⟩
    cases hb
  | error e =>
    simp only [failed_error, if_true, wp_bind, wp_errno, wp_ite, wp_throwSocket,
      wp_setPeerDisconnected, List.append_nil]
    split
    · exact ⟨verdict_failed rfl e _, fun hb => by cases hb⟩
    · exact ⟨List.forall_mem_singleton.2 fun h => h.elim id id, fun hb => by cases hb⟩

/-- A failed `sendto` can look like the whole buffer. -/
theorem sendDatagram_final (buffer : List UInt8) (addr : Sockaddr) :
    (sendDatagram buffer addr).Final := by
  refine fun s => (wp_sendDatagram buffer addr).2 fun mark r _ => ?_
  dsimp only
  split
  · next hne =>
    refine ⟨?_, fun hb => by cases hb⟩
    cases r with
    | error e => exact verdict_failed rfl e _
    | ok n =>
      exact .mistaken rfl ⟨_, List.mem_singleton.2 rfl, .inl hne⟩
        (List.forall_mem_singleton.2 (Or.inl rfl))
  · next heq =>
    refine ⟨List.forall_mem_singleton.2 ?_, fun hb => by cases hb⟩
    cases r with
    | error e => exact not_mistaken_error
    | ok n => exact not_or.2 ⟨heq, id⟩

/-! ## Internet sockets -/

theorem fillAddress_ends (address : Str) (port : BitVec 16) :
    (InternetSocket.fillAddress address port).Ends b := by
  refine .bind (.modify _) fun _ => .bind (.lib _) fun parsed => ?_
  cases parsed with
  | some a => exact .modify _
  | none =>
    refine .bind (.lib _) fun host => ?_
    cases host with
    | none => exact .throwSocket _
    | some a => exact .modify _

theorem inetLocalAddress_ends (address : Str) (port : BitVec 16) :
    (InternetSocket.localAddress address port : Op τ SockaddrIn).Ends b :=
  .bind (.lib _) fun _ => .bind (.withLocal (fillAddress_ends address port)) fun _ => .pure _

theorem inetConnect_ends (address : Str) (port : BitVec 16) :
    (InternetSocket.connect address port).Ends b :=
  .bind (inetLocalAddress_ends address port) fun _ => .bind thisSocket_ends fun _ =>
    .checked rfl (fun _ h => h.elim id id) (.modify _)

theorem bindAny_ends (port : BitVec 16) : (InternetSocket.bindAny port).Ends b :=
  .bind thisSocket_ends fun _ => .checked rfl (fun _ h => h.elim id id) (.pure _)

theorem inetBind_ends (address : Str) (port : BitVec 16) :
    (InternetSocket.bind address port).Ends b :=
  .bind (inetLocalAddress_ends address port) fun _ => .bind thisSocket_ends fun _ =>
    .checked rfl (fun _ h => h.elim id id) (.pure _)

theorem sockName_ends (this : SimpleSocket) (field : SockaddrIn → α) (failure : String) :
    (InternetSocket.sockName this field failure : Op τ α).Ends b :=
  .plainCall rfl (fun _ h => h.elim id id) (fun _ => .throwSocket _) fun _ => .pure _

theorem peerName_ends (this : SimpleSocket) (field : SockaddrIn → α) (failure : String) :
    (InternetSocket.peerName this field failure : Op τ α).Ends b :=
  .plainCall rfl (fun _ h => h.elim id id) (fun _ => .throwSocket _) fun _ => .pure _

/-- The result of `setBroadcast` is not looked at. -/
theorem udpNew_final : (UDPSocket.new : Op τ SimpleSocket).Final := by
  refine .bind (new_ends _ _ _) fun this s => ?_
  simp only [UDPSocket.setBroadcast, bind_assoc, wp_bind]
  refine wp_sys.2 fun mark r _ => ⟨List.forall_mem_singleton.2 ?_, fun hb => by cases hb⟩
  cases r with
  | error e => exact not_mistaken_error
  | ok u => exact fun h => h.elim id id

theorem udpSendTo_final (data : List UInt8) (address : Str) (port : BitVec 16) :
    (UDPSocket.sendTo data address port).Final :=
  .bind (inetLocalAddress_ends address port) fun _ => sendDatagram_final data _

theorem udpReceiveFrom_ends (len : ℕ) : (UDPSocket.receiveFrom len).Ends b :=
  .bind (.lib _) fun _ => receiveDatagram_ends fun _ => .modify _

theorem setMulticastInterfaceAddr_ends (address : Str) :
    (UDPSocket.setMulticastInterfaceAddr address).Ends b :=
  .bind (.lib _) fun _ => .bind (.lib _) fun _ => setOption_ends _ _ _ _

theorem groupAction_ends (group : Str) (action : ℤ) (failure : String) :
    (UDPSocket.groupAction group action failure).Ends b :=
  .bind (.lib _) fun _ => setOption_ends _ _ _ _

/-! ## SCTP -/

theorem setInitValues_ends (socket : ℤ) (a c d e : BitVec 16) :
    (SCTPSocket.setInitValues socket a c d e : Op τ Unit).Ends b :=
  .checked rfl (fun _ h => h.elim id id) (.pure _)

theorem sctpNew_ends (a c d e : BitVec 16) : (SCTPSocket.new a c d e : Op τ SimpleSocket).Ends b :=
  .bind (new_ends _ _ _) fun this =>
    .bind (.onThrow (setInitValues_ends _ _ _ _ _) (destroy_closes this)) fun _ => .pure _

theorem fillAddresses_ends (port : BitVec 16) (addresses : List Str) :
    (SCTPSocket.fillAddresses port addresses : Op τ (List SockaddrIn)).Ends b := by
  induction addresses generalizing b with
  | nil => exact .pure _
  | cons address addresses ih =>
    exact .bind (.withLocal (fillAddress_ends address port)) fun _ => .bind ih fun _ => .pure _

theorem not_ssize_ok_neg (n : ℕ) : ¬ssize (.ok n) < 0 := by
  rw [ssize_ok]
  omega

theorem sctpBind_ends (addresses : List Str) (port : BitVec 16) :
    (SCTPSocket.bind addresses port).Ends b := by
  refine .bind (fillAddresses_ends port addresses) fun dest => .bind thisSocket_ends fun fd => ?_
  refine .plainCall rfl (fun _ h => h.elim id id) (fun e => ?_) fun n => ?_
  · exact .ite (by simp) (.throwSocket _)
  · exact .ite (fun h => absurd h (not_ssize_ok_neg n)) fun _ => .pure _

theorem sctpConnect_ends (addresses : List Str) (port : BitVec 16) :
    (SCTPSocket.connect addresses port).Ends b := by
  refine .bind (fillAddresses_ends port addresses) fun dest => .bind thisSocket_ends fun fd => ?_
  refine .plainCall rfl (fun _ h => h.elim id id) (fun e => ?_) fun n => ?_
  · exact .ite (by simp) (.throwSocket _)
  · refine .ite (fun h => absurd h (not_ssize_ok_neg n)) fun _ => ?_
    exact .bind (.modify _) fun _ => .pure _

theorem status_ends (this : SimpleSocket) (field : SctpStatus → α) (failure : String) :
    (SCTPSocket.status this field failure : Op τ α).Ends b :=
  .plainCall rfl (fun _ h => h.elim id id) (fun _ => .throwSocket _) fun _ => .pure _

theorem sendMessage_ends (data : List UInt8) (stream : BitVec 16) (ttl context ppid flags : ℕ) :
    (SCTPSocket.sendMessage data stream ttl context ppid flags).Ends b := by
  have hret : ∀ n : Count data.length,
      toInt (ssize (Except.map Count.count (.ok n : Except Errno _))) = n.count :=
    fun n => toInt_of_le n.le_intMax
  refine .bind thisSocket_ends fun fd => .call rfl (fun e => ?_) (fun n hm => ?_) fun n hm => ?_
  · exact .ite (by simp [Except.map]) (.throwSocket _)
  · have hlt : toInt n.count < data.length := hm.resolve_right id
    rw [toInt_of_le n.le_intMax] at hlt
    rw [hret]
    exact .ite_neg (by omega) (.ite hlt (.throwSocket _))
  · have hle : ¬toInt n.count < data.length := mt Or.inl hm
    rw [toInt_of_le n.le_intMax] at hle
    rw [hret]
    exact .ite (fun h => absurd h (by omega)) fun _ => .ite (fun h => absurd h hle) fun _ => .pure _

theorem receiveMessage_ends (len : ℕ) (report : SctpSndrcvinfo → Frame → Frame) :
    (SCTPSocket.receiveMessage len report).Ends b := by
  refine .bind (.lib _) fun info => .bind thisSocket_ends fun fd => ?_
  refine .call rfl (fun e => ?_) (fun got hm => ?_) fun got hm => ?_
  · exact .modify _ (.ite (by simp [Except.map]) (.throwSocket _))
  · have hneg : toInt got.1.bytes.length < 0 := hm.resolve_right id
    exact .modify _ (.ite hneg (.throwSocket _))
  · refine .bind (.modify _) fun _ => .ite (fun h => absurd (.inl h) hm) fun _ => ?_
    exact .bind (.modify _) fun _ => .pure _

/-! ## Unix sockets -/

theorem unixLocalAddress_ends (path : Str) :
    (UnixSocket.localAddress path : Op τ SockaddrUn).Ends b := by
  refine .bind (.lib _) fun addr => .bind (.withLocal ?_) fun _ => .pure _
  exact .ite (fun _ => .throwSocket _) fun _ => .modify _

theorem extractPath_ends (addr : SockaddrUn) (len : ℕ) :
    (UnixSocket.extractPath addr len : Op τ Str).Ends b :=
  .ite (fun _ => .throw) fun _ => .pure _

theorem unixConnect_ends (path : Str) : (UnixSocket.connect path).Ends b :=
  .bind (unixLocalAddress_ends path) fun _ => .bind thisSocket_ends fun _ =>
    .checked rfl (fun _ h => h.elim id id) (.pure _)

/-- `unlink` may fail; what is thrown after it is the failure of `bind`. -/
theorem unixBind_final (path : Str) : (UnixSocket.bind path).Final := by
  refine .bind (unixLocalAddress_ends path) fun addr s => ?_
  simp only [wp_bind, wp_thisSocket, List.nil_append]
  refine wp_sys.2 fun mark u _ => wp_sys.2 fun mark' r _ => ?_
  have hunlink : ¬Mistaken (Event.sys .once (.unlink (cStr addr.sunPath)) u) := by
    cases u with
    | error e => exact not_mistaken_error
    | ok x => exact fun h => h.elim id id
  cases r with
  | ok x =>
    refine ⟨List.forall_mem_cons.2 ⟨hunlink, List.forall_mem_singleton.2 ?_⟩, fun hb => ?_⟩
    · exact fun h => h.elim id id
    cases hb
  | error e =>
    refine ⟨?_, fun hb => by cases hb⟩
    refine @Blame.failed ⟨"Set of local path failed (bind)", true, e⟩ [_] [] _ rfl rfl
      (List.forall_mem_nil _) (List.forall_mem_cons.2 ⟨hunlink, ?_⟩)
    exact List.forall_mem_singleton.2 not_mistaken_error

theorem getLocalPath_ends (this : SimpleSocket) :
    (UnixSocket.getLocalPath this : Op τ Str).Ends b :=
  .bind (.lib _) fun _ => .plainCall rfl (fun _ h => h.elim id id) (fun _ => .throwSocket _)
    fun _ => extractPath_ends _ _

theorem getForeignPath_ends (this : SimpleSocket) :
    (UnixSocket.getForeignPath this : Op τ Str).Ends b :=
  .bind (.lib _) fun _ => .plainCall rfl (fun _ h => h.elim id id) (fun _ => .throwSocket _)
    fun _ => extractPath_ends _ _

theorem unixSendTo_final (data : List UInt8) (path : Str) :
    (UnixDatagramSocket.sendTo data path).Final :=
  .bind (unixLocalAddress_ends path) fun _ => sendDatagram_final data _

theorem unixReceiveFrom_ends (len : ℕ) : (UnixDatagramSocket.receiveFrom len).Ends b :=
  .bind (.lib _) fun _ => receiveDatagram_ends fun _ =>
    .bind (extractPath_ends _ _) fun _ => .modify _

/-! ## CAN sockets -/

theorem getInterfaceName_ends (fd : ℤ) (addr : SockaddrCan) :
    (CANSocket.getInterfaceName fd addr : Op τ Str).Ends b :=
  .bind (.lib _) fun _ => .plainCall rfl (fun _ h => absurd (h.resolve_left id).1 (by decide))
    (fun _ => .throwSocket _) fun _ => .pure _

theorem getInterfaceIndex_ends (fd : ℤ) (interface : Str) :
    (CANSocket.getInterfaceIndex fd interface : Op τ ℤ).Ends b :=
  .ite (fun _ => .pure _) fun _ => .ite (fun _ => .throwSocket _) fun _ =>
    .bind (.lib _) fun _ => .plainCall rfl (fun _ h => absurd (h.resolve_left id).1 (by decide))
      (fun _ => .throwSocket _) fun _ => .pure _

theorem canConnect_ends (interface : Str) : (CANSocket.connect interface).Ends b :=
  .bind thisSocket_ends fun _ => .bind (getInterfaceIndex_ends _ _) fun _ =>
    .checked rfl (fun _ h => h.elim id id) (.pure _)

theorem canBind_ends (interface : Str) : (CANSocket.bind interface).Ends b :=
  .bind thisSocket_ends fun _ => .bind (getInterfaceIndex_ends _ _) fun _ =>
    .checked rfl (fun _ h => h.elim id id) (.pure _)

theorem getLocalInterface_ends (this : SimpleSocket) :
    (CANSocket.getLocalInterface this : Op τ Str).Ends b :=
  .plainCall rfl (fun _ h => h.elim id id) (fun _ => .throwSocket _)
    fun _ => getInterfaceName_ends _ _

theorem getForeignInterface_ends (this : SimpleSocket) :
    (CANSocket.getForeignInterface this : Op τ Str).Ends b :=
  .plainCall rfl (fun _ h => h.elim id id) (fun _ => .throwSocket _)
    fun _ => getInterfaceName_ends _ _

theorem canSendTo_final (data : List UInt8) (interface : Str) :
    (CANRawSocket.sendTo data interface).Final :=
  .bind thisSocket_ends fun _ => .bind (getInterfaceIndex_ends _ _) fun _ =>
    sendDatagram_final data _

theorem canReceiveFrom_ends (len : ℕ) : (CANRawSocket.receiveFrom len).Ends b :=
  .bind (.lib _) fun _ => receiveDatagram_ends fun _ => .bind thisSocket_ends fun _ =>
    .bind (getInterfaceName_ends _ _) fun _ => .modify _

/-! ## The operations of a socket -/

/-- What an operation hands on of its result. -/
theorem Op.Final.wrap {m : Op τ α} (h : m.Final) (f : α → β) :
    (do let x ← m; return f x : Op τ β).Final := by
  intro s
  rw [wp_bind]
  refine wp_mono (h s) fun as r s' ⟨hv, _⟩ => ?_
  cases r with
  | error e => exact ⟨by cases e <;> exact hv, fun hb => by cases hb⟩
  | ok a =>
    dsimp only
    rw [wp_pure, List.append_nil]
    exact ⟨hv, fun hb => by cases hb⟩

theorem onThis_final {m : SimpleSocket → Method α} (h : ∀ this, (m this).Final) :
    (onThis m).Final := .bind .get fun f => h f.this

/-- Every operation of a socket ends with a verdict. -/
theorem body_final (op : Operation) : op.body.Final := by
  cases op with
  | send data => exact .wrap (send_final data) fun x => Value.int x.val
  | receive len => exact .wrap (receive_ends len) _
  | timedReceive len timeout => exact .wrap (timedReceive_ends len timeout) _
  | disconnect => exact .wrap disconnect_final _
  | shutdown type => exact .wrap (shutdown_ends type) _
  | inetConnect address port => exact .wrap (inetConnect_ends address port) _
  | inetBindAny port => exact .wrap (bindAny_ends port) _
  | inetBind address port => exact .wrap (inetBind_ends address port) _
  | getLocalAddress => exact .wrap (onThis_final fun this => sockName_ends this _ _) _
  | getLocalPort => exact .wrap (onThis_final fun this => sockName_ends this _ _) _
  | getForeignAddress => exact .wrap (onThis_final fun this => peerName_ends this _ _) _
  | getForeignPort => exact .wrap (onThis_final fun this => peerName_ends this _ _) _
  | tcpSendAll data => exact .wrap (sendAllFrom_final data 0 _) _
  | tcpListen backlog => exact .wrap (listen_ends backlog) _
  | tcpAccept => exact .wrap (onThis_final fun this => acceptWith_ends this _) _
  | tcpTimedAccept timeout =>
    exact .wrap (onThis_final fun this => timedAcceptWith_ends this timeout _ _) _
  | udpSendTo data address port => exact .wrap (udpSendTo_final data address port) _
  | udpReceiveFrom len => exact .wrap (udpReceiveFrom_ends len) _
  | udpTimedReceiveFrom len timeout => exact .wrap (timedWith_ends (udpReceiveFrom_ends len)) _
  | udpSetMulticastTTL ttl => exact .wrap (setOption_ends _ _ _ _) _
  | udpSetMulticastInterfaceAddr address =>
    exact .wrap (setMulticastInterfaceAddr_ends address) _
  | udpJoinGroup group => exact .wrap (groupAction_ends group _ _) _
  | udpLeaveGroup group => exact .wrap (groupAction_ends group _ _) _
  | sctpBind addresses port => exact .wrap (sctpBind_ends addresses port) _
  | sctpConnect addresses port => exact .wrap (sctpConnect_ends addresses port) _
  | sctpState => exact .wrap (onThis_final fun this => status_ends this _ _) _
  | sctpNotAckedData => exact .wrap (onThis_final fun this => status_ends this _ _) _
  | sctpPendingData => exact .wrap (onThis_final fun this => status_ends this _ _) _
  | sctpInStreams => exact .wrap (onThis_final fun this => status_ends this _ _) _
  | sctpOutStreams => exact .wrap (onThis_final fun this => status_ends this _ _) _
  | sctpFragmentationPoint => exact .wrap (onThis_final fun this => status_ends this _ _) _
  | sctpSend data stream ttl context ppid abortFlag switchAddr =>
    exact .wrap (sendMessage_ends data stream ttl context ppid _) _
  | sctpSendUnordered data stream ttl context ppid abortFlag switchAddr =>
    exact .wrap (sendMessage_ends data stream ttl context ppid _) _
  | sctpReceive len => exact .wrap (receiveMessage_ends len _) _
  | sctpReceiveFlag len => exact .wrap (receiveMessage_ends len _) _
  | sctpTimedReceive len timeout => exact .wrap (timedWith_ends (receiveMessage_ends len _)) _
  | sctpTimedReceiveFlag len timeout => exact .wrap (timedWith_ends (receiveMessage_ends len _)) _
  | sctpListen backlog => exact .wrap (listen_ends backlog) _
  | sctpAccept => exact .wrap (onThis_final fun this => acceptWith_ends this _) _
  | sctpTimedAccept timeout =>
    exact .wrap (onThis_final fun this => timedAcceptWith_ends this timeout _ _) _
  | unixConnect path => exact .wrap (unixConnect_ends path) _
  | unixBind path => exact .wrap (unixBind_final path) _
  | getLocalPath => exact .wrap (onThis_final fun this => getLocalPath_ends this) _
  | getForeignPath => exact .wrap (onThis_final fun this => getForeignPath_ends this) _
  | unixSendTo data path => exact .wrap (unixSendTo_final data path) _
  | unixReceiveFrom len => exact .wrap (unixReceiveFrom_ends len) _
  | unixTimedReceiveFrom len timeout => exact .wrap (timedWith_ends (unixReceiveFrom_ends len)) _
  | canConnect interface => exact .wrap (canConnect_ends interface) _
  | canBind interface => exact .wrap (canBind_ends interface) _
  | getLocalInterface => exact .wrap (onThis_final fun this => getLocalInterface_ends this) _
  | getForeignInterface => exact .wrap (onThis_final fun this => getForeignInterface_ends this) _
  | canSendTo data interface => exact .wrap (canSendTo_final data interface) _
  | canReceiveFrom len => exact .wrap (canReceiveFrom_ends len) _
  | canTimedReceiveFrom len timeout => exact .wrap (timedWith_ends (canReceiveFrom_ends len)) _
  | canSetReceiveFilter ptrSize filter len => exact .wrap (setOption_ends _ _ _ _) _
  | canSetErrorFilter ptrSize filter len => exact .wrap (setOption_ends _ _ _ _) _
  | canSetLocalLoopback enable => exact .wrap (setOption_ends _ _ _ _) _
  | canSetReceiveOwnMessages enable => exact .wrap (setOption_ends _ _ _ _) _

/-! ## Statements -/

theorem reset_ends (this : SocketHandle) (fd : ℤ) : (this.reset fd : Op τ SocketHandle).Ends b :=
  .ite (fun _ => .bind (.close _ _) fun _ => .pure _) fun _ => .pure _

theorem handleReset_closes (this : SocketHandle) (fd : ℤ) :
    (this.reset fd : Op τ SocketHandle).Closes :=
  .ite (.bind (.close _ _) fun _ => .pure _) (.pure _)

theorem ofHandle_ends (h : SocketHandle) : (SimpleSocket.ofHandle h : Op τ SimpleSocket).Ends b :=
  .finally' (ofFd_ends _) (.bind (handleReset_closes _ _) fun _ => .pure _)

theorem create_final {i : ℕ} {m : Op World Holder} (h : m.Final) : (World.create i m).Final := by
  refine .bind .get fun w => .ite (fun _ s => ?_) fun _ => .pure _
  rw [wp_bind]
  refine wp_mono (h s) fun as r s' ⟨hv, _⟩ => ?_
  cases r with
  | error e => exact ⟨by cases e <;> exact hv, fun hb => by cases hb⟩
  | ok x =>
    dsimp only
    rw [put, wp_modify, List.append_nil]
    exact ⟨hv, fun hb => by cases hb⟩

theorem withHandle_final {i : ℕ} {m : SocketHandle → Op World Unit} (h : ∀ x, (m x).Final) :
    (World.withHandle i m).Final :=
  World.withHandle_of (fun _ => .bind .get) (.pure _) h

theorem withRef_final {i : ℕ} {m : SocketHandleRef → Op World Unit} (h : ∀ x, (m x).Final) :
    (World.withRef i m).Final :=
  World.withRef_of (fun _ => .bind .get) (.pure _) h

theorem withSocket_final {i : ℕ} {m : SimpleSocket → Op World Unit} (h : ∀ x, (m x).Final) :
    (World.withSocket i m).Final :=
  World.withSocket_of (fun _ => .bind .get) (.pure _) h

theorem class_new_final (c : SocketClass) : (c.new : Op τ SimpleSocket).Final := by
  cases c with
  | tcp => exact new_ends _ _ _
  | udp => exact udpNew_final
  | sctp a c d e => exact sctpNew_ends a c d e
  | unixDatagram => exact new_ends _ _ _
  | canRaw => exact new_ends _ _ _

theorem class_accept_ends (c : StreamClass) (this : SimpleSocket) :
    (c.accept this : Op τ SocketHandle).Ends b := by
  cases c <;> exact acceptWith_ends this _

theorem class_timedAccept_ends (c : StreamClass) (this : SimpleSocket) (timeout : ℤ) :
    (c.timedAccept this timeout : Op τ SocketHandle).Ends b := by
  cases c <;> exact timedAcceptWith_ends this timeout _ _

theorem class_ofHandle_ends (c : StreamClass) (h : SocketHandle) :
    (c.ofHandle h : Op τ SimpleSocket).Ends b := by
  cases c <;> exact ofHandle_ends h

theorem copyOf_ends (i : ℕ) (h : SocketHandle) : (copyOf i h).Ends b :=
  .bind (.modify _) fun _ => .pure _

theorem refOf_ends (i : ℕ) (h : SocketHandle) : (refOf i h).Ends b :=
  .bind (.modify _) fun _ => .pure _

theorem consume_ends (i : ℕ) (r : SocketHandleRef) : (consume i r).Ends b :=
  .bind (.modify _) fun _ => .pure _

/-- Every statement ends with a verdict. -/
theorem statement_final (st : Statement) : st.run.Final := by
  cases st with
  | construct i c => exact create_final (.wrap (class_new_final c) _)
  | accept i c socket =>
    exact withSocket_final fun this => create_final (.wrap (class_accept_ends c this) _)
  | timedAccept i c socket timeout =>
    refine withSocket_final fun this => create_final ?_
    exact .wrap (class_timedAccept_ends c this timeout) _
  | invalidHandle i => exact create_final (.pure _)
  | copy i other => exact withHandle_final fun h => create_final (.wrap (copyOf_ends other h) _)
  | toRef i this => exact withHandle_final fun h => create_final (.wrap (refOf_ends this h) _)
  | ofRef i ref => exact withRef_final fun r => create_final (.wrap (consume_ends ref r) _)
  | assign i other =>
    refine withHandle_final fun this => .ite (fun _ => ?_) fun _ => withHandle_final fun h => ?_
    · exact .bind (reset_ends _ _) fun _ => .modify _
    · refine .bind (.bind (reset_ends _ _) fun _ => .pure _) fun x => ?_
      exact .bind (.modify _) fun _ => .modify _
  | assignRef i ref =>
    refine withHandle_final fun this => withRef_final fun r => .bind (.modify _) fun _ => ?_
    exact .bind (reset_ends _ _) fun _ => .modify _
  | ofHandle i c handle =>
    refine withHandle_final fun h => create_final ?_
    exact .bind (copyOf_ends handle h) fun x => Op.Final.wrap (class_ofHandle_ends c x) _
  | ofHandleRef i c ref =>
    refine withRef_final fun r => create_final ?_
    exact .bind (consume_ends ref r) fun x => Op.Final.wrap (class_ofHandle_ends c x) _
  | destroy i =>
    refine .bind .get fun w => ?_
    split
    · exact .bind (.bind (reset_ends _ _) fun _ => .pure _) fun _ => .modify _
    · exact .bind (destroy_ends _) fun _ => .modify _
    · exact .pure _

/-! ## `SocketUtils` -/

theorem localIfreq_ends (interface : Str) :
    (SocketUtils.localIfreq interface : Op τ Ifreq).Ends b := by
  refine .bind (.lib _) fun ifr => .bind (.withLocal ?_) fun _ => .pure _
  exact .ite (fun _ => .throwSocket _) fun _ => .modify _

theorem withTempSocket_ends {body : ℤ → Op τ α} (h : ∀ fd, (body fd).Ends b) :
    (SocketUtils.withTempSocket body).Ends b :=
  .bind (new_ends _ _ _) fun sock => .finally' (h _) (destroy_closes sock)

theorem getNetworkInterfaces_ends :
    (SocketUtils.getNetworkInterfaces : Op τ (List Str)).Ends b := by
  apply withTempSocket_ends
  intro fd
  exact .plainCall rfl (fun _ h => h.elim id id) (fun _ => .throwSocket _) fun _ => .pure _

/-- A function that asks for anything but the hardware address. -/
theorem getSetting_ends {request : ℤ} {failure : String} {field : Ifreq → α} {interface : Str}
    (hreq : request ≠ 0x8927) : (SocketUtils.getSetting request failure
      (fun ifr => (Pure.pure (field ifr) : Op τ α)) interface).Ends b :=
  .bind (localIfreq_ends interface) fun _ => withTempSocket_ends fun _ =>
    .plainCall rfl (fun _ h => hreq (h.resolve_left id).1) (fun _ => .throwSocket _)
      fun _ => .pure _

theorem setSetting_ends {request : ℤ} {failure : String} {write : Ifreq → Op τ Ifreq}
    {interface : Str} (hreq : request ≠ 0x8927) (hwrite : ∀ ifr, (write ifr).Careful) :
    (SocketUtils.setSetting request failure write interface).Ends b :=
  .bind (localIfreq_ends interface) fun ifr => .bind (hwrite ifr) fun _ => withTempSocket_ends
    fun _ => .checked rfl (fun _ h => hreq (h.resolve_left id).1) (.pure _)

theorem writeAddress_ends (address : Str) (ifr : Ifreq) :
    (SocketUtils.writeAddress address ifr : Op τ Ifreq).Ends b := by
  refine .bind (.lib _) fun parsed => ?_
  cases parsed <;> exact .pure _

/-- The hardware type is checked after the call has succeeded. -/
theorem getHardwareAddress_ends (interface : Str) (c : UInt8) :
    (SocketUtils.getHardwareAddress interface c : Op τ Str).Ends b := by
  refine .bind (localIfreq_ends interface) fun _ => withTempSocket_ends fun _ => ?_
  refine .call rfl (fun _ => .throwSocket _) (fun ifr hm => ?_) fun ifr hm => ?_
  · exact .ite_neg (hm.resolve_left id).2 (.throwSocket _)
  · exact .ite (fun _ => .pure _) fun h => absurd (.inr ⟨rfl, h⟩) hm

/-- Every function of `SocketUtils` ends with a verdict. -/
theorem utility_final (u : Utility) : (u.body : Op τ Utility.Result).Final := by
  cases u with
  | resolveHostname hostname =>
    refine .wrap (.bind (.lib _) fun host => ?_) _
    cases host with
    | none => exact .throwSocket _
    | some a => exact .pure _
  | resolveService service protocol =>
    refine .wrap (.bind (.lib _) fun port => ?_) fun x : BitVec 16 => Utility.Result.int x.toNat
    cases port <;> exact .pure _
  | getNetworkInterfaces => exact .wrap getNetworkInterfaces_ends _
  | getInterfaceAddress i => exact .wrap (getSetting_ends (by decide)) _
  | getBroadcastAddress i => exact .wrap (getSetting_ends (by decide)) _
  | getNetmask i => exact .wrap (getSetting_ends (by decide)) _
  | getDestinationAddress i => exact .wrap (getSetting_ends (by decide)) _
  | getMTU i => exact .wrap (getSetting_ends (by decide)) _
  | setInterfaceAddress i s => exact .wrap (setSetting_ends (by decide) (writeAddress_ends s)) _
  | setBroadcastAddress i s => exact .wrap (setSetting_ends (by decide) (writeAddress_ends s)) _
  | setNetmask i s => exact .wrap (setSetting_ends (by decide) (writeAddress_ends s)) _
  | setDestinationAddress i s => exact .wrap (setSetting_ends (by decide) (writeAddress_ends s)) _
  | setMTU i mtu => exact .wrap (setSetting_ends (by decide) fun _ => .pure _) _
  | getHardwareAddress i c => exact .wrap (getHardwareAddress_ends i c) _

/-! ## Exceptions -/

/-- A system call that is no `close` of a destructor. -/
def Event.mayThrow (e : Event) : Bool := Call.isSys e.call && !Call.isClose e.call

/-- The system call before the throw. -/
def cause (evs : List Event) : Option Event := (evs.filter Event.mayThrow).getLast?

theorem cause_eq_some {evs : List Event} {e : Event} (h : cause evs = some e) :
    ∃ pre post, evs = pre ++ e :: post ∧ Call.isSys e.call = true ∧ Call.isClose e.call = false ∧
      ∀ x ∈ post, Event.mayThrow x = false := by
  obtain ⟨ys, hys⟩ := List.getLast?_eq_some_iff.1 h
  obtain ⟨l₁, l₂, rfl, -, h₂⟩ := List.filter_eq_append_iff.1 hys
  obtain ⟨l₃, l₄, rfl, -, he, h₄⟩ := List.filter_eq_cons_iff.1 h₂
  rw [Event.mayThrow, Bool.and_eq_true, Bool.not_eq_true'] at he
  refine ⟨l₁ ++ l₃, l₄, (List.append_assoc ..).symm, he.1, he.2, fun x hx => ?_⟩
  exact Bool.eq_false_iff.2 (List.filter_eq_nil_iff.1 h₄ x hx)

theorem cause_append {pre post : List Event} {e : Event} (hs : Call.isSys e.call = true)
    (hc : Call.isClose e.call = false) (hpost : Closing post) :
    cause (pre ++ e :: post) = some e := by
  have hnil : post.filter Event.mayThrow = [] :=
    List.filter_eq_nil_iff.2 fun x hx => by simp [Event.mayThrow, hpost x hx]
  have he : Event.mayThrow e = true := by simp [Event.mayThrow, hs, hc]
  rw [cause, List.filter_append, List.filter_cons_of_pos he, hnil, List.getLast?_concat]

/-- The code and the text of an exception agree with the calls: the code is that of the call that
caused it, and nothing is taken from `errno` when no call has failed. -/
structure Accurate (evs : List Event) (ex : SocketException) : Prop where
  failing : ∀ e err, cause evs = some e → Event.failure e = some err → ex.errorCode = err
  clean : (∀ e ∈ evs, Event.failure e = none) →
    ex.errorCode = 0 ∧ ∀ strerror, ex.what strerror = ex.message

/-- An answer was mistaken for a failure, and no call has failed. -/
def FalseAlarm (evs : List Event) : Prop :=
  (∃ e ∈ evs, Mistaken e) ∧ ∀ e ∈ evs, Event.failure e = none

/-- A call that is not `close` and has not failed is the cause of a sound list of events. -/
theorem Sound.cause_ok {evs : List Event} (hs : Sound evs) {e : Event} {err : Errno}
    (hc : cause evs = some e) (he : Event.failure e = some err) : False := by
  obtain ⟨pre, post, rfl, -, hclose, -⟩ := cause_eq_some hc
  rcases hs e (by simp) with h | h
  · rw [h] at he
    cases he
  · rw [h] at hclose
    cases hclose

/-- An exception is accurate unless it is a false alarm. The calls may be counted with the attempts
that were turned down or without. -/
theorem Blame.accurate_iff {ex : SocketException} {evs calls : List Event} (hb : Blame ex evs)
    (hsub : ∀ e ∈ evs, e ∈ calls) (hmis : ∀ e ∈ calls, Mistaken e → e ∈ evs)
    (hcause : ∀ e, cause calls = some e → cause evs = some e) :
    Accurate calls ex ↔ ¬FalseAlarm calls := by
  have hclean : Clean evs → ¬FalseAlarm calls := fun h hst => by
    obtain ⟨⟨e, he, hm⟩, -⟩ := hst
    exact h e (hmis e he hm) hm
  cases hb with
  | @failed pre post e he hclose hpost h =>
    refine iff_of_true ⟨fun e' err hc herr => ?_, fun hall => ?_⟩ (hclean h)
    · have hsys : Call.isSys e.call = true := by
        obtain ⟨call, r⟩ := e
        cases call
        · rfl
        · cases he
      have heq := hcause e' hc
      rw [cause_append hsys hclose hpost, Option.some.injEq] at heq
      rw [← heq, he, Option.some.injEq] at herr
      exact herr
    · have := hall e (hsub e (by simp))
      rw [he] at this
      cases this
  | plain hmsg hcode h hs =>
    refine iff_of_true ⟨fun e err hc herr => ?_, fun _ => ⟨hcode, fun strerror => ?_⟩⟩ (hclean h)
    · exact (hs.cause_ok (hcause e hc) herr).elim
    · exact SocketException.what_eq_message_iff.2 hmsg
  | mistaken hmsg hm hs =>
    obtain ⟨e, he, hm⟩ := hm
    constructor
    · intro hacc h
      obtain ⟨-, hall⟩ := h
      have := SocketException.what_eq_message_iff.1 ((hacc.clean hall).2 fun _ => "")
      rw [hmsg] at this
      cases this
    · intro hst
      refine ⟨fun e' err hc herr => (hs.cause_ok (hcause e' hc) herr).elim, fun hall => ?_⟩
      exact absurd ⟨⟨e, hsub e he, hm⟩, hall⟩ hst

/-! ## Runs -/

theorem Op.Final.runs {m : Op τ α} (h : m.Final) {s s' : Proc τ} {tr : List Event}
    {r : Except Exn α} (hr : Runs (m s) tr (r, s')) : Verdict (settled tr) r := by
  have := (Op.Runs.wp hr (h s)).1
  rwa [map_snd_answers] at this

/-- How one call of a run ends. -/
theorem run_verdict {c : LibraryCall} {s s' : Proc World} {tr : List Event} {o : CallOutcome}
    (hr : Runs (c.run s) tr (o, s')) :
    (∃ ex, o.thrown = some (.socket ex) ∧ Blame ex (settled tr)) ∨
      (∀ ex, o.thrown ≠ some (.socket ex)) ∧ Clean (settled tr) := by
  have key : ∀ {α : Type} {r : Except Exn α} {o : CallOutcome}, Verdict (settled tr) r →
      (o.thrown = match r with | .error x => some x | .ok _ => none) →
      (∃ ex, o.thrown = some (.socket ex) ∧ Blame ex (settled tr)) ∨
        (∀ ex, o.thrown ≠ some (.socket ex)) ∧ Clean (settled tr) := by
    intro α r o h ho
    rcases r with (ex | _) | a
    · exact Or.inl ⟨ex, ho, h⟩
    · exact Or.inr ⟨fun ex => by rw [ho]; simp, h⟩
    · exact Or.inr ⟨fun ex => by rw [ho]; simp, h⟩
  cases c with
  | statement st =>
    obtain ⟨r, h₁, rfl⟩ := statement_runs hr
    exact key ((statement_final st).runs h₁) (by cases r <;> rfl)
  | operation i op vars =>
    rcases operation_runs hr with ⟨rfl, rfl⟩ | ⟨this, r, p, h₁, rfl⟩
    · exact Or.inr ⟨fun ex h => (by cases h), List.forall_mem_nil _⟩
    · exact key ((body_final op).runs h₁) (by cases r <;> rfl)
  | utility u =>
    obtain ⟨r, h₁, rfl⟩ := utility_runs hr
    exact key ((utility_final u).runs h₁) (by cases r <;> rfl)
  | other err =>
    obtain ⟨rfl, rfl⟩ := other_runs hr
    exact Or.inr ⟨fun ex h => (by cases h), List.forall_mem_nil _⟩

/-- A mistaken answer settles its call. -/
theorem mem_settled_of_mistaken {tr : List Event} {e : Event} (he : e ∈ tr) (hm : Mistaken e) :
    e ∈ settled tr := by
  refine List.mem_filter.2 ⟨he, ?_⟩
  cases ha : e.again
  · rfl
  · obtain ⟨c, rfl⟩ := Event.eq_of_again ha
    exact absurd hm not_mistaken_error

/-- The call before the throw was not turned down: it would have been made again. -/
theorem cause_settled {p : Prog posix β} {tr : List Event} {x : β} (hr : Runs p tr x) {e : Event}
    (h : cause tr = some e) : cause (settled tr) = some e := by
  obtain ⟨pre, post, rfl, hsys, hclose, hpost⟩ := cause_eq_some h
  have ha : e.again = false := by
    apply Bool.eq_false_iff.2
    intro ha
    obtain ⟨e', post', rfl, hcall⟩ := hr.next_of_again ha
    have := hpost e' List.mem_cons_self
    rw [Event.mayThrow, hcall, hsys, hclose] at this
    cases this
  have hnil : (settled post).filter Event.mayThrow = [] :=
    List.filter_eq_nil_iff.2 fun x hx => Bool.eq_false_iff.1 (hpost x (mem_settled hx))
  have hp : Event.mayThrow e = true := by simp [Event.mayThrow, hsys, hclose]
  have hcons : settled (e :: post) = e :: settled post := List.filter_cons_of_pos (by simp [ha])
  rw [settled_append, hcons, cause, List.filter_append, List.filter_cons_of_pos hp, hnil,
    List.getLast?_concat]

/-- One call of a run: its exception is accurate unless the call is stale. -/
theorem entry_accurate_iff {e : LibraryEntry}
    (hr : Runs (e.op.run e.pre) e.events (e.result, e.post)) {calls : List Event → List Event}
    (hcalls : calls ∈ [id, settled]) :
    (∀ ex, e.result.thrown = some (.socket ex) → Accurate (calls e.events) ex) ↔
      ¬FalseAlarm (calls e.events) := by
  have hsub : ∀ x ∈ settled e.events, x ∈ calls e.events := by
    rcases List.mem_pair.1 hcalls with rfl | rfl
    · exact fun x => mem_settled
    · exact fun x hx => hx
  have hmis : ∀ x ∈ calls e.events, Mistaken x → x ∈ settled e.events := by
    rcases List.mem_pair.1 hcalls with rfl | rfl
    · exact fun x => mem_settled_of_mistaken
    · exact fun x hx _ => hx
  have hcause : ∀ x, cause (calls e.events) = some x → cause (settled e.events) = some x := by
    rcases List.mem_pair.1 hcalls with rfl | rfl
    · exact fun x => cause_settled hr
    · exact fun x hx => hx
  rcases run_verdict hr with ⟨ex, hex, hb⟩ | ⟨hno, hclean⟩
  · rw [← hb.accurate_iff hsub hmis hcause]
    refine ⟨fun h => h ex hex, fun h ex' hex' => ?_⟩
    rw [hex] at hex'
    cases hex'
    exact h
  · refine iff_of_true (fun ex hex => absurd hex (hno ex)) ?_
    intro h
    obtain ⟨⟨x, hx, hm⟩, -⟩ := h
    exact hclean x (hmis x hx hm) hm

/-- **Error codes are stale exactly after a false alarm.** In every run of the library, the
exceptions carry the code of the call that caused them, or none when no call has failed, if and only
if no call took an answer for a failure while all its system calls succeeded. Both hold whether or
not an attempt that was interrupted and made again counts as a call of its own. -/
theorem error_codes_accurate_iff {K : Kernel posix} {s₀ s : Proc World} {k₀ k : K.State}
    {es : List LibraryEntry} (h : Session LibraryCall.run K s₀ k₀ es s k) :
    ∀ calls ∈ [id, settled],
      (∀ e ∈ es, ∀ ex, e.result.thrown = some (.socket ex) → Accurate (calls e.events) ex) ↔
        ∀ e ∈ es, ¬FalseAlarm (calls e.events) :=
  fun _ hcalls => forall₂_congr fun _ he => entry_accurate_iff (h.entry_runs he) hcalls

/-! ## The loopback interface -/

/-- The `ifreq` of `lo`, with what the kernel puts into the union. -/
def loIfreq (ifru : List UInt8) : Ifreq := ⟨[108, 111, 0] ++ List.replicate 13 0, ifru⟩

/-- The calls of an interface function on `lo`, with the reply to its request. -/
def loEvents (request : ℤ) (reply : Except Errno Ifreq) : List Event :=
  [Event.lib .uninitIfreq ⟨⟨List.replicate 16 0, List.replicate 24 0⟩, rfl, rfl⟩,
    Event.sys .once (.socket pfInet sockDgram 0) (.ok (3 : ℕ)),
    Event.sys .once (.ioctl 3 request (loIfreq ([2, 0] ++ List.replicate 22 0))) reply,
    Event.sys .tempFailureRetry (.close 3) (.ok ())]

/-- `getMTU` after the interface has gone. -/
theorem getMTU_fails (err : Errno) (w : World) :
    Runs ((LibraryCall.utility (.getMTU [108, 111])).run ⟨err, w⟩) (loEvents 0x8921 (.error 19))
      (.utility (.error (.socket ⟨"ioctl failed (getMTU)", true, 19⟩)), ⟨19, w⟩) :=
  .cons (.answer rfl) (.cons (.answer rfl) (.cons (.answer rfl) (.cons (.answer rfl) (.nil _))))

/-- `getHardwareAddress` of the loopback interface: its type is `ARPHRD_LOOPBACK`. -/
theorem getHardwareAddress_loopback (err : Errno) (w : World) :
    Runs ((LibraryCall.utility (.getHardwareAddress [108, 111] 58)).run ⟨err, w⟩)
      (loEvents 0x8927 (.ok (loIfreq ([4, 3] ++ List.replicate 22 0))))
      (.utility (.error (.socket ⟨"Invalid Hardware type (getHardwareAddress)", true, err⟩)),
        ⟨err, w⟩) :=
  .cons (.answer rfl) (.cons (.answer rfl) (.cons (.answer rfl) (.cons (.answer rfl) (.nil _))))

/-- A call that fails, and the code it throws. -/
theorem error_codes_accurate_mtu : ∃ es s,
    Session LibraryCall.run (Kernel.free posix) ⟨0, fun _ => none⟩ () es s () ∧
      es.map (fun e => e.result.thrown) = [some (.socket ⟨"ioctl failed (getMTU)", true, 19⟩)] ∧
      ∀ e ∈ es, ∀ ex, e.result.thrown = some (.socket ex) → Accurate e.events ex := by
  have hfree (tr : List Event) : (Kernel.free posix).Accepts () tr () := Kernel.free_accepts tr
  have hs := Session.single _ (getMTU_fails 0 fun _ => none) (hfree _)
  refine ⟨_, _, hs, rfl, (error_codes_accurate_iff hs id (by simp)).2 ?_⟩
  intro e he h
  obtain ⟨-, hall⟩ := h
  obtain rfl := List.mem_singleton.1 he
  have := hall (Event.sys .once (.ioctl 3 0x8921 (loIfreq ([2, 0] ++ List.replicate 22 0)))
    (.error 19)) (by simp [loEvents])
  cases this

/-- The loopback interface answers `getHardwareAddress`, and the exception carries the code of the
call before. -/
theorem getHardwareAddress_reports_old_errno : ∃ es s,
    Session LibraryCall.run (Kernel.free posix) ⟨0, fun _ => none⟩ () es s () ∧
      es.map (fun e => e.result.thrown) = [some (.socket ⟨"ioctl failed (getMTU)", true, 19⟩),
        some (.socket ⟨"Invalid Hardware type (getHardwareAddress)", true, 19⟩)] ∧
      ¬∀ e ∈ es, ∀ ex, e.result.thrown = some (.socket ex) → Accurate e.events ex := by
  have hfree (tr : List Event) : (Kernel.free posix).Accepts () tr () := Kernel.free_accepts tr
  have hs := (Session.single _ (getMTU_fails 0 fun _ => none) (hfree _)).snoc _
    (getHardwareAddress_loopback 19 _) (hfree _)
  refine ⟨_, _, hs, rfl, fun hall => ?_⟩
  have hacc := hall _ (List.mem_append_right _ List.mem_cons_self) _ rfl
  have hclean : ∀ e ∈ loEvents 0x8927 (.ok (loIfreq ([4, 3] ++ List.replicate 22 0))),
      Event.failure e = none := by
    intro e he
    simp only [loEvents, List.mem_cons, List.not_mem_nil, or_false] at he
    rcases he with rfl | rfl | rfl | rfl <;> rfl
  have := (hacc.clean hclean).1
  cases this

end NET
