import SimpleSocket.Verify.Spec
import SimpleSocket.Verify.Unchanged

/-!
# What an operation does to the socket object

`FlagEffect`: the descriptor stays, the association stays, and `m_peerDisconnected` is set exactly
when a reply marks the peer as gone. Every operation that does not connect or disconnect has this
effect on all its exits, and those that do have it when they throw; when they return, the last call
has changed the association, and some of them clear the flag (`Reassociated`).
-/

namespace NET

open Op Interact SimpleSocket

/-- A reply on which an operation sets the flag. -/
def Event.marks : Event → Prop
  | ⟨.sys _ (.send ..), .error e⟩ => e = Errno.econnreset ∨ e = Errno.econnrefused
  | ⟨.sys _ (.poll _ events _), .ok (revents : BitVec 16)⟩ =>
    hasFlag events pollRdHup = true ∧ hasFlag revents pollRdHup = true
  | _ => False

/-- A reply that changes the association: the socket was connected, or its association dissolved. -/
def Event.associates : Event → Prop
  | ⟨.sys _ (.connect ..), .ok _⟩ => True
  | ⟨.sys _ (.connect _ .unspec), .error e⟩ => e = Errno.econnreset
  | ⟨.sys _ (.sctpConnectx ..), .ok _⟩ => True
  | _ => False

theorem not_marks_of_quiet {e : Event} (h : e.quiet = true) : ¬e.marks := by
  intro hm
  unfold Event.marks at hm
  split at hm
  · cases h
  · next events timeout revents =>
    have hno : (!hasFlag events pollRdHup) = true := h
    rw [hm.1] at hno
    cases hno
  · exact hm

theorem not_associates_of_quiet {e : Event} (h : e.quiet = true) : ¬e.associates := by
  intro ha
  unfold Event.associates at ha
  split at ha
  · cases h
  · cases h
  · cases h
  · exact ha

/-- The effect of events that leave the association alone. -/
structure FlagEffect (a : SimpleSocket) (evs : List Event) (b : SimpleSocket) : Prop where
  socket : b.mSocket = a.mSocket
  flag : b.mPeerDisconnected = true ↔ a.mPeerDisconnected = true ∨ ∃ e ∈ evs, e.marks
  keeps : ∀ e ∈ evs, ¬e.associates

namespace FlagEffect

theorem refl (a : SimpleSocket) {evs : List Event} (h : ∀ e ∈ evs, e.quiet = true) :
    FlagEffect a evs a where
  socket := rfl
  flag := ⟨Or.inl, fun h' => h'.elim id fun ⟨e, he, hm⟩ => absurd hm (not_marks_of_quiet (h e he))⟩
  keeps := fun e he => not_associates_of_quiet (h e he)

theorem append {a b c : SimpleSocket} {evs evs' : List Event} (h : FlagEffect a evs b)
    (h' : FlagEffect b evs' c) : FlagEffect a (evs ++ evs') c where
  socket := h'.socket.trans h.socket
  flag := by
    rw [h'.flag, h.flag, or_assoc]
    apply or_congr_right
    simp only [List.mem_append, or_and_right, exists_or]
  keeps := fun e he => (List.mem_append.1 he).elim (h.keeps e) (h'.keeps e)

end FlagEffect

/-- `FlagEffect` of the object a method works on. -/
def FrameEffect (f : Frame) (evs : List Event) (f' : Frame) : Prop := FlagEffect f.this evs f'.this

instance : Framing FrameEffect where
  refl f := .refl f.this (by simp)
  append h h' := FlagEffect.append h h'
  quiet f e h := .refl f.this (by simpa using h)

/-! ## The methods -/

section Methods

variable {α : Type} {m : Method α}

/-- The caller's variables are not part of the object. -/
theorem modify_effect {f : Frame → Frame} (h : ∀ a, (f a).this = a.this) :
    (Op.modify f).Preserves FrameEffect := .modify fun a => by
  rw [FrameEffect, h a]
  exact .refl a.this (by simp)

theorem onThis_effect {m : SimpleSocket → Method α} (h : ∀ this, (m this).Preserves FrameEffect) :
    (onThis m).Preserves FrameEffect := .bind .get fun f => h f.this

/-- A checked system call whose success needs nothing more. -/
theorem checked_effect {w : Retry} {c : ℤ → Sys} {failure : String}
    (h : ∀ fd, (c fd).quiet = true) :
    (do
      let fd ← thisSocket
      let r ← sys w (c fd)
      if failed r then throwSocket failure true
      else return () : Method Unit).Preserves FrameEffect := by
  refine .bind thisSocket_unchanged fun fd => .bind (.sys _ (h fd)) fun r => ?_
  exact .ite (.throwSocket _ _) (.pure _)

/-- A single reply that leaves the descriptor and the association alone. -/
theorem effect_single {f f' : Frame} {e : Event} (hs : f'.this.mSocket = f.this.mSocket)
    (hf : f'.this.mPeerDisconnected = true ↔ f.this.mPeerDisconnected = true ∨ e.marks)
    (hk : ¬e.associates) : FrameEffect f [e] f' where
  socket := hs
  flag := by simpa using hf
  keeps := by simpa using hk

/-- `send` looks at `errno` to tell the two errors that set the flag from the others. -/
theorem send_effect (buffer : List UInt8) :
    (SimpleSocket.send buffer).Preserves FrameEffect := by
  intro s
  rw [wp_send]
  intro b r _
  have hk : ¬Event.associates
      (Event.sys .tempFailureRetry (.send s.vars.this.mSocket buffer) r) := id
  cases r with
  | ok n => exact effect_single rfl (or_iff_left id).symm hk
  | error e =>
    unfold Frame.sent
    by_cases he : hungUp e
    · simp only [if_pos he]
      exact effect_single rfl (iff_of_true rfl (Or.inr he)) hk
    · simp only [if_neg he]
      exact effect_single rfl (or_iff_left he).symm hk

theorem recv_effect (len : ℕ) (flags : ℤ) :
    (SimpleSocket.recv len flags).Preserves FrameEffect := by
  unfold SimpleSocket.recv
  refine .bind thisSocket_unchanged fun fd => .bind (.sys _ rfl) fun r => ?_
  exact .bind (modify_effect fun _ => rfl) fun _ => .pure _

theorem receive_effect (len : ℕ) : (SimpleSocket.receive len).Preserves FrameEffect := by
  unfold SimpleSocket.receive
  exact .bind (recv_effect len 0) fun n => .ite (.throwSocket _ _) (.pure _)

theorem marks_poll {fd timeout : ℤ} {w : Retry} (r : Except Errno (BitVec 16)) :
    (Event.sys w (.poll fd (pollIn ||| pollPri ||| pollRdHup) timeout) r).marks ↔
      hasFlag (pollRevents r) pollRdHup = true := by
  cases r with
  | error e =>
    have h0 : hasFlag 0 pollRdHup = false := by decide
    exact iff_of_false id (by rw [pollRevents, h0]; exact Bool.false_ne_true)
  | ok revents => exact and_iff_right (by decide)

theorem noted_effect (f : Frame) {fd timeout : ℤ} {w : Retry} (r : Except Errno (BitVec 16)) :
    FrameEffect f [Event.sys w (.poll fd (pollIn ||| pollPri ||| pollRdHup) timeout) r]
      (f.noted (pollRevents r)) := by
  refine effect_single (f.noted_mSocket _) ?_ id
  rw [marks_poll]
  unfold Frame.noted
  split
  · next h => exact iff_of_true rfl (Or.inr h)
  · next h => exact (or_iff_left h).symm

/-- A `poll` that is not ready notes nothing. -/
theorem noted_of_pollCount_le (f : Frame) {r : Except Errno (BitVec 16)} (h : pollCount r ≤ 0) :
    f.noted (pollRevents r) = f := by
  have h0 : pollRevents r = 0 := by
    cases r with
    | error e => rfl
    | ok revents => exact (pollCount_le_zero revents).1 h
  rw [h0]
  exact if_neg (by decide)

/-- The part the timed receive operations share: the flag is set when `poll` says so. -/
theorem polled_effect {timeout : ℤ} {zero : α} {failure : String}
    {rest : Except Errno (BitVec 16) → Method α} (h : ∀ r, (rest r).Preserves FrameEffect) :
    (do
      let r ← pollReceive timeout
      if pollCount r = 0 then return zero
      else if pollCount r < 0 then throwSocket failure true
      else do
        noteRdHup (pollRevents r)
        rest r : Method α).Preserves FrameEffect := by
  intro s
  simp only [wp_bind, wp_pollReceive, wp_noteRdHup, wp_ite, wp_throwSocket, wp_pure,
    List.nil_append, List.append_nil]
  intro b r _
  have hpoll : FrameEffect s.vars [Event.sys .tempFailureRetry (.poll s.vars.this.mSocket
      (pollIn ||| pollPri ||| pollRdHup) timeout) r] (s.vars.noted (pollRevents r)) :=
    noted_effect s.vars r
  by_cases h0 : pollCount r = 0
  · rw [noted_of_pollCount_le s.vars (by omega)] at hpoll
    rwa [if_pos h0]
  rw [if_neg h0]
  by_cases hneg : pollCount r < 0
  · rw [noted_of_pollCount_le s.vars (by omega)] at hpoll
    rwa [if_pos hneg]
  rw [if_neg hneg]
  apply wp_mono (h r _)
  intro as' r' s' h'
  rw [List.map_append]
  exact Framing.append hpoll h'

theorem timedReceive_effect (len : ℕ) (timeout : ℤ) :
    (SimpleSocket.timedReceive len timeout).Preserves FrameEffect := by
  refine polled_effect fun r => .ite ?_ (.pure _)
  exact .bind (recv_effect len msgWaitall) fun n => .ite (.throwSocket _ _) (.pure _)

theorem timedWith_effect {receive : Method ℤ} (h : receive.Preserves FrameEffect)
    (failure : String) (timeout : ℤ) : (timedWith failure timeout receive).Preserves FrameEffect :=
  polled_effect fun _ => .ite h (.pure _)

theorem sendDatagram_effect (buffer : List UInt8) (destAddr : Sockaddr) :
    (sendDatagram buffer destAddr).Preserves FrameEffect := by
  unfold sendDatagram
  refine .bind thisSocket_unchanged fun fd => .bind (.sys _ rfl) fun r => ?_
  exact .ite (.throwSocket _ _) (.pure _)

theorem setOption_effect (level optname : ℤ) (optval : List UInt8) (failure : String) :
    (setOption level optname optval failure).Preserves FrameEffect := by
  unfold setOption
  exact checked_effect fun _ => rfl

/-- The loop of `sendAll`: each round calls `send`. -/
theorem sendAllFrom_effect (buffer : List UInt8) (sent : ℕ) (hs : sent ≤ buffer.length) :
    (TCPSocket.sendAllFrom buffer sent hs).Preserves FrameEffect := by
  rw [TCPSocket.sendAllFrom]
  split
  · exact .pure _
  · next h =>
    refine .bind (send_effect _) fun ret => ?_
    split
    · exact .pure _
    · exact sendAllFrom_effect buffer _ _
  termination_by buffer.length - sent
  decreasing_by
    next hr =>
    have hpos := ret.toNat_pos hr (by rw [List.length_drop]; omega)
    omega

theorem receiveDatagram_effect (len : ℕ) {kind : AddrKind}
    {report : Except Errno (Received len × kind.Name) → Method Unit}
    (h : ∀ r, (report r).Preserves FrameEffect) :
    (receiveDatagram len kind report).Preserves FrameEffect := by
  unfold receiveDatagram
  refine .bind thisSocket_unchanged fun fd => .bind (.sys _ rfl) fun r => ?_
  refine .bind (modify_effect fun _ => rfl) fun _ => .ite (.throwSocket _ _) ?_
  exact .bind (h r) fun _ => .pure _

theorem udpReceiveFrom_effect (len : ℕ) : (UDPSocket.receiveFrom len).Preserves FrameEffect := by
  unfold UDPSocket.receiveFrom
  exact .bind (.lib _) fun clientAddr => receiveDatagram_effect len fun r =>
    modify_effect fun _ => rfl

theorem unixReceiveFrom_effect (len : ℕ) :
    (UnixDatagramSocket.receiveFrom len).Preserves FrameEffect := by
  unfold UnixDatagramSocket.receiveFrom
  refine .bind (.lib _) fun clientAddr => receiveDatagram_effect len fun r => ?_
  exact .bind (extractPath_unchanged _ _) fun path => modify_effect fun _ => rfl

theorem canReceiveFrom_effect (len : ℕ) : (CANRawSocket.receiveFrom len).Preserves FrameEffect := by
  unfold CANRawSocket.receiveFrom
  refine .bind (.lib _) fun clientAddr => receiveDatagram_effect len fun r => ?_
  refine .bind thisSocket_unchanged fun fd => .bind (getInterfaceName_unchanged _ _) fun name => ?_
  exact modify_effect fun _ => rfl

theorem sctpReceiveMessage_effect (maxLen : ℕ) {report : SctpSndrcvinfo → Frame → Frame}
    (h : ∀ info f, (report info f).this = f.this) :
    (SCTPSocket.receiveMessage maxLen report).Preserves FrameEffect := by
  unfold SCTPSocket.receiveMessage
  refine .bind (.lib _) fun info => .bind thisSocket_unchanged fun fd => ?_
  refine .bind (.sys _ rfl) fun r => .bind (modify_effect fun _ => rfl) fun _ => ?_
  exact .ite (.throwSocket _ _) (.bind (modify_effect fun f => h _ f) fun _ => .pure _)

theorem sctpReceive_effect (len : ℕ) : (SCTPSocket.receive len).Preserves FrameEffect :=
  sctpReceiveMessage_effect len fun _ _ => rfl

theorem sctpReceiveFlag_effect (len : ℕ) : (SCTPSocket.receiveFlag len).Preserves FrameEffect :=
  sctpReceiveMessage_effect len fun _ _ => rfl

theorem sctpSendMessage_effect (data : List UInt8) (stream : BitVec 16)
    (ttl context ppid flags : ℕ) :
    (SCTPSocket.sendMessage data stream ttl context ppid flags).Preserves FrameEffect := by
  unfold SCTPSocket.sendMessage
  refine .bind thisSocket_unchanged fun fd => .bind (.sys _ rfl) fun r => ?_
  exact .ite (.throwSocket _ _) (.ite (.throwSocket _ _) (.pure _))

theorem sctpBind_effect (localAddresses : List Str) (localPort : BitVec 16) :
    (SCTPSocket.bind localAddresses localPort).Preserves FrameEffect := by
  unfold SCTPSocket.bind
  refine .bind (fillAddresses_unchanged _ _) fun dest => .bind thisSocket_unchanged fun fd => ?_
  exact .bind (.sys _ rfl) fun r => .ite (.throwSocket _ _) (.pure _)

/-- The methods that name an address of their own class and make one checked system call. -/
theorem checkedWith_effect {β : Type} {addressOf : ℤ → Method β}
    (h : ∀ fd, (addressOf fd).Preserves FrameEffect) {w : Retry} {c : ℤ → β → Sys}
    {failure : String} (hc : ∀ fd addr, (c fd addr).quiet = true) :
    (do
      let fd ← thisSocket
      let addr ← addressOf fd
      let r ← sys w (c fd addr)
      if failed r then throwSocket failure true
      else return () : Method Unit).Preserves FrameEffect := by
  refine .bind thisSocket_unchanged fun fd => .bind (h fd) fun addr => ?_
  refine .bind (.sys _ (hc fd addr)) fun r => ?_
  exact .ite (.throwSocket _ _) (.pure _)

theorem inetBind_effect (address : Str) (localPort : BitVec 16) :
    (InternetSocket.bind address localPort).Preserves FrameEffect := by
  unfold InternetSocket.bind
  exact .bind (inetLocalAddress_unchanged _ _) fun addr => checked_effect fun _ => rfl

theorem unixBind_effect (localPath : Str) : (UnixSocket.bind localPath).Preserves FrameEffect := by
  unfold UnixSocket.bind
  refine .bind (unixLocalAddress_unchanged _) fun addr => ?_
  exact .bind (.sys _ rfl) fun _ => checked_effect fun _ => rfl

theorem setMulticastInterfaceAddr_effect (address : Str) :
    (UDPSocket.setMulticastInterfaceAddr address).Preserves FrameEffect := by
  unfold UDPSocket.setMulticastInterfaceAddr
  refine .bind (.lib _) fun interfaceAddr => .bind (.lib _) fun parsed => ?_
  exact setOption_effect _ _ _ _

theorem groupAction_effect (multicastGroup : Str) (action : ℤ) (failure : String) :
    (UDPSocket.groupAction multicastGroup action failure).Preserves FrameEffect := by
  unfold UDPSocket.groupAction
  exact .bind (.lib _) fun group => setOption_effect _ _ _ _

theorem canSendTo_effect (buffer : List UInt8) (interface : Str) :
    (CANRawSocket.sendTo buffer interface).Preserves FrameEffect := by
  unfold CANRawSocket.sendTo
  refine .bind thisSocket_unchanged fun fd => .bind (getInterfaceIndex_unchanged _ _)
    fun index => ?_
  exact sendDatagram_effect _ _

theorem asUnit_effect {m : Method Unit} (h : m.Preserves FrameEffect) :
    (asUnit m).Preserves FrameEffect := .bind h fun _ => .pure _

theorem asInt_effect {m : Method ℤ} (h : m.Preserves FrameEffect) :
    (asInt m).Preserves FrameEffect :=
  .bind h fun _ => .pure _

theorem asWord_effect {w : ℕ} {m : SimpleSocket → Method (BitVec w)}
    (h : ∀ this, (m this).Preserves FrameEffect) : (asWord (onThis m)).Preserves FrameEffect :=
  .bind (onThis_effect h) fun _ => .pure _

theorem asStr_effect {m : SimpleSocket → Method Str} (h : ∀ this, (m this).Preserves FrameEffect) :
    (asStr (onThis m)).Preserves FrameEffect := .bind (onThis_effect h) fun _ => .pure _

theorem asHandle_effect {m : SimpleSocket → Method SocketHandle}
    (h : ∀ this, (m this).Preserves FrameEffect) : (asHandle (onThis m)).Preserves FrameEffect :=
  .bind (onThis_effect h) fun _ => .pure _

end Methods

/-! ## The operations -/

/-- The operations that connect or disconnect. -/
def Operation.associates : Operation → Bool
  | .inetConnect .. | .sctpConnect .. | .unixConnect .. | .canConnect .. | .disconnect => true
  | _ => false

/-- An operation that does not connect or disconnect has the same effect on every exit. -/
theorem Operation.body_effect :
    ∀ op : Operation, op.associates = false → op.body.Preserves FrameEffect
  | .send data, _ => .bind (send_effect data) fun _ => .pure _
  | .receive len, _ => asInt_effect (receive_effect len)
  | .timedReceive len timeout, _ => asInt_effect (timedReceive_effect len timeout)
  | .shutdown _, _ => asUnit_effect (checked_effect fun _ => rfl)
  | .inetBindAny _, _ => asUnit_effect (checked_effect fun _ => rfl)
  | .inetBind address port, _ => asUnit_effect (inetBind_effect address port)
  | .getLocalAddress, _ => asStr_effect fun this => sockName_unchanged this _ _
  | .getLocalPort, _ => asWord_effect fun this => sockName_unchanged this _ _
  | .getForeignAddress, _ => asStr_effect fun this => peerName_unchanged this _ _
  | .getForeignPort, _ => asWord_effect fun this => peerName_unchanged this _ _
  | .tcpSendAll data, _ => asInt_effect (sendAllFrom_effect data 0 _)
  | .tcpListen _, _ => asUnit_effect (checked_effect fun _ => rfl)
  | .tcpAccept, _ => asHandle_effect fun this => acceptWith_unchanged this _
  | .tcpTimedAccept timeout, _ =>
    asHandle_effect fun this => timedAcceptWith_unchanged this timeout _ _
  | .udpSendTo _ address port, _ => asUnit_effect <|
    .bind (inetLocalAddress_unchanged address port) fun _ => sendDatagram_effect _ _
  | .udpReceiveFrom len, _ => asInt_effect (udpReceiveFrom_effect len)
  | .udpTimedReceiveFrom len timeout, _ =>
    asInt_effect (timedWith_effect (udpReceiveFrom_effect len) _ timeout)
  | .udpSetMulticastTTL _, _ => asUnit_effect (setOption_effect _ _ _ _)
  | .udpSetMulticastInterfaceAddr address, _ =>
    asUnit_effect (setMulticastInterfaceAddr_effect address)
  | .udpJoinGroup group, _ => asUnit_effect (groupAction_effect group _ _)
  | .udpLeaveGroup group, _ => asUnit_effect (groupAction_effect group _ _)
  | .sctpBind addresses port, _ => asInt_effect (sctpBind_effect addresses port)
  | .sctpState, _ => asInt_effect (onThis_effect fun this => status_unchanged this _ _)
  | .sctpNotAckedData, _ => asWord_effect fun this => status_unchanged this _ _
  | .sctpPendingData, _ => asWord_effect fun this => status_unchanged this _ _
  | .sctpInStreams, _ => asWord_effect fun this => status_unchanged this _ _
  | .sctpOutStreams, _ => asWord_effect fun this => status_unchanged this _ _
  | .sctpFragmentationPoint, _ => asWord_effect fun this => status_unchanged this _ _
  | .sctpSend .., _ => asInt_effect (sctpSendMessage_effect _ _ _ _ _ _)
  | .sctpSendUnordered .., _ => asInt_effect (sctpSendMessage_effect _ _ _ _ _ _)
  | .sctpReceive len, _ => asInt_effect (sctpReceive_effect len)
  | .sctpReceiveFlag len, _ => asInt_effect (sctpReceiveFlag_effect len)
  | .sctpTimedReceive len timeout, _ =>
    asInt_effect (timedWith_effect (sctpReceive_effect len) _ timeout)
  | .sctpTimedReceiveFlag len timeout, _ =>
    asInt_effect (timedWith_effect (sctpReceiveFlag_effect len) _ timeout)
  | .sctpListen _, _ => asUnit_effect (checked_effect fun _ => rfl)
  | .sctpAccept, _ => asHandle_effect fun this => acceptWith_unchanged this _
  | .sctpTimedAccept timeout, _ =>
    asHandle_effect fun this => timedAcceptWith_unchanged this timeout _ _
  | .unixBind path, _ => asUnit_effect (unixBind_effect path)
  | .getLocalPath, _ => asStr_effect fun this => getLocalPath_unchanged this
  | .getForeignPath, _ => asStr_effect fun this => getForeignPath_unchanged this
  | .unixSendTo _ path, _ => asUnit_effect <|
    .bind (unixLocalAddress_unchanged path) fun _ => sendDatagram_effect _ _
  | .unixReceiveFrom len, _ => asInt_effect (unixReceiveFrom_effect len)
  | .unixTimedReceiveFrom len timeout, _ =>
    asInt_effect (timedWith_effect (unixReceiveFrom_effect len) _ timeout)
  | .canBind interface, _ => asUnit_effect <|
    checkedWith_effect (fun fd => getInterfaceIndex_unchanged fd interface) fun _ _ => rfl
  | .getLocalInterface, _ => asStr_effect fun this => getLocalInterface_unchanged this
  | .getForeignInterface, _ => asStr_effect fun this => getForeignInterface_unchanged this
  | .canSendTo data interface, _ => asUnit_effect (canSendTo_effect data interface)
  | .canReceiveFrom len, _ => asInt_effect (canReceiveFrom_effect len)
  | .canTimedReceiveFrom len timeout, _ =>
    asInt_effect (timedWith_effect (canReceiveFrom_effect len) _ timeout)
  | .canSetReceiveFilter .., _ => asUnit_effect (setOption_effect _ _ _ _)
  | .canSetErrorFilter .., _ => asUnit_effect (setOption_effect _ _ _ _)
  | .canSetLocalLoopback _, _ => asUnit_effect (setOption_effect _ _ _ _)
  | .canSetReceiveOwnMessages _, _ => asUnit_effect (setOption_effect _ _ _ _)

/-! ## The operations that connect or disconnect -/

/-- Nothing has happened to the object, and nothing was heard of the peer. -/
def Untouched (f : Frame) (evs : List Event) (f' : Frame) : Prop :=
  f'.this = f.this ∧ ∀ e ∈ evs, e.quiet = true

instance : Framing Untouched where
  refl f := ⟨rfl, by simp⟩
  append h h' := ⟨h'.1.trans h.1, fun e he => (List.mem_append.1 he).elim (h.2 e) (h'.2 e)⟩
  quiet f e h := ⟨rfl, by simpa using h⟩

/-- The last call has changed the association, and the flag is cleared on the replies in `clears`.
-/
structure Reassociated (clears : Event → Prop) (a : SimpleSocket) (evs : List Event)
    (b : SimpleSocket) : Prop where
  socket : b.mSocket = a.mSocket
  last : ∃ pre e, evs = pre ++ [e] ∧ (∀ e' ∈ pre, e'.quiet = true) ∧ e.associates ∧
    ((clears e ∧ b.mPeerDisconnected = false) ∨
      (¬clears e ∧ b.mPeerDisconnected = a.mPeerDisconnected))

/-- A method that changes the association when it returns, and does not when it throws. -/
def Associating {α : Type} (clears : Event → Prop) (m : Method α) : Prop :=
  ∀ s, m.wp (fun as r s' => match r with
    | .error _ => FrameEffect s.vars (as.map Prod.snd) s'.vars
    | .ok _ => Reassociated clears s.vars.this (as.map Prod.snd) s'.vars.this) s

namespace Associating

variable {α β : Type} {clears : Event → Prop} {m : Method α}

theorem bind {f : α → Method β} (h : m.Preserves Untouched) (hf : ∀ a, Associating clears (f a)) :
    Associating clears (m >>= f) := fun s => by
  rw [wp_bind]
  refine wp_mono (h s) fun as r s₁ ⟨hthis, hquiet⟩ => ?_
  have hpre : FrameEffect s.vars (as.map Prod.snd) s₁.vars := by
    rw [FrameEffect, hthis]
    exact .refl _ hquiet
  cases r with
  | error e => exact hpre
  | ok a =>
    apply wp_mono (hf a s₁)
    intro as' r' s₂ h₂
    rw [List.map_append]
    cases r' with
    | error e => exact FlagEffect.append hpre h₂
    | ok b =>
      obtain ⟨hsock, pre, e, hevs, hq, ha, hflag⟩ := h₂
      rw [hthis] at hsock hflag
      refine ⟨hsock, as.map Prod.snd ++ pre, e, ?_, fun e' he' => ?_, ha, hflag⟩
      · rw [hevs, List.append_assoc]
      · exact (List.mem_append.1 he').elim (hquiet e') (hq e')

/-- What is made of the result does not matter. -/
theorem map {g : α → β} (h : Associating clears m) : Associating clears (do return g (← m)) :=
  fun s => by
  rw [wp_bind]
  apply wp_mono (h s)
  intro as r s₁ h₁
  cases r with
  | error e => exact h₁
  | ok a => simpa using h₁

end Associating

section Associating

theorem reassociated_single {clears : Event → Prop} {a b : SimpleSocket} {e : Event}
    (hs : b.mSocket = a.mSocket) (ha : e.associates)
    (hf : (clears e ∧ b.mPeerDisconnected = false) ∨
      (¬clears e ∧ b.mPeerDisconnected = a.mPeerDisconnected)) : Reassociated clears a [e] b :=
  ⟨hs, [], e, rfl, by simp, ha, hf⟩

theorem inetConnect_associating (address : Str) (port : BitVec 16) :
    Associating (fun _ => True) (InternetSocket.connect address port) := by
  unfold InternetSocket.connect
  refine .bind (inetLocalAddress_unchanged _ _) fun addr => .bind thisSocket_unchanged fun fd => ?_
  intro s
  rw [wp_bind]
  apply wp_sys.2
  intro b r _
  cases r with
  | error e => exact effect_single rfl (or_iff_left id).symm id
  | ok v => exact reassociated_single rfl trivial (Or.inl ⟨trivial, rfl⟩)

/-- The resolver can fail at every address; nothing has happened to the socket by then. -/
theorem sctpConnect_associating (addresses : List Str) (port : BitVec 16) :
    Associating (fun _ => True) (SCTPSocket.connect addresses port) := by
  unfold SCTPSocket.connect
  refine .bind (fillAddresses_unchanged _ _) fun dest => .bind thisSocket_unchanged fun fd => ?_
  intro s
  rw [wp_bind]
  apply wp_sys.2
  intro b r _
  cases r with
  | error e => exact effect_single rfl (or_iff_left id).symm id
  | ok v => exact reassociated_single rfl trivial (Or.inl ⟨trivial, rfl⟩)

theorem unixConnect_associating (path : Str) :
    Associating (fun _ => False) (UnixSocket.connect path) := by
  unfold UnixSocket.connect
  refine .bind (unixLocalAddress_unchanged _) fun addr => .bind thisSocket_unchanged fun fd => ?_
  intro s
  rw [wp_bind]
  apply wp_sys.2
  intro b r _
  cases r with
  | error e => exact effect_single rfl (or_iff_left id).symm id
  | ok v => exact reassociated_single rfl trivial (Or.inr ⟨id, rfl⟩)

theorem canConnect_associating (interface : Str) :
    Associating (fun _ => False) (CANSocket.connect interface) := by
  unfold CANSocket.connect
  refine .bind thisSocket_unchanged fun fd => ?_
  refine .bind (getInterfaceIndex_unchanged _ _) fun index => ?_
  intro s
  rw [wp_bind]
  apply wp_sys.2
  intro b r _
  cases r with
  | error e => exact effect_single rfl (or_iff_left id).symm id
  | ok v => exact reassociated_single rfl trivial (Or.inr ⟨id, rfl⟩)

/-- The reply is an error. -/
def Event.failed : Event → Prop
  | ⟨.sys _ _, .error _⟩ => True
  | _ => False

/-- `disconnect` clears the flag on `ECONNRESET`, and leaves it when `connect` succeeds. -/
theorem disconnect_associating : Associating Event.failed disconnect := by
  unfold disconnect
  refine .bind thisSocket_unchanged fun fd => ?_
  intro s
  rw [wp_bind]
  apply wp_sys.2
  intro b r _
  cases r with
  | error e =>
    change Op.wp (if failed (.error e : Except Errno Unit) then _ else _) _ ⟨e, s.vars⟩
    simp only [failed_error, if_true, wp_bind, wp_errno, wp_ite, wp_throwSocket,
      wp_setPeerDisconnected]
    by_cases he : e = Errno.econnreset
    · rw [if_neg (by simpa using he)]
      exact reassociated_single rfl he (Or.inl ⟨trivial, rfl⟩)
    · rw [if_pos he]
      exact effect_single rfl (or_iff_left id).symm he
  | ok v => exact reassociated_single rfl trivial (Or.inr ⟨id, rfl⟩)

end Associating

/-- The replies after which a connecting or disconnecting operation clears the flag. -/
def Operation.clearsOn : Operation → Event → Prop
  | .inetConnect .., _ => True
  | .sctpConnect .., _ => True
  | .disconnect, e => e.failed
  | _, _ => False

theorem Operation.body_associating :
    ∀ op : Operation, op.associates = true → Associating op.clearsOn op.body
  | .inetConnect address port, _ => .map (inetConnect_associating address port)
  | .sctpConnect addresses port, _ => .map (sctpConnect_associating addresses port)
  | .unixConnect path, _ => .map (unixConnect_associating path)
  | .canConnect interface, _ => .map (canConnect_associating interface)
  | .disconnect, _ => .map disconnect_associating

/-! ## One call -/

/-- What a call does to the object: it leaves the association alone, or it connects or disconnects
and returns. -/
inductive CallEffect (op : Operation) (a : SimpleSocket) (evs : List Event)
    (ret : Except Exn Value) (b : SimpleSocket) : Prop
  | kept (hop : op.associates = true → ∃ x, ret = .error x) (h : FlagEffect a evs b)
  | reassociated (hop : op.associates = true) (hret : ∃ v, ret = .ok v)
      (h : Reassociated op.clearsOn a evs b)

theorem invoke_effect {c : Invocation} {this this' : SimpleSocket} {tr : List Event} {o : Outcome}
    (h : Runs (invoke c this) tr (o, this')) :
    CallEffect c.op this (settled tr) o.ret this' := by
  have key := invoke_wp (Q := fun as r f => CallEffect c.op this (as.map Prod.snd) r f.this) h ?_
  · rwa [map_snd_answers] at key
  by_cases hop : c.op.associates = true
  · apply wp_mono (c.op.body_associating hop _)
    intro as r s' hs
    cases r with
    | error x => exact .kept (fun _ => ⟨x, rfl⟩) hs
    | ok v => exact .reassociated hop ⟨v, rfl⟩ hs
  · apply wp_mono (c.op.body_effect (by simpa using hop) _)
    intro as r s' hs
    exact .kept (fun hop' => absurd hop' hop) hs

theorem CallEffect.socket {op : Operation} {a b : SimpleSocket} {evs : List Event}
    {ret : Except Exn Value} (h : CallEffect op a evs ret b) : b.mSocket = a.mSocket := by
  cases h with
  | kept _ h => exact h.socket
  | reassociated _ _ h => exact h.socket

/-! ## Runs -/

/-- Every state of a run has the descriptor of the first. -/
theorem SocketRun.mSocket_eq {K : Kernel posix} {this : SimpleSocket} {k₀ : K.State}
    {es : List CallEntry} {s : SimpleSocket} {k : K.State} (h : SocketRun K this k₀ es s k) :
    s.mSocket = this.mSocket ∧ ∀ e ∈ es, e.pre.mSocket = this.mSocket := by
  refine h.invariant (P := fun es s _ => s.mSocket = this.mSocket ∧
    ∀ e ∈ es, e.pre.mSocket = this.mSocket) (G := fun _ => True) (fun _ _ => trivial)
    ⟨rfl, fun _ he => (nomatch he)⟩ ?_
  intro es op s k tr r s' k' ⟨hs, hall⟩ _ hr _
  refine ⟨(invoke_effect hr).socket.trans hs, fun e he => ?_⟩
  rcases List.mem_append.1 he with he | he
  · exact hall e he
  · obtain rfl := List.mem_singleton.1 he
    exact hs

end NET
