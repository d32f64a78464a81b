import Mathlib.Data.List.Forall2
import SimpleSocket.Interact.Fifo
import SimpleSocket.Verify.DisconnectReport

/-!
# Delivery of UDP datagrams, and replies to their senders

The datagram queue of a UDP socket. Every receive call takes the datagram at its head and stores all
that fits, or takes nothing and leaves the caller's variables alone; it takes nothing only when a
system call has failed or `poll` has reported nothing to read. The address and port it reports lead
a reply to the sender.
-/

namespace NET

open Op Interact SimpleSocket

/-- A UDP datagram: its length is a 16-bit field. -/
structure Datagram where
  payload : List UInt8
  addr : InAddr
  sinPort : BitVec 16
  length_lt : payload.length < 65536

/-- The address structure of the sender. -/
def Datagram.sender (d : Datagram) : SockaddrIn := ⟨afInet, d.sinPort, d.addr⟩

/-- What an event takes from the queue of the descriptor `fd`: `recvfrom` the head when it succeeds,
everything else nothing. -/
def udpOut (fd : ℤ) : Event → List Datagram → Prop
  | ⟨.sys _ (.recvfrom fd' len .inet), .ok (got, name)⟩, ds =>
    if fd' = fd then ∃ d : Datagram, ds = [d] ∧ got.bytes = d.payload.take len ∧ name = d.sender
    else ds = []
  | _, ds => ds = []

/-- The datagram queue of the descriptor `fd`. -/
def udpQueue (fd : ℤ) : Kernel posix := queueKernel (udpOut fd)

theorem udpOut_again {fd : ℤ} {e : Event} {ds : List Datagram} (h : e.again = true)
    (hout : udpOut fd e ds) : ds = [] := by
  obtain ⟨c, rfl⟩ := Event.eq_of_again h
  cases c with
  | recvfrom fd' len kind => cases kind <;> exact hout
  | _ => exact hout

/-! ## One call -/

/-- The payload was stored as far as it fits, and `source` and `port` reported. -/
structure Delivered (len : ℕ) (payload : List UInt8) (source : Str) (port : BitVec 16)
    (before after : Vars) (ret : Except Exn Value) : Prop where
  ret_eq : ret = .ok (.int (min len payload.length : ℕ))
  vars : after = { before with
    buffer := overwrite before.buffer (payload.take len)
    source := source
    sourcePort := port }

/-- Why a receive call takes nothing: `recvfrom` failed, and it threw; or, with a timeout, `poll`
failed, and it threw, or `poll` reported nothing to read, and it returned 0. -/
inductive NothingRead (kind : AddrKind) (fd : ℤ) (len : ℕ) (evs : List Event) :
    Option ℤ → Except Exn Value → Prop
  | recvfrom {timeout : Option ℤ} {e : Errno}
      (h : Event.sys .tempFailureRetry (.recvfrom fd len kind) (.error e) ∈ evs) :
      NothingRead kind fd len evs timeout
        (.error (.socket ⟨"Receive failed (recvfrom)", true, e⟩))
  | poll {timeout : ℤ} {e : Errno} (h : Event.sys .tempFailureRetry (.poll fd
      (pollIn ||| pollPri ||| pollRdHup) timeout) (.error e) ∈ evs) :
      NothingRead kind fd len evs (some timeout)
        (.error (.socket ⟨"Receive failed (poll)", true, e⟩))
  | idle {timeout : ℤ} {revents : BitVec 16} (hr : readable revents = false)
      (h : Event.sys .tempFailureRetry (.poll fd (pollIn ||| pollPri ||| pollRdHup) timeout)
        (.ok revents) ∈ evs) :
      NothingRead kind fd len evs (some timeout) (.ok (.int 0))

theorem NothingRead.cons {kind : AddrKind} {fd : ℤ} {len : ℕ} {evs : List Event} {timeout : ℤ}
    {ret : Except Exn Value} (e : Event) (h : NothingRead kind fd len evs none ret) :
    NothingRead kind fd len (e :: evs) (some timeout) ret := by
  cases h with
  | recvfrom h => exact .recvfrom (List.mem_cons_of_mem _ h)

/-- The outcome of a receive call that took `ds`: without a datagram the caller's variables are as
they were. -/
def UdpOutcome (fd : ℤ) (len : ℕ) (timeout : Option ℤ) (evs : List Event) (before after : Vars)
    (ret : Except Exn Value) (ds : List Datagram) : Prop :=
  (∃ d, ds = [d] ∧
    Delivered len d.payload (inetNtoa d.addr) (ntohs d.sinPort) before after ret) ∨
  (ds = [] ∧ after = before ∧ NothingRead .inet fd len evs timeout ret)

/-- A method that takes at most the head of the queue, with the outcome to match. -/
def UdpReceives (len : ℕ) (timeout : Option ℤ) (m : Method ℤ) : Prop :=
  ∀ s, m.wp (fun as r s' => ∀ dss,
    List.Forall₂ (udpOut s.vars.this.mSocket) (as.map Prod.snd) dss →
      UdpOutcome s.vars.this.mSocket len timeout (as.map Prod.snd) s.vars.vars s'.vars.vars
        (r.map Value.int) dss.flatten) s

/-- Every datagram fits into an `int`. -/
theorem Datagram.take_le (d : Datagram) (len : ℕ) : (d.payload.take len).length ≤ intMax := by
  have := d.length_lt
  rw [List.length_take]
  unfold intMax
  omega

theorem udpOut_recvfrom {fd : ℤ} {w : Retry} {len : ℕ} {got : Received len} {name : SockaddrIn}
    {ds : List Datagram}
    (h : udpOut fd (Event.sys w (.recvfrom fd len .inet) (.ok (got, name))) ds) :
    ∃ d : Datagram, ds = [d] ∧ got.bytes = d.payload.take len ∧ name = d.sender := by
  simpa [udpOut] using h

theorem Delivered.of_bytes {len : ℕ} {payload bytes : List UInt8} {source : Str}
    {port : BitVec 16} {before after : Vars} (h : bytes = payload.take len)
    (hle : bytes.length ≤ intMax) (hafter : after = { before with
      buffer := overwrite before.buffer bytes
      source := source
      sourcePort := port }) :
    Delivered len payload source port before after (.ok (.int (toInt bytes.length))) := by
  subst h
  refine ⟨?_, hafter⟩
  rw [toInt_of_le hle, List.length_take]

theorem receiveFrom_udp (len : ℕ) : UdpReceives len none (UDPSocket.receiveFrom len) := by
  intro s
  rw [UDPSocket.receiveFrom, wp_bind]
  refine wp_lib.2 fun b₀ c => wp_receiveDatagram ?_ ?_ ?_
  · intro b e dss hdss
    rcases hdss with _ | ⟨h₁, _ | ⟨h₂, _ | _⟩⟩
    cases h₁
    cases h₂
    exact Or.inr ⟨rfl, rfl, .recvfrom (List.mem_cons_of_mem _ List.mem_cons_self)⟩
  · intro b got name err hneg dss hdss
    exfalso
    rcases hdss with _ | ⟨_, _ | ⟨h₂, _⟩⟩
    obtain ⟨d, -, hgot, -⟩ := udpOut_recvfrom h₂
    rw [hgot, toInt_of_le (d.take_le len)] at hneg
    omega
  · intro b got name err _
    rw [wp_modify]
    intro dss hdss
    rcases hdss with _ | ⟨h₁, _ | ⟨h₂, _ | _⟩⟩
    cases h₁
    obtain ⟨d, rfl, hgot, rfl⟩ := udpOut_recvfrom h₂
    refine Or.inl ⟨d, rfl, Delivered.of_bytes hgot (hgot ▸ d.take_le len) rfl⟩

theorem timedReceiveFrom_udp (len : ℕ) (timeout : ℤ) :
    UdpReceives len (some timeout) (UDPSocket.timedReceiveFrom len timeout) := by
  intro s
  rw [UDPSocket.timedReceiveFrom]
  refine wp_timedWith_of ?_ ?_ ?_
  · intro b e dss hdss
    rcases hdss with _ | ⟨h₁, _ | _⟩
    cases h₁
    exact Or.inr ⟨rfl, rfl, .poll List.mem_cons_self⟩
  · intro b revents err hr dss hdss
    rcases hdss with _ | ⟨h₁, _ | _⟩
    cases h₁
    exact Or.inr ⟨rfl, Frame.noted_vars _ _, .idle hr List.mem_cons_self⟩
  · intro b revents err _
    apply wp_mono (receiveFrom_udp len _)
    intro as ret s' h dss hdss
    rcases hdss with _ | ⟨h₁, hdss⟩
    cases h₁
    have key := h _ (by rwa [Frame.noted_mSocket])
    rw [Frame.noted_vars, Frame.noted_mSocket] at key
    exact key.imp_right fun h => ⟨h.1, h.2.1, h.2.2.cons _⟩

/-! ## Replies -/

/-- `inet_aton` accepts the standard dotted form. -/
def AcceptsQuads : Event → Prop
  | ⟨.lib (.inetAton s), parsed⟩ => ∀ a, parseQuad s = some a → parsed = some a
  | _ => True

/-- The events of a reply to `d`: the text is parsed, no name is resolved, and the whole buffer goes
to the address the datagram came from. -/
def RepliesTo (fd : ℤ) (data : List UInt8) (d : Datagram) (evs : List Event) : Prop :=
  ∃ c r, evs = [Event.lib .uninitIn c, Event.lib (.inetAton (inetNtoa d.addr)) (some d.addr),
    Event.sys .tempFailureRetry (.sendto fd data (.inet d.sender)) r]

theorem parsed_eq {evs : List Event} (h : ∀ e ∈ evs, AcceptsQuads e) {a : InAddr}
    {parsed : Option InAddr} (he : Event.lib (.inetAton (inetNtoa a)) parsed ∈ evs) :
    parsed = some a := h _ he a (parseQuad_inetNtoa a)

theorem sendTo_replies (data : List UInt8) (d : Datagram) (s : Proc Frame) :
    (UDPSocket.sendTo data (inetNtoa d.addr) (ntohs d.sinPort)).wp (fun as _ _ =>
      (∀ e ∈ as.map Prod.snd, AcceptsQuads e) →
        RepliesTo s.vars.this.mSocket data d (as.map Prod.snd)) s := by
  have hcstr := cStr_of_no_nul (nul_not_mem_inetNtoa d.addr)
  rw [UDPSocket.sendTo, wp_bind]
  -- the text of an address is never handed to the resolver
  refine wp_inetLocalAddress ?_ ?_ ?_ <;> rw [hcstr]
  · intro b₀ c b₁ a
    dsimp only
    rw [wp_sendDatagram, htons_ntohs]
    intro b r _
    dsimp only
    split <;> intro h <;> cases parsed_eq h (List.mem_cons_of_mem _ List.mem_cons_self) <;>
      exact ⟨c, r, rfl⟩
  · intro b₀ c b₁ b₂ a
    dsimp only
    rw [wp_sendDatagram]
    intro b r _
    dsimp only
    split <;> intro h <;> cases parsed_eq h (List.mem_cons_of_mem _ List.mem_cons_self)
  · intro b₀ c b₁ b₂ h
    cases parsed_eq h (List.mem_cons_of_mem _ List.mem_cons_self)

/-! ## Runs -/

/-- The buffer length of a datagram receive call. -/
def Operation.udpReceiveLen : Operation → Option ℕ
  | .udpReceiveFrom len => some len
  | .udpTimedReceiveFrom len _ => some len
  | _ => none

/-- The timeout of a datagram receive call. -/
def Operation.udpTimeout : Operation → Option ℤ
  | .udpTimedReceiveFrom _ timeout => some timeout
  | _ => none

theorem body_udpReceives {op : Operation} {len : ℕ} (h : op.udpReceiveLen = some len) :
    ∃ m, op.body = asInt m ∧ UdpReceives len op.udpTimeout m := by
  cases op with
  | udpReceiveFrom len' =>
    obtain rfl := Option.some.inj h
    exact ⟨_, rfl, receiveFrom_udp len'⟩
  | udpTimedReceiveFrom len' timeout =>
    obtain rfl := Option.some.inj h
    exact ⟨_, rfl, timedReceiveFrom_udp len' timeout⟩
  | _ => cases h

/-- The call took `ds` from the queue, and told its caller so. -/
def UdpReceived (e : CallEntry) (ds : List Datagram) : Prop :=
  ∃ len, e.op.op.udpReceiveLen = some len ∧ UdpOutcome e.pre.mSocket len e.op.op.udpTimeout
    (settled e.events) e.op.vars e.result.vars e.result.ret ds

theorem call_udpReceived {e : CallEntry} {len : ℕ} (hop : e.op.op.udpReceiveLen = some len)
    (h : Runs (invoke e.op e.pre) e.events (e.result, e.post)) {q q' : Fifo Datagram}
    (hk : (udpQueue e.pre.mSocket).Accepts q e.events q') :
    ∃ ds, UdpReceived e ds ∧ q'.taken = q.taken ++ ds ∧ ∃ new, q'.arrived = q.arrived ++ new := by
  obtain ⟨m, hbody, hm⟩ := body_udpReceives hop
  have key := invoke_wp (Q := fun as r f => ∀ dss, List.Forall₂ (udpOut e.pre.mSocket)
    (as.map Prod.snd) dss → UdpOutcome e.pre.mSocket len e.op.op.udpTimeout (as.map Prod.snd)
      e.op.vars f.vars r dss.flatten) h (by
      rw [hbody, wp_asInt]
      exact hm _)
  rw [map_snd_answers] at key
  obtain ⟨dss, hall, htaken, hnew⟩ :=
    queueKernel.accepts (queueKernel.settled (fun _ _ => udpOut_again) hk)
  exact ⟨dss.flatten, ⟨len, hop, key dss hall⟩, htaken, hnew⟩

/-- A `sendTo` with the reported source of `d` goes to the sender of `d`. -/
def Answerable (d : Datagram) (source : Str) (sourcePort : BitVec 16) : Prop :=
  ∀ (data : List UInt8) (vars : Vars) (err : Errno) (this this' : SimpleSocket) (o : Outcome)
    (tr : List Event), Runs (invoke ⟨.udpSendTo data source sourcePort, vars, err⟩ this) tr
      (o, this') → (∀ e ∈ settled tr, AcceptsQuads e) → RepliesTo this.mSocket data d (settled tr)

theorem answerable_source (d : Datagram) : Answerable d (inetNtoa d.addr) (ntohs d.sinPort) := by
  intro data vars err this this' o tr h
  have key := invoke_wp (Q := fun as _ _ => (∀ e ∈ as.map Prod.snd, AcceptsQuads e) →
    RepliesTo this.mSocket data d (as.map Prod.snd)) h (wp_asUnit.2 (sendTo_replies data d _))
  rwa [map_snd_answers] at key

/-- **Datagrams are delivered in order, at most once, and none is lost; their sources answer.**
Every call of a run takes the head of the queue or nothing, what is left in the queue follows what
was taken, and the reported source of every delivered datagram leads back to its sender. -/
theorem udp_delivery {this s : SimpleSocket} {q₀ q : Fifo Datagram} {es : List CallEntry}
    (h : SocketRun (udpQueue this.mSocket) this q₀ es s q)
    (hops : ∀ e ∈ es, e.op.op.udpReceiveLen.isSome) :
    ∃ dss, List.Forall₂ (fun (e : CallEntry) ds => UdpReceived e ds ∧
        ∀ d ∈ ds, Answerable d e.result.vars.source e.result.vars.sourcePort) es dss ∧
      q.taken = q₀.taken ++ dss.flatten ∧ q.taken ++ q.queue = q.arrived ∧
      ∃ new, q.arrived = q₀.arrived ++ new := by
  suffices key : s.mSocket = this.mSocket ∧ ∃ dss, List.Forall₂ UdpReceived es dss ∧
      q.taken = q₀.taken ++ dss.flatten ∧ ∃ new, q.arrived = q₀.arrived ++ new by
    obtain ⟨-, dss, hall, htaken, hnew⟩ := key
    refine ⟨dss, List.Forall₂.imp (fun e ds hrec => ⟨hrec, fun d hd => ?_⟩) hall, htaken, q.inv,
      hnew⟩
    obtain ⟨len, -, ⟨d', rfl, hdel⟩ | ⟨rfl, -⟩⟩ := hrec
    · obtain rfl := List.mem_singleton.1 hd
      rw [hdel.vars]
      exact answerable_source d
    · cases hd
  refine h.invariant (P := fun es s (q : Fifo Datagram) => s.mSocket = this.mSocket ∧
    ∃ dss, List.Forall₂ UdpReceived es dss ∧ q.taken = q₀.taken ++ dss.flatten ∧
      ∃ new, q.arrived = q₀.arrived ++ new) hops ?_ ?_
  · exact ⟨rfl, [], .nil, by simp, [], by simp⟩
  · rintro es op s q tr r s' q' ⟨hsock, dss, hall, htaken, new, hnew⟩ hG hr hk
    obtain ⟨len, hlen⟩ := Option.isSome_iff_exists.1 hG
    rw [← hsock] at hk
    obtain ⟨ds, hrec, htaken', new', hnew'⟩ :=
      call_udpReceived (e := ⟨op, s, tr, r, s'⟩) hlen hr hk
    refine ⟨(invoke_effect hr).socket.trans hsock, dss ++ [ds], ?_, ?_, new ++ new', ?_⟩
    · exact List.rel_append hall (.cons hrec .nil)
    · rw [htaken', htaken, List.flatten_append, List.flatten_singleton, List.append_assoc]
    · rw [hnew', hnew, List.append_assoc]

set_option maxRecDepth 1000 in
/-- The datagram `[1, 2]` of 127.0.0.1, port 80, is received into a buffer of one byte. -/
theorem udp_delivery_truncated :
    ∃ (d : Datagram) (e : CallEntry), d.payload = [1, 2] ∧ e.result.vars.buffer = [1] ∧
      UdpReceived e [d] ∧ Answerable d e.result.vars.source e.result.vars.sourcePort := by
  have hr : Runs (invoke ⟨.udpReceiveFrom 1, ⟨[0], [], 0, 0, 0⟩, 0⟩ ⟨3, false⟩)
      [Event.lib .uninitIn ⟨0, 0, inAddrAny⟩, Event.sys .tempFailureRetry (.recvfrom 3 1 .inet)
        (.ok (⟨[1], by decide⟩, ⟨afInet, 0x5000, ⟨127, 0, 0, 1⟩⟩))]
      (⟨.ok (.int 1), ⟨[1], inetNtoa ⟨127, 0, 0, 1⟩, 80, 0, 0⟩⟩, ⟨3, false⟩) :=
    .cons (.answer rfl) (.cons (.answer rfl) (.nil _))
  have hk₁ : (udpQueue 3).step (Fifo.ofList [⟨[1, 2], ⟨127, 0, 0, 1⟩, 0x5000, by decide⟩])
      (Event.lib .uninitIn ⟨0, 0, inAddrAny⟩)
      (Fifo.ofList [⟨[1, 2], ⟨127, 0, 0, 1⟩, 0x5000, by decide⟩]) := ⟨[], rfl, rfl, rfl⟩
  have hk₂ : (udpQueue 3).step (Fifo.ofList [⟨[1, 2], ⟨127, 0, 0, 1⟩, 0x5000, by decide⟩])
      (Event.sys .tempFailureRetry (.recvfrom 3 1 .inet)
        (.ok (⟨[1], by decide⟩, ⟨afInet, 0x5000, ⟨127, 0, 0, 1⟩⟩)))
      ⟨[⟨[1, 2], ⟨127, 0, 0, 1⟩, 0x5000, by decide⟩], [⟨[1, 2], ⟨127, 0, 0, 1⟩, 0x5000, by decide⟩],
        [], rfl⟩ := ⟨_, ⟨_, rfl, rfl, rfl⟩, rfl, rfl⟩
  obtain ⟨dss, hall, htaken, -⟩ := udp_delivery (.single _ hr (.step hk₁ (.single hk₂)))
    (List.forall_mem_singleton.2 rfl)
  obtain _ | ⟨⟨hrec, hans⟩, _ | _⟩ := hall
  simp only [List.flatten_singleton] at htaken
  cases htaken
  exact ⟨_, _, rfl, rfl, hrec, hans _ (List.mem_singleton.2 rfl)⟩

end NET
