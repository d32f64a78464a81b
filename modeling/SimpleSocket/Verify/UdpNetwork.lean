import SimpleSocket.Interact.Network
import SimpleSocket.Interact.Product
import SimpleSocket.Verify.InetNames
import SimpleSocket.Verify.UdpDelivery

/-!
# UDP sockets on a network

Any number of UDP sockets exchange datagrams, each used by its own program, their system calls
interleaved in any way. The network loses, repeats, delays and reorders what is sent
(`Interact.network`), and foreign hosts send too. What is left to rely on: a datagram that a receive
operation hands out comes from outside, or a party has sent exactly this payload, with `sendTo` to
an address its text stands for or with `send` on a connected socket.
-/

namespace NET

open Op Interact SimpleSocket

/-- A datagram on its way. -/
structure Packet extends Datagram where
  dest : SockaddrIn

/-- The hosts of a network. -/
structure UdpNetwork (ι : Type) where
  names : ι → Resolver
  -- whose address it is, as long as the parties run; a group and a foreign host are nobody's
  owner : SockaddrIn → Option ι
  -- an address that can be a source; a group, a broadcast address and `INADDR_ANY` are none
  unicast : InAddr → Bool

/-! ## The events of a party -/

section Host

variable {ι : Type}

/-- The sender of a datagram has this address: its own, and that of the name it was bound to. -/
structure UdpNetwork.SentFrom (N : UdpNetwork ι) (i : ι) (k : InetConfig) (a : SockaddrIn) :
    Prop where
  owner : N.owner a = some i
  port : ∀ n, k .name = some n → a.sinPort = n.sinPort
  addr : ∀ n, k .name = some n → N.unicast n.sinAddr = true → a.sinAddr = n.sinAddr

/-- `sendto` sends to the address it is given, and `send` to the peer. -/
def udpPosts (N : UdpNetwork ι) (i : ι) (k : InetConfig) : Event → List Packet → Prop
  | ⟨.sys _ (.sendto _ data (.inet a)), .ok _⟩, ms =>
    ∃ m : Packet, ms = [m] ∧ m.payload = data ∧ m.dest = a ∧ N.SentFrom i k m.sender
  | ⟨.sys _ (.send _ data), .ok _⟩, ms =>
    ∃ m : Packet, ms = [m] ∧ m.payload = data ∧ k .peer = some m.dest ∧ N.SentFrom i k m.sender
  | _, ms => ms = []

/-- A receive call takes one datagram; what does not fit is lost. -/
def udpTakes : Event → List Packet → Prop
  | ⟨.sys _ (.recvfrom _ len .inet), .ok (got, name)⟩, ms =>
    ∃ m : Packet, ms = [m] ∧ got.bytes = m.payload.take len ∧ name = m.sender
  | ⟨.sys _ (.recv _ len _), .ok got⟩, ms =>
    ∃ m : Packet, ms = [m] ∧ got.bytes = m.payload.take len
  | _, ms => ms = []

namespace UdpNetwork

variable (N : UdpNetwork ι)

def host (i : ι) : Host posix InetConfig Packet where
  step := inetStep (N.names i)
  posts := udpPosts N i
  takes := udpTakes

/-- What is sent to the address of a party goes to this party. -/
def Hears (i : ι) (m : Packet) : Prop := ∀ j, N.owner m.dest = some j → j = i

/-- Nobody sends from the address of another. -/
def Foreign (m : Packet) : Prop := N.owner m.sender = none

def kernel : Kernel (posix.tagged ι) := network N.host N.Hears N.Foreign

end UdpNetwork

theorem udpPosts_cases {N : UdpNetwork ι} {i : ι} {k : InetConfig} {e : Event} {ms : List Packet}
    {m : Packet} (h : udpPosts N i k e ms) (hm : m ∈ ms) : N.SentFrom i k m.sender ∧
      ((∃ w fd n, e = Event.sys w (.sendto fd m.payload (.inet m.dest)) (.ok n)) ∨
        (∃ w fd n, e = Event.sys w (.send fd m.payload) (.ok n)) ∧ k .peer = some m.dest) := by
  unfold udpPosts at h
  split at h
  · obtain ⟨m', rfl, rfl, rfl, hfrom⟩ := h
    obtain rfl := List.mem_singleton.1 hm
    exact ⟨hfrom, Or.inl ⟨_, _, _, rfl⟩⟩
  · obtain ⟨m', rfl, rfl, hpeer, hfrom⟩ := h
    obtain rfl := List.mem_singleton.1 hm
    exact ⟨hfrom, Or.inr ⟨⟨_, _, _, rfl⟩, hpeer⟩⟩
  · rw [h] at hm
    cases hm

theorem udpTakes_again {e : Event} {ms : List Packet} (h : e.again = true)
    (hout : udpTakes e ms) : ms = [] := by
  obtain ⟨c, rfl⟩ := Event.eq_of_again h
  cases c with
  | recvfrom fd len kind => cases kind <;> exact hout
  | _ => exact hout

/-- Every call can be answered so that nothing changes: system calls fail. -/
theorem host_answers (N : UdpNetwork ι) (i : ι) : ∀ c, ∃ r, posix.again c r = false ∧
    ∀ s, (N.host i).Moves s ⟨c, r⟩ s
  | .sys w c => by
    refine ⟨.error Errno.ebadf, by cases w <;> rfl, fun s => .refl ?_ ?_ ?_⟩
    · cases c with
      | connect fd addr =>
        cases addr with
        | inet a => exact ⟨rfl, by decide⟩
        | _ => exact rfl
      | bind fd addr => cases addr <;> exact rfl
      | getsockname fd kind => cases kind <;> exact rfl
      | getpeername fd kind => cases kind <;> exact rfl
      | _ => exact rfl
    · cases c with
      | sendto fd data addr => cases addr <;> exact rfl
      | _ => exact rfl
    · cases c with
      | recvfrom fd len kind => cases kind <;> exact rfl
      | _ => exact rfl
  | .lib c => by
    have hr : ∃ r : c.Val, ∀ k, inetStep (N.names i) k (Event.lib c r) k := by
      obtain ⟨r, -⟩ := posix_answers (.lib c)
      cases c with
      | inetAton s => exact ⟨_, fun k => ⟨rfl, rfl⟩⟩
      | inetAddr s => exact ⟨_, fun k => ⟨rfl, rfl⟩⟩
      | gethostbyname s => exact ⟨_, fun k => ⟨rfl, rfl⟩⟩
      | _ => exact ⟨r, fun k => rfl⟩
    obtain ⟨r, hr⟩ := hr
    exact ⟨r, rfl, fun s => .refl (hr s.regs) rfl rfl⟩

end Host

/-! ## Sending -/

/-- The methods of a `UDPSocket`, without a shutdown of the receiving direction: `recv` returns
after it without a datagram. -/
def Operation.ofUdp : Operation → Bool
  | .send _ | .receive _ | .timedReceive .. | .disconnect | .shutdown .stopSend => true
  | .inetConnect .. | .inetBindAny _ | .inetBind .. => true
  | .getLocalAddress | .getLocalPort | .getForeignAddress | .getForeignPort => true
  | .udpSendTo .. | .udpReceiveFrom _ | .udpTimedReceiveFrom .. => true
  | .udpSetMulticastTTL _ | .udpSetMulticastInterfaceAddr _ => true
  | .udpJoinGroup _ | .udpLeaveGroup _ => true
  | _ => false

/-- An operation hands over the datagram, when its socket has the registers `k`. -/
inductive HandsOverTo (names : Resolver) (k : InetConfig) (op : Operation) (m : Packet) : Prop
  | sendTo {address : Str} {port : BitVec 16} {a : InAddr}
      (hop : op = .udpSendTo m.payload address port) (ha : names.resolve address = some a)
      (hdest : m.dest = ⟨afInet, htons port, a⟩)
  | send (hop : op = .send m.payload) (hpeer : k .peer = some m.dest)

/-- The text is asked for at the resolver of the host. -/
def AskedAt (names : Resolver) : Event → Prop
  | ⟨.lib (.inetAton s), r⟩ => r = names.aton s
  | ⟨.lib (.gethostbyname s), r⟩ => r = names.host s
  | _ => True

theorem askedAt_of_step {names : Resolver} {k k' : InetConfig} {e : Event}
    (h : inetStep names k e k') : AskedAt names e := by
  obtain ⟨call, r⟩ := e
  cases call with
  | sys w c => trivial
  | lib c =>
    cases c with
    | inetAton s => exact h.2
    | gethostbyname s => exact h.2
    | _ => trivial

/-- The events of `sendTo`: questions, and the whole buffer sent to an address the text stands
for. -/
def SendsTo (names : Resolver) (fd : ℤ) (data : List UInt8) (address : Str) (port : BitVec 16)
    (e : Event) : Prop :=
  (∃ c r, e = Event.lib c r) ∨ ∃ a r, names.resolve address = some a ∧
    e = Event.sys .tempFailureRetry (.sendto fd data (.inet ⟨afInet, htons port, a⟩)) r

section SendTo

variable {names : Resolver} {data : List UInt8} {address : Str} {port : BitVec 16}

/-- The buffer is sent when the questions `pre` have told the address. -/
theorem sendDatagram_sends {pre : List (Answer posix)} {a : InAddr}
    (hpre : ∀ e ∈ pre.map Prod.snd, ∃ c r, e = Event.lib c r)
    (ha : (∀ e ∈ pre.map Prod.snd, AskedAt names e) → names.resolve address = some a)
    (s : Proc Frame) : (sendDatagram data (.inet ⟨afInet, htons port, a⟩)).wp (fun as _ _ =>
      (∀ e ∈ (pre ++ as).map Prod.snd, AskedAt names e) →
        ∀ e ∈ (pre ++ as).map Prod.snd, SendsTo names s.vars.this.mSocket data address port e)
      s := by
  rw [wp_sendDatagram]
  intro b r _
  have key : (∀ e ∈ (pre ++ [(b, Event.sys .tempFailureRetry (.sendto s.vars.this.mSocket data
      (.inet ⟨afInet, htons port, a⟩)) r)]).map Prod.snd, AskedAt names e) →
      ∀ e ∈ (pre ++ [(b, Event.sys .tempFailureRetry (.sendto s.vars.this.mSocket data
        (.inet ⟨afInet, htons port, a⟩)) r)]).map Prod.snd,
        SendsTo names s.vars.this.mSocket data address port e := by
    rw [List.map_append]
    intro hall
    obtain ⟨hasked, -⟩ := List.forall_mem_append.1 hall
    refine List.forall_mem_append.2 ⟨fun e he => Or.inl (hpre e he), ?_⟩
    exact List.forall_mem_singleton.2 (Or.inr ⟨a, r, ha hasked, rfl⟩)
  dsimp only
  split
  · exact key
  · exact key

theorem sendTo_sends (s : Proc Frame) : (UDPSocket.sendTo data address port).wp (fun as _ _ =>
    (∀ e ∈ as.map Prod.snd, AskedAt names e) →
      ∀ e ∈ as.map Prod.snd, SendsTo names s.vars.this.mSocket data address port e) s := by
  rw [UDPSocket.sendTo, wp_bind]
  refine wp_inetLocalAddress (fun b₀ c b₁ a => ?_) (fun b₀ c b₁ b₂ a => ?_) fun b₀ c b₁ b₂ => ?_
  · refine sendDatagram_sends ?_ (fun hasked => ?_) s
    · exact List.forall_mem_cons.2 ⟨⟨_, _, rfl⟩, List.forall_mem_singleton.2 ⟨_, _, rfl⟩⟩
    · have hparsed := (List.forall_mem_cons.1 (List.forall_mem_cons.1 hasked).2).1
      rw [Resolver.resolve, ← hparsed]
      rfl
  · refine sendDatagram_sends ?_ (fun hasked => ?_) s
    · exact List.forall_mem_cons.2 ⟨⟨_, _, rfl⟩, List.forall_mem_cons.2 ⟨⟨_, _, rfl⟩,
        List.forall_mem_singleton.2 ⟨_, _, rfl⟩⟩⟩
    · obtain ⟨hparsed, hrest⟩ := List.forall_mem_cons.1 (List.forall_mem_cons.1 hasked).2
      have hhost := (List.forall_mem_cons.1 hrest).1
      rw [Resolver.resolve, ← hparsed, ← hhost]
      rfl
  · refine fun _ => List.forall_mem_cons.2 ⟨Or.inl ⟨_, _, rfl⟩, ?_⟩
    exact List.forall_mem_cons.2 ⟨Or.inl ⟨_, _, rfl⟩,
      List.forall_mem_singleton.2 (Or.inl ⟨_, _, rfl⟩)⟩

end SendTo

section Calls

variable {ι : Type} {N : UdpNetwork ι} {i : ι} {c : Invocation} {this this' : SimpleSocket}
  {tr : List Event} {o : Outcome}

theorem send_of_kinds {op : Operation} (h : SysKind.send ∈ op.kinds) (hudp : op.ofUdp = true) :
    ∃ data, op = .send data := by
  cases op with
  | send data => exact ⟨data, rfl⟩
  | tcpSendAll data => cases hudp
  | _ => simp [Operation.kinds] at h

theorem sendTo_of_kinds {op : Operation} (h : SysKind.sendto .inet ∈ op.kinds) :
    ∃ data address port, op = .udpSendTo data address port := by
  cases op with
  | udpSendTo data address port => exact ⟨data, address, port, rfl⟩
  | _ => simp [Operation.kinds] at h

theorem send_asks (buffer : List UInt8) {fd : ℤ} : (SimpleSocket.send buffer).MakesOn fd
    fun x => x = .sys .tempFailureRetry (.send fd buffer) := by
  unfold SimpleSocket.send
  refine .onFd (.bind (.sys rfl) fun r => .ite (.bind .errno fun e => ?_) (.pure _))
  exact .ite (.bind (.modify fun _ => rfl) fun _ => .pure _) (.throwSocket _ _)

/-- What a call posts is its own: a sending operation leaves the registers as they are. -/
theorem call_posts (hudp : c.op.ofUdp = true) (hr : Runs (invoke c this) tr (o, this'))
    {s s' : Station InetConfig Packet} (hk : (N.host i).kernel.Accepts s tr s') :
    ∀ m ∈ s'.posted, m ∈ s.posted ∨
      (N.SentFrom i s.regs m.sender ∧ HandsOverTo (N.names i) s.regs c.op m) := by
  intro m hm
  rcases Host.posted_at hk m hm with hm | ⟨tr₁, e, tr₂, s₁, ms, rfl, hacc, hposts, hmem⟩
  · exact Or.inl hm
  have hcalls := invoke_calls hr
  have hregs (hkinds : ∀ kind ∈ c.op.kinds, kind.alters = false) : s₁.regs = s.regs := by
    have hinet : (inetKernel (N.names i)).Accepts s.regs tr₁ s₁.regs :=
      Host.accepts_regs (K := inetKernel (N.names i)) id (fun _ _ _ h => h) hacc
    refine accepts_inert hinet fun e' he' w sys r heq => ?_
    have hcall := hcalls e' (List.mem_append_left _ he')
    rw [heq] at hcall
    exact hkinds _ hcall.1
  have he : e ∈ tr₁ ++ e :: tr₂ := List.mem_append_right _ List.mem_cons_self
  obtain ⟨hfrom, ⟨w, fd, n, rfl⟩ | ⟨⟨w, fd, n, rfl⟩, hpeer⟩⟩ := udpPosts_cases hposts hmem
  · obtain ⟨data, address, port, hop⟩ := sendTo_of_kinds (hcalls _ he).1
    rw [hregs (by rw [hop]; exact List.forall_mem_singleton.2 rfl)] at hfrom
    have hasked : ∀ e ∈ tr₁ ++ _ :: tr₂, AskedAt (N.names i) e :=
      hk.forall_mem (K := (N.host i).kernel) fun _ _ _ h => askedAt_of_step (Host.Moves.regs h)
    have key := invoke_wp (Q := fun as _ _ => (∀ e ∈ as.map Prod.snd, AskedAt (N.names i) e) →
      ∀ e ∈ as.map Prod.snd, SendsTo (N.names i) this.mSocket data address port e) hr (by
        rw [hop]
        exact wp_asUnit.2 (sendTo_sends _))
    rw [map_snd_answers] at key
    have hsettled : Event.sys w (.sendto fd m.payload (.inet m.dest)) (.ok n) ∈ settled _ :=
      List.mem_filter.2 ⟨he, by cases w <;> rfl⟩
    rcases key (fun e he => hasked e (mem_settled he)) _ hsettled with ⟨l, r, h⟩ | ⟨a, r, ha, h⟩
    · cases h
    · injection h with hcall _
      injection hcall with _ hsys
      injection hsys with _ hdata haddr
      injection haddr with hdest
      exact Or.inr ⟨hfrom, .sendTo (hdata ▸ hop) ha hdest⟩
  · obtain ⟨data, hop⟩ := send_of_kinds (hcalls _ he).1 hudp
    have hsame := hregs (by rw [hop]; exact List.forall_mem_singleton.2 rfl)
    rw [hsame] at hfrom hpeer
    have hmakes : c.op.body.MakesOn this.mSocket
        fun x => x = .sys .tempFailureRetry (.send this.mSocket data) := by
      rw [hop]
      exact .bind (send_asks data) fun r => .pure _
    have hcall := hmakes.runs hr _ he
    injection hcall with _ hsys
    injection hsys with _ hdata
    exact Or.inr ⟨hfrom, .send (hdata ▸ hop) hpeer⟩

end Calls

/-! ## What a party has sent -/

/-- A call of a party, and the calls before it. -/
def CalledAfter {this : SimpleSocket} {evs : List Event} (A : Activity invoke this evs)
    (before : List CallEntry) (c : Invocation) : Prop :=
  (∃ e after, A.entries = before ++ e :: after ∧ e.op = c) ∨ (A.entries = before ∧ A.op = c)

/-- The party `i` has sent the datagram by this operation: to an address the text stands for, or to
the peer of the latest `connect`; from the address and port it was bound to, if it was bound to a
port. -/
structure HasSent {ι : Type} (N : UdpNetwork ι) (i : ι) (before : List CallEntry) (op : Operation)
    (m : Packet) : Prop where
  owner : N.owner m.sender = some i
  bound : ∀ b ∈ before, ∀ a port, BindsName (N.names i) a port b → port ≠ 0 →
    ntohs m.sinPort = port ∧ (N.unicast a = true → m.addr = a)
  sent : (∃ address port a, op = .udpSendTo m.payload address port ∧
      (N.names i).resolve address = some a ∧ m.dest = ⟨afInet, htons port, a⟩) ∨
    (op = .send m.payload ∧ ∃ a port, m.dest = ⟨afInet, htons port, a⟩ ∧
      Since (Connects (N.names i) a port) (ChangesPeer (N.names i)) before)

section Party

variable {ι : Type} {N : UdpNetwork ι} {i : ι} {this s : SimpleSocket}

/-- The registers of a party tell what its calls have configured. -/
theorem station_registers {k₀ : InetConfig} {k : (N.host i).kernel.State} {es : List CallEntry}
    (h : SocketRun (N.host i).kernel this (Station.new k₀) es s k) :
    SocketRun (inetKernel (N.names i)) this k₀ es s (Station.regs k) := by
  have hinet : (inetKernel (N.names i)).Accepts k₀ (es.flatMap Entry.events ++ [])
      (Station.regs k) := by
    rw [List.append_nil]
    exact Host.accepts_regs (K := inetKernel (N.names i)) id (fun _ _ _ h => h) h.accepts
  obtain ⟨k₁, hes, htail⟩ := h.of_accepts hinet
  obtain rfl := (Kernel.Accepts.nil_iff (K := inetKernel (N.names i)) fun _ _ => id).1 htail
  exact hes

/-- What the registers say of a datagram, the calls before it say too. -/
theorem hasSent_of_registers {k : (N.host i).kernel.State} {before : List CallEntry}
    (h : SocketRun (N.host i).kernel this (Station.new InetConfig.new) before s k) {op : Operation}
    {m : Packet} (hfrom : N.SentFrom i (Station.regs k) m.sender)
    (hhands : HandsOverTo (N.names i) (Station.regs k) op m) : HasSent N i before op m := by
  have hinet := station_registers h
  obtain ⟨hlast, -⟩ := run_registers hinet
  refine ⟨hfrom.owner, fun b hb a port hbind hport => ?_, ?_⟩
  · have hname := name_latest (boundOnce hinet) (hlast .name) hb hbind hport
    have hsame : m.sinPort = htons port := hfrom.port _ hname
    refine ⟨?_, hfrom.addr _ hname⟩
    rw [hsame]
    exact htons_ntohs port
  · cases hhands with
    | sendTo hop ha hdest => exact Or.inl ⟨_, _, _, hop, ha, hdest⟩
    | send hop hpeer =>
      obtain ⟨a, port, hdest, hsince⟩ := peer_latest rfl (hpeer ▸ hlast .peer)
      exact Or.inr ⟨hop, a, port, hdest, hsince⟩

/-- All that a party has posted it has sent by its calls, the one under way included. -/
theorem party_posts {evs : List Event} (A : Activity invoke this evs)
    (hops : ∀ c ∈ calls A, c.op.ofUdp = true) {k : (N.host i).kernel.State}
    (hk : (N.host i).kernel.Accepts (Station.new InetConfig.new) evs k) :
    ∀ m ∈ Station.posted k, ∃ before c, CalledAfter A before c ∧ HasSent N i before c.op m := by
  obtain ⟨hentries, hop⟩ := List.forall_mem_append.1 hops
  obtain ⟨k₁, hes, htail⟩ := A.session_alone hk
  -- the call under way is completed by calls that fail
  obtain ⟨rest, ⟨o, s'⟩, hr, hrest⟩ := A.now.exists_runs_of
    (P := fun e => ∀ s, (N.host i).Moves s e s) (host_answers N i)
  have hdone : (N.host i).kernel.Accepts k₁ (A.tail ++ rest) k :=
    htail.append (.of_forall fun e he => hrest e he k)
  intro m hm
  rcases call_posts (hop _ List.mem_cons_self) (A.trace.append hr) hdone m hm with
    hm | ⟨hfrom, hhands⟩
  · obtain ⟨before, e, after, heq, s₁, k₂, hbefore, hfrom, hhands⟩ :=
      Host.session_posted (R := fun k c m => N.SentFrom i k m.sender ∧
        HandsOverTo (N.names i) k c.op m) hes rfl (fun e he hr k k' hk =>
          call_posts (hentries _ (List.mem_map_of_mem he)) hr hk) m hm
    exact ⟨before, e.op, Or.inl ⟨e, after, heq, rfl⟩, hasSent_of_registers hbefore hfrom hhands⟩
  · exact ⟨A.entries, A.op, Or.inr ⟨rfl, rfl⟩, hasSent_of_registers hes hfrom hhands⟩

end Party

/-! ## Receiving -/

/-- The buffer length of an operation that takes a datagram. -/
def Operation.datagramLen : Operation → Option ℕ
  | .receive len => some len
  | .timedReceive len _ => some len
  | .udpReceiveFrom len => some len
  | .udpTimedReceiveFrom len _ => some len
  | _ => none

/-- The timeout of an operation that takes a datagram. -/
def Operation.datagramTimeout : Operation → Option ℤ
  | .timedReceive _ timeout => some timeout
  | .udpTimedReceiveFrom _ timeout => some timeout
  | _ => none

/-- What an operation that takes a datagram leaves in the caller's variables. -/
def Operation.stored (len : ℕ) (d : Datagram) (v : Vars) : Operation → Vars
  | .udpReceiveFrom _ | .udpTimedReceiveFrom .. => { v with
    buffer := overwrite v.buffer (d.payload.take len)
    source := inetNtoa d.addr
    sourcePort := ntohs d.sinPort }
  | _ => { v with buffer := overwrite v.buffer (d.payload.take len) }

/-- The call has taken the datagram, and told its caller so. -/
def TookDatagram (e : CallEntry) (d : Datagram) : Prop :=
  ∃ len, e.op.op.datagramLen = some len ∧
    e.result.ret = .ok (.int (min len d.payload.length : ℕ)) ∧
    e.result.vars = e.op.op.stored len d e.op.vars

/-- Why an operation takes nothing: one of its system calls failed, and it threw; or, with a
timeout, `poll` reported nothing to read. Then `timedReceive` may return what `poll` has returned.
-/
inductive TakesNothing (fd : ℤ) (evs : List Event) : Option ℤ → Except Exn Value → Prop
  | failed {timeout : Option ℤ} {w : Retry} {c : Sys} {what : String} {e : Errno}
      (h : Event.sys w c (.error e) ∈ evs) :
      TakesNothing fd evs timeout (.error (.socket ⟨what, true, e⟩))
  | idle {timeout : ℤ} {revents : BitVec 16} {n : ℤ} (hr : readable revents = false)
      (h : Event.sys .tempFailureRetry (.poll fd (pollIn ||| pollPri ||| pollRdHup) timeout)
        (.ok revents) ∈ evs) (hn : n = 0 ∨ n = 1) :
      TakesNothing fd evs (some timeout) (.ok (.int n))

/-- The outcome of an operation that took `ms`. -/
def StreamOutcome (fd : ℤ) (len : ℕ) (timeout : Option ℤ) (evs : List Event) (before after : Vars)
    (ret : Except Exn Value) (ms : List Packet) : Prop :=
  (∃ m : Packet, ms = [m] ∧ ret = .ok (.int (min len m.payload.length : ℕ)) ∧
    after = { before with buffer := overwrite before.buffer (m.payload.take len) }) ∨
  (ms = [] ∧ after = before ∧ TakesNothing fd evs timeout ret)

theorem TakesNothing.cons {fd : ℤ} {evs : List Event} {timeout : ℤ} {ret : Except Exn Value}
    (e : Event) (h : TakesNothing fd evs none ret) :
    TakesNothing fd (e :: evs) (some timeout) ret := by
  cases h with
  | failed h => exact .failed (List.mem_cons_of_mem _ h)

theorem NothingRead.takesNothing {fd : ℤ} {len : ℕ} {evs : List Event} {timeout : Option ℤ}
    {ret : Except Exn Value} (h : NothingRead .inet fd len evs timeout ret) :
    TakesNothing fd evs timeout ret := by
  cases h with
  | recvfrom h => exact .failed h
  | poll h => exact .failed h
  | idle hr h => exact .idle hr h (Or.inl rfl)

section Receive

variable {len : ℕ}

/-- A datagram is never too long to count. -/
theorem recv_count {got : Received len} {m : Packet} (hgot : got.bytes = m.payload.take len) :
    toInt got.bytes.length = (min len m.payload.length : ℕ) := by
  have hlen : got.bytes.length ≤ intMax := hgot ▸ m.take_le len
  rw [toInt_of_le hlen, hgot, List.length_take]

-- a comparison with a count is never evaluated
attribute [local irreducible] toInt

/-- So a `recv` that looks like a failure is one. -/
theorem recv_datagram (flags : ℤ) (failure : String) (s : Proc Frame) : Op.wp (do
      let ret := toInt (← SimpleSocket.recv len flags)
      if ret < 0 then throwSocket failure true else return ret)
    (fun as r s' => ∀ mss, List.Forall₂ udpTakes (as.map Prod.snd) mss →
      StreamOutcome s.vars.this.mSocket len none (as.map Prod.snd) s.vars.vars s'.vars.vars
        (r.map Value.int) mss.flatten) s := by
  rw [wp_bind, wp_recv]
  intro b r _
  dsimp only
  cases r with
  | error e =>
    have hneg : toInt (ssize (Except.map (fun got : Received len => got.bytes.length)
        (.error e : Except Errno (Received len)))) < 0 := by
      rw [Except.map, ssize_error, toInt_neg_one]
      decide
    rw [if_pos hneg]
    rintro mss (_ | ⟨h, _ | _⟩)
    cases h
    exact Or.inr ⟨rfl, rfl, .failed List.mem_cons_self⟩
  | ok got =>
    rw [Except.map, ssize_ok, wp_ite]
    by_cases hneg : toInt got.bytes.length < 0
    · rw [if_pos hneg]
      rintro mss (_ | ⟨⟨m, rfl, hgot⟩, _ | _⟩)
      rw [recv_count hgot] at hneg
      omega
    · rw [if_neg hneg]
      rintro mss (_ | ⟨⟨m, rfl, hgot⟩, _ | _⟩)
      refine Or.inl ⟨m, rfl, ?_, ?_⟩
      · exact congrArg (fun n => Except.ok (Value.int n)) (recv_count hgot)
      · rw [← hgot]
        rfl

theorem receive_datagram (s : Proc Frame) : (SimpleSocket.receive len).wp
    (fun as r s' => ∀ mss, List.Forall₂ udpTakes (as.map Prod.snd) mss →
      StreamOutcome s.vars.this.mSocket len none (as.map Prod.snd) s.vars.vars s'.vars.vars
        (r.map Value.int) mss.flatten) s := recv_datagram 0 _ s

theorem timedReceive_datagram (timeout : ℤ) (s : Proc Frame) :
    (SimpleSocket.timedReceive len timeout).wp (fun as r s' => ∀ mss,
      List.Forall₂ udpTakes (as.map Prod.snd) mss →
        StreamOutcome s.vars.this.mSocket len (some timeout) (as.map Prod.snd) s.vars.vars
          s'.vars.vars (r.map Value.int) mss.flatten) s := by
  refine wp_timedReceive_of ?_ ?_ ?_
  · rintro b e mss (_ | ⟨h, _ | _⟩)
    cases h
    exact Or.inr ⟨rfl, rfl, .failed List.mem_cons_self⟩
  · rintro b revents err n hr hn mss (_ | ⟨h, _ | _⟩)
    cases h
    exact Or.inr ⟨rfl, Frame.noted_vars _ _, .idle hr List.mem_cons_self hn⟩
  · intro b revents err _
    apply wp_mono (recv_datagram msgWaitall _ _)
    rintro as r s' h mss (_ | ⟨hpoll, hmss⟩)
    cases hpoll
    have key := h _ hmss
    rw [Frame.noted_vars, Frame.noted_mSocket] at key
    exact key.imp_right fun h => ⟨h.1, h.2.1, h.2.2.cons _⟩

end Receive

/-- The `receiveFrom` operations see the queue of datagrams of their own descriptor. -/
theorem udpOut_of_takes {kinds : List SysKind} {fd : ℤ} {e : Event} {ms : List Packet}
    (hcall : CallIn kinds fd e.call) (hrecv : SysKind.recv ∉ kinds) (h : udpTakes e ms) :
    udpOut fd e (ms.map Packet.toDatagram) := by
  obtain ⟨call, r⟩ := e
  cases call with
  | lib c =>
    obtain rfl : ms = [] := h
    exact rfl
  | sys w c =>
    obtain ⟨hkind, hfd⟩ := hcall
    cases c with
    | recv fd' len flags => exact absurd hkind hrecv
    | recvfrom fd' len kind =>
      cases kind with
      | inet =>
        cases r with
        | error e =>
          obtain rfl : ms = [] := h
          exact rfl
        | ok got =>
          obtain ⟨got, name⟩ := got
          obtain ⟨m, rfl, hgot, hname⟩ := h
          have hown : fd' = fd := by
            rcases hfd with hfd | hfd
            · exact Option.some.inj hfd
            · cases hfd
          simp only [udpOut, if_pos hown]
          exact ⟨m.toDatagram, rfl, hgot, hname⟩
      | _ =>
        obtain rfl : ms = [] := h
        exact rfl
    | _ =>
      obtain rfl : ms = [] := h
      exact rfl

/-- A call has taken `ms` from the inbox of its socket, and its caller knows. -/
inductive TookPackets (e : CallEntry) : List Packet → Prop
  | other (h : e.op.op.datagramLen = none) : TookPackets e []
  | nothing (hvars : e.result.vars = e.op.vars) (hret : TakesNothing e.pre.mSocket
      (settled e.events) e.op.op.datagramTimeout e.result.ret) : TookPackets e []
  | datagram {m : Packet} (h : TookDatagram e m.toDatagram) : TookPackets e [m]

section TookPackets

variable {e : CallEntry} {len : ℕ} {mss : List (List Packet)}

theorem took_of_stream {m : Method ℤ} {timeout : Option ℤ} (hlen : e.op.op.datagramLen = some len)
    (htimeout : e.op.op.datagramTimeout = timeout) (hstored : ∀ d v, e.op.op.stored len d v =
      { v with buffer := overwrite v.buffer (d.payload.take len) })
    (hbody : e.op.op.body = asInt m) (hm : ∀ s, m.wp (fun as r s' => ∀ mss,
      List.Forall₂ udpTakes (as.map Prod.snd) mss → StreamOutcome s.vars.this.mSocket len timeout
        (as.map Prod.snd) s.vars.vars s'.vars.vars (r.map Value.int) mss.flatten) s)
    (h : Runs (invoke e.op e.pre) e.events (e.result, e.post))
    (hall : List.Forall₂ udpTakes (settled e.events) mss) : TookPackets e mss.flatten := by
  have key := invoke_wp (Q := fun as r f => ∀ mss, List.Forall₂ udpTakes (as.map Prod.snd) mss →
    StreamOutcome e.pre.mSocket len timeout (as.map Prod.snd) e.op.vars f.vars r mss.flatten) h (by
      rw [hbody, wp_asInt]
      exact hm _)
  rw [map_snd_answers] at key
  rcases key mss hall with ⟨m, hms, hret, hvars⟩ | ⟨hms, hvars, hnothing⟩
  · rw [hms]
    refine .datagram ⟨len, hlen, hret, ?_⟩
    rw [hstored]
    exact hvars
  · rw [hms]
    refine .nothing hvars ?_
    rw [htimeout]
    exact hnothing

theorem took_of_udp (len : ℕ) (hlen : e.op.op.datagramLen = some len)
    (hop : e.op.op.udpReceiveLen = some len)
    (htimeout : e.op.op.datagramTimeout = e.op.op.udpTimeout)
    (hstored : ∀ d v, e.op.op.stored len d v = { v with
      buffer := overwrite v.buffer (d.payload.take len)
      source := inetNtoa d.addr
      sourcePort := ntohs d.sinPort })
    (hkinds : SysKind.recv ∉ e.op.op.kinds)
    (h : Runs (invoke e.op e.pre) e.events (e.result, e.post))
    (hall : List.Forall₂ udpTakes (settled e.events) mss) : TookPackets e mss.flatten := by
  obtain ⟨m, hbody, hm⟩ := body_udpReceives hop
  have key := invoke_wp (Q := fun as r f => ∀ dss, List.Forall₂ (udpOut e.pre.mSocket)
    (as.map Prod.snd) dss → UdpOutcome e.pre.mSocket len e.op.op.udpTimeout (as.map Prod.snd)
      e.op.vars f.vars r dss.flatten) h (by
      rw [hbody, wp_asInt]
      exact hm _)
  rw [map_snd_answers] at key
  have hdatagrams : List.Forall₂ (udpOut e.pre.mSocket) (settled e.events)
      (mss.map (List.map Packet.toDatagram)) := by
    rw [List.forall₂_map_right_iff]
    have hcalls : ∀ ev ∈ settled e.events, CallIn e.op.op.kinds e.pre.mSocket ev.call :=
      fun ev hev => invoke_calls h ev (mem_settled hev)
    refine ((List.forall₂_and_left _ _).2 ⟨hcalls, hall⟩).imp fun ev ms hev => ?_
    exact udpOut_of_takes hev.1 hkinds hev.2
  have hflat : (mss.map (List.map Packet.toDatagram)).flatten =
      mss.flatten.map Packet.toDatagram := List.map_flatten.symm
  have houtcome := key _ hdatagrams
  rw [hflat] at houtcome
  rcases houtcome with ⟨d, hds, hdel⟩ | ⟨hds, hvars, hnothing⟩
  · obtain ⟨m, hms, rfl⟩ := List.map_eq_singleton_iff.1 hds
    rw [hms]
    refine .datagram ⟨len, hlen, hdel.ret_eq, ?_⟩
    rw [hstored]
    exact hdel.vars
  · rw [List.map_eq_nil_iff.1 hds]
    refine .nothing hvars ?_
    rw [htimeout]
    exact hnothing.takesNothing

/-- An event of another operation takes nothing. -/
theorem takes_nil_of_kinds {kinds : List SysKind} {fd : ℤ} {e : Event} {ms : List Packet}
    (hcall : CallIn kinds fd e.call) (hrecv : SysKind.recv ∉ kinds)
    (hfrom : SysKind.recvfrom .inet ∉ kinds) (h : udpTakes e ms) : ms = [] := by
  obtain ⟨call, r⟩ := e
  cases call with
  | lib c => exact h
  | sys w c =>
    obtain ⟨hkind, -⟩ := hcall
    cases c with
    | recv fd' len flags => exact absurd hkind hrecv
    | recvfrom fd' len kind =>
      cases kind with
      | inet => exact absurd hkind hfrom
      | _ => exact h
    | _ => exact h

theorem flatten_eq_nil {α β : Type} {R : α → List β → Prop} {as : List α} {bss : List (List β)}
    (h : List.Forall₂ R as bss) (hR : ∀ a ∈ as, ∀ bs, R a bs → bs = []) : bss.flatten = [] := by
  induction h with
  | nil => rfl
  | cons hab _ ih =>
    rw [List.flatten_cons, hR _ List.mem_cons_self _ hab,
      ih fun a ha => hR a (List.mem_cons_of_mem _ ha)]
    rfl

theorem took_of_other (hnone : e.op.op.datagramLen = none)
    (h : Runs (invoke e.op e.pre) e.events (e.result, e.post))
    (hall : List.Forall₂ udpTakes (settled e.events) mss) : TookPackets e mss.flatten := by
  have hkinds : SysKind.recv ∉ e.op.op.kinds ∧ SysKind.recvfrom .inet ∉ e.op.op.kinds := by
    cases hop : e.op.op with
    | receive len => exact nomatch hop ▸ hnone
    | timedReceive len timeout => exact nomatch hop ▸ hnone
    | udpReceiveFrom len => exact nomatch hop ▸ hnone
    | udpTimedReceiveFrom len timeout => exact nomatch hop ▸ hnone
    | _ => simp [Operation.kinds]
  have hnil : mss.flatten = [] := by
    refine flatten_eq_nil hall fun ev hev ms htakes => ?_
    exact takes_nil_of_kinds (invoke_calls h ev (mem_settled hev)) hkinds.1 hkinds.2 htakes
  rw [hnil]
  exact .other hnone

/-- A call takes at most one datagram, and tells its caller so. -/
theorem call_took (h : Runs (invoke e.op e.pre) e.events (e.result, e.post)) {q q' : Fifo Packet}
    (hk : (queueKernel udpTakes).Accepts q e.events q') :
    ∃ ms, TookPackets e ms ∧ q'.taken = q.taken ++ ms := by
  obtain ⟨mss, hall, htaken, -⟩ :=
    queueKernel.accepts (queueKernel.settled (fun _ _ => udpTakes_again) hk)
  refine ⟨_, ?_, htaken⟩
  cases hop : e.op.op with
  | receive len =>
    exact took_of_stream (by rw [hop]; rfl) (by rw [hop]; rfl) (fun _ _ => by rw [hop]; rfl)
      (by rw [hop]; rfl) receive_datagram h hall
  | timedReceive len timeout =>
    exact took_of_stream (by rw [hop]; rfl) (by rw [hop]; rfl) (fun _ _ => by rw [hop]; rfl)
      (by rw [hop]; rfl) (timedReceive_datagram timeout) h hall
  | udpReceiveFrom len =>
    exact took_of_udp len (by rw [hop]; rfl) (by rw [hop]; rfl) (by rw [hop]; rfl)
      (fun _ _ => by rw [hop]; rfl) (by rw [hop]; simp [Operation.kinds]) h hall
  | udpTimedReceiveFrom len timeout =>
    exact took_of_udp len (by rw [hop]; rfl) (by rw [hop]; rfl) (by rw [hop]; rfl)
      (fun _ _ => by rw [hop]; rfl) (by rw [hop]; simp [Operation.kinds]) h hall
  | _ => exact took_of_other (by rw [hop]; rfl) h hall

end TookPackets

/-- What the calls of a party have taken, one after another, and the call under way; that is all
that is gone from its inbox. -/
theorem party_takes {ι : Type} {N : UdpNetwork ι} {i : ι} {this : SimpleSocket} {evs : List Event}
    (A : Activity invoke this evs) {k : (N.host i).kernel.State}
    (hk : (N.host i).kernel.Accepts (Station.new InetConfig.new) evs k) :
    ∃ mss now, List.Forall₂ TookPackets A.entries mss ∧
      (now = [] ∨ A.op.op.datagramLen.isSome = true ∧ ∃ m, now = [m]) ∧
      (Station.inbox k).taken = mss.flatten ++ now := by
  obtain ⟨k₁, hes, htail⟩ := A.session_alone hk
  have taken {tr : List Event} {k k' : (N.host i).kernel.State}
      (h : (N.host i).kernel.Accepts k tr k') :
      (queueKernel udpTakes).Accepts (Station.inbox k) tr (Station.inbox k') :=
    Host.accepts_inbox (O := udpTakes) (fun _ _ _ h => h) h
  obtain ⟨mss, hall, hbefore⟩ := Host.session_taken (T := TookPackets) hes fun e he hr k k' hk =>
    call_took hr (taken hk)
  -- the call under way is completed by calls that fail
  obtain ⟨rest, ⟨o, s'⟩, hr, hrest⟩ := A.now.exists_runs_of
    (P := fun e => ∀ s, (N.host i).Moves s e s) (host_answers N i)
  have hdone : (N.host i).kernel.Accepts k₁ (A.tail ++ rest) k :=
    htail.append (.of_forall fun e he => hrest e he k)
  obtain ⟨now, htook, hnow⟩ := call_took (e := ⟨A.op, A.state, A.tail ++ rest, o, s'⟩)
    (A.trace.append hr) (taken hdone)
  refine ⟨mss, now, hall, ?_, ?_⟩
  · cases htook with
    | other h => exact Or.inl rfl
    | nothing hvars hret => exact Or.inl rfl
    | datagram h =>
      obtain ⟨len, hlen, -⟩ := h
      exact Or.inr ⟨Option.isSome_iff_exists.2 ⟨len, hlen⟩, _, rfl⟩
  · rw [hnow, hbefore]
    rfl

/-! ## The network -/

section Network

variable {ι : Type} {N : UdpNetwork ι}

/-- The address that is reported stands for the sender. -/
theorem reply_dest (hquad : ∀ i a, (N.names i).aton (inetNtoa a) = some a) {e : CallEntry}
    {d : Datagram} (htook : TookDatagram e d) (hop : e.op.op.udpReceiveLen.isSome = true) {j : ι}
    {before : List CallEntry} {m : Packet} (hsent : HasSent N j before
      (.udpSendTo m.payload e.result.vars.source e.result.vars.sourcePort) m) :
    m.dest = d.sender := by
  obtain ⟨len, -, -, hvars⟩ := htook
  have hreported : e.result.vars.source = inetNtoa d.addr ∧
      e.result.vars.sourcePort = ntohs d.sinPort := by
    rw [hvars]
    cases h : e.op.op with
    | udpReceiveFrom len' => exact ⟨rfl, rfl⟩
    | udpTimedReceiveFrom len' timeout => exact ⟨rfl, rfl⟩
    | _ =>
      rw [h] at hop
      cases hop
  rcases hsent.sent with ⟨address, port, a, hcall, ha, hdest⟩ | ⟨hcall, -⟩
  · injection hcall with _ haddress hport
    rw [← haddress, hreported.1, Resolver.resolve,
      cStr_of_no_nul (nul_not_mem_inetNtoa d.addr), hquad] at ha
    rw [hdest, ← hport, hreported.2, htons_ntohs, ← Option.some.inj ha]
    rfl
  · cases hcall

variable [DecidableEq ι] {sock : ι → SimpleSocket} {tr : List (Interact.Event (posix.tagged ι))}

/-- What the caller of `e` can rely on, when it was given the datagram `m`. -/
structure Genuine (N : UdpNetwork ι) (A : ∀ j, Activity invoke (sock j) (view j tr)) (i : ι)
    (e : CallEntry) (m : Packet) : Prop where
  -- it was not sent to another party
  hears : N.Hears i m
  source : N.Foreign m ∨ ∃ j before c, CalledAfter (A j) before c ∧ HasSent N j before c.op m
  -- what is sent to the address that was reported is sent to the sender
  reply : e.op.op.udpReceiveLen.isSome = true → ∀ j before m', HasSent N j before
    (.udpSendTo m'.payload e.result.vars.source e.result.vars.sourcePort) m' → m'.dest = m.sender

/-- **UDP sockets on a network.** Whatever the parties call, however their system calls interleave
and whatever the network loses, repeats and reorders: what is gone from the inbox of a party was
taken by its calls, each of which takes nothing, or one datagram that is told to its caller as it
is. It was sent to this party or to a group; it comes from outside, or a party has sent it by one of
its calls, from the address and port it was bound to; and the address that is reported leads back to
it. -/
theorem udp_network (hquad : ∀ i a, (N.names i).aton (inetNtoa a) = some a)
    {k : ι → Station InetConfig Packet}
    (h : N.kernel.Accepts (fun _ => Station.new InetConfig.new) tr k)
    (A : ∀ i, Activity invoke (sock i) (view i tr))
    (hops : ∀ i, ∀ c ∈ calls (A i), c.op.ofUdp = true) (i : ι) :
    ∃ mss now, List.Forall₂ (fun e ms => TookPackets e ms ∧ ∀ m ∈ ms, Genuine N A i e m)
        (A i).entries mss ∧
      (now = [] ∨ (A i).op.op.datagramLen.isSome = true ∧ ∃ m, now = [m]) ∧
      (k i).inbox.taken = mss.flatten ++ now := by
  have hview (j : ι) : (N.host j).kernel.Accepts (Station.new InetConfig.new) (view j tr) (k j) :=
    network.accepts_view h j
  have hlegit := network.legitimate h (network.legitimate_new fun _ => InetConfig.new)
  obtain ⟨mss, now, hall, hnow, htaken⟩ := party_takes (A i) (hview i)
  refine ⟨mss, now, ?_, hnow, htaken⟩
  have harrived : ∀ ms ∈ mss, ∀ m ∈ ms, m ∈ (k i).inbox.arrived := by
    intro ms hms m hm
    rw [← (k i).inbox.inv]
    refine List.mem_append_left _ ?_
    rw [htaken]
    exact List.mem_append_left _ (List.mem_flatten_of_mem hms hm)
  have hboth := (List.forall₂_and_left _ _).2 ⟨harrived, hall.flip⟩
  refine hboth.flip.imp fun e ms htook => ⟨htook.2, fun m hm => ?_⟩
  obtain ⟨hin, htook⟩ := htook
  obtain ⟨hhears, hsource⟩ := hlegit i m (hin m hm)
  refine ⟨hhears, hsource.imp_right fun h => ?_, fun hop j before m' hsent => ?_⟩
  · obtain ⟨j, hj⟩ := h
    exact ⟨j, party_posts (A j) (hops j) (hview j) m hj⟩
  · cases htook with
    | datagram hgiven =>
      obtain rfl := List.mem_singleton.1 hm
      exact reply_dest hquad hgiven hop hsent
    | _ => cases hm

/-- A server binds its port, and receives what a client has sent to it. -/
theorem udp_network_received : ∃ (N : UdpNetwork Bool) (sock : Bool → SimpleSocket)
    (tr : List (Interact.Event (posix.tagged Bool)))
    (A : ∀ i, Activity invoke (sock i) (view i tr)) (e : CallEntry) (m : Packet),
    e.result.vars.buffer = [1, 2, 0, 0] ∧ TookPackets e [m] ∧ Genuine N A true e m := by
  let a : InAddr := ⟨127, 0, 0, 1⟩
  let N : UdpNetwork Bool := ⟨fun _ => ⟨parseQuad, fun _ => none⟩, fun a =>
    if a.sinPort = 0x5000 then some true else if a.sinPort = 0x5100 then some false else none,
    fun a => a != inAddrAny && !a.isMulticast⟩
  let m : Packet := ⟨⟨[1, 2], a, 0x5100, by decide⟩, ⟨afInet, 0x5000, a⟩⟩
  let sock : Bool → SimpleSocket := fun i => if i then ⟨3, false⟩ else ⟨4, false⟩
  let tr : List (Interact.Event (posix.tagged Bool)) := [
    ⟨(true, .sys .once (.bind 3 (.inet ⟨afInet, 0x5000, inAddrAny⟩))), .ok ()⟩,
    ⟨(false, .lib .uninitIn), ⟨0, 0, inAddrAny⟩⟩,
    ⟨(false, .lib (.inetAton (cStr (inetNtoa a)))), some a⟩,
    ⟨(false, .sys .tempFailureRetry (.sendto 4 [1, 2] (.inet ⟨afInet, 0x5000, a⟩))),
      .ok ⟨2, by decide, by decide⟩⟩,
    ⟨(true, .lib .uninitIn), ⟨0, 0, inAddrAny⟩⟩,
    ⟨(true, .sys .tempFailureRetry (.recvfrom 3 4 .inet)),
      .ok (⟨[1, 2], by decide⟩, ⟨afInet, 0x5100, a⟩)⟩]
  have hbind : Runs (invoke ⟨.inetBindAny 80, ⟨[], [], 0, 0, 0⟩, 0⟩ ⟨3, false⟩)
      [Event.sys .once (.bind 3 (.inet ⟨afInet, 0x5000, inAddrAny⟩)) (.ok ())]
      (⟨.ok .unit, ⟨[], [], 0, 0, 0⟩⟩, ⟨3, false⟩) := .cons (.answer rfl) (.nil _)
  have hsend : Runs (invoke ⟨.udpSendTo [1, 2] (inetNtoa a) 80, ⟨[], [], 0, 0, 0⟩, 0⟩ ⟨4, false⟩)
      [Event.lib .uninitIn ⟨0, 0, inAddrAny⟩,
        Event.lib (.inetAton (cStr (inetNtoa a))) (some a),
        Event.sys .tempFailureRetry (.sendto 4 [1, 2] (.inet ⟨afInet, 0x5000, a⟩))
          (.ok ⟨2, by decide, by decide⟩)]
      (⟨.ok .unit, ⟨[], [], 0, 0, 0⟩⟩, ⟨4, false⟩) :=
    .cons (.answer rfl) (.cons (.answer rfl) (.cons (.answer rfl) (.nil _)))
  have hreceive : Runs (invoke ⟨.udpReceiveFrom 4, ⟨[0, 0, 0, 0], [], 0, 0, 0⟩, 0⟩ ⟨3, false⟩)
      [Event.lib .uninitIn ⟨0, 0, inAddrAny⟩, Event.sys .tempFailureRetry (.recvfrom 3 4 .inet)
        (.ok (⟨[1, 2], by decide⟩, ⟨afInet, 0x5100, ⟨127, 0, 0, 1⟩⟩))]
      (⟨.ok (.int 2), ⟨[1, 2, 0, 0], inetNtoa ⟨127, 0, 0, 1⟩, 81, 0, 0⟩⟩, ⟨3, false⟩) :=
    .cons (.answer rfl) (.cons (.answer rfl) (.nil _))
  have hfree (tr : List Event) : (Kernel.free posix).Accepts () tr () := Kernel.free_accepts tr
  let op : Invocation := ⟨.receive 1, ⟨[0], [], 0, 0, 0⟩, 0⟩
  let server : Activity invoke (sock true) (view true tr) :=
    .between (.snoc (.single _ hbind (hfree _)) _ hreceive (hfree _)) op
  let client : Activity invoke (sock false) (view false tr) :=
    .between (.single _ hsend (hfree _)) op
  let A : ∀ i, Activity invoke (sock i) (view i tr) := fun i => match i with
    | true => server
    | false => client
  have haton : some a = parseQuad (cStr (inetNtoa a)) := by
    rw [cStr_of_no_nul (nul_not_mem_inetNtoa a), parseQuad_inetNtoa]
  let new : Station InetConfig Packet := Station.new InetConfig.new
  let named : InetConfig :=
    Function.update InetConfig.new .name (some ⟨afInet, 0x5000, inAddrAny⟩)
  have hbound : (N.host true).Moves new
      (Event.sys .once (.bind 3 (.inet ⟨afInet, 0x5000, inAddrAny⟩)) (.ok ()))
      ⟨named, [], Fifo.empty⟩ := ⟨⟨rfl, rfl⟩, ⟨[], rfl, rfl⟩, [], rfl, rfl, rfl⟩
  have hposted : (N.host false).Moves new
      (Event.sys .tempFailureRetry (.sendto 4 [1, 2] (.inet ⟨afInet, 0x5000, a⟩))
        (.ok ⟨2, by decide, by decide⟩)) ⟨InetConfig.new, [m], Fifo.empty⟩ :=
    ⟨rfl, ⟨[m], ⟨m, rfl, rfl, rfl, rfl, nofun, nofun⟩, rfl⟩, [], rfl, rfl, rfl⟩
  have htook : (N.host true).Moves (Station.deliver ⟨named, [], Fifo.empty⟩ m)
      (Event.sys .tempFailureRetry (.recvfrom 3 4 .inet)
        (.ok (⟨[1, 2], by decide⟩, ⟨afInet, 0x5100, a⟩))) ⟨named, [], ⟨[m], [m], [], rfl⟩⟩ :=
    ⟨rfl, ⟨[], rfl, rfl⟩, [m], ⟨m, rfl, rfl, rfl⟩, rfl, rfl⟩
  have hhears : N.Hears true m := fun j hj => (Option.some.inj hj).symm
  -- the server is bound, the client sends, the datagram is delivered and taken
  obtain ⟨k, hacc⟩ : ∃ k, N.kernel.Accepts (fun _ => new) tr k := by
    refine network.exists_step hbound ?_
    refine network.exists_step (.refl rfl rfl rfl) ?_
    refine network.exists_step (.refl ⟨rfl, haton⟩ rfl rfl) ?_
    refine network.exists_step hposted ?_
    refine network.exists_deliver hhears (Or.inr ⟨false, List.mem_singleton_self m⟩) ?_
    refine network.exists_step (.refl rfl rfl rfl) ?_
    exact network.exists_step htook ⟨_, .nil _⟩
  have hquad : ∀ i b, (N.names i).aton (inetNtoa b) = some b := fun _ => parseQuad_inetNtoa
  have hops : ∀ i, ∀ c ∈ calls (A i), c.op.ofUdp = true := by
    intro i
    cases i with
    | true => exact List.forall_mem_cons.2 ⟨rfl, List.forall_mem_cons.2
        ⟨rfl, List.forall_mem_singleton.2 rfl⟩⟩
    | false => exact List.forall_mem_cons.2 ⟨rfl, List.forall_mem_singleton.2 rfl⟩
  obtain ⟨mss, now, hall, -⟩ := udp_network hquad hacc A hops true
  -- the server has made two calls
  rcases hall with _ | ⟨-, _ | ⟨⟨htook, hgenuine⟩, _ | _⟩⟩
  cases htook with
  | other h => cases h
  | nothing hvars hret => exact nomatch hvars
  | @datagram m' h =>
    exact ⟨N, sock, tr, A, _, m', rfl, .datagram h, hgenuine m' (List.mem_singleton_self m')⟩

end Network

end NET
