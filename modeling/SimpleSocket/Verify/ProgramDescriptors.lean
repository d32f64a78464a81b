import SimpleSocket.Programs.MiniIfconfig
import SimpleSocket.Programs.TcpExample
import SimpleSocket.Programs.UdpMulticast
import SimpleSocket.Verify.LibraryOwnership
import SimpleSocket.Verify.ProgramRules

/-!
# The descriptors of the example programs

A program obtains descriptors by its sockets and by the functions it calls, and gives them back on
every path: when a block is left, when it is left by `return`, and when an exception is caught
outside of it. `m.Disposes T S` is the triple for such blocks: they start with the descriptors `T`,
make their calls on open ones, and end with `S` on both exits.
-/

namespace NET

open Op Interact SimpleSocket

variable {τ τ' α β : Type} {S T U : Set ℕ}

/-- Whatever its variables are, `m` makes its calls on descriptors that are open. It starts with
the descriptors `T` and ends with the descriptors `S`. -/
structure Op.Disposes (T S : Set ℕ) (m : Op τ α) : Prop where
  owned : ∀ v, m.Owned ∅ T v
  ends : ∀ v, Op.Triple (table ∅) ⟨T, none⟩ m v fun _ _ l => l = ⟨S, none⟩

/-- What `m` makes has a new descriptor, if it has one, and the property `P`. -/
structure Op.Obtains (S : Set ℕ) (fd : α → ℤ) (P : α → Prop) (m : Op τ α) : Prop where
  owned : ∀ v, m.Owned ∅ S v
  gains : ∀ v, Op.Triple (table ∅) ⟨S, none⟩ m v fun r v' l =>
    Gains S v fd r v' l ∧ ∀ x, r = .ok x → P x

/-! ## Blocks -/

namespace Op.Disposes

theorem of_leaves {m : Op τ α} (h : ∀ v, m.Leaves ∅ S v) : m.Disposes S S :=
  ⟨fun v => (h v).owned, fun v => (h v).kept.mono fun _ _ _ hl => hl.2⟩

theorem pure (x : α) : (Pure.pure x : Op τ α).Disposes S S :=
  ⟨fun _ => .pure x, fun _ => Op.Triple.pure rfl⟩

theorem modify (f : τ → τ) : (Op.modify f).Disposes S S :=
  ⟨fun _ => .modify f, fun _ => Op.Triple.modify rfl⟩

theorem bind {m : Op τ α} {f : α → Op τ β} (h : m.Disposes S S)
    (hf : ∀ x, (f x).Disposes S S) : (m >>= f).Disposes S S where
  owned v := .bind (h.owned v) (h.ends v) fun x v' l hl => by
    subst hl
    exact (hf x).owned v'
  ends v := by
    refine .bind ((h.ends v).mono fun r v' l hl => ?_)
    subst hl
    cases r with
    | ok x => exact (hf x).ends v'
    | error e => exact rfl

theorem ite {c : Prop} [Decidable c] {m m' : Op τ α} (h : m.Disposes T S)
    (h' : m'.Disposes T S) : (if c then m else m').Disposes T S := by
  split
  · exact h
  · exact h'

/-- The destructors of the `try` block have run when the handler starts. -/
theorem catchSocket {m : Op τ α} {handler : SocketException → Op τ α} (h : m.Disposes S S)
    (hh : ∀ e, (handler e).Disposes S S) : (NET.catchSocket m handler).Disposes S S where
  owned v := .catchSocket (h.owned v) (h.ends v) fun e v' l hl => by
    subst hl
    exact (hh e).owned v'
  ends v := by
    refine .catchSocket ((h.ends v).mono fun r v' l hl => ?_)
    subst hl
    rcases r with (e | -) | y
    · exact (hh e).ends v'
    · exact rfl
    · exact rfl

theorem writeOut (s : Str) : (NET.writeOut s).Disposes S S := .modify _

theorem forEach {f : α → Op τ Unit} (h : ∀ x, (f x).Disposes S S) (xs : List α) :
    (NET.forEach f xs).Disposes S S := by
  induction xs with
  | nil => exact .pure ()
  | cons x xs ih => exact .bind (h x) fun _ => ih

theorem finally' {m : Op τ α} {cleanup : Op τ Unit} (h : m.Disposes T U)
    (hc : cleanup.Disposes U S) : (Op.finally' m cleanup).Disposes T S where
  owned v := .finally' (h.owned v) (h.ends v) fun r v' l hl => by
    subst hl
    exact hc.owned v'
  ends v := by
    refine .finally' ((h.ends v).mono fun r v' l hl => ?_)
    subst hl
    exact hc.ends v'

/-- A method of a socket that has its descriptor, and the rest of the block. -/
theorem method {fd : ℤ} {kinds : List SysKind} {f : Frame} {m : Method α}
    {g : α × Frame → Op τ β} (hm : m.Uses kinds fd) (hkinds : ∀ k ∈ kinds, k.transfers = false)
    (hown : own fd ⊆ S) (hneg : 0 ≤ fd) (hfd : f.this.mSocket = fd)
    (hg : ∀ x f', f'.this.mSocket = fd → (g (x, f')).Disposes S S) :
    (Op.withLocal f m >>= g).Disposes S S := by
  subst hfd
  obtain ⟨howned, hends⟩ := uses_leaves (F := ∅) hm hkinds hown hneg
  have hlocal (v : τ) : Op.Triple (table ∅) ⟨S, none⟩ (Op.withLocal f m) v fun r _ l =>
      l = ⟨S, none⟩ ∧ ∀ y, r = .ok y → y.2.this.mSocket = f.this.mSocket := by
    refine .withLocal (hends.mono fun r f' l hl => ?_)
    cases r with
    | ok x => exact ⟨hl.1, fun y hy => by
        obtain rfl := Except.ok.inj hy
        exact hl.2⟩
    | error e => exact ⟨hl.1, fun y hy => by cases hy⟩
  refine ⟨fun v => .bind (.withLocal howned) (hlocal v) ?_, fun v => .bind ((hlocal v).mono ?_)⟩
  · rintro ⟨x, f'⟩ v' l ⟨rfl, hthis⟩
    exact (hg x f' (hthis _ rfl)).owned v'
  · rintro (e | ⟨x, f'⟩) v' l ⟨rfl, hthis⟩
    · exact rfl
    · exact (hg x f' (hthis _ rfl)).ends v'

/-- What is obtained is given back by the rest of the block. -/
theorem obtained {fd : α → ℤ} {P : α → Prop} {m : Op τ α} {f : α → Op τ β}
    (h : m.Obtains S fd P) (hf : ∀ x, P x → (∀ n ∈ own (fd x), n ∉ S) →
      (f x).Disposes (S ∪ own (fd x)) S) : (m >>= f).Disposes S S := by
  refine ⟨fun v => .bind (h.owned v) (h.gains v) ?_, fun v => .bind ((h.gains v).mono ?_)⟩
  · rintro x v' l ⟨⟨-, rfl, hfresh⟩, hP⟩
    exact (hf x (hP x rfl) hfresh).owned v'
  · rintro (e | x) v' l ⟨⟨-, hl⟩, hP⟩
    · exact hl
    · obtain ⟨rfl, hfresh⟩ := hl
      exact (hf x (hP x rfl) hfresh).ends v'

end Op.Disposes

/-! ## Objects -/

theorem own_subset_union_diff (fd : ℤ) : own fd ⊆ (S ∪ own fd) \ ∅ :=
  fun _ hn => ⟨Or.inr hn, id⟩

theorem socket_disposes {this : SimpleSocket} (hfresh : ∀ n ∈ own this.mSocket, n ∉ S) :
    (this.destroy : Op τ Unit).Disposes (S ∪ own this.mSocket) S where
  owned _ := socket_destroy_owned (own_subset_union_diff _)
  ends _ := (socket_destroy (own_subset_union_diff _)).mono fun r v' l hl => by
    rw [hl.2.2, union_own_diff hfresh]

theorem handle_disposes {handle : SocketHandle} (hfresh : ∀ n ∈ own handle.mSockfd, n ∉ S) :
    (handle.destroy : Op τ Unit).Disposes (S ∪ own handle.mSockfd) S where
  owned _ := handle_destroy_owned (own_subset_union_diff _)
  ends _ := (handle_destroy (own_subset_union_diff _)).mono fun r v' l hl => by
    rw [hl.2.2, union_own_diff hfresh]

/-- A handle whose descriptor was taken out. -/
theorem released_disposes : (SocketHandle.invalid.destroy : Op τ Unit).Disposes S S := by
  have hfresh : ∀ n ∈ own SocketHandle.invalid.mSockfd, n ∉ S := fun n hn => by
    rw [SocketHandle.invalid, own_invalid] at hn
    exact hn.elim
  have h : (SocketHandle.invalid.destroy : Op τ Unit).Disposes _ S := handle_disposes hfresh
  rwa [SocketHandle.invalid, own_invalid, Set.union_empty] at h

theorem tcp_obtains : (TCPSocket.new : Op τ _).Obtains S mSocket fun this => 0 ≤ this.mSocket :=
  ⟨fun _ => new_owned _ _ _, fun _ => new_nonneg _ _ _⟩

theorem udp_obtains : (UDPSocket.new : Op τ _).Obtains S mSocket fun this => 0 ≤ this.mSocket := by
  refine ⟨fun _ => class_new_owned (Set.empty_subset S) .udp, fun v => .bind ?_⟩
  refine (new_nonneg _ _ _).mono ?_
  rintro (e | this) v' l ⟨⟨rfl, hl⟩, hneg⟩
  · exact ⟨⟨rfl, hl⟩, fun this h => by cases h⟩
  · obtain ⟨rfl, hfresh⟩ := hl
    refine .bind (.bind (triple_sys (fun _ _ _ h => h) fun _ => .pure (.pure ?_)))
    exact ⟨⟨rfl, rfl, hfresh⟩, hneg⟩

/-- A block with a socket. -/
theorem Op.Disposes.withSocket {ctor : Op τ SimpleSocket} {body : SimpleSocket → Op τ α}
    (hctor : ctor.Obtains S mSocket fun this => 0 ≤ this.mSocket)
    (h : ∀ this T, S ⊆ T → own this.mSocket ⊆ T → 0 ≤ this.mSocket → (body this).Disposes T T) :
    (NET.withSocket ctor body).Disposes S S :=
  .obtained hctor fun this hneg hfresh =>
    .finally' (h this _ Set.subset_union_left Set.subset_union_right hneg) (socket_disposes hfresh)

/-! ## The programs -/

section Programs

variable {strerror : Errno → String}

/-- What the programs do with an exception. -/
theorem reportException_disposes (e : SocketException) :
    (reportException strerror e).Disposes S S := .bind (.modify _) fun _ => .pure _

theorem tcpClient_disposes : (TCPClient.main strerror).Disposes S S := by
  refine .catchSocket (.withSocket tcp_obtains fun sock T _ hown hneg => ?_)
    reportException_disposes
  refine .method (inetConnect_uses (List.mem_singleton_self _) _ _) (by decide) hown hneg rfl
    fun _ f hf => ?_
  have hreceive : (SimpleSocket.timedReceive 50 5000).Uses [.poll, .recv] sock.mSocket :=
    timedReceive_uses (.head _) (.tail _ (.head _)) _ _
  refine .method hreceive (by decide) hown hneg hf fun bytesRecv f hf => ?_
  refine .bind (.ite (.writeOut _) (.pure _)) fun _ => ?_
  exact .method (disconnect_uses (List.mem_singleton_self _)) (by decide) hown hneg hf
    fun _ _ _ => .pure _

theorem session_disposes {sock : SimpleSocket} (hown : own sock.mSocket ⊆ S)
    (hneg : 0 ≤ sock.mSocket) : (TCPServer.session sock).Disposes S S := by
  refine .method (send_uses (List.mem_singleton_self _) _) (by decide) hown hneg rfl
    fun _ f hf => ?_
  refine .ite (.pure _) (.bind (.writeOut _) fun _ => ?_)
  exact .method (disconnect_uses (List.mem_singleton_self _)) (by decide) hown hneg hf
    fun _ _ _ => .pure _

/-- The session socket has taken the descriptor out of the handle. -/
theorem serve_disposes {handle : SocketHandle} (hfresh : ∀ n ∈ own handle.mSockfd, n ∉ S) :
    (TCPServer.serve handle).Disposes (S ∪ own handle.mSockfd) S := by
  unfold TCPServer.serve
  split
  · next hvalid =>
    have hneg : 0 ≤ handle.mSockfd := of_decide_eq_true hvalid
    refine .finally' (U := S) ?_ released_disposes
    let sock : SimpleSocket := ⟨handle.mSockfd, false⟩
    have hdestroy : (sock.destroy : Op Terminal Unit).Disposes (S ∪ own sock.mSocket) S :=
      socket_disposes hfresh
    have hsession : (Op.finally' (TCPServer.session sock) sock.destroy).Disposes
        (S ∪ own handle.mSockfd) S :=
      .finally' (session_disposes Set.subset_union_right hneg) hdestroy
    change (NET.withSocket (TCPSocket.ofHandle ⟨handle.mSockfd⟩) _).Disposes _ _
    rw [NET.withSocket, tcpOfHandle_eq hneg]
    exact hsession
  · exact .finally' (.pure _) (handle_disposes hfresh)

theorem tcpServer_disposes : (TCPServer.main strerror).Disposes S S := by
  refine .catchSocket (.withSocket tcp_obtains fun sock T _ hown hneg => ?_)
    reportException_disposes
  refine .method (inetBind_uses (List.mem_singleton_self _) _ _) (by decide) hown hneg rfl
    fun _ f hf => ?_
  refine .method (listen_uses (List.mem_singleton_self _) _) (by decide) hown hneg hf
    fun _ f hf => ?_
  have haccept : (TCPSocket.timedAccept f.this 5000 : Op Terminal _).Obtains T
      SocketHandle.mSockfd fun _ => True :=
    ⟨fun _ => timedAcceptWith_owned (hf ▸ hown) (hf ▸ hneg) _ _ _,
      fun _ => (timedAcceptWith_gains _ _ _ _).mono fun _ _ _ h => ⟨h, fun _ _ => trivial⟩⟩
  exact .obtained haccept fun handle _ hfresh => serve_disposes hfresh

theorem exchange_disposes {r : Frame} {sock : SimpleSocket} (hr : own r.this.mSocket ⊆ S)
    (hrneg : 0 ≤ r.this.mSocket) (hown : own sock.mSocket ⊆ S) (hneg : 0 ≤ sock.mSocket) :
    (UDPMulticast.exchange r sock).Disposes S S := by
  generalize hfd : r.this.mSocket = fd at hr hrneg
  -- the sockets take turns: each method has the descriptor of its own
  refine .method (setOption_uses (List.mem_singleton_self _) _ _) (by decide) hown hneg rfl
    fun _ s hs => ?_
  refine .method (inetBindAny_uses (List.mem_singleton_self _) _) (by decide) hown hneg hs
    fun _ s hs => ?_
  refine .method (udpSendTo_uses (List.mem_singleton_self _) _ _ _) (by decide) hown hneg hs
    fun _ s hs => ?_
  refine .method (udpReceiveFrom_uses (List.mem_singleton_self _) _) (by decide) hr hrneg hfd
    fun bytes r hr' => ?_
  refine .bind (.ite (.writeOut _) (.pure _)) fun _ => ?_
  refine .method (inetConnect_uses (List.mem_singleton_self _) _ _) (by decide) hown hneg hs
    fun _ s hs => ?_
  refine .method (send_uses (List.mem_singleton_self _) _) (by decide) hown hneg hs
    fun _ s hs => ?_
  refine .method (receive_uses (List.mem_singleton_self _) _) (by decide) hr hrneg hr'
    fun bytes r hr' => ?_
  refine .bind (.ite (.writeOut _) (.pure _)) fun _ => ?_
  exact .method (groupAction_uses (List.mem_singleton_self _) _ _) (by decide) hr hrneg hr'
    fun _ _ _ => .pure _

theorem udpMulticast_disposes : (UDPMulticast.main strerror).Disposes S S := by
  refine .catchSocket (.withSocket udp_obtains fun sock T _ hown hneg => ?_)
    fun _ => .bind (.modify _) fun _ => .pure _
  refine .method (inetBindAny_uses (List.mem_singleton_self _) _) (by decide) hown hneg rfl
    fun _ r hr => ?_
  refine .method (groupAction_uses (List.mem_singleton_self _) _ _) (by decide) hown hneg hr
    fun _ r hr => ?_
  refine .withSocket udp_obtains fun sock' U hTU hown' hneg' => ?_
  exact exchange_disposes (hr ▸ hown.trans hTU) (hr ▸ hneg) hown' hneg'

section Ifconfig

open SocketUtils MiniIfconfig

theorem usage_disposes (progName : Str) : (usage progName).Disposes S S := Op.Disposes.writeOut _

theorem wrapEx_disposes {c : Op Terminal α} (h : ∀ v, c.Leaves ∅ S v) (text : α → Str) :
    (wrapEx text c).Disposes S S :=
  .catchSocket (.bind (.of_leaves h) fun _ => .pure _) fun _ => .pure _

theorem getter_disposes {request : ℤ} {failure : String} {field : Ifreq → α} (interface : Str)
    (text : α → Str) : (wrapEx text (getSetting request failure
      (fun ifr => (Pure.pure (field ifr) : Op Terminal α)) interface)).Disposes S S :=
  wrapEx_disposes (fun _ => getSetting_leaves (Set.empty_subset S) (fun _ _ => .pure _) interface) _

theorem printInterface_disposes (i : Str) : (printInterface i).Disposes S S := by
  refine .bind (.writeOut _) fun _ => ?_
  refine .bind (getter_disposes i _) fun mtu => .bind (.writeOut _) fun _ => ?_
  refine .bind (getter_disposes i _) fun ip => .bind (.writeOut _) fun _ => ?_
  refine .bind (getter_disposes i _) fun netmask => .bind (.writeOut _) fun _ => ?_
  refine .bind (getter_disposes i _) fun broadcast => .bind (.writeOut _) fun _ => ?_
  refine .bind (wrapEx_disposes (fun _ => ?_) _) fun ether => .writeOut _
  exact getSetting_leaves (Set.empty_subset S) (fun _ _ => .ite (.pure _) (.throwSocket _ _)) i

theorem setAddress_disposes {request : ℤ} {failure : String} (interface address : Str) (x : Exit) :
    (setSetting request failure (writeAddress address) interface >>= fun _ =>
      (Pure.pure x : Op Terminal Exit)).Disposes S S :=
  .bind (.of_leaves fun _ =>
    setSetting_leaves (Set.empty_subset S) (writeAddress_leaves address) interface) fun _ => .pure _

theorem configure_disposes (progName interface setting val : Str) :
    (configure strerror progName interface setting val).Disposes S S := by
  refine .catchSocket (.ite ?_ (.ite ?_ (.ite ?_ (.ite ?_ (.ite ?_ ?_))))) fun _ => ?_
  · cases stoi val with
    | error x => exact .pure _
    | ok n => exact .bind (.of_leaves fun _ =>
        setSetting_leaves (Set.empty_subset S) (fun _ => .pure _) interface) fun _ => .pure _
  · exact setAddress_disposes interface val _
  · exact setAddress_disposes interface val _
  · exact setAddress_disposes interface val _
  · exact setAddress_disposes interface val _
  · exact .bind (usage_disposes progName) fun _ => .pure _
  · exact .bind (.modify _) fun _ => .pure _

theorem miniIfconfig_disposes (progName : Str) (args : List Str) :
    (MiniIfconfig.main strerror progName args).Disposes S S := by
  unfold MiniIfconfig.main
  split
  · refine .bind (.of_leaves fun _ => getNetworkInterfaces_leaves (Set.empty_subset S))
      fun ifs => ?_
    exact .bind (.forEach printInterface_disposes ifs) fun _ => .pure _
  · exact configure_disposes _ _ _ _
  · exact .bind (usage_disposes progName) fun _ => .pure _

end Ifconfig

end Programs

/-- The example programs. -/
inductive Program
  | miniIfconfig (progName : Str) (args : List Str)
  | tcpClient
  | tcpServer
  | udpMulticast

def Program.main (strerror : Errno → String) : Program → Op Terminal Exit
  | .miniIfconfig progName args => MiniIfconfig.main strerror progName args
  | .tcpClient => TCPClient.main strerror
  | .tcpServer => TCPServer.main strerror
  | .udpMulticast => UDPMulticast.main strerror

theorem Program.main_disposes (strerror : Errno → String) :
    (p : Program) → (p.main strerror).Disposes S S
  | .miniIfconfig progName args => miniIfconfig_disposes progName args
  | .tcpClient => tcpClient_disposes
  | .tcpServer => tcpServer_disposes
  | .udpMulticast => udpMulticast_disposes

/-- **The descriptors of the example programs.** Whatever the program and whatever it is told: every
call is made on an open descriptor of the program, and only such a descriptor is closed, but for a
`close` without a number and one that is repeated after an interruption. When `main` returns, on
whatever path, every descriptor was closed as often as it was obtained. An exception that leaves
`main` ends the process without the destructors, so nothing is said about it. -/
theorem program_descriptors {strerror : Errno → String} (p : Program) {others : ℕ → Bool}
    {tr : List Event} {q : Prog posix (Ran × Unit)} {t : DescriptorTable}
    (hr : Trace (start (p.main strerror)) tr q)
    (ht : descriptors.Accepts (.initial others) tr t) :
    (∀ c ∈ t.closes, c.Sound) ∧ (∀ d g, q = .call d g → t.Allows d) ∧
      ∀ ran x, q = .ret (ran, ()) → ran.exit = .ok x → ∀ n, t.owner n ≠ some .library ∧
        t.acquired.count n = t.closes.countP (Close.releases n) := by
  have hmain := p.main_disposes (S := ∅) strerror
  have h₀ : (table ∅).rel ⟨∅, none⟩ (.initial others) := ⟨initial_matches others, subset_rfl⟩
  obtain ⟨⟨l, hl⟩, hret⟩ := (hmain.ends .empty).start _ tr q t h₀ hr ht
  refine ⟨hl.1.sound, fun d g hq => ?_, fun ran x hq _ n => ?_⟩
  · subst hq
    obtain ⟨l', hl', hallows⟩ := (hmain.owned .empty).start _ tr d g t h₀ hr ht
    exact hl'.1.allows hallows
  · obtain ⟨l', hl', rfl⟩ := hret (ran, ()) hq
    have hfree : t.owner n ≠ some .library := fun hn => (hl'.1.owned n).1 hn
    refine ⟨hfree, ?_⟩
    rw [t.balance n, if_neg hfree, Nat.add_zero]

/-- Nobody connects to the server. -/
theorem program_descriptors_nobody : (oneOpen.close 3 false).owner 3 ≠ some .library := by
  have hr : Trace (start (Program.tcpServer.main fun _ => "")) [
      Event.sys .once (.socket 2 1 6) (.ok (3 : ℕ)),
      Event.lib .uninitIn ⟨0, 0, inAddrAny⟩,
      Event.lib (.inetAton (cStr localhost)) (some ⟨127, 0, 0, 1⟩),
      Event.sys .once (.bind 3 (.inet ⟨afInet, htons 47777, ⟨127, 0, 0, 1⟩⟩)) (.ok ()),
      Event.sys .once (.listen 3 5) (.ok ()),
      Event.sys .tempFailureRetry (.poll 3 pollIn 5000) (.ok 0),
      Event.sys .tempFailureRetry (.close 3) (.ok ())]
      (.ret (⟨.ok (.status 1), .empty⟩, ())) :=
    .cons (.answer rfl) (.cons (.answer rfl) (.cons (.answer rfl) (.cons (.answer rfl)
      (.cons (.answer rfl) (.cons (.answer rfl) (.cons (.answer rfl) (.nil _)))))))
  have ht : descriptors.Accepts (.initial fun _ => false) [
      Event.sys .once (.socket 2 1 6) (.ok (3 : ℕ)),
      Event.lib .uninitIn ⟨0, 0, inAddrAny⟩,
      Event.lib (.inetAton (cStr localhost)) (some ⟨127, 0, 0, 1⟩),
      Event.sys .once (.bind 3 (.inet ⟨afInet, htons 47777, ⟨127, 0, 0, 1⟩⟩)) (.ok ()),
      Event.sys .once (.listen 3 5) (.ok ()),
      Event.sys .tempFailureRetry (.poll 3 pollIn 5000) (.ok 0),
      Event.sys .tempFailureRetry (.close 3) (.ok ())] (oneOpen.close 3 false) :=
    .step ⟨rfl, rfl⟩ (.step rfl (.step rfl (.step rfl (.step rfl (.step rfl
      (.single ⟨fun h => (by cases h), rfl⟩))))))
  exact ((program_descriptors .tcpServer hr ht).2.2 _ _ rfl rfl 3).1

end NET
