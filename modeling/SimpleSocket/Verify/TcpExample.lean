import SimpleSocket.Programs.TcpExample
import SimpleSocket.Verify.Exceptions
import SimpleSocket.Verify.ProgramRules
import SimpleSocket.Verify.TcpDuplex

/-!
# `TCP_Client` and `TCP_Server` together

Each program alone: what it prints and how it ends, by the bytes its socket has received or sent.
Together, on a connection that carries the bytes (`tcpConnection`): the client prints the start of
the message of the server, or nothing, and when it has received something the server reports that
it has sent.
-/

namespace NET

open Op Interact SimpleSocket

/-! ## Calls that are not noted down -/

/-- The socket of the program has the descriptor `fd`. -/
def SocketIs (fd : ℤ) : Event → Prop
  | ⟨.sys _ (.socket ..), .ok (n : ℕ)⟩ => n = fd
  | _ => True

/-- The accepted connection has the descriptor `fd`. -/
def AcceptIs (fd : ℤ) : Event → Prop
  | ⟨.sys _ (.accept _), .ok (n : ℕ)⟩ => n = fd
  | _ => True

theorem takenBy_quiet {kinds : List SysKind} {fd fd' : ℤ} {c : Call} (h : .recv ∉ kinds)
    (hc : CallIn kinds fd' c) (r : c.Reply) : takenBy fd ⟨c, r⟩ = [] := by
  cases c with
  | lib c => rfl
  | sys w c => cases c <;> first | rfl | exact absurd hc.1 h

theorem acceptedBy_quiet {kinds : List SysKind} {fd fd' : ℤ} {c : Call} (h : .send ∉ kinds)
    (hc : CallIn kinds fd' c) (r : c.Reply) : acceptedBy fd ⟨c, r⟩ = [] := by
  cases c with
  | lib c => rfl
  | sys w c => cases c <;> first | rfl | exact absurd hc.1 h

section Log

variable {τ α β γ : Type} {P : Event → Prop} {note : Event → List γ} {l : List γ} {v : τ}

/-- A method whose calls are not noted down, and the rest of the block. -/
theorem Op.Triple.quietMethod {kinds : List SysKind} {f : Frame} {m : Method α}
    {g : α × Frame → Op τ β} {Q : Except Exn β → τ → List γ → Prop}
    (hm : m.Uses kinds f.this.mSocket) (hraise : m.Raises IsSocket)
    (hquiet : ∀ c, CallIn kinds f.this.mSocket c → ∀ r : c.Reply, note ⟨c, r⟩ = [])
    (herr : ∀ e, Q (.error (.socket e)) v l)
    (hg : ∀ x f', f'.this.mSocket = f.this.mSocket → Op.Triple (.log P note) l (g (x, f')) v Q) :
    Op.Triple (.log P note) l (Op.withLocal f m >>= g) v Q := by
  have hcalls : Op.Triple (.log P note) l m f fun _ (f' : Frame) l' =>
      l' = l ∧ f'.this.mSocket = f.this.mSocket :=
    .of_wp (C := CallIn kinds f.this.mSocket)
      (R := fun _ (f' : Frame) => f'.this.mSocket = f.this.mSocket)
      (fun c hc k r k' hk hs => View.log_ignores (hquiet c hc) l k r k' hk hs)
      fun err => hm ⟨err, f⟩ rfl
  refine .bind (.withLocal ((hcalls.and_wp hraise).mono fun r f' l' h => ?_))
  obtain ⟨⟨rfl, hthis⟩, hsocket⟩ := h
  cases r with
  | ok x => exact hg x f' hthis
  | error x =>
    obtain ⟨e, rfl⟩ := hsocket x rfl
    exact herr e

/-- A block with a socket, where `close` is not noted down. -/
theorem Op.Triple.quietSocket {ctor : Op τ SimpleSocket} {body : SimpleSocket → Op τ α}
    {Q : Except Exn α → τ → List γ → Prop}
    (hquiet : ∀ fd r, note (Event.sys .tempFailureRetry (.close fd) r) = [])
    (h : Op.Triple (.log P note) l ctor v fun r v' l' => match r with
      | .ok this => Op.Triple (.log P note) l' (body this) v' Q
      | .error x => Q (.error x) v' l') :
    Op.Triple (.log P note) l (NET.withSocket ctor body) v Q := by
  refine .bind (h.mono fun r v' l' hr => ?_)
  cases r with
  | error x => exact hr
  | ok this =>
    refine .finally' (hr.mono fun r v' l' hQ => ?_)
    exact .bind (.sysIgnored (View.log_ignores (hquiet _)) fun _ _ _ _ _ => .pure hQ)

/-- The constructor, and what is known of the descriptor. -/
theorem tcpNew_triple
    (hquiet : ∀ r, note (Event.sys .once (.socket pfInet sockStream ipprotoTcp) r) = []) :
    Op.Triple (.log P note) l TCPSocket.new v fun r v' l' => v' = v ∧ l' = l ∧ match r with
      | .ok this => ∃ n : ℕ, this = ⟨n, false⟩ ∧
        P (Event.sys .once (.socket pfInet sockStream ipprotoTcp) (.ok n))
      | .error x => IsSocket x := by
  refine .bind (.sysIgnored (View.log_ignores hquiet) fun k r k' hk hs => ?_)
  cases r with
  | error e => exact .throws fun e => ⟨rfl, rfl, e, rfl⟩
  | ok n => exact .pure ⟨rfl, rfl, n, rfl, (View.log_step hk hs).1⟩

theorem timedAccept_triple {this : SimpleSocket} {timeout : ℤ}
    (hpoll : ∀ r, note (Event.sys .tempFailureRetry (.poll this.mSocket pollIn timeout) r) = [])
    (haccept : ∀ r, note (Event.sys .once (.accept this.mSocket) r) = []) :
    Op.Triple (.log P note) l (TCPSocket.timedAccept this timeout) v fun r v' l' =>
      v' = v ∧ l' = l ∧ match r with
        | .ok handle => handle = .invalid ∨ ∃ n : ℕ, handle = ⟨n⟩ ∧
          P (Event.sys .once (.accept this.mSocket) (.ok n))
        | .error x => IsSocket x := by
  refine .bind (.sysIgnored (View.log_ignores hpoll) fun k r k' hk hs => ?_)
  refine .ite (fun _ => .pure ⟨rfl, rfl, Or.inl rfl⟩) fun _ => .ite (fun _ => ?_) fun _ => ?_
  · exact .throws fun e => ⟨rfl, rfl, e, rfl⟩
  · refine .bind (.sysIgnored (View.log_ignores haccept) fun k r k' hk hs => ?_)
    cases r with
    | error e => exact .throws fun e => ⟨rfl, rfl, e, rfl⟩
    | ok n => exact .pure ⟨rfl, rfl, Or.inr ⟨n, rfl, (View.log_step hk hs).1⟩⟩

end Log

/-! ## The two calls that carry bytes -/

/-- A timed receive has put the bytes `d` into the buffer. -/
structure Fetched (len : ℕ) (f f' : Frame) (d : List UInt8) (r : Except Exn ℤ) : Prop where
  socket : f'.this.mSocket = f.this.mSocket
  buffer : f'.buffer = overwrite f.buffer d
  length : d.length ≤ len
  ret : match r with
    | .ok n => d ≠ [] → 0 < n
    | .error x => IsSocket x ∧ d = []

theorem timedReceive_triple {P : Event → Prop} {f : Frame} {fd : ℤ} (hfd : f.this.mSocket = fd)
    {len : ℕ} (hlen : len ≤ intMax) (timeout : ℤ) (l : List UInt8) :
    Op.Triple (.log P (takenBy fd)) l (timedReceive len timeout) f fun r f' l' =>
      ∃ d, l' = l ++ d ∧ Fetched len f f' d r := by
  subst hfd
  refine .log_of_wp (takenBy_again _) (fun err => (wp_timedReceive len timeout).2 ?_) l
  intro b r _
  dsimp only
  by_cases h0 : pollCount r = 0
  · rw [if_pos h0]
    exact fun _ => ⟨rfl, rfl, Nat.zero_le _, fun h => absurd rfl h⟩
  rw [if_neg h0]
  by_cases hneg : pollCount r < 0
  · rw [if_pos hneg]
    exact fun _ => ⟨rfl, rfl, Nat.zero_le _, ⟨_, rfl⟩, rfl⟩
  rw [if_neg hneg]
  by_cases hin : readable (pollRevents r) = true
  · rw [if_pos hin]
    intro b' r' _
    have htaken : ([Event.sys .tempFailureRetry (.poll f.this.mSocket
          (pollIn ||| pollPri ||| pollRdHup) timeout) r,
        Event.sys .tempFailureRetry (.recv (f.noted (pollRevents r)).this.mSocket len msgWaitall)
          r']).flatMap (takenBy f.this.mSocket) = bytesOf r' := by
      simp only [List.flatMap_cons, List.flatMap_nil, takenBy_poll,
        takenBy_recv (Frame.noted_mSocket _ _), List.nil_append, List.append_nil]
    have hsocket := Frame.noted_mSocket f (pollRevents r)
    cases r' with
    | error e =>
      rw [if_pos (by simp [Except.map])]
      exact fun _ => ⟨hsocket, congrArg (overwrite f.buffer) htaken.symm, htaken ▸ Nat.zero_le _,
        ⟨_, rfl⟩, htaken⟩
    | ok got =>
      have hret : toInt (ssize ((Except.ok got).map fun got => got.bytes.length)) =
          got.bytes.length := toInt_of_le (got.le_len.trans hlen)
      rw [hret, if_neg (by omega)]
      refine fun _ => ⟨hsocket, congrArg (overwrite f.buffer) htaken.symm, ?_, fun hne => ?_⟩
      · exact htaken ▸ got.le_len
      · have hpos : got.bytes ≠ [] := fun hnil => hne (htaken.trans hnil)
        exact_mod_cast List.length_pos_iff.2 hpos
  · rw [if_neg hin]
    exact fun _ => ⟨Frame.noted_mSocket _ _, Frame.noted_buffer _ _, Nat.zero_le _,
      fun h => absurd rfl h⟩

/-- A send has handed over the bytes `d`, or the peer is gone. -/
structure HandedOver (data : List UInt8) (f f' : Frame) (d : List UInt8)
    (r : Except Exn (SendRet data.length)) : Prop where
  socket : f'.this.mSocket = f.this.mSocket
  ret : match r with
    | .ok _ => (f'.this.peerDisconnected = true ∧ d = []) ∨
      (f'.this = f.this ∧ ∃ n, 0 < n ∧ d = data.take n)
    | .error x => IsSocket x ∧ d = []

theorem send_triple {P : Event → Prop} {f : Frame} {fd : ℤ} (hfd : f.this.mSocket = fd)
    {data : List UInt8} (hdata : 0 < data.length) (l : List UInt8) :
    Op.Triple (.log P (acceptedBy fd)) l (SimpleSocket.send data) f fun r f' l' =>
      ∃ d, l' = l ++ d ∧ HandedOver data f f' d r := by
  subst hfd
  refine .log_of_wp (acceptedBy_again _) (fun err => (wp_send data).2 ?_) l
  intro b r _ _
  cases r with
  | error e =>
    by_cases he : hungUp e
    · simp only [sendExit, Frame.sent, if_pos he]
      exact ⟨rfl, Or.inl ⟨rfl, rfl⟩⟩
    · simp only [sendExit, Frame.sent, if_neg he]
      exact ⟨rfl, ⟨_, rfl⟩, rfl⟩
  | ok n =>
    refine ⟨rfl, Or.inr ⟨rfl, n.count, n.pos hdata, ?_⟩⟩
    exact (List.append_nil _).trans (SendLoop.acceptedBy_ok _ data n)

/-! ## The client -/

/-- What the client prints, if it has received `got`. -/
def Printed (got cout : Str) : Prop :=
  (got = [] ∧ cout = []) ∨ (got.length ≤ 50 ∧ cout = ascii "Received data from server: " ++
    arrayText (overwrite TCPClient.recvMsg got) ++ ascii "\n")

/-- A program returns 0, or returns 1 with the text of an exception. -/
def Returns (strerror : Errno → String) (ran : Ran) : Prop :=
  (ran.exit = .ok (.status 0) ∧ ran.terminal.cerr = []) ∨ (ran.exit = .ok (.status 1) ∧
    ∃ e : SocketException, ran.terminal.cerr = ascii (e.what strerror) ++ ascii "\n")

/-- How the `try` block of a program is left. -/
def LeavesTry (r : Except Exn Exit) (t : Terminal) : Prop :=
  t.cerr = [] ∧ (r = .ok (.status 0) ∨ ∃ e, r = .error (.socket e))

theorem reportException_triple {K : Kernel posix} {A : Type} {V : View K A} {a : A}
    {strerror : Errno → String} {e : SocketException} {t : Terminal} (hcerr : t.cerr = []) :
    Op.Triple V a (reportException strerror e) t fun r t' a' =>
      Returns strerror ⟨r, t'⟩ ∧ r ≠ .ok (.status 0) ∧ t'.cout = t.cout ∧ a' = a := by
  refine .bind (.modify (.pure ⟨Or.inr ⟨rfl, e, ?_⟩, fun h => (by cases h), rfl, rfl⟩))
  exact (congrArg (fun s : Str => s ++ (ascii (e.what strerror) ++ ascii "\n")) hcerr).trans
    (List.nil_append _)

section Client

variable {strerror : Errno → String} {fd : ℤ}

theorem report_triple {P : Event → Prop} {bytesRecv : ℤ} {got buffer : List UInt8}
    (hbuffer : buffer = overwrite TCPClient.recvMsg got) (hlen : got.length ≤ 50)
    (hpos : got ≠ [] → 0 < bytesRecv) :
    Op.Triple (.log P (takenBy fd)) got (TCPClient.report bytesRecv buffer) .empty fun r t got' =>
      r = .ok () ∧ got' = got ∧ t.cerr = [] ∧ Printed got t.cout := by
  refine .ite (fun _ => writeOut_triple ?_) fun hzero => .pure ⟨rfl, rfl, rfl, Or.inl ⟨?_, rfl⟩⟩
  · rw [Terminal.empty_append, hbuffer]
    exact ⟨rfl, rfl, rfl, Or.inr ⟨hlen, rfl⟩⟩
  · exact Decidable.not_not.1 fun hne => hzero (hpos hne)

theorem client_triple : Op.Triple (.log (SocketIs fd) (takenBy fd)) [] (TCPClient.main strerror)
    .empty fun r t got => Returns strerror ⟨r, t⟩ ∧ Printed got t.cout := by
  refine .catchSocket (Op.Triple.mono (Q := fun r t got => LeavesTry r t ∧ Printed got t.cout)
    (.quietSocket (fun _ _ => rfl) ((tcpNew_triple fun _ => rfl).mono ?_)) ?_)
  · rintro r t l ⟨rfl, rfl, hr⟩
    have hthrown (e : SocketException) : LeavesTry (.error (.socket e)) .empty ∧ Printed [] [] :=
      ⟨⟨rfl, Or.inr ⟨e, rfl⟩⟩, Or.inl ⟨rfl, rfl⟩⟩
    cases r with
    | error x =>
      obtain ⟨e, rfl⟩ := hr
      exact hthrown e
    | ok this =>
      obtain ⟨n, rfl, hn⟩ := hr
      obtain rfl : (n : ℤ) = fd := hn
      refine .quietMethod (inetConnect_uses (List.mem_singleton_self _) _ _)
        (inetConnect_raises _ _) (fun c hc => takenBy_quiet (by decide) hc) hthrown fun _ f hf => ?_
      refine .bind (.withLocal ((timedReceive_triple (f := { f with buffer := TCPClient.recvMsg })
        hf (by decide) 5000 []).mono ?_))
      rintro r f' l ⟨d, rfl, htook⟩
      cases r with
      | error x =>
        obtain ⟨⟨e, rfl⟩, rfl⟩ := htook.ret
        exact hthrown e
      | ok bytesRecv =>
        refine .bind ((report_triple htook.buffer htook.length htook.ret).mono ?_)
        rintro r t l ⟨rfl, rfl, hcerr, hprinted⟩
        refine .quietMethod (disconnect_uses (List.mem_singleton_self _)) disconnect_raises ?_
          (fun e => ⟨⟨hcerr, Or.inr ⟨e, rfl⟩⟩, hprinted⟩) fun _ _ _ => ?_
        · exact fun c hc => takenBy_quiet (by decide) hc
        · exact .pure ⟨⟨hcerr, Or.inl rfl⟩, hprinted⟩
  · rintro r t got ⟨⟨hcerr, rfl | ⟨e, rfl⟩⟩, hprinted⟩
    · exact ⟨Or.inl ⟨rfl, hcerr⟩, hprinted⟩
    · refine (reportException_triple hcerr).mono ?_
      rintro r t' got' ⟨hreturns, -, hcout, rfl⟩
      rw [← hcout] at hprinted
      exact ⟨hreturns, hprinted⟩

end Client

/-! ## The server -/

def announcement : Str := ascii "TCP server sucessfully sent data to the client." ++ ascii "\n"

/-- What the server prints, if it has sent `sent`. -/
def Announced (sent cout : Str) : Prop :=
  (sent = [] ∧ cout = []) ∨ ((∃ n, 0 < n ∧ sent = TCPServer.sendMsg.take n) ∧
    cout = announcement)

/-- How the server ends. -/
inductive ServerEnds (strerror : Errno → String) (sent : Str) (ran : Ran) : Prop
  /-- Nobody has connected, or the client is gone. -/
  | alone (hexit : ran.exit = .ok (.status 1)) (hprinted : ran.terminal = .empty)
      (hsent : sent = [])
  | returns (h : Returns strerror ran) (hprinted : Announced sent ran.terminal.cout)
      (hsent : ran.exit = .ok (.status 0) → sent ≠ [])

section Server

variable {strerror : Errno → String} {fd : ℤ}

/-- How the `try` block of the server is left. -/
def ServerTried (r : Except Exn Exit) (t : Terminal) (sent : Str) : Prop :=
  (r = .ok (.status 1) ∧ t = .empty ∧ sent = []) ∨
    (LeavesTry r t ∧ Announced sent t.cout ∧ (r = .ok (.status 0) → sent ≠ []))

theorem serverTried_error (e : SocketException) : ServerTried (.error (.socket e)) .empty [] :=
  Or.inr ⟨⟨rfl, Or.inr ⟨e, rfl⟩⟩, Or.inl ⟨rfl, rfl⟩, fun h => by cases h⟩

theorem sendMsg_take_ne_nil {n : ℕ} (hn : 0 < n) : TCPServer.sendMsg.take n ≠ [] := by
  intro h
  rcases List.take_eq_nil_iff.1 h with hzero | hmsg
  · omega
  · exact absurd hmsg (by simp [TCPServer.sendMsg])

theorem session_triple {P : Event → Prop} : Op.Triple (.log P (acceptedBy fd)) []
    (TCPServer.session ⟨fd, false⟩) .empty ServerTried := by
  have hlen : 0 < TCPServer.sendMsg.length := by simp [TCPServer.sendMsg]
  have hsend := send_triple (P := P) (f := frame ⟨fd, false⟩) rfl hlen []
  refine .bind (.withLocal (hsend.mono ?_))
  rintro r f l ⟨d, rfl, hhanded⟩
  cases r with
  | error x =>
    obtain ⟨⟨e, rfl⟩, rfl⟩ := hhanded.ret
    exact serverTried_error e
  | ok ret =>
    refine .ite (fun hgone => .pure ?_) fun hthere => .bind (writeOut_triple ?_)
    · rcases hhanded.ret with ⟨-, rfl⟩ | ⟨hsame, -⟩
      · exact Or.inl ⟨rfl, rfl, rfl⟩
      · rw [hsame] at hgone
        cases hgone
    · rcases hhanded.ret with ⟨hgone, -⟩ | ⟨-, n, hn, rfl⟩
      · exact absurd hgone hthere
      · rw [Terminal.empty_append]
        refine .quietMethod (disconnect_uses (List.mem_singleton_self _)) disconnect_raises
          (fun c hc => acceptedBy_quiet (by decide) hc) (fun e => Or.inr ?_) fun _ _ _ => ?_
        · exact ⟨⟨rfl, Or.inr ⟨e, rfl⟩⟩, Or.inr ⟨⟨n, hn, rfl⟩, rfl⟩, fun h => by cases h⟩
        · refine .pure (Or.inr ⟨⟨rfl, Or.inl rfl⟩, Or.inr ⟨⟨n, hn, rfl⟩, rfl⟩, fun _ => ?_⟩)
          exact sendMsg_take_ne_nil hn

/-- The handle is empty at the end of the block. -/
theorem serve_triple {P : Event → Prop} {handle : SocketHandle}
    (h : handle = .invalid ∨ handle.mSockfd = fd ∧ 0 ≤ fd) :
    Op.Triple (.log P (acceptedBy fd)) [] (TCPServer.serve handle) .empty ServerTried := by
  have hinvalid {r : Except Exn Exit} {t : Terminal} {l : List UInt8} (hr : ServerTried r t l) :
      Op.Triple (.log P (acceptedBy fd)) l SocketHandle.invalid.destroy t fun _ => ServerTried r :=
    .bind (.ite (fun hne => absurd rfl hne) fun _ => .pure (.pure hr))
  rcases h with rfl | ⟨rfl, hneg⟩
  · exact .finally' (.pure (hinvalid (Or.inl ⟨rfl, rfl, rfl⟩)))
  · unfold TCPServer.serve
    have hvalid : handle.valid = true := decide_eq_true hneg
    rw [if_pos hvalid]
    refine .finally' (Op.Triple.mono (Q := ServerTried) ?_ fun r t l hr => hinvalid hr)
    refine .quietSocket (fun _ _ => rfl) ?_
    rw [tcpOfHandle_eq hneg]
    exact .pure session_triple

theorem server_triple : Op.Triple (.log (AcceptIs fd) (acceptedBy fd)) []
    (TCPServer.main strerror) .empty fun r t sent => ServerEnds strerror sent ⟨r, t⟩ := by
  refine .catchSocket (Op.Triple.mono (Q := ServerTried)
    (.quietSocket (fun _ _ => rfl) ((tcpNew_triple fun _ => rfl).mono ?_)) ?_)
  · rintro r t l ⟨rfl, rfl, hr⟩
    cases r with
    | error x =>
      obtain ⟨e, rfl⟩ := hr
      exact serverTried_error e
    | ok this =>
      refine .quietMethod (inetBind_uses (List.mem_singleton_self _) _ _) (inetBind_raises _ _)
        (fun c hc => acceptedBy_quiet (by decide) hc) serverTried_error fun _ f hf => ?_
      refine .quietMethod (listen_uses (List.mem_singleton_self _) _) (listen_raises _)
        (fun c hc => acceptedBy_quiet (by decide) hc) serverTried_error fun _ f hf => ?_
      refine .bind ((timedAccept_triple (fun _ => rfl) fun _ => rfl).mono ?_)
      rintro r t l ⟨rfl, rfl, hr⟩
      cases r with
      | error x =>
        obtain ⟨e, rfl⟩ := hr
        exact serverTried_error e
      | ok handle =>
        refine serve_triple (hr.imp id ?_)
        rintro ⟨n, rfl, hn⟩
        obtain rfl : (n : ℤ) = fd := hn
        exact ⟨rfl, Int.natCast_nonneg n⟩
  · rintro r t sent (⟨rfl, rfl, rfl⟩ | ⟨⟨hcerr, rfl | ⟨e, rfl⟩⟩, hprinted, hsent⟩)
    · exact .alone rfl rfl rfl
    · exact .returns (Or.inl ⟨rfl, hcerr⟩) hprinted hsent
    · refine (reportException_triple hcerr).mono ?_
      rintro r t' sent' ⟨hreturns, hne, hcout, rfl⟩
      rw [← hcout] at hprinted
      exact .returns hreturns hprinted fun h => absurd h hne

end Server

/-! ## Both together -/

/-- The text of the message. -/
def message : Str := ascii "The quick brown fox jumps over the lazy dog"

/-- The client has received `n` bytes of the message; a NUL is not shown. -/
def ClientShows (n : ℕ) (cout : Str) : Prop :=
  (n = 0 ∧ cout = []) ∨
    cout = ascii "Received data from server: " ++ message.take n ++ ascii "\n"

/-- What is shown of an array that held zeros, after the start of a C string was put into it. -/
theorem arrayText_take {text : Str} {len : ℕ} (h0 : 0 ∉ text) (hlen : text.length < len) (n : ℕ) :
    arrayText (overwrite (List.replicate len 0) ((text ++ [0]).take n)) = text.take n := by
  unfold arrayText overwrite
  rw [List.drop_replicate]
  by_cases hn : n ≤ text.length
  · rw [List.take_append_of_le_length hn, List.length_take, min_eq_left hn]
    obtain ⟨m, hm⟩ : ∃ m, len - n = m + 1 := ⟨len - n - 1, by omega⟩
    rw [hm, List.replicate_succ]
    exact cStr_append_nul (fun h => h0 (List.mem_of_mem_take h)) _
  · rw [List.take_of_length_le (by simp; omega), List.append_assoc,
      List.take_of_length_le (by omega)]
    exact cStr_append_nul h0 _

theorem clientShows_of_printed {n : ℕ} {cout : Str}
    (h : Printed (TCPServer.sendMsg.take n) cout) : ClientShows n cout := by
  have h0 : 0 ∉ message := by decide
  have hlen : message.length < 50 := by decide
  rcases h with ⟨hnil, hcout⟩ | ⟨-, hcout⟩
  · by_cases hn : 0 < n
    · exact absurd hnil (sendMsg_take_ne_nil hn)
    · exact Or.inl ⟨by omega, hcout⟩
  · have htext := arrayText_take h0 hlen n
    exact Or.inr (hcout.trans (by rw [← htext]; rfl))

theorem ServerEnds.sent_eq {strerror : Errno → String} {sent : Str} {ran : Ran}
    (h : ServerEnds strerror sent ran) : ∃ m, sent = TCPServer.sendMsg.take m := by
  cases h with
  | alone _ _ hsent => exact ⟨0, hsent⟩
  | returns _ hprinted _ =>
    rcases hprinted with ⟨hsent, -⟩ | ⟨⟨m, -, hsent⟩, -⟩
    · exact ⟨0, hsent⟩
    · exact ⟨m, hsent⟩

theorem ServerEnds.announced {strerror : Errno → String} {sent : Str} {ran : Ran}
    (h : ServerEnds strerror sent ran) (hsent : sent ≠ []) : ran.terminal.cout = announcement := by
  cases h with
  | alone _ _ hnil => exact absurd hnil hsent
  | returns _ hprinted _ =>
    rcases hprinted with ⟨hnil, -⟩ | ⟨-, hcout⟩
    · exact absurd hnil hsent
    · exact hcout

/-- Every call can be answered so that the connection has the descriptor. -/
theorem acceptIs_answers (fd : ℤ) : ∀ c, ∃ r, posix.again c r = false ∧ AcceptIs fd ⟨c, r⟩
  | .sys w c => ⟨.error Errno.ebadf, by cases w <;> rfl, by cases c <;> trivial⟩
  | .lib c => (posix_answers (.lib c)).imp fun _ h => ⟨h, trivial⟩

/-- **The client and the server on a connection.** The system calls of the programs interleave in
any way, and the client has ended while the server may be anywhere. What the client has taken from
the connection are the first `n` bytes of the message, and it shows them, or nothing if there are
none. However the server goes on, the connection has accepted the first `m` bytes of the message
from it, at least these `n`, and it ends accordingly. -/
theorem tcp_example {strerror : Errno → String} {fds : Bool → ℤ}
    {tr : List (Interact.Event (posix.tagged Bool))} {k : Bool → Pipe UInt8}
    (h : (tcpConnection fds).Accepts (fun _ => Pipe.new) tr k)
    (hsocket : ∀ e ∈ view true tr, SocketIs (fds true) e)
    (haccept : ∀ e ∈ view false tr, AcceptIs (fds false) e) {client : Ran}
    {q : Prog posix (Ran × Unit)}
    (hclient : Runs (start (TCPClient.main strerror)) (view true tr) (client, ()))
    (hserver : Trace (start (TCPServer.main strerror)) (view false tr) q) :
    Returns strerror client ∧ ∃ n, n = ((view true tr).flatMap (takenBy (fds true))).length ∧
      (view true tr).flatMap (takenBy (fds true)) = TCPServer.sendMsg.take n ∧
      ClientShows n client.terminal.cout ∧
      ∀ rest server, Runs q rest (server, ()) → (∀ e ∈ rest, AcceptIs (fds false) e) →
        ∃ m, n ≤ m ∧
          (view false tr ++ rest).flatMap (acceptedBy (fds false)) = TCPServer.sendMsg.take m ∧
          ServerEnds strerror (TCPServer.sendMsg.take m) server ∧
          (0 < n → server.terminal.cout = announcement) := by
  obtain ⟨hreturns, hprinted⟩ := client_triple.start.log_runs hclient hsocket
  have hends (rest : List Event) (server : Ran) (hr : Runs q rest (server, ()))
      (hrest : ∀ e ∈ rest, AcceptIs (fds false) e) :
      ∃ m, (view false tr ++ rest).flatMap (acceptedBy (fds false)) = TCPServer.sendMsg.take m ∧
        (view true tr).flatMap (takenBy (fds true)) <+: TCPServer.sendMsg.take m ∧
        ServerEnds strerror (TCPServer.sendMsg.take m) server := by
    have hend := server_triple.start.log_runs (Trace.append hserver hr)
      (List.forall_mem_append.2 ⟨haccept, hrest⟩)
    obtain ⟨m, hm⟩ := hend.sent_eq
    refine ⟨m, hm, ?_, hm ▸ hend⟩
    obtain ⟨harrived, htaken⟩ := duplex.history h false
    rw [← hm, List.flatMap_append]
    refine List.IsPrefix.trans ?_ (List.prefix_append _ _)
    have harrived : (k false).fifo.arrived = (view false tr).flatMap (acceptedBy (fds false)) :=
      harrived
    have htaken : (k false).fifo.taken = (view true tr).flatMap (takenBy (fds true)) := htaken
    rw [← harrived, ← htaken, ← (k false).fifo.inv]
    exact List.prefix_append _ _
  -- what the client has received is the start of the message
  obtain ⟨rest, ⟨server, u⟩, hr, hrest⟩ := q.exists_runs_of (acceptIs_answers (fds false))
  obtain ⟨m, -, hstart, -⟩ := hends rest server hr hrest
  have hgot := List.prefix_iff_eq_take.1 (hstart.trans (List.take_prefix _ _))
  refine ⟨hreturns, _, rfl, hgot, ?_, ?_⟩
  · rw [hgot] at hprinted
    exact clientShows_of_printed hprinted
  · intro rest server hr hrest
    obtain ⟨m, hm, hstart, hend⟩ := hends rest server hr hrest
    have hle := hstart.length_le.trans (List.length_take_le _ _)
    exact ⟨m, hle, hm, hend, fun hn => hend.announced (sendMsg_take_ne_nil (hn.trans_le hle))⟩

/-- The server sends the message, and the client receives it. -/
theorem tcp_example_received : ∃ client : Ran, client.terminal.cout =
    ascii "Received data from server: " ++ message ++ ascii "\n" ∧
    ClientShows 44 client.terminal.cout := by
  let tr : List (Interact.Event (posix.tagged Bool)) := [
    ⟨(false, .sys .once (.socket 2 1 6)), .ok (3 : ℕ)⟩,
    ⟨(false, .lib .uninitIn), ⟨0, 0, inAddrAny⟩⟩,
    ⟨(false, .lib (.inetAton (cStr localhost))), some ⟨127, 0, 0, 1⟩⟩,
    ⟨(false, .sys .once (.bind 3 (.inet ⟨afInet, htons 47777, ⟨127, 0, 0, 1⟩⟩))), .ok ()⟩,
    ⟨(false, .sys .once (.listen 3 5)), .ok ()⟩,
    ⟨(true, .sys .once (.socket 2 1 6)), .ok (3 : ℕ)⟩,
    ⟨(true, .lib .uninitIn), ⟨0, 0, inAddrAny⟩⟩,
    ⟨(true, .lib (.inetAton (cStr localhost))), some ⟨127, 0, 0, 1⟩⟩,
    ⟨(true, .sys .once (.connect 3 (.inet ⟨afInet, htons 47777, ⟨127, 0, 0, 1⟩⟩))), .ok ()⟩,
    ⟨(false, .sys .tempFailureRetry (.poll 3 pollIn 5000)), .ok pollIn⟩,
    ⟨(false, .sys .once (.accept 3)), .ok (4 : ℕ)⟩,
    ⟨(false, .sys .tempFailureRetry (.send 4 TCPServer.sendMsg)),
      .ok ⟨44, by decide, by decide, fun _ => by decide⟩⟩,
    ⟨(true, .sys .tempFailureRetry (.poll 3 (pollIn ||| pollPri ||| pollRdHup) 5000)), .ok pollIn⟩,
    ⟨(true, .sys .tempFailureRetry (.recv 3 50 msgWaitall)), .ok ⟨TCPServer.sendMsg, by decide⟩⟩,
    ⟨(true, .sys .once (.connect 3 .unspec)), .ok ()⟩,
    ⟨(true, .sys .tempFailureRetry (.close 3)), .ok ()⟩]
  let fds : Bool → ℤ := fun i => if i then 3 else 4
  let pipes (p : Pipe UInt8) : Bool → Pipe UInt8 := fun i => if i then Pipe.new else p
  let full : Bool → Pipe UInt8 := pipes ⟨Fifo.ofList TCPServer.sendMsg, .opened, false⟩
  let read : Bool → Pipe UInt8 := pipes ⟨⟨TCPServer.sendMsg, TCPServer.sendMsg, [], rfl⟩, .opened,
    false⟩
  have hserver : Trace (start (TCPServer.main fun _ => "")) (view false tr) _ :=
    .cons (.answer rfl) (.cons (.answer rfl) (.cons (.answer rfl) (.cons (.answer rfl)
      (.cons (.answer rfl) (.cons (.answer rfl) (.cons (.answer rfl) (.cons (.answer rfl)
      (.nil _))))))))
  have hclient : Runs (start (TCPClient.main fun _ => "")) (view true tr) (⟨.ok (.status 0),
      ⟨ascii "Received data from server: " ++
        arrayText (overwrite TCPClient.recvMsg TCPServer.sendMsg) ++ ascii "\n", []⟩⟩, ()) :=
    .cons (.answer rfl) (.cons (.answer rfl) (.cons (.answer rfl) (.cons (.answer rfl)
      (.cons (.answer rfl) (.cons (.answer rfl) (.cons (.answer rfl) (.cons (.answer rfl)
      (.nil _))))))))
  have htake : TCPServer.sendMsg.take 44 = TCPServer.sendMsg := List.take_of_length_le (by decide)
  have hsend : (tcpConnection fds).step (fun _ => Pipe.new)
      ⟨(false, .sys .tempFailureRetry (.send 4 TCPServer.sendMsg)),
        .ok ⟨44, by decide, by decide, fun _ => by decide⟩⟩ full :=
    ⟨⟨Fifo.eq_of_history htake.symm rfl, fun h => (by cases h), fun h => (by cases h),
      fun _ => rfl, rfl⟩, .refl rfl id⟩
  have hreceive : (tcpConnection fds).step full
      ⟨(true, .sys .tempFailureRetry (.recv 3 50 msgWaitall)), .ok ⟨TCPServer.sendMsg, by decide⟩⟩
      read :=
    ⟨Pipe.Written.refl rfl, ⟨rfl, rfl⟩, rfl, Or.inl, fun h => absurd h.2.2 (by decide)⟩
  have quiet {k : Bool → Pipe UInt8} {e : Interact.Event (posix.tagged Bool)}
      (hputs : (tcpPort (fds e.call.1)).puts e.untag = [])
      (htakes : (tcpPort (fds e.call.1)).takes e.untag = [])
      (hend : ¬(tcpPort (fds e.call.1)).atEnd e.untag) : (tcpConnection fds).step k e k :=
    ⟨.refl hputs, .refl htakes hend⟩
  have hk : (tcpConnection fds).Accepts (fun _ => Pipe.new) tr read :=
    .step (quiet rfl rfl id) (.step (quiet rfl rfl id) (.step (quiet rfl rfl id)
    (.step (quiet rfl rfl id) (.step (quiet rfl rfl id) (.step (quiet rfl rfl id)
    (.step (quiet rfl rfl id) (.step (quiet rfl rfl id) (.step (quiet rfl rfl id)
    (.step (quiet rfl rfl id) (.step (quiet rfl rfl id) (.step hsend (.step (quiet rfl rfl id)
    (.step hreceive (.step (quiet rfl rfl id) (.single (quiet rfl rfl id))))))))))))))))
  have hsocket : ∀ e ∈ view true tr, SocketIs (fds true) e := by
    refine List.forall_mem_cons.2 ⟨rfl, ?_⟩
    iterate 7 refine List.forall_mem_cons.2 ⟨trivial, ?_⟩
    exact List.forall_mem_nil _
  have haccept : ∀ e ∈ view false tr, AcceptIs (fds false) e := by
    iterate 6 refine List.forall_mem_cons.2 ⟨trivial, ?_⟩
    exact List.forall_mem_cons.2 ⟨rfl, List.forall_mem_singleton.2 trivial⟩
  obtain ⟨-, n, hn, -, hshows, -⟩ := tcp_example hk hsocket haccept hclient hserver
  have hlength : ((view true tr).flatMap (takenBy (fds true))).length = 44 := by decide
  rw [hn, hlength] at hshows
  refine ⟨_, ?_, hshows⟩
  have hlen : message.length < 50 := by decide
  have htext := arrayText_take (by decide) hlen 44
  have hmessage : (message ++ [0]).take 44 = TCPServer.sendMsg := htake
  rw [hmessage, List.take_of_length_le (by decide)] at htext
  rw [← htext]
  rfl

end NET
