import SimpleSocket.Interact.Pipe
import SimpleSocket.Verify.OwnCalls
import SimpleSocket.Verify.TcpStream

/-!
# A TCP connection with two directions and an end

Two parties use the two ends of a connection with any operations, their system calls interleaved in
any way. Each direction is a pipe (`Interact.Pipe`), which its sender ends by `shutdown` and the
network can cut. A `receive` that returns 0 is the end: what was received is all that was sent,
unless the direction was cut, or the party had itself shut down receiving.
-/

namespace NET

open Op Interact SimpleSocket

/-! ## The events of an end -/

/-- The event ends the stream that is sent on the descriptor `fd`. -/
def EndsStream (fd : ℤ) : Event → Prop
  | ⟨.sys _ (.shutdown fd' how), r⟩ => fd' = fd ∧ (how = 1 ∨ how = 2) ∧ r = .ok ()
  | ⟨.sys _ (.close fd'), _⟩ => fd' = fd
  | _ => False

/-- The event stops what is received on the descriptor `fd`: from then on `recv` returns 0 when
there are no bytes, whatever may still come. -/
def StopsReading (fd : ℤ) : Event → Prop
  | ⟨.sys _ (.shutdown fd' how), _⟩ => fd' = fd ∧ (how = 0 ∨ how = 2)
  | _ => False

/-- `recv` with room for a byte has returned 0 on the descriptor `fd`. -/
def SeesEnd (fd : ℤ) : Event → Prop
  | ⟨.sys _ (.recv fd' len _), .ok got⟩ => fd' = fd ∧ 0 < len ∧ got.bytes = []
  | _ => False

/-- What happens on a descriptor of a connection. -/
def tcpPort (fd : ℤ) : Port posix UInt8 where
  puts := acceptedBy fd
  takes := takenBy fd
  ends := EndsStream fd
  stops := StopsReading fd
  atEnd := SeesEnd fd

/-- The connection whose ends have the descriptors `fds`. -/
def tcpConnection (fds : Bool → ℤ) : Kernel (posix.tagged Bool) := duplex fun i => tcpPort (fds i)

/-! ## Calls -/

section Calls

variable {c : Invocation} {this this' : SimpleSocket} {tr : List Event} {o : Outcome}

/-- `send` returns how much of the buffer was accepted. -/
theorem send_reports {data : List UInt8} {n : ℤ} (hop : c.op = .send data)
    (h : Runs (invoke c this) tr (o, this')) (hret : o.ret = .ok (.int n)) (hn : 0 ≤ n) :
    tr.flatMap (acceptedBy this.mSocket) = data.take n.toNat := by
  have key := invoke_wp (Q := fun as r _ => r = .ok (.int n) →
    (as.map Prod.snd).flatMap (acceptedBy this.mSocket) = data.take n.toNat) h (by
      rw [hop]
      refine wp_bind.2 ((wp_send data).2 fun b r _ => ?_)
      cases r with
      | error e =>
        by_cases he : hungUp e
        · rw [sendExit, if_pos he]
          intro hr
          have hval : (SendRet.ofReply (.error e) : SendRet data.length).val = n :=
            Value.int.inj (Except.ok.inj hr)
          rw [SendRet.ofReply_error] at hval
          omega
        · rw [sendExit, if_neg he]
          exact fun hr => by cases hr
      | ok m =>
        intro hr
        have hval : (SendRet.ofReply (.ok m)).val = n := Value.int.inj (Except.ok.inj hr)
        rw [SendRet.ofReply_ok] at hval
        subst hval
        have haccepted : acceptedBy this.mSocket (Event.sys .tempFailureRetry
            (.send this.mSocket data) (.ok m)) = data.take m.count :=
          SendLoop.acceptedBy_ok _ data m
        exact (List.append_nil _).trans haccepted)
  rw [map_snd_answers, flatMap_settled (acceptedBy_again this.mSocket)] at key
  exact key hret

/-- A `receive` with room for a byte that returns 0 has seen the end. -/
theorem receive_sees_end {len : ℕ} (hop : c.op = .receive len) (hlen : 0 < len)
    (h : Runs (invoke c this) tr (o, this')) (hret : o.ret = .ok (.int 0))
    (hcount : ∀ e ∈ tr, Countable e) : ∃ e ∈ tr, SeesEnd this.mSocket e := by
  have key := invoke_wp (Q := fun as r _ => r = .ok (.int 0) →
    (∀ e ∈ as.map Prod.snd, Countable e) → ∃ e ∈ as.map Prod.snd, SeesEnd this.mSocket e) h (by
      rw [hop]
      refine wp_asInt.2 ((wp_receive len).2 fun b r _ => ?_)
      dsimp only
      split
      · exact fun hr => by cases hr
      · next hpos =>
        intro hr hcount
        refine ⟨_, List.mem_singleton_self _, ?_⟩
        have hzero := Value.int.inj (Except.ok.inj hr)
        cases r with
        | error e => exact absurd hpos (by simp [Except.map])
        | ok got =>
          have hle : got.bytes.length ≤ intMax := hcount _ (List.mem_singleton_self _)
          simp only [Except.map, ssize_ok, toInt_of_le hle] at hzero
          exact ⟨rfl, hlen, List.length_eq_zero_iff.1 (by omega)⟩)
  rw [map_snd_answers] at key
  obtain ⟨e, he, hend⟩ := key hret fun e he => hcount e (mem_settled he)
  exact ⟨e, mem_settled he, hend⟩

theorem shutdown_of_kinds {op : Operation} (h : SysKind.shutdown ∈ op.kinds) :
    ∃ type, op = .shutdown type := by
  cases op with
  | shutdown type => exact ⟨type, rfl⟩
  | _ => simp [Operation.kinds] at h

theorem close_not_mem_kinds (op : Operation) : SysKind.close ∉ op.kinds := by
  cases op <;> simp [Operation.kinds]

/-- The direction of a `::shutdown` is that of the operation. -/
theorem shutdown_of_call (h : Runs (invoke c this) tr (o, this')) {w : Retry} {fd how : ℤ}
    {r : Except Errno Unit} (he : Event.sys w (.shutdown fd how) r ∈ tr) :
    ∃ type : ShutdownDirection, type.how = how ∧ c.op = .shutdown type := by
  obtain ⟨type, hop⟩ := shutdown_of_kinds (invoke_calls h _ he).1
  have hmakes : c.op.body.MakesOn this.mSocket
      fun x => x = .sys .once (.shutdown this.mSocket type.how) := by
    rw [hop]
    exact .asUnit (.checked rfl (.pure _))
  injection hmakes.runs h _ he with _ hsys
  injection hsys with _ hhow
  exact ⟨type, hhow.symm, hop⟩

/-- Only `shutdown` in the direction of the sender ends a stream. -/
theorem shutdown_of_ends {fd : ℤ} (h : Runs (invoke c this) tr (o, this')) {e : Event} (he : e ∈ tr)
    (hend : EndsStream fd e) : ∃ type, type ≠ .stopReceive ∧ c.op = .shutdown type := by
  have hcall := invoke_calls h e he
  obtain ⟨call, r⟩ := e
  cases call with
  | lib call => exact hend.elim
  | sys w call =>
    cases call with
    | close fd' => exact absurd hcall.1 (close_not_mem_kinds c.op)
    | shutdown fd' how =>
      obtain ⟨type, hhow, hop⟩ := shutdown_of_call h he
      refine ⟨type, ?_, hop⟩
      rintro rfl
      have hzero : 0 = how := hhow
      rcases hend.2.1 with hone | htwo
      · omega
      · omega
    | _ => exact hend.elim

/-- Only `shutdown` in the direction of the receiver stops reading. -/
theorem shutdown_of_stops {fd : ℤ} (h : Runs (invoke c this) tr (o, this')) {e : Event}
    (he : e ∈ tr) (hstops : StopsReading fd e) :
    ∃ type, type ≠ .stopSend ∧ c.op = .shutdown type := by
  obtain ⟨call, r⟩ := e
  cases call with
  | lib call => exact hstops.elim
  | sys w call =>
    cases call with
    | shutdown fd' how =>
      obtain ⟨type, hhow, hop⟩ := shutdown_of_call h he
      refine ⟨type, ?_, hop⟩
      rintro rfl
      have hone : 1 = how := hhow
      rcases hstops.2 with hzero | htwo
      · omega
      · omega
    | _ => exact hstops.elim

end Calls

/-! ## The connection -/

section Connection

variable {this : SimpleSocket} {evs : List Event}

/-- What a party has taken from the connection. -/
def receivedBytes (A : Activity invoke this evs) : List UInt8 :=
  A.entries.flatMap takenIn ++ A.tail.flatMap (takenBy this.mSocket)

/-- What the connection has accepted from a party. -/
def acceptedBytes (A : Activity invoke this evs) : List UInt8 :=
  A.entries.flatMap acceptedIn ++ A.tail.flatMap (acceptedBy this.mSocket)

/-- The stream of a party is ended by one of its calls. -/
theorem shutdown_of_ended (A : Activity invoke this evs) {fd : ℤ} {ev : Event} (hev : ev ∈ evs)
    (hend : EndsStream fd ev) :
    ∃ c ∈ calls A, ∃ type, type ≠ .stopReceive ∧ c.op = .shutdown type := by
  rw [A.events_eq] at hev
  rcases List.mem_append.1 hev with hev | hev
  · obtain ⟨e, he, hev⟩ := List.mem_flatMap.1 hev
    refine ⟨e.op, List.mem_append_left _ (List.mem_map_of_mem he), ?_⟩
    exact shutdown_of_ends (A.session.entry_runs he) hev hend
  · obtain ⟨rest, ⟨o, s⟩, hr, -⟩ := A.exists_runs posix_answers
    refine ⟨A.op, List.mem_append_right _ List.mem_cons_self, ?_⟩
    exact shutdown_of_ends hr (List.mem_append_left _ hev) hend

/-- The call is a `receive` with room for a byte, it has returned 0, and no count was too large. -/
def ReturnsEnd (e : CallEntry) : Prop :=
  (∃ len, 0 < len ∧ e.op.op = .receive len) ∧ e.result.ret = .ok (.int 0) ∧
    ∀ ev ∈ e.events, Countable ev

/-- Such a call has seen the end. What stopped reading before was an earlier call. -/
theorem sees_end (A : Activity invoke this evs) {before after : List CallEntry} {e : CallEntry}
    (hentries : A.entries = before ++ e :: after) (h : ReturnsEnd e) :
    ∃ evs₁ ev evs₂, evs = evs₁ ++ ev :: evs₂ ∧ SeesEnd this.mSocket ev ∧
      ∀ ev' ∈ evs₁, ∀ fd, StopsReading fd ev' →
        ∃ e' ∈ before, ∃ type, type ≠ .stopSend ∧ e'.op.op = .shutdown type := by
  have he : e ∈ A.entries := by
    rw [hentries]
    exact List.mem_append_right _ List.mem_cons_self
  obtain ⟨⟨len, hlen, hop⟩, hret, hcount⟩ := h
  have hr := A.session.entry_runs he
  obtain ⟨ev, hev, hend⟩ := receive_sees_end hop hlen hr hret hcount
  rw [(SocketRun.mSocket_eq A.session).2 e he] at hend
  obtain ⟨x, y, hsplit⟩ := List.append_of_mem hev
  refine ⟨before.flatMap Entry.events ++ x, ev, y ++ after.flatMap Entry.events ++ A.tail, ?_, hend,
    fun ev' hev' fd hstops => ?_⟩
  · refine A.events_eq.trans ?_
    rw [hentries, List.flatMap_append, List.flatMap_cons, hsplit]
    simp only [List.append_assoc, List.cons_append]
  · rcases List.mem_append.1 hev' with hev' | hev'
    · obtain ⟨e', he', hev'⟩ := List.mem_flatMap.1 hev'
      have hmem : e' ∈ A.entries := by
        rw [hentries]
        exact List.mem_append_left _ he'
      exact ⟨e', he', shutdown_of_stops (A.session.entry_runs hmem) hev' hstops⟩
    · have hmem : ev' ∈ e.events := by
        rw [hsplit]
        exact List.mem_append_left _ hev'
      obtain ⟨type, -, hshut⟩ := shutdown_of_stops hr hmem hstops
      rw [hop] at hshut
      cases hshut

end Connection

/-- What a party of a connection can rely on; the stream it reads is that of its peer. -/
structure DuplexFidelity {this peer : SimpleSocket} {evs evs' : List Event} (pipe : Pipe UInt8)
    (A : Activity invoke this evs) (B : Activity invoke peer evs') : Prop where
  stream : receivedBytes A ++ pipe.fifo.queue = acceptedBytes B
  reports : ∀ e ∈ A.entries, e.op.op.isReceive → (∀ ev ∈ e.events, Countable ev) →
    CountedIn e ∧ reportedIn e = takenIn e
  sends : ∀ e ∈ A.entries, ∀ data n, e.op.op = .send data → e.result.ret = .ok (.int n) → 0 ≤ n →
    acceptedIn e = data.take n.toNat
  ends : ∀ before e after, A.entries = before ++ e :: after → ReturnsEnd e → pipe.status ≠ .cut →
    (∃ e' ∈ before, ∃ type, type ≠ .stopSend ∧ e'.op.op = .shutdown type) ∨
      (receivedBytes A = acceptedBytes B ∧
        ∃ c ∈ calls B, ∃ type, type ≠ .stopReceive ∧ c.op = .shutdown type)

/-- **A TCP connection in both directions.** Whatever the two parties call, and however their system
calls interleave: what one has received and what is on its way is what was accepted from the other,
`receive` and `send` report it to their callers, and a `receive` that returns 0 comes after the
`shutdown` of the other, when all of its bytes have been received, or after a `shutdown` of the
party itself for receiving, or in a direction that was cut. -/
theorem tcp_duplex {sock : Bool → SimpleSocket} {tr : List (Interact.Event (posix.tagged Bool))}
    {k : Bool → Pipe UInt8}
    (h : (tcpConnection fun i => (sock i).mSocket).Accepts (fun _ => Pipe.new) tr k)
    (A : ∀ i, Activity invoke (sock i) (view i tr)) (i : Bool) :
    DuplexFidelity (k !i) (A i) (A !i) := by
  have hstream : receivedBytes (A i) ++ (k !i).fifo.queue = acceptedBytes (A !i) := by
    obtain ⟨harrived, htaken⟩ := duplex.history h (!i)
    rw [Bool.not_not] at htaken
    have hreceived : (k !i).fifo.taken = receivedBytes (A i) :=
      htaken.trans (flatMap_events (f := takenBy) (A i))
    have haccepted : (k !i).fifo.arrived = acceptedBytes (A !i) :=
      harrived.trans (flatMap_events (f := acceptedBy) (A !i))
    rw [← hreceived, ← haccepted]
    exact (k !i).fifo.inv
  refine ⟨hstream, fun e he hop hcount => ?_, fun e he data n hop hret hn => ?_,
    fun before e after hentries hend hcut => ?_⟩
  · exact (entry_accounted hop ((A i).session.entry_runs he)).2 hcount
  · exact send_reports hop ((A i).session.entry_runs he) hret hn
  · obtain ⟨evs₁, ev, evs₂, hevs, hsees, hstops⟩ := sees_end (A i) hentries hend
    have hatEnd := duplex.atEnd h (i := !i) rfl (by rw [Bool.not_not]; exact hevs)
      (by rw [Bool.not_not]; exact hsees)
    rw [Bool.not_not] at hatEnd
    rcases hatEnd with (hdone | ⟨hended, hqueue⟩) | ⟨ev', hev', hstop⟩
    · exact absurd hdone hcut
    · rw [hqueue, List.append_nil] at hstream
      refine Or.inr ⟨hstream, ?_⟩
      rcases duplex.ended h hended with hnew | ⟨ev', hev', hends⟩
      · cases hnew
      · exact shutdown_of_ended (A !i) hev' hends
    · exact Or.inl (hstops ev' hev' _ hstop)

/-- A byte is sent, the stream is ended, and the peer receives the byte and the end. -/
theorem tcp_duplex_end : ∃ (tr : List (Interact.Event (posix.tagged Bool))) (k : Bool → Pipe UInt8)
    (A : Activity invoke ⟨3, false⟩ (view true tr))
    (B : Activity invoke ⟨4, false⟩ (view false tr)),
    DuplexFidelity (k false) A B ∧ receivedBytes A = [5] := by
  have hsend : Runs (invoke ⟨.send [5], ⟨[], [], 0, 0, 0⟩, 0⟩ ⟨4, false⟩)
      [Event.sys .tempFailureRetry (.send 4 [5]) (.ok ⟨1, by decide, by decide, id⟩)]
      (⟨.ok (.int 1), ⟨[], [], 0, 0, 0⟩⟩, ⟨4, false⟩) := .cons (.answer rfl) (.nil _)
  have hshut : Runs (invoke ⟨.shutdown .stopSend, ⟨[], [], 0, 0, 0⟩, 0⟩ ⟨4, false⟩)
      [Event.sys .once (.shutdown 4 1) (.ok ())]
      (⟨.ok .unit, ⟨[], [], 0, 0, 0⟩⟩, ⟨4, false⟩) := .cons (.answer rfl) (.nil _)
  have hgot : Runs (invoke ⟨.receive 1, ⟨[0], [], 0, 0, 0⟩, 0⟩ ⟨3, false⟩)
      [Event.sys .tempFailureRetry (.recv 3 1 0) (.ok ⟨[5], by decide⟩)]
      (⟨.ok (.int 1), ⟨[5], [], 0, 0, 0⟩⟩, ⟨3, false⟩) := .cons (.answer rfl) (.nil _)
  have hend : Runs (invoke ⟨.receive 1, ⟨[0], [], 0, 0, 0⟩, 0⟩ ⟨3, false⟩)
      [Event.sys .tempFailureRetry (.recv 3 1 0) (.ok ⟨[], by decide⟩)]
      (⟨.ok (.int 0), ⟨[0], [], 0, 0, 0⟩⟩, ⟨3, false⟩) := .cons (.answer rfl) (.nil _)
  let sock : Bool → SimpleSocket := fun i => if i then ⟨3, false⟩ else ⟨4, false⟩
  let tr : List (Interact.Event (posix.tagged Bool)) := [
    ⟨(false, .sys .tempFailureRetry (.send 4 [5])), .ok ⟨1, by decide, by decide, id⟩⟩,
    ⟨(true, .sys .tempFailureRetry (.recv 3 1 0)), .ok ⟨[5], by decide⟩⟩,
    ⟨(false, .sys .once (.shutdown 4 1)), .ok ()⟩,
    ⟨(true, .sys .tempFailureRetry (.recv 3 1 0)), .ok ⟨[], by decide⟩⟩]
  let op : Invocation := ⟨.receive 1, ⟨[0], [], 0, 0, 0⟩, 0⟩
  have hfree (tr : List Event) : (Kernel.free posix).Accepts () tr () := Kernel.free_accepts tr
  let reader : Activity invoke (sock true) (view true tr) :=
    .between (.snoc (.single _ hgot (hfree _)) _ hend (hfree _)) op
  let writer : Activity invoke (sock false) (view false tr) :=
    .between (.snoc (.single _ hsend (hfree _)) _ hshut (hfree _)) op
  let A : ∀ i, Activity invoke (sock i) (view i tr) := fun i => match i with
    | true => reader
    | false => writer
  -- nothing is put into the pipe of the reader
  let pipes (p : Pipe UInt8) : Bool → Pipe UInt8 := fun i => if i then Pipe.new else p
  have step₁ : (tcpConnection fun i => (sock i).mSocket).step (fun _ => Pipe.new)
      ⟨(false, .sys .tempFailureRetry (.send 4 [5])), .ok ⟨1, by decide, by decide, id⟩⟩
      (pipes ⟨Fifo.ofList [5], .opened, false⟩) :=
    ⟨⟨rfl, fun h => (by cases h), fun h => (by cases h), fun _ => rfl, rfl⟩, Pipe.Read.refl rfl id⟩
  have step₂ : (tcpConnection fun i => (sock i).mSocket).step
      (pipes ⟨Fifo.ofList [5], .opened, false⟩)
      ⟨(true, .sys .tempFailureRetry (.recv 3 1 0)), .ok ⟨[5], by decide⟩⟩
      (pipes ⟨⟨[5], [5], [], rfl⟩, .opened, false⟩) :=
    ⟨Pipe.Written.refl rfl, ⟨rfl, rfl⟩, rfl, Or.inl, fun h => (by cases h.2.2)⟩
  have step₃ : (tcpConnection fun i => (sock i).mSocket).step
      (pipes ⟨⟨[5], [5], [], rfl⟩, .opened, false⟩) ⟨(false, .sys .once (.shutdown 4 1)), .ok ()⟩
      (pipes ⟨⟨[5], [5], [], rfl⟩, .ended, false⟩) :=
    ⟨⟨rfl, fun h => (by cases h), fun _ => Or.inr ⟨rfl, Or.inl rfl, rfl⟩, fun h => absurd rfl h,
      rfl⟩, Pipe.Read.refl rfl id⟩
  have step₄ : (tcpConnection fun i => (sock i).mSocket).step
      (pipes ⟨⟨[5], [5], [], rfl⟩, .ended, false⟩)
      ⟨(true, .sys .tempFailureRetry (.recv 3 1 0)), .ok ⟨[], by decide⟩⟩
      (pipes ⟨⟨[5], [5], [], rfl⟩, .ended, false⟩) :=
    ⟨Pipe.Written.refl rfl, ⟨rfl, rfl⟩, rfl, Or.inl, fun _ => Or.inr (Or.inr ⟨rfl, rfl⟩)⟩
  have key := tcp_duplex (.step step₁ (.step step₂ (.step step₃ (.single step₄)))) A true
  exact ⟨tr, _, reader, writer, key, rfl⟩

end NET
