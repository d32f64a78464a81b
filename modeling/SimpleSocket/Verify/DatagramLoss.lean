import Mathlib.Data.List.Forall2
import SimpleSocket.Interact.Fifo
import SimpleSocket.Verify.UnixDelivery

/-!
# Datagrams that are removed and not returned

`UnixDatagramSocket` and `CANRawSocket` take the datagram out of the kernel's queue and then decode
its sender. What is taken is returned with its byte count exactly if the decoding succeeds: the
kernel has reported a name (`extractPath`), or still knows the interface (`getInterfaceName`).

* `mailKernel`: the queue of a socket, and the interfaces that are there.
* `Receives`: what a call of `receiveFrom` does with what it has taken.
-/

namespace NET

open Op Interact SimpleSocket

/-! ## The kernel -/

/-- An abstract name: the bytes at `sun_path`, of which the first is NUL. -/
structure AbstractName where
  bytes : List UInt8
  nul : bytes.head? = some 0
  length_le : bytes.length ≤ sunPathSize

inductive Sender
  | path (p : UnixPath)
  | abstract (name : AbstractName)
  | unbound
  | interface (index : ℤ)

/-- The kernel reports the sender as the address `name`. -/
def Sender.Reports : (s : Sender) → (kind : AddrKind) → kind.Name → Prop
  | .path p, .un, name => name = ⟨saFamilySize + p.bytes.length + 1, p.bytes ++ [0]⟩
  | .abstract a, .un, name => name = ⟨saFamilySize + a.bytes.length, a.bytes⟩
  | .unbound, .un, name => name = ⟨0, []⟩
  | .interface index, .can, addr => addr = ⟨afCan, index⟩
  | _, _, _ => False

structure Mail where
  payload : List UInt8
  sender : Sender

/-- The queue of a socket, and the names of the interfaces by their index. -/
structure Mailbox where
  queue : Fifo Mail
  interfaces : ℤ → Option Str

/-- What an event takes from the queue: the head, of which it gets what fits into the buffer. -/
def TakesFrom : Event → List Mail → Prop
  | ⟨.sys _ (.recvfrom _ len kind), .ok (got, name)⟩, ms =>
    ∃ m : Mail, ms = [m] ∧ got.bytes = m.payload.take len ∧ m.sender.Reports kind name
  | _, ms => ms = []

/-- `SIOCGIFNAME` finds the interfaces that are there, and no others. -/
def LooksUp (interfaces : ℤ → Option Str) : Event → Prop
  | ⟨.sys _ (.ioctl _ request ifr), r⟩ => request = siocgifname →
    match interfaces ifr.ifrIfindex with
    | some name => ∃ ifr' : Ifreq, r = .ok ifr' ∧ cStr ifr'.ifrName = name
    | none => ∃ e, r = .error e
  | _ => True

/-- Datagrams arrive, and interfaces come and go, between the calls. -/
def mailKernel : Kernel posix where
  State := Mailbox
  step k e k' := (∃ ms, TakesFrom e ms ∧ k.queue.Takes ms k'.queue) ∧
    k'.interfaces = k.interfaces ∧ LooksUp k.interfaces e
  idle k k' := ∃ ms, k'.queue = k.queue.put ms

/-- A call of `recvfrom` that has returned. -/
def took : Event → Bool
  | ⟨.sys _ (.recvfrom ..), .ok _⟩ => true
  | _ => false

/-- What it has been given. -/
def Given : Event → Mail → Prop
  | ⟨.sys _ (.recvfrom _ len kind), .ok (got, name)⟩, m =>
    got.bytes = m.payload.take len ∧ m.sender.Reports kind name
  | _, _ => False

theorem takesFrom_given {e : Event} {ms : List Mail} (h : TakesFrom e ms) :
    List.Forall₂ Given ([e].filter took) ms := by
  obtain ⟨call, r⟩ := e
  cases call with
  | lib c =>
    obtain rfl : ms = [] := h
    exact .nil
  | sys w c =>
    cases c with
    | recvfrom fd len kind =>
      cases r with
      | error e =>
        obtain rfl : ms = [] := h
        exact .nil
      | ok got =>
        obtain ⟨m, rfl, hm⟩ := h
        exact .cons hm .nil
    | _ =>
      obtain rfl : ms = [] := h
      cases r <;> exact .nil

/-- The calls of a run take the datagrams at the front of the queue, in order. -/
theorem accepts_taken {k k' : Mailbox} {tr : List Event} (h : mailKernel.Accepts k tr k') :
    ∃ ms, k'.queue.taken = k.queue.taken ++ ms ∧ List.Forall₂ Given (tr.filter took) ms := by
  have hqueue : (queueKernel TakesFrom).Accepts k.queue tr k'.queue :=
    @Kernel.Accepts.map posix mailKernel (queueKernel TakesFrom) Mailbox.queue
      (fun _ _ _ hs => hs.1) (fun _ _ hi => hi) k k' tr h
  obtain ⟨xss, hall, htaken, -⟩ := queueKernel.accepts hqueue
  refine ⟨xss.flatten, htaken, ?_⟩
  clear h hqueue htaken
  induction hall with
  | nil => exact .nil
  | @cons e ms tr xss he _ ih =>
    have hcons : (e :: tr).filter took = [e].filter took ++ tr.filter took := by
      rw [← List.filter_append, List.singleton_append]
    rw [hcons, List.flatten_cons]
    exact List.rel_append (takesFrom_given he) ih

/-! ## Decoding the sender -/

/-- `SIOCGIFNAME` has failed. -/
def LookupFailed : Event → Prop
  | ⟨.sys .once (.ioctl _ request _), .error _⟩ => request = siocgifname
  | _ => False

/-- The address that `recvfrom` reports can be decoded: its length is that of a name, or no
interface was missing. -/
def Decoded (evs : List Event) : (kind : AddrKind) → kind.Name → Prop
  | .inet, _ => True
  | .un, name => sizeSub (sizeSub name.len saFamilySize) 1 ≤ maxSize
  | .can, _ => ∀ e ∈ evs, ¬LookupFailed e

/-- The sender is one the library can name. -/
def Sender.Known (evs : List Event) : Sender → Prop
  | .path _ => True
  | .abstract _ => True
  | .unbound => False
  | .interface _ => ∀ e ∈ evs, ¬LookupFailed e

theorem Sender.decoded_iff {s : Sender} {kind : AddrKind} {name : kind.Name}
    (h : s.Reports kind name) (evs : List Event) : Decoded evs kind name ↔ s.Known evs := by
  cases s with
  | path p =>
    cases kind <;> cases h
    have hlt := p.length_lt
    refine iff_of_true ?_ trivial
    unfold Decoded sizeSub saFamilySize maxSize
    unfold sunPathSize at hlt
    dsimp only
    omega
  | abstract a =>
    cases kind <;> cases h
    have hle := a.length_le
    have hpos : 0 < a.bytes.length := by
      have := a.nul
      cases ha : a.bytes with
      | nil =>
        rw [ha] at this
        cases this
      | cons b bs => simp
    refine iff_of_true ?_ trivial
    unfold Decoded sizeSub saFamilySize maxSize
    unfold sunPathSize at hle
    dsimp only
    omega
  | unbound =>
    cases kind <;> cases h
    have hwrap : ¬sizeSub (sizeSub 0 saFamilySize) 1 ≤ maxSize := by decide
    exact iff_of_false hwrap id
  | interface index =>
    cases kind <;> cases h
    exact Iff.rfl

/-! ## One call -/

/-- A call takes at most one datagram, and returns its byte count exactly if that is an `int` and
the sender can be decoded. -/
def Receives (len : ℕ) (evs : List Event) (ret : Except Exn Value) : Prop :=
  evs.filter took = [] ∨ ∃ (fd : ℤ) (kind : AddrKind) (got : Received len) (name : kind.Name),
    evs.filter took = [Event.sys .tempFailureRetry (.recvfrom fd len kind) (.ok (got, name))] ∧
      (ret = .ok (.int got.bytes.length) ↔ got.bytes.length ≤ intMax ∧ Decoded evs kind name)

theorem Receives.of_no {len : ℕ} {evs : List Event} {ret : Except Exn Value}
    (h : ∀ e ∈ evs, took e = false) : Receives len evs ret :=
  Or.inl (List.filter_eq_nil_iff.2 fun e he => by simp [h e he])

/-- A call before the rest that neither takes a datagram nor looks up a name. -/
theorem Receives.cons {len : ℕ} {e : Event} {evs : List Event} {ret : Except Exn Value}
    (h : Receives len evs ret) (ht : took e = false) (hl : ¬LookupFailed e) :
    Receives len (e :: evs) ret := by
  have hfilter : (e :: evs).filter took = evs.filter took := List.filter_cons_of_neg (by simp [ht])
  unfold Receives
  rw [hfilter]
  apply h.imp_right
  intro h
  obtain ⟨fd, kind, got, name, hx, hiff⟩ := h
  refine ⟨fd, kind, got, name, hx, hiff.trans (and_congr_right fun _ => ?_)⟩
  cases kind with
  | inet => exact Iff.rfl
  | un => exact Iff.rfl
  | can => exact ⟨fun h => List.forall_mem_cons.2 ⟨hl, h⟩, fun h => (List.forall_mem_cons.1 h).2⟩

section Methods

variable {s : Proc Frame}

-- a comparison with a count is never evaluated
attribute [local irreducible] toInt

/-- The result that is handed on is the byte count exactly if that is an `int`. -/
theorem ok_toInt_iff {n : ℕ} :
    (.ok (.int (toInt n)) : Except Exn Value) = .ok (.int n) ↔ n ≤ intMax := by
  rw [Except.ok.injEq, Value.int.injEq]
  exact toInt_eq_self_iff

theorem not_le_of_toInt_neg {n : ℕ} (h : toInt n < 0) : ¬n ≤ intMax := by
  intro hle
  rw [toInt_of_le hle] at h
  omega

theorem unixReceiveFrom_receives (len : ℕ) : (UnixDatagramSocket.receiveFrom len).wp
    (fun as r _ => Receives len (as.map Prod.snd) (r.map Value.int)) s := by
  unfold UnixDatagramSocket.receiveFrom
  rw [wp_bind]
  apply wp_lib.2
  intro b addr
  refine wp_receiveDatagram (fun b' e => ?_) (fun b' got name err hneg => ?_)
    fun b' got name err hneg => ?_
  · exact .of_no (by simp [took])
  · refine Receives.cons ?_ rfl id
    refine Or.inr ⟨_, .un, got, name, rfl, iff_of_false (fun h => by cases h) ?_⟩
    exact fun h => not_le_of_toInt_neg hneg h.1
  · rw [wp_bind, wp_extractPath]
    by_cases hmax : maxSize < sizeSub (sizeSub name.len saFamilySize) 1
    · have hext : extracted (name.fill addr.1) name.len = .error .lengthError := if_pos hmax
      dsimp only [UnixDatagramSocket.senderOf]
      rw [hext]
      refine Receives.cons (Or.inr ⟨_, .un, got, name, rfl, iff_of_false ?_ ?_⟩) rfl id
      · exact fun h => by cases h
      · exact fun h => absurd h.2 (Nat.not_le.2 hmax)
    · have hext : extracted (name.fill addr.1) name.len =
          .ok ((name.fill addr.1).sunPath.take (sizeSub (sizeSub name.len saFamilySize) 1)) :=
        if_neg hmax
      dsimp only [UnixDatagramSocket.senderOf]
      rw [hext]
      refine Receives.cons (Or.inr ⟨_, .un, got, name, rfl, ?_⟩) rfl id
      exact ok_toInt_iff.trans (iff_self_and.2 fun _ => Nat.le_of_not_lt hmax)

theorem canReceiveFrom_receives (len : ℕ) : (CANRawSocket.receiveFrom len).wp
    (fun as r _ => Receives len (as.map Prod.snd) (r.map Value.int)) s := by
  unfold CANRawSocket.receiveFrom
  rw [wp_bind]
  apply wp_lib.2
  intro b addr
  refine wp_receiveDatagram (fun b' e => ?_) (fun b' got name err hneg => ?_)
    fun b' got name err hneg => ?_
  · exact .of_no (by simp [took])
  · refine Receives.cons ?_ rfl id
    refine Or.inr ⟨_, .can, got, name, rfl, iff_of_false (fun h => by cases h) ?_⟩
    exact fun h => not_le_of_toInt_neg hneg h.1
  · simp only [CANSocket.getInterfaceName, wp_bind, wp_thisSocket]
    apply wp_lib.2
    intro b₁ ifr
    apply wp_sys.2
    intro b₂ r _
    cases r with
    | error e =>
      refine Receives.cons (Or.inr ⟨_, .can, got, name, rfl, iff_of_false ?_ ?_⟩) rfl id
      · exact fun h => by cases h
      · intro h
        exact h.2 _ (List.mem_cons_of_mem _ (List.mem_cons_of_mem _ List.mem_cons_self)) rfl
    | ok ifr' =>
      refine Receives.cons (Or.inr ⟨_, .can, got, name, rfl, ?_⟩) rfl id
      refine ok_toInt_iff.trans (iff_self_and.2 fun _ => ?_)
      refine List.forall_mem_cons.2 ⟨id, List.forall_mem_cons.2 ⟨id, ?_⟩⟩
      exact List.forall_mem_singleton.2 id

theorem timedWith_receives {len : ℕ} {receive : Method ℤ} (h : ∀ s, receive.wp
    (fun as r _ => Receives len (as.map Prod.snd) (r.map Value.int)) s) (failure : String)
    (timeout : ℤ) : (timedWith failure timeout receive).wp
      (fun as r _ => Receives len (as.map Prod.snd) (r.map Value.int)) s := by
  rw [wp_timedWith]
  intro b r _
  dsimp only
  split
  · exact .of_no (by simp [took])
  · split
    · exact .of_no (by simp [took])
    · split
      · exact wp_mono (h _) fun as r s' h => h.cons rfl id
      · exact .of_no (by simp [took])

end Methods

/-- The `receiveFrom` operations of the two classes, and the size of the buffer. -/
def Operation.receiveLen : Operation → Option ℕ
  | .unixReceiveFrom len => some len
  | .unixTimedReceiveFrom len _ => some len
  | .canReceiveFrom len => some len
  | .canTimedReceiveFrom len _ => some len
  | _ => none

theorem body_receives {op : Operation} {len : ℕ} (hop : op.receiveLen = some len)
    (s : Proc Frame) : op.body.wp (fun as r _ => Receives len (as.map Prod.snd) r) s := by
  cases op with
  | unixReceiveFrom n =>
    cases hop
    exact wp_asInt.2 (unixReceiveFrom_receives len)
  | unixTimedReceiveFrom n timeout =>
    cases hop
    exact wp_asInt.2 (timedWith_receives (fun _ => unixReceiveFrom_receives len) _ _)
  | canReceiveFrom n =>
    cases hop
    exact wp_asInt.2 (canReceiveFrom_receives len)
  | canTimedReceiveFrom n timeout =>
    cases hop
    exact wp_asInt.2 (timedWith_receives (fun _ => canReceiveFrom_receives len) _ _)
  | _ => cases hop

theorem decoded_settled (tr : List Event) (kind : AddrKind) (name : kind.Name) :
    Decoded (settled tr) kind name ↔ Decoded tr kind name := by
  cases kind with
  | inet => exact Iff.rfl
  | un => exact Iff.rfl
  | can =>
    refine forall_mem_settled (fun e ha hl => ?_) tr
    obtain ⟨c, rfl⟩ := Event.eq_of_again ha
    exact hl

theorem filter_took_settled (tr : List Event) : (settled tr).filter took = tr.filter took := by
  refine filter_settled (fun e ha => ?_) tr
  obtain ⟨c, rfl⟩ := Event.eq_of_again ha
  cases c <;> rfl

theorem call_receives {c : Invocation} {len : ℕ} (hop : c.op.receiveLen = some len)
    {this this' : SimpleSocket} {tr : List Event} {o : Outcome}
    (hr : Runs (invoke c this) tr (o, this')) : Receives len tr o.ret := by
  have h := invoke_wp (Q := fun as r _ => Receives len (as.map Prod.snd) r) hr (body_receives hop _)
  rw [map_snd_answers, Receives, filter_took_settled] at h
  apply h.imp_right
  intro h
  obtain ⟨fd, kind, got, name, hx, hiff⟩ := h
  exact ⟨fd, kind, got, name, hx, hiff.trans (and_congr_right fun _ => decoded_settled _ _ _)⟩

/-! ## Runs -/

/-- The buffer of a call. -/
def bufferLen (e : CallEntry) : ℕ := e.op.op.receiveLen.getD 0

/-- The calls that have taken a datagram out of the queue. -/
def takers (es : List CallEntry) : List CallEntry := es.filter fun e => e.events.any took

/-- The call has returned the byte count of the datagram. -/
def Returned (e : CallEntry) (m : Mail) : Prop :=
  e.result.ret = .ok (.int (m.payload.take (bufferLen e)).length)

/-- The byte count is an `int`, and the sender one the library can name. -/
def Reportable (e : CallEntry) (m : Mail) : Prop :=
  (m.payload.take (bufferLen e)).length ≤ intMax ∧ m.sender.Known e.events

/-- A call that takes a datagram returns it exactly if it is reportable. -/
theorem call_returned_iff {e : CallEntry} (hop : e.op.op.receiveLen.isSome)
    (hr : Runs (invoke e.op e.pre) e.events (e.result, e.post)) :
    e.events.filter took = [] ∨ ∃ x, e.events.filter took = [x] ∧
      ∀ m, Given x m → (Returned e m ↔ Reportable e m) := by
  obtain ⟨len, hlen⟩ := Option.isSome_iff_exists.1 hop
  apply (call_receives hlen hr).imp_right
  intro h
  obtain ⟨fd, kind, got, name, hx, hiff⟩ := h
  refine ⟨_, hx, ?_⟩
  intro m h
  obtain ⟨hgot, hname⟩ := h
  have hbuf : bufferLen e = len := by rw [bufferLen, hlen, Option.getD_some]
  rw [Returned, Reportable, hbuf, ← hgot, hiff, Sender.decoded_iff hname]

theorem run_returned_iff {this this' : SimpleSocket} {k₀ k : Mailbox} {es : List CallEntry}
    (h : SocketRun mailKernel this k₀ es this' k)
    (hops : ∀ e ∈ es, e.op.op.receiveLen.isSome) :
    ∃ ms, k.queue.taken = k₀.queue.taken ++ ms ∧
      List.Forall₂ (fun e m => (∃ x ∈ e.events, Given x m) ∧ (Returned e m ↔ Reportable e m))
        (takers es) ms := by
  refine h.invariant (P := fun es _ (k : Mailbox) => ∃ ms, k.queue.taken = k₀.queue.taken ++ ms ∧
    List.Forall₂ (fun e m => (∃ x ∈ e.events, Given x m) ∧ (Returned e m ↔ Reportable e m))
      (takers es) ms) hops ⟨[], (List.append_nil _).symm, .nil⟩ ?_
  rintro es op this k tr r this' k' ⟨ms, hms, hall⟩ hop hr hk
  obtain ⟨ms', hms', hgiven⟩ := accepts_taken hk
  refine ⟨ms ++ ms', by rw [hms', hms, List.append_assoc], ?_⟩
  have hsplit : takers (es ++ [⟨op, this, tr, r, this'⟩]) =
      takers es ++ takers [⟨op, this, tr, r, this'⟩] := List.filter_append ..
  rw [hsplit]
  exact List.rel_append hall (Entry.forall₂_filter hgiven (call_returned_iff hop hr))

/-- **A datagram is lost exactly when its sender cannot be named.** In every run of `receiveFrom`
and `timedReceiveFrom` calls, the datagrams `ms` that have been removed from the queue went to the
calls that took one, in order. No call that throws has removed one, and each is returned with its
byte count, if and only if all are reportable: the count is an `int`, a Unix sender was bound, and
a CAN interface was still there when its name was looked up. -/
theorem receiveFrom_keeps_iff {this this' : SimpleSocket} {k₀ k : Mailbox} {es : List CallEntry}
    (h : SocketRun mailKernel this k₀ es this' k)
    (hops : ∀ e ∈ es, e.op.op.receiveLen.isSome) :
    ∃ ms, k.queue.taken = k₀.queue.taken ++ ms ∧
      List.Forall₂ (fun e m => ∃ x ∈ e.events, Given x m) (takers es) ms ∧
      (((∀ e ∈ es, (∃ x, e.result.ret = .error x) → ∀ ev ∈ e.events, took ev = false) ∧
          List.Forall₂ Returned (takers es) ms) ↔ List.Forall₂ Reportable (takers es) ms) := by
  obtain ⟨ms, hms, hall⟩ := run_returned_iff h hops
  refine ⟨ms, hms, hall.imp fun e m h => h.1, fun hret => ?_, fun hrep => ?_⟩
  · exact List.Forall₂.mp (fun e m h hret => h.2.1 hret) hall hret.2
  · have hret : List.Forall₂ Returned (takers es) ms :=
      List.Forall₂.mp (fun e m h hrep => h.2.2 hrep) hall hrep
    have hok : ∀ e ∈ takers es, ∃ v, e.result.ret = .ok v :=
      ((List.forall₂_and_left _ _).1 (hret.imp fun e m h => ⟨⟨_, h⟩, h⟩)).1
    refine ⟨fun e he hthrow ev hev => Bool.eq_false_iff.2 fun htook => ?_, hret⟩
    obtain ⟨x, hx⟩ := hthrow
    obtain ⟨v, hv⟩ := hok e (List.mem_filter.2 ⟨he, List.any_eq_true.2 ⟨ev, hev, htook⟩⟩)
    rw [hx] at hv
    cases hv

/-! ## One datagram -/

theorem receiveDatagram_runs (len : ℕ) (kind : AddrKind)
    (report : Except Errno (Received len × kind.Name) → Method Unit) (s : Proc Frame)
    {s' : Proc Frame} {got : Received len} {name : kind.Name} {tr : List Event}
    {r : Except Exn Unit} (hle : got.bytes.length ≤ intMax) (h : Runs (report (.ok (got, name))
      ⟨s.errno, { s.vars with buffer := overwrite s.vars.buffer got.bytes }⟩) tr (r, s')) :
    Runs (receiveDatagram len kind report s)
      (Event.sys .tempFailureRetry (.recvfrom s.vars.this.mSocket len kind) (.ok (got, name)) :: tr)
      (r.map fun _ => (got.bytes.length : ℤ), s') := by
  have hret : toInt got.bytes.length = got.bytes.length := toInt_of_le hle
  have hneg : ¬toInt (got.bytes.length : ℤ) < 0 := by omega
  have hssize : ssize (Except.map (fun got : Received len × kind.Name => got.1.bytes.length)
      (.ok (got, name) : Except Errno _)) = got.bytes.length := rfl
  unfold receiveDatagram
  refine Op.Runs.bind_nil (.nil _) (Op.Runs.bind_cons (.cons (.answer rfl) (.nil _)) ?_)
  apply Op.Runs.bind_nil (.nil _)
  rw [hssize]
  dsimp only
  rw [if_neg hneg, hret]
  cases r with
  | error e => exact Op.Runs.bind_error h
  | ok u => exact Op.Runs.bind_ret h (.nil _)

theorem extractPath_eq {τ : Type} (addr : SockaddrUn) (len : ℕ) (s : Proc τ) :
    UnixSocket.extractPath addr len s = .ret (extracted addr len, s) := by
  by_cases hmax : maxSize < sizeSub (sizeSub len saFamilySize) 1
  · have hm : (UnixSocket.extractPath addr len : Op τ Str) =
        Op.throw .lengthError := if_pos hmax
    rw [hm, extracted, if_pos hmax]
    rfl
  · have hm : (UnixSocket.extractPath addr len : Op τ Str) =
        Pure.pure (addr.sunPath.take (sizeSub (sizeSub len saFamilySize) 1)) := if_neg hmax
    rw [hm, extracted, if_neg hmax]
    rfl

/-- A byte in the queue of a Unix socket, and a call that takes it. -/
theorem one_datagram (sender : Sender) (name : UnName) (hname : sender.Reports .un name) :
    ∃ (e : CallEntry) (k : Mailbox), SocketRun mailKernel ⟨3, false⟩
      ⟨Fifo.ofList [⟨[7], sender⟩], fun _ => none⟩ [e] e.post k ∧
      e.op.op = .unixReceiveFrom 2 ∧ (∃ ev ∈ e.events, took ev = true) ∧
      e.result.ret =
        ((extracted (name.fill ⟨0, List.replicate 108 0⟩) name.len).map fun _ => .int 1) ∧
      k.queue.taken = [⟨[7], sender⟩] ∧ k.queue.queue = [] := by
  let v : Vars := ⟨[0, 0], [], 0, 0, 0⟩
  let c : Lib.Val .uninitUn := ⟨⟨0, List.replicate 108 0⟩, rfl⟩
  let got : Received 2 := ⟨[7], by decide⟩
  let report : Except Errno (Received 2 × UnName) → Method Unit := fun r => do
    let sourcePath ← UnixSocket.extractPath ((UnixDatagramSocket.senderOf r).fill c.1)
      (UnixDatagramSocket.senderOf r).len
    modify fun f => { f with source := sourcePath }
  let ev : Event := Event.sys .tempFailureRetry (.recvfrom 3 2 .un) (.ok (got, name))
  have hbody : ∃ s', Runs ((Operation.unixReceiveFrom 2).body ⟨0, v.frame ⟨3, false⟩⟩)
      [Event.lib .uninitUn c, ev]
      ((extracted (name.fill c.1) name.len).map fun _ => .int 1, s') := by
    have hpath : Runs (UnixSocket.extractPath (name.fill c.1) name.len
        (⟨0, ⟨⟨3, false⟩, [7, 0], [], 0, 0, 0⟩⟩ : Proc Frame)) []
        (extracted (name.fill c.1) name.len, ⟨0, ⟨⟨3, false⟩, [7, 0], [], 0, 0, 0⟩⟩) := by
      rw [extractPath_eq]
      exact .nil _
    generalize extracted (name.fill c.1) name.len = r at hpath ⊢
    cases r with
    | error e =>
      have hr := receiveDatagram_runs 2 .un report ⟨0, v.frame ⟨3, false⟩⟩
        (by decide : got.bytes.length ≤ intMax) (Op.Runs.bind_error hpath)
      exact ⟨_, Op.Runs.bind_error (Op.Runs.bind_cons (.cons (.answer rfl) (.nil _)) hr)⟩
    | ok p =>
      have hr := receiveDatagram_runs 2 .un report ⟨0, v.frame ⟨3, false⟩⟩
        (by decide : got.bytes.length ≤ intMax) (Op.Runs.bind_ret hpath (.nil _))
      exact ⟨_, Op.Runs.bind_ret (Op.Runs.bind_cons (.cons (.answer rfl) (.nil _)) hr) (.nil _)⟩
  obtain ⟨s', hbody⟩ := hbody
  have hqueue : (Fifo.ofList [(⟨[7], sender⟩ : Mail)]).queue = [⟨[7], sender⟩] ++ [] := rfl
  obtain ⟨q, htakes, hq⟩ := Fifo.Takes.of_queue_eq _ hqueue
  have hk : mailKernel.Accepts ⟨Fifo.ofList [⟨[7], sender⟩], fun _ => none⟩
      [Event.lib .uninitUn c, ev] ⟨q, fun _ => none⟩ :=
    .step ⟨⟨[], rfl, Fifo.Takes.nil_iff.2 rfl⟩, rfl, trivial⟩
      (.single ⟨⟨_, ⟨_, rfl, rfl, hname⟩, htakes⟩, rfl, trivial⟩)
  have hrun := @runs_invoke ⟨.unixReceiveFrom 2, v, 0⟩ ⟨3, false⟩ _ _ _ hbody
  refine ⟨_, _, .single _ hrun hk, rfl, ⟨ev, by simp, rfl⟩, rfl, ?_, hq⟩
  rw [htakes.2]
  rfl

/-- A datagram of a bound sender. -/
theorem receiveFrom_keeps_bound : ∃ (e : CallEntry) (k : Mailbox) (m : Mail),
    SocketRun mailKernel ⟨3, false⟩ ⟨Fifo.ofList [m], fun _ => none⟩ [e] e.post k ∧
      k.queue.taken = [m] ∧ List.Forall₂ Returned (takers [e]) [m] := by
  let p : UnixPath := ⟨[97], by decide, by decide, by decide⟩
  obtain ⟨e, k, h, hop, hev, -, htaken, -⟩ :=
    one_datagram (.path p) ⟨saFamilySize + p.bytes.length + 1, p.bytes ++ [0]⟩ rfl
  obtain ⟨ms, hms, -, hiff⟩ := receiveFrom_keeps_iff h fun e' he => by
    rw [List.mem_singleton.1 he, hop]
    rfl
  have heq : ms = [⟨[7], .path p⟩] := by
    rw [htaken] at hms
    exact hms.symm
  have htakers : takers [e] = [e] := List.filter_cons_of_pos (List.any_eq_true.2 hev)
  refine ⟨e, k, ⟨[7], .path p⟩, h, htaken, ?_⟩
  rw [heq, htakers] at hiff
  rw [htakers]
  refine (hiff.2 (.cons ⟨?_, trivial⟩ .nil)).2
  exact le_trans (List.length_take_le' _ _) (by decide)

/-- A datagram of an unbound sender: `receiveFrom` throws, and the datagram is gone. -/
theorem receiveFrom_loses_unbound : ∃ (e : CallEntry) (k : Mailbox) (m : Mail),
    SocketRun mailKernel ⟨3, false⟩ ⟨Fifo.ofList [m], fun _ => none⟩ [e] e.post k ∧
      e.op.op = .unixReceiveFrom 2 ∧ e.result.ret = .error .lengthError ∧ k.queue.queue = [] ∧
      ¬∀ e' ∈ [e], (∃ x, e'.result.ret = .error x) → ∀ ev ∈ e'.events, took ev = false := by
  obtain ⟨e, k, h, hop, ⟨ev, hev, htook⟩, hret, -, hqueue⟩ := one_datagram .unbound ⟨0, []⟩ rfl
  have hext : extracted (UnName.fill ⟨0, []⟩ ⟨0, List.replicate 108 0⟩) 0 = .error .lengthError :=
    if_pos (by decide)
  rw [hext] at hret
  refine ⟨e, k, ⟨[7], .unbound⟩, h, hop, hret, hqueue, fun hall => ?_⟩
  have := hall e (List.mem_singleton.2 rfl) ⟨_, hret⟩ ev hev
  rw [htook] at this
  cases this

end NET
