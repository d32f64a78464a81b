import SimpleSocket.Interact.Interrupt
import SimpleSocket.Verify.Spec

/-!
# Two runs of a method, one of them interrupted

`Transparent` compares the runs of a method that get the same answers, one of them with attempts
that were turned down. They end alike, except that a call which is not repeated may fail, and a
count may be misread as a failure and thrown with the error number that an interruption has left.
The operations that move data or accept connections are transparent.
-/

namespace NET

open Op Interact SimpleSocket

variable {τ τ' α β : Type}

/-- A call that is not repeated failed. -/
def Rejected (e : Event) : Prop := ∃ c err, e = Event.sys .once c (.error err)

/-- The operation throws because of the event, with the error number it finds. -/
def Fatal (e : Event) : Prop := Rejected e ∨ Misread e

theorem not_fatal_lib {c : Lib} (r : c.Val) : ¬Fatal (.lib c r) := by
  intro h
  rcases h with ⟨c, err, h⟩ | h
  · cases h
  · exact h

/-- The error number after an event that nothing interrupted. -/
def errnoStep (err : Errno) : Event → Errno
  | ⟨.sys _ _, .error e⟩ => e
  | _ => err

/-- The error number that a script leaves. -/
def errnoLeft (err : Errno) (tr : List Event) : Errno := tr.foldl errnoStep err

/-- The error number after an answer. -/
def answerStep (err : Errno) : Answer posix → Errno
  | (b, ⟨.sys _ _, r⟩) => errnoAfter err b r
  | (_, ⟨.lib _, _⟩) => err

/-! ## Methods that make no call -/

/-- The method makes no call and leaves the error number alone. -/
def Op.Silent (m : Op τ α) : Prop := ∀ s, ∃ x v, m s = .ret (x, ⟨s.errno, v⟩)

theorem Op.Throws.silent {m : Op τ α} (h : m.Throws) : m.Silent := by
  obtain ⟨msg, g, hm⟩ := h
  exact fun s => ⟨_, _, hm s⟩

theorem Op.Silent.pure (a : α) : (Pure.pure a : Op τ α).Silent := fun s => ⟨.ok a, s.vars, rfl⟩

theorem Op.Silent.throwSocket (msg : String) (b : Bool) :
    (Op.throwSocket msg b : Op τ α).Silent := fun s => ⟨_, s.vars, rfl⟩

theorem Op.Silent.errno : (Op.errno : Op τ Errno).Silent := fun s => ⟨_, s.vars, rfl⟩

theorem Op.Silent.modify (f : τ → τ) : (Op.modify f).Silent := fun s => ⟨_, f s.vars, rfl⟩

theorem Op.Silent.bind {m : Op τ α} {f : α → Op τ β} (h : m.Silent) (hf : ∀ a, (f a).Silent) :
    (m >>= f).Silent := by
  intro s
  change ∃ x v, (m s).bind _ = _
  obtain ⟨x, v, hm⟩ := h s
  rw [hm]
  cases x with
  | error e => exact ⟨.error e, v, rfl⟩
  | ok a => exact hf a ⟨s.errno, v⟩

theorem Op.Silent.ite {c : Prop} [Decidable c] {m m' : Op τ α} (h : c → m.Silent)
    (h' : ¬c → m'.Silent) : (if c then m else m').Silent := by
  split
  · next hc => exact h hc
  · next hc => exact h' hc

/-! ## Two runs of a method -/

/-- The exits `x` and `x'` of two runs of a method that got the answers `as`: one was not
interrupted and found the error number `err`, the other was interrupted where `as` says so and found
`err'`. -/
structure Twins (err err' : Errno) (as : List (Answer posix)) (x x' : Except Exn α × Proc τ) :
    Prop where
  vars : x'.2.vars = x.2.vars
  errno : x.2.errno = errnoLeft err (as.map Prod.snd)
  errno' : x'.2.errno = as.foldl answerStep err'
  exit : (∀ a ∈ as, ¬Misread a.2) → x'.1 = x.1
  last : ∀ as₁ a as₂, as = as₁ ++ a :: as₂ → Fatal a.2 → as₂ = []
  thrown : ∀ a ∈ as, Fatal a.2 → ∃ msg, x.1 = .error (.socket ⟨msg, true, x.2.errno⟩) ∧
    x'.1 = .error (.socket ⟨msg, true, x'.2.errno⟩)

namespace Twins

variable {err err' : Errno} {as : List (Answer posix)}

theorem nil (r : Except Exn α) (v : τ) :
    Twins err err' [] (r, ⟨err, v⟩) (r, ⟨err', v⟩) where
  vars := rfl
  errno := rfl
  errno' := rfl
  exit _ := rfl
  last as₁ a as₂ h := by simp at h
  thrown a ha := by cases ha

/-- A method that returned has met nothing fatal. -/
theorem not_fatal {a : α} {t : Proc τ} {x' : Except Exn α × Proc τ}
    (h : Twins err err' as (.ok a, t) x') : ∀ a ∈ as, ¬Fatal a.2 := by
  intro a ha hf
  obtain ⟨msg, hx, -⟩ := h.thrown a ha hf
  cases hx

theorem exit_ok {a : α} {t : Proc τ} {x' : Except Exn α × Proc τ}
    (h : Twins err err' as (.ok a, t) x') : x'.1 = .ok a :=
  h.exit fun a ha hm => h.not_fatal a ha (Or.inr hm)

theorem exit_error {e : Exn} {t : Proc τ} {x' : Except Exn α × Proc τ}
    (h : Twins err err' as (.error e, t) x') : ∃ e', x'.1 = .error e' := by
  by_cases hm : ∃ a ∈ as, Misread a.2
  · obtain ⟨a, ha, hm⟩ := hm
    obtain ⟨msg, -, hx'⟩ := h.thrown a ha (Or.inr hm)
    exact ⟨_, hx'⟩
  · exact ⟨e, h.exit fun a ha hm' => hm ⟨a, ha, hm'⟩⟩

/-- An exception leaves the rest of a method out. -/
theorem error {e e' : Exn} {t t' : Proc τ}
    (h : Twins err err' as (.error e, t) ((.error e', t') : Except Exn α × Proc τ)) :
    Twins err err' as (.error e, t) ((.error e', t') : Except Exn β × Proc τ) where
  vars := h.vars
  errno := h.errno
  errno' := h.errno'
  exit hm := by
    have hx := h.exit hm
    injection hx with hx
    exact congrArg Except.error hx
  last := h.last
  thrown a ha hf := by
    obtain ⟨msg, hx, hx'⟩ := h.thrown a ha hf
    injection hx with hx
    injection hx' with hx'
    exact ⟨msg, congrArg Except.error hx, congrArg Except.error hx'⟩

/-- A method that returned, and the rest after it. -/
theorem append {a : α} {t t' : Proc τ} {x' : Except Exn α} {as' : List (Answer posix)}
    {y y' : Except Exn β × Proc τ} (h : Twins err err' as (.ok a, t) (x', t'))
    (h' : Twins t.errno t'.errno as' y y') : Twins err err' (as ++ as') y y' where
  vars := h'.vars
  errno := by
    have he := h.errno
    change t.errno = _ at he
    rw [h'.errno, he, List.map_append]
    exact (List.foldl_append ..).symm
  errno' := by
    have he := h.errno'
    change t'.errno = _ at he
    rw [h'.errno', he, List.foldl_append]
  exit hm := h'.exit fun a ha => hm a (List.mem_append_right _ ha)
  last as₁ b as₂ hb hf := by
    rcases List.append_eq_append_iff.1 hb with ⟨cs, -, hcs⟩ | ⟨cs, hcs, hcs'⟩
    · exact h'.last cs b as₂ hcs hf
    · rcases List.cons_eq_append_iff.1 hcs' with ⟨-, has'⟩ | ⟨ds, rfl, -⟩
      · exact h'.last [] b as₂ has' hf
      · exact absurd hf (h.not_fatal b (by simp [hcs]))
  thrown b hb hf := by
    rcases List.mem_append.1 hb with hb | hb
    · exact absurd hf (h.not_fatal b hb)
    · exact h'.thrown b hb hf

theorem single {c : Call} (r : Except Exn α) (v : τ) (b : Bool) (reply : c.Reply)
    (h : ¬Fatal ⟨c, reply⟩) :
    Twins err err' [(b, ⟨c, reply⟩)] (r, ⟨errnoStep err ⟨c, reply⟩, v⟩)
      (r, ⟨answerStep err' (b, ⟨c, reply⟩), v⟩) where
  vars := rfl
  errno := rfl
  errno' := rfl
  exit _ := rfl
  last as₁ a as₂ ha hf := by
    have hmem : a ∈ [(b, (⟨c, reply⟩ : Event))] := by simp [ha]
    obtain rfl := List.mem_singleton.1 hmem
    exact absurd hf h
  thrown a ha hf := by
    obtain rfl := List.mem_singleton.1 ha
    exact absurd hf h

/-- A local variable is dropped on both exits. -/
theorem withLocal {x x' : Except Exn α × Proc τ'} (h : Twins err err' as x x') (v : τ) :
    Twins err err' as (x.1.map fun a => (a, x.2.vars), ⟨x.2.errno, v⟩)
      (x'.1.map fun a => (a, x'.2.vars), ⟨x'.2.errno, v⟩) where
  vars := rfl
  errno := h.errno
  errno' := h.errno'
  exit hm := by rw [h.exit hm, h.vars]
  last := h.last
  thrown a ha hf := by
    obtain ⟨msg, hx, hx'⟩ := h.thrown a ha hf
    refine ⟨msg, ?_, ?_⟩
    · rw [hx]
      rfl
    · rw [hx']
      rfl

end Twins

/-- The two runs of the method, from states with the same variables. -/
def Op.Transparent (m : Op τ α) : Prop :=
  ∀ v err err', Lockstep (Twins err err') (m ⟨err, v⟩) (m ⟨err', v⟩)

namespace Op.Transparent

theorem pure (a : α) : (Pure.pure a : Op τ α).Transparent := fun v _ _ => .ret (.nil (.ok a) v)

theorem throw (e : Exn) : (Op.throw e : Op τ α).Transparent := fun v _ _ => .ret (.nil (.error e) v)

/-- An exception without an error number. -/
theorem throwSocket (msg : String) : (Op.throwSocket msg false : Op τ α).Transparent :=
  fun v _ _ => .ret (.nil (.error (.socket ⟨msg, false, 0⟩)) v)

theorem get : (Op.get : Op τ τ).Transparent := fun v _ _ => .ret (.nil (.ok v) v)

theorem modify (f : τ → τ) : (Op.modify f).Transparent := fun v _ _ => .ret (.nil (.ok ()) (f v))

theorem ite {c : Prop} [Decidable c] {m m' : Op τ α} (h : c → m.Transparent)
    (h' : ¬c → m'.Transparent) : (if c then m else m').Transparent := by
  split
  · next hc => exact h hc
  · next hc => exact h' hc

theorem bind {m : Op τ α} {f : α → Op τ β} (h : m.Transparent) (hf : ∀ a, (f a).Transparent) :
    (m >>= f).Transparent := by
  intro v err err'
  apply (h v err err').bind
  intro as x x' hx
  obtain ⟨r, err₁, v₁⟩ := x
  obtain ⟨r', err₁', v₁'⟩ := x'
  obtain rfl : v₁' = v₁ := hx.vars
  cases r with
  | error e =>
    obtain ⟨e', rfl⟩ : ∃ e', r' = .error e' := hx.exit_error
    refine .ret ?_
    rw [List.append_nil]
    exact hx.error
  | ok a =>
    obtain rfl : r' = .ok a := hx.exit_ok
    exact (hf a v₁' err₁ err₁').mono fun as' y y' hy => hx.append hy

theorem withLocal (v : τ') {m : Op τ' α} (h : m.Transparent) :
    (Op.withLocal v m : Op τ (α × τ')).Transparent := by
  intro v₀ err err'
  apply (h v err err').bind
  intro as x x' hx
  have key := hx.withLocal v₀
  obtain ⟨r, err₁, v₁⟩ := x
  obtain ⟨r', err₁', v₁'⟩ := x'
  cases r with
  | error e =>
    obtain ⟨e', rfl⟩ : ∃ e', r' = .error e' := hx.exit_error
    refine .ret ?_
    rw [List.append_nil]
    exact key
  | ok a =>
    obtain rfl : r' = .ok a := hx.exit_ok
    refine .ret ?_
    rw [List.append_nil]
    exact key

theorem lib (c : Lib) : (Op.lib c : Op τ c.Val).Transparent :=
  fun v _ _ => .call fun b r _ => .ret (.single (c := .lib c) (.ok r) v b r (not_fatal_lib r))

/-- What throws after a fatal answer. -/
theorem fatal {m : Op τ α} (hm : m.Throws) {err err' : Errno} {a : Answer posix} (v : τ)
    (ha : Misread a.2 ∨ answerStep err' a = errnoStep err a.2) :
    Lockstep (fun as => Twins err err' (a :: as)) (m ⟨errnoStep err a.2, v⟩)
      (m ⟨answerStep err' a, v⟩) := by
  obtain ⟨msg, g, hm⟩ := hm
  rw [hm, hm]
  refine .ret ⟨rfl, rfl, rfl, fun hno => ?_, fun as₁ b as₂ hb _ => ?_, fun b _ _ => ⟨msg, rfl, rfl⟩⟩
  · rcases ha with ha | ha
    · exact absurd ha (hno a List.mem_cons_self)
    · rw [ha]
  · rcases List.cons_eq_append_iff.1 hb with ⟨-, hb⟩ | ⟨cs, -, hb⟩
    · exact (List.cons.inj hb).2
    · simp at hb

/-- A system call, and what the method does after it. -/
theorem sys {w : Retry} {c : Sys} {rest : Except Errno c.Val → Op τ α}
    (hok : ∀ v, ¬Misread (.sys w c (.ok v)) → (rest (.ok v)).Transparent)
    (hmis : ∀ v, Misread (.sys w c (.ok v)) → (rest (.ok v)).Throws)
    (herr : ∀ e, (rest (.error e)).Silent) (honce : w = .once → ∀ e, (rest (.error e)).Throws) :
    (Op.sys w c >>= rest).Transparent := by
  refine fun v err err' => .call fun b r hr => ?_
  cases r with
  | ok val =>
    by_cases hm : Misread (.sys w c (.ok val))
    · exact fatal (hmis val hm) (a := (b, Event.sys w c (.ok val))) v (Or.inl hm)
    · have hno : ¬Fatal (.sys w c (.ok val)) := by
        intro h
        rcases h with ⟨c', e, h⟩ | h
        · cases h
        · exact hm h
      apply (hok val hm v _ _).mono
      intro as y y' hy
      exact (Twins.single (c := .sys w c) (.ok val) v b (Except.ok val) hno).append hy
  | error e =>
    cases w with
    | once => exact fatal (honce rfl e) (a := (b, Event.sys .once c (.error e))) v (Or.inr rfl)
    | tempFailureRetry =>
      have hno : ¬Fatal (.sys .tempFailureRetry c (.error e)) := by
        intro h
        rcases h with ⟨c', e, h⟩ | h
        · cases h
        · unfold Misread at h
          cases c <;> exact h
      obtain ⟨x, v', hx⟩ := herr e ⟨e, v⟩
      change Lockstep _ (rest (.error e) ⟨e, v⟩) (rest (.error e) ⟨e, v⟩)
      rw [hx]
      exact .ret (.single (c := .sys .tempFailureRetry c) x v' b (Except.error e) hno)

/-- A call under `TEMP_FAILURE_RETRY`. -/
theorem retried {c : Sys} {rest : Except Errno c.Val → Op τ α}
    (hok : ∀ v, ¬Misread (.sys .tempFailureRetry c (.ok v)) → (rest (.ok v)).Transparent)
    (hmis : ∀ v, Misread (.sys .tempFailureRetry c (.ok v)) → (rest (.ok v)).Throws)
    (herr : ∀ e, (rest (.error e)).Silent) : (Op.sys .tempFailureRetry c >>= rest).Transparent :=
  sys hok hmis herr fun h => absurd h (by decide)

/-- A bare call, whose failure throws. -/
theorem once {c : Sys} {rest : Except Errno c.Val → Op τ α}
    (hok : ∀ v, ¬Misread (.sys .once c (.ok v)) → (rest (.ok v)).Transparent)
    (hmis : ∀ v, Misread (.sys .once c (.ok v)) → (rest (.ok v)).Throws)
    (herr : ∀ e, (rest (.error e)).Throws) : (Op.sys .once c >>= rest).Transparent :=
  sys hok hmis (fun e => (herr e).silent) fun _ => herr

end Op.Transparent

/-! ## The methods -/

section Methods

variable {len : ℕ} {rest : ℤ → Method α}

theorem thisSocket_transparent : thisSocket.Transparent := .bind .get fun _ => .pure _

theorem onThis_transparent {m : SimpleSocket → Method α} (h : ∀ this, (m this).Transparent) :
    (onThis m).Transparent := .bind .get fun f => h f.this

/-- `send`, before something that makes no call when it failed. -/
theorem send_transparent (buffer : List UInt8) {rest : SendRet buffer.length → Method α}
    (hok : ∀ ret, (rest ret).Transparent) (herr : ∀ ret, ret.val < 0 → (rest ret).Silent) :
    (SimpleSocket.send buffer >>= rest).Transparent := by
  rw [SimpleSocket.send, bind_assoc]
  refine .bind thisSocket_transparent fun fd => ?_
  rw [bind_assoc]
  refine .retried (fun n _ => ?_) (fun n hm => hm.elim) (fun e => ?_)
  · have hn : ¬(SendRet.ofReply (.ok n)).val < 0 := by
      rw [SendRet.ofReply_ok]
      omega
    rw [if_neg hn, pure_bind]
    exact hok _
  · have hn : (SendRet.ofReply (.error e) : SendRet buffer.length).val < 0 := by
      rw [SendRet.ofReply_error]
      omega
    rw [if_pos hn, bind_assoc]
    refine .bind .errno fun e' => ?_
    by_cases he : e' = Errno.econnreset ∨ e' = Errno.econnrefused
    · rw [if_pos he, bind_assoc]
      exact .bind (.modify _) fun _ => herr _ hn
    · rw [if_neg he, throwSocket_bind]
      exact .throwSocket _ _

/-- `::recv`, before something that throws when the count looks like a failure. -/
theorem recv_transparent {flags : ℤ} (hok : ∀ n, ¬toInt n < 0 → (rest n).Transparent)
    (hneg : ∀ n, toInt n < 0 → (rest n).Throws) : (recv len flags >>= rest).Transparent := by
  simp only [recv, bind_assoc, pure_bind]
  refine .bind thisSocket_transparent fun fd => ?_
  refine .retried (fun got hm => ?_) (fun got hm => ?_) (fun e => ?_)
  · exact .bind (.modify _) fun _ => hok _ hm
  · exact .modify _ (hneg _ hm)
  · exact (Throws.modify _ (hneg (-1) (by simp))).silent

theorem receive_transparent (len : ℕ) : (SimpleSocket.receive len).Transparent := by
  refine recv_transparent (fun n hn => ?_) fun n hn => ?_
  · rw [if_neg hn]
    exact .pure _
  · rw [if_pos hn]
    exact .throwSocket _

theorem noteRdHup_transparent (revents : BitVec 16) : (noteRdHup revents).Transparent :=
  .ite (fun _ => .modify _) fun _ => .pure _

/-- The part the timed receive operations share. -/
theorem polled_transparent {timeout : ℤ} {zero : α} {failure : String}
    {rest : Except Errno (BitVec 16) → Method α} (h : ∀ r, (rest r).Transparent) :
    (do
      let r ← pollReceive timeout
      if pollCount r = 0 then return zero
      else if pollCount r < 0 then throwSocket failure true
      else do
        noteRdHup (pollRevents r)
        rest r : Method α).Transparent := by
  rw [pollReceive, bind_assoc]
  refine .bind thisSocket_transparent fun fd => ?_
  refine .retried (fun v _ => ?_) (fun v hm => hm.elim) (fun e => ?_)
  · refine .ite (fun _ => .pure _) fun h0 => ?_
    rw [if_neg (not_pollCount_neg v)]
    exact .bind (noteRdHup_transparent _) fun _ => h _
  · exact .throwSocket _ _

theorem timedReceive_transparent (len : ℕ) (timeout : ℤ) :
    (SimpleSocket.timedReceive len timeout).Transparent := by
  refine polled_transparent fun r => .ite (fun _ => ?_) fun _ => .pure _
  refine recv_transparent (fun n hn => ?_) fun n hn => ?_
  · rw [if_neg hn]
    exact .pure _
  · rw [if_pos hn]
    exact .throwSocket _

theorem timedWith_transparent {receive : Method ℤ} (h : receive.Transparent) (failure : String)
    (timeout : ℤ) : (timedWith failure timeout receive).Transparent :=
  polled_transparent fun _ => .ite (fun _ => h) fun _ => .pure _

theorem sendDatagram_transparent (buffer : List UInt8) (destAddr : Sockaddr) :
    (sendDatagram buffer destAddr).Transparent := by
  refine .bind thisSocket_transparent fun fd => ?_
  refine .retried (fun n hm => ?_) (fun n hm => ?_) (fun e => ?_)
  · exact .ite (fun h => absurd h hm) fun _ => .pure _
  · refine .ite ?_ (.throwSocket _)
    exact hm
  · exact .ite (fun _ => .throwSocket _ _) fun _ => .pure _

theorem receiveDatagram_transparent (len : ℕ) {kind : AddrKind}
    {report : Except Errno (Received len × kind.Name) → Method Unit}
    (h : ∀ r, (report r).Transparent) : (receiveDatagram len kind report).Transparent := by
  refine .bind thisSocket_transparent fun fd => ?_
  refine .retried (fun got hm => ?_) (fun got hm => ?_) (fun e => ?_)
  · refine .bind (.modify _) fun _ => .ite (fun h => absurd h hm) fun _ => ?_
    exact .bind (h _) fun _ => .pure _
  · refine .modify _ (.ite ?_ (.throwSocket _))
    exact hm
  · exact (Throws.modify _ (.ite (by simp [Except.map]) (.throwSocket _))).silent

theorem sendAllFrom_transparent (buffer : List UInt8) (sent : ℕ) (hs : sent ≤ buffer.length) :
    (TCPSocket.sendAllFrom buffer sent hs).Transparent := by
  rw [TCPSocket.sendAllFrom]
  split
  · exact .pure _
  · next h =>
    refine send_transparent _ (fun ret => ?_) fun ret hr => ?_
    · split
      · exact .pure _
      · exact sendAllFrom_transparent buffer _ _
    · rw [dif_pos hr]
      exact .pure _
  termination_by buffer.length - sent
  decreasing_by
    next hr =>
    have hpos := ret.toNat_pos hr (by rw [List.length_drop]; omega)
    omega

theorem acceptWith_transparent (this : SimpleSocket) (failure : String) :
    (this.acceptWith failure : Op τ SocketHandle).Transparent :=
  .once (fun _ _ => .pure _) (fun _ hm => hm.elim) fun _ => .throwSocket _

theorem timedAcceptWith_transparent (this : SimpleSocket) (timeout : ℤ)
    (pollFailure acceptFailure : String) :
    (this.timedAcceptWith timeout pollFailure acceptFailure : Op τ SocketHandle).Transparent := by
  refine .retried (fun v _ => ?_) (fun v hm => hm.elim) (fun e => ?_)
  · refine .ite (fun _ => .pure _) fun h0 => ?_
    rw [if_neg (not_pollCount_neg v)]
    exact acceptWith_transparent this acceptFailure
  · exact .throwSocket _ _

/-- An address in dotted form, a name that is resolved, a name that is not. -/
theorem inetLocalAddress_transparent (address : Str) (port : BitVec 16) :
    (InternetSocket.localAddress address port : Op τ SockaddrIn).Transparent := by
  refine .bind (.lib _) fun addr => .bind (.withLocal _ ?_) fun x => .pure _
  refine .bind (.modify _) fun _ => .bind (.lib _) fun parsed => ?_
  cases parsed with
  | some a => exact .modify _
  | none =>
    refine .bind (.lib _) fun host => ?_
    cases host with
    | some a => exact .modify _
    | none => exact .throwSocket _

theorem unixLocalAddress_transparent (path : Str) :
    (UnixSocket.localAddress path : Op τ SockaddrUn).Transparent := by
  refine .bind (.lib _) fun addr => .bind (.withLocal _ ?_) fun x => .pure _
  exact .ite (fun _ => .throwSocket _) fun _ => .modify _

theorem extractPath_transparent (addr : SockaddrUn) (n : ℕ) :
    (UnixSocket.extractPath addr n : Op τ Str).Transparent :=
  .ite (fun _ => .throw _) fun _ => .pure _

theorem getInterfaceName_transparent (fd : ℤ) (addr : SockaddrCan) :
    (CANSocket.getInterfaceName fd addr : Op τ Str).Transparent :=
  .bind (.lib _) fun _ => .once (fun _ _ => .pure _) (fun _ hm => hm.elim)
    fun _ => .throwSocket _

theorem getInterfaceIndex_transparent (fd : ℤ) (interface : Str) :
    (CANSocket.getInterfaceIndex fd interface : Op τ ℤ).Transparent :=
  .ite (fun _ => .pure _) fun _ => .ite (fun _ => .throwSocket _) fun _ =>
    .bind (.lib _) fun _ => .once (fun _ _ => .pure _) (fun _ hm => hm.elim)
      fun _ => .throwSocket _

theorem udpReceiveFrom_transparent (len : ℕ) : (UDPSocket.receiveFrom len).Transparent :=
  .bind (.lib _) fun _ => receiveDatagram_transparent len fun _ => .modify _

theorem unixReceiveFrom_transparent (len : ℕ) : (UnixDatagramSocket.receiveFrom len).Transparent :=
  .bind (.lib _) fun _ => receiveDatagram_transparent len fun _ =>
    .bind (extractPath_transparent _ _) fun _ => .modify _

theorem canReceiveFrom_transparent (len : ℕ) : (CANRawSocket.receiveFrom len).Transparent :=
  .bind (.lib _) fun _ => receiveDatagram_transparent len fun _ =>
    .bind thisSocket_transparent fun _ => .bind (getInterfaceName_transparent _ _)
      fun _ => .modify _

theorem sctpSendMessage_transparent (data : List UInt8) (stream : BitVec 16)
    (ttl context ppid flags : ℕ) :
    (SCTPSocket.sendMessage data stream ttl context ppid flags).Transparent := by
  refine .bind thisSocket_transparent fun fd => ?_
  have hneg (n : Count data.length) : ¬toInt n.count < 0 := by
    rw [toInt_of_le n.le_intMax]
    omega
  refine .once (fun n hm => ?_) (fun n hm => ?_) fun e => ?_
  · exact .ite (fun h => absurd h (hneg n)) fun _ => .ite (fun h => absurd h hm) fun _ => .pure _
  · change Op.Throws (if toInt n.count < 0 then _ else _)
    rw [if_neg (hneg n)]
    refine .ite ?_ (.throwSocket _)
    exact hm
  · exact .ite (by simp [Except.map]) (.throwSocket _)

theorem sctpReceiveMessage_transparent (maxLen : ℕ) (report : SctpSndrcvinfo → Frame → Frame) :
    (SCTPSocket.receiveMessage maxLen report).Transparent := by
  refine .bind (.lib _) fun info => .bind thisSocket_transparent fun fd => ?_
  refine .once (fun got hm => ?_) (fun got hm => ?_) fun e => ?_
  · refine .bind (.modify _) fun _ => .ite (fun h => absurd h hm) fun _ => ?_
    exact .bind (.modify _) fun _ => .pure _
  · refine .modify _ (.ite ?_ (.throwSocket _))
    exact hm
  · exact .modify _ (.ite (by simp [Except.map]) (.throwSocket _))

theorem asUnit_transparent {m : Method Unit} (h : m.Transparent) : (asUnit m).Transparent :=
  .bind h fun _ => .pure _

theorem asInt_transparent {m : Method ℤ} (h : m.Transparent) : (asInt m).Transparent :=
  .bind h fun _ => .pure _

theorem asHandle_transparent {m : SimpleSocket → Method SocketHandle}
    (h : ∀ this, (m this).Transparent) : (asHandle (onThis m)).Transparent :=
  .bind (onThis_transparent h) fun _ => .pure _

end Methods

/-! ## The operations -/

/-- The operations that move data or accept connections. -/
def Operation.movesData : Operation → Bool
  | .send _ | .receive _ | .timedReceive .. => true
  | .tcpSendAll _ | .tcpAccept | .tcpTimedAccept _ => true
  | .udpSendTo .. | .udpReceiveFrom _ | .udpTimedReceiveFrom .. => true
  | .sctpSend .. | .sctpSendUnordered .. | .sctpReceive _ | .sctpReceiveFlag _ => true
  | .sctpTimedReceive .. | .sctpTimedReceiveFlag .. | .sctpAccept | .sctpTimedAccept _ => true
  | .unixSendTo .. | .unixReceiveFrom _ | .unixTimedReceiveFrom .. => true
  | .canSendTo .. | .canReceiveFrom _ | .canTimedReceiveFrom .. => true
  | _ => false

theorem Operation.body_transparent (op : Operation) (h : op.movesData = true) :
    op.body.Transparent := by
  cases op with
  | send data =>
    exact send_transparent data (fun _ => .pure _) fun _ _ => .pure _
  | receive len => exact asInt_transparent (receive_transparent len)
  | timedReceive len timeout => exact asInt_transparent (timedReceive_transparent len timeout)
  | tcpSendAll data => exact asInt_transparent (sendAllFrom_transparent data 0 _)
  | tcpAccept => exact asHandle_transparent fun this => acceptWith_transparent this _
  | tcpTimedAccept timeout =>
    exact asHandle_transparent fun this => timedAcceptWith_transparent this timeout _ _
  | udpSendTo data address port =>
    exact asUnit_transparent <| .bind (inetLocalAddress_transparent address port) fun _ =>
      sendDatagram_transparent data _
  | udpReceiveFrom len => exact asInt_transparent (udpReceiveFrom_transparent len)
  | udpTimedReceiveFrom len timeout =>
    exact asInt_transparent (timedWith_transparent (udpReceiveFrom_transparent len) _ timeout)
  | sctpSend => exact asInt_transparent (sctpSendMessage_transparent _ _ _ _ _ _)
  | sctpSendUnordered => exact asInt_transparent (sctpSendMessage_transparent _ _ _ _ _ _)
  | sctpReceive len => exact asInt_transparent (sctpReceiveMessage_transparent len _)
  | sctpReceiveFlag len => exact asInt_transparent (sctpReceiveMessage_transparent len _)
  | sctpTimedReceive len timeout =>
    exact asInt_transparent (timedWith_transparent (sctpReceiveMessage_transparent len _) _ timeout)
  | sctpTimedReceiveFlag len timeout =>
    exact asInt_transparent (timedWith_transparent (sctpReceiveMessage_transparent len _) _ timeout)
  | sctpAccept => exact asHandle_transparent fun this => acceptWith_transparent this _
  | sctpTimedAccept timeout =>
    exact asHandle_transparent fun this => timedAcceptWith_transparent this timeout _ _
  | unixSendTo data path =>
    exact asUnit_transparent <| .bind (unixLocalAddress_transparent path) fun _ =>
      sendDatagram_transparent data _
  | unixReceiveFrom len => exact asInt_transparent (unixReceiveFrom_transparent len)
  | unixTimedReceiveFrom len timeout =>
    exact asInt_transparent (timedWith_transparent (unixReceiveFrom_transparent len) _ timeout)
  | canSendTo data interface =>
    exact asUnit_transparent <| .bind thisSocket_transparent fun _ =>
      .bind (getInterfaceIndex_transparent _ interface) fun _ => sendDatagram_transparent data _
  | canReceiveFrom len => exact asInt_transparent (canReceiveFrom_transparent len)
  | canTimedReceiveFrom len timeout =>
    exact asInt_transparent (timedWith_transparent (canReceiveFrom_transparent len) _ timeout)
  | _ => cases h

end NET
