import SimpleSocket.Net.Library
import SimpleSocket.Verify.DescriptorOwnership
import SimpleSocket.Verify.InterfaceCalls
import SimpleSocket.Verify.OwnCalls

/-!
# The descriptors of the whole library

`DescriptorOwnership` is about the statements that make and destroy objects. Here a program also
uses its sockets and calls `SocketUtils`: an operation makes its calls on the descriptor of its
socket, and a function of `SocketUtils` on a socket of its own that does not outlive it. No call is
made on a descriptor that was closed, or that is not the library's (`DescriptorTable.Allows`).
-/

namespace NET

open Op Interact SimpleSocket

variable {τ α : Type} {S F : Set ℕ} {v : τ}

/-! ## Calls on a descriptor that is owned -/

/-- A call is made on a descriptor the library owns. Only `close` may be called without a number,
and again after it was interrupted. -/
def Ledger.Allows (l : Ledger) : Call → Prop
  | .sys _ (.close fd) => own fd ⊆ l.owned ∨ l.pending = some fd
  | .sys _ c => ∀ fd, c.fd? = some fd → ∃ n ∈ l.owned, (n : ℤ) = fd
  | .lib _ => True

/-- The same, of the table. -/
def DescriptorTable.Allows (t : DescriptorTable) : Call → Prop
  | .sys _ (.close fd) => t.find fd = some .library ∨ fd < 0 ∨ t.interrupted = some fd
  | .sys _ c => ∀ fd, c.fd? = some fd → t.find fd = some .library
  | .lib _ => True

theorem DescriptorTable.Matches.allows {t : DescriptorTable} {l : Ledger} (h : t.Matches l)
    {c : Call} (hc : l.Allows c) : t.Allows c := by
  cases c with
  | lib c => trivial
  | sys w c =>
    cases c with
    | close fd =>
      rcases hc with hown | hpending
      · by_cases hneg : fd < 0
        · exact Or.inr (Or.inl hneg)
        · obtain ⟨n, hn, hfind⟩ := find_of_nonneg (t := t) hneg
          exact Or.inl (hfind.trans ((h.owned n).2 (hown hn)))
      · exact Or.inr (Or.inr (h.pending.trans hpending))
    | _ =>
      intro fd hfd
      obtain ⟨n, hn, rfl⟩ := hc fd hfd
      exact (h.owned n).2 hn

section Calls

variable {w : Retry} {c : Sys} {fd : ℤ}

/-- The library may make a call that is not `close` on a descriptor it owns. -/
theorem allows_own {l : Ledger} (hc : ∀ fd, c ≠ .close fd) (hfd : c.fd? = some fd)
    (hown : own fd ⊆ l.owned) (hneg : 0 ≤ fd) : l.Allows (.sys w c) := by
  have hall : ∀ fd', c.fd? = some fd' → ∃ n ∈ l.owned, (n : ℤ) = fd' := by
    intro fd' hfd'
    obtain rfl : fd = fd' := Option.some.inj (hfd.symm.trans hfd')
    exact ⟨fd.toNat, hown (Int.toNat_of_nonneg hneg), Int.toNat_of_nonneg hneg⟩
  cases c <;> first | exact hall | exact absurd rfl (hc _)

/-- And a call on no descriptor. -/
theorem allows_none {l : Ledger} (hfd : c.fd? = none) : l.Allows (.sys w c) := by
  have hall : ∀ fd', c.fd? = some fd' → ∃ n ∈ l.owned, (n : ℤ) = fd' := by
    intro fd' hfd'
    rw [hfd] at hfd'
    cases hfd'
  cases c <;> first | exact hall | cases hfd

/-- A call that neither obtains nor closes a descriptor. -/
theorem guarded_sys (hc : ∀ t r t', descriptors.step t (Event.sys w c r) t' → t' = t.called)
    (h : Ledger.Allows ⟨S, none⟩ (.sys w c)) :
    Op.Guarded (table F) Ledger.Allows ⟨S, none⟩ (Op.sys w c) v := by
  refine fun err => .call (· = ⟨S, none⟩) rfl (fun l hl => hl ▸ h)
    (fun l t r t' hl ht hs _ => ?_) fun l t r t' hl ht hs _ => ?_
  · subst hl
    rw [hc t r t' hs]
    exact ⟨_, ⟨ht.1.called, ht.2⟩, rfl⟩
  · subst hl
    rw [hc t r t' hs]
    exact ⟨_, ⟨ht.1.called, ht.2⟩, fun b => .ret⟩

/-- A call of `close`, the first or a repeated one. -/
theorem table_close {l : Ledger} {t : DescriptorTable} (hfd : own fd ⊆ S \ F) (eintr : Bool)
    (hl : l = ⟨S, none⟩ ∨ l = ⟨S \ own fd, some fd⟩) (ht : (table F).rel l t) :
    (table F).rel ⟨S \ own fd, if eintr then some fd else none⟩ (t.close fd eintr) := by
  obtain rfl | rfl := hl
  · refine ⟨ht.1.close (fun n hn => (hfd hn).1) eintr, fun n hn => ⟨ht.2 hn, fun hown => ?_⟩⟩
    exact (hfd hown).2 hn
  · exact ⟨ht.1.close_again eintr, ht.2⟩

theorem guarded_close (hfd : own fd ⊆ S \ F) :
    Op.Guarded (table F) Ledger.Allows ⟨S, none⟩ (Op.sys .tempFailureRetry (.close fd)) v := by
  refine fun err => .call (fun l => l = ⟨S, none⟩ ∨ l = ⟨S \ own fd, some fd⟩) (Or.inl rfl)
    (fun l hl => ?_) (fun l t r t' hl ht hs ha => ?_) fun l t r t' hl ht hs ha => ?_
  · obtain rfl | rfl := hl
    · exact Or.inl fun n hn => (hfd hn).1
    · exact Or.inr rfl
  · obtain ⟨-, rfl⟩ := hs
    change Call.interrupted (.sys .tempFailureRetry (.close fd)) r = true at ha
    rw [ha]
    exact ⟨_, table_close hfd true hl ht, Or.inr rfl⟩
  · obtain ⟨-, rfl⟩ := hs
    exact ⟨_, table_close hfd _ hl ht, fun b => .ret⟩

end Calls

/-! ## The methods that make and destroy -/

/-- A method of the library whose calls are made on descriptors it owns. -/
abbrev Op.Owned (F S : Set ℕ) (m : Op τ α) (v : τ) : Prop :=
  Op.Guarded (table F) Ledger.Allows ⟨S, none⟩ m v

theorem new_owned (domain type protocol : ℤ) :
    (SimpleSocket.new domain type protocol).Owned F S v := by
  refine .bindRet (.sysOnce (allows_none rfl)) fun r s => ?_
  cases r <;> exact ⟨_, rfl⟩

/-- The descriptor of a socket just made is owned. -/
theorem new_nonneg (domain type protocol : ℤ) {v : τ} :
    Op.Triple (table F) ⟨S, none⟩ (SimpleSocket.new domain type protocol) v fun r v' l =>
      Gains S v mSocket r v' l ∧ ∀ this, r = .ok this → 0 ≤ this.mSocket := by
  refine .bind (triple_acquire id (fun _ _ _ h => h) (fun _ _ _ h => h) (fun n hn => ?_)
    fun e => ?_)
  · refine .pure ⟨gains_fresh rfl hn, fun this h => ?_⟩
    obtain rfl := Except.ok.inj h
    exact Int.natCast_nonneg n
  · exact .throwSocket fun _ => ⟨⟨rfl, rfl⟩, fun this h => by cases h⟩

theorem socket_destroy_owned {this : SimpleSocket} (h : own this.mSocket ⊆ S \ F) :
    this.destroy.Owned F S v :=
  .bindRet (guarded_close h) fun _ _ => ⟨_, rfl⟩

theorem setInitValues_triple (socket : ℤ)
    (numOutStreams maxInStreams maxAttempts maxInitTimeout : BitVec 16) :
    Op.Triple (table F) ⟨S, none⟩
      (SCTPSocket.setInitValues socket numOutStreams maxInStreams maxAttempts maxInitTimeout) v
      fun _ v' l => v' = v ∧ l = ⟨S, none⟩ := by
  refine .bind (triple_sys (fun _ _ _ h => h) fun r => ?_)
  exact .ite (fun _ => .throwSocket fun _ => ⟨rfl, rfl⟩) fun _ => .pure ⟨rfl, rfl⟩

theorem class_new_owned (hF : F ⊆ S) (c : SocketClass) : (c.new : Op τ _).Owned F S v := by
  cases c with
  | tcp => exact new_owned _ _ _
  | unixDatagram => exact new_owned _ _ _
  | canRaw => exact new_owned _ _ _
  | udp =>
    refine .bind (new_owned _ _ _) (new_nonneg _ _ _) ?_
    rintro this v' l ⟨⟨rfl, rfl, hfresh⟩, hneg⟩
    refine .bindRet (.bindRet (guarded_sys (fun _ _ _ h => h) ?_) fun _ _ => ⟨_, rfl⟩)
      fun _ _ => ⟨_, rfl⟩
    exact allows_own (fun _ h => by cases h) rfl Set.subset_union_right (hneg this rfl)
  | sctp =>
    refine .bind (new_owned _ _ _) (new_nonneg _ _ _) ?_
    rintro this v' l ⟨⟨rfl, rfl, hfresh⟩, hneg⟩
    have hown : own this.mSocket ⊆ (S ∪ own this.mSocket) \ F :=
      fun n hn => ⟨Or.inr hn, fun hnF => hfresh n hn (hF hnF)⟩
    have hset := setInitValues_triple (F := F) (S := S ∪ own this.mSocket) (v := v') this.mSocket
    refine .bindRet (.onThrow ?_ (hset _ _ _ _) fun e v'' l h => ?_) fun _ _ => ⟨_, rfl⟩
    · refine .bindRet (.sysOnce ?_) fun r s => ?_
      · exact allows_own (fun _ h => by cases h) rfl Set.subset_union_right (hneg this rfl)
      · cases r <;> exact ⟨_, rfl⟩
    · obtain ⟨rfl, rfl⟩ := h
      exact socket_destroy_owned hown

theorem acceptWith_owned {this : SimpleSocket} (h : own this.mSocket ⊆ S)
    (hneg : 0 ≤ this.mSocket) (failure : String) :
    (this.acceptWith failure : Op τ _).Owned F S v := by
  refine .bindRet (.sysOnce (allows_own (fun _ h => by cases h) rfl h hneg)) fun r s => ?_
  cases r <;> exact ⟨_, rfl⟩

theorem timedAcceptWith_owned {this : SimpleSocket} (h : own this.mSocket ⊆ S)
    (hneg : 0 ≤ this.mSocket) (timeout : ℤ) (pollFailure acceptFailure : String) :
    (this.timedAcceptWith timeout pollFailure acceptFailure : Op τ _).Owned F S v := by
  refine .bind (Q := fun _ v' l => v' = v ∧ l = ⟨S, none⟩)
    (guarded_sys (fun _ _ _ h => h) (allows_own (fun _ h => by cases h) rfl h hneg))
    (triple_sys (fun _ _ _ h => h) fun r => ⟨rfl, rfl⟩) fun r v' l hl => ?_
  obtain ⟨rfl, rfl⟩ := hl
  refine .ite (fun _ => .pure _) fun _ => .ite (fun _ => .throwSocket _ _) fun _ => ?_
  exact acceptWith_owned h hneg acceptFailure

theorem class_accept_owned (c : StreamClass) {this : SimpleSocket} (h : own this.mSocket ⊆ S)
    (hneg : 0 ≤ this.mSocket) : (c.accept this : Op τ _).Owned F S v := by
  cases c <;> exact acceptWith_owned h hneg _

theorem class_timedAccept_owned (c : StreamClass) {this : SimpleSocket}
    (h : own this.mSocket ⊆ S) (hneg : 0 ≤ this.mSocket) (timeout : ℤ) :
    (c.timedAccept this timeout : Op τ _).Owned F S v := by
  cases c <;> exact timedAcceptWith_owned h hneg _ _ _

theorem reset_owned {this : SocketHandle} (fd : ℤ) (h : own this.mSockfd ⊆ S \ F) :
    (this.reset fd : Op τ _).Owned F S v :=
  .ite (fun _ => .bindRet (guarded_close h) fun _ _ => ⟨_, rfl⟩) fun _ => .pure _

theorem handle_destroy_owned {this : SocketHandle} (h : own this.mSockfd ⊆ S \ F) :
    this.destroy.Owned F S v :=
  .bindRet (reset_owned (-1) h) fun _ _ => ⟨_, rfl⟩

/-- The parameter of the constructor has been released: its destruction closes nothing. -/
theorem class_ofHandle_ret (c : StreamClass) (handle : SocketHandle) (s : Proc τ) :
    ∃ r, c.ofHandle handle s = .ret (r, s) ∧ ∀ this, r = .ok this → 0 ≤ this.mSocket := by
  have hofHandle : ∃ r, SimpleSocket.ofHandle handle s = .ret (r, s) ∧
      ∀ this, r = .ok this → 0 ≤ this.mSocket := by
    change ∃ r, Prog.bind (SimpleSocket.ofFd handle.mSockfd s) _ = _ ∧ _
    unfold SimpleSocket.ofFd
    split
    · exact ⟨_, rfl, fun this h => by cases h⟩
    · next hneg =>
      refine ⟨_, rfl, fun this h => ?_⟩
      obtain rfl := Except.ok.inj h
      exact Int.not_lt.1 hneg
  cases c <;> exact hofHandle

/-! ## Sockets have descriptors -/

/-- An object whose descriptor, if it is a socket, is one. A handle may have none. -/
def Holder.Valid : Holder → Prop
  | .socket this => 0 ≤ this.mSocket
  | _ => True

def SocketsValid (w : World) : Prop := ∀ i x, w i = some x → x.Valid

theorem SocketsValid.update {w : World} (h : SocketsValid w) {y : Option Holder}
    (hy : ∀ x, y = some x → x.Valid) (i : ℕ) : SocketsValid (Function.update w i y) := by
  intro j x hj
  by_cases hji : j = i
  · subst hji
    rw [Function.update_self] at hj
    exact hy x hj
  · rw [Function.update_of_ne hji] at hj
    exact h j x hj

theorem SocketsValid.put {w : World} (h : SocketsValid w) {x : Holder} (hx : x.Valid) (i : ℕ) :
    SocketsValid (Function.update w i (some x)) :=
  h.update (fun y hy => by
    obtain rfl := Option.some.inj hy
    exact hx) i

theorem SocketsValid.putHandle {w : World} (h : SocketsValid w) (x : SocketHandle) (i : ℕ) :
    SocketsValid (Function.update w i (some (.handle x))) := h.put (x := .handle x) trivial i

theorem SocketsValid.drop {w : World} (h : SocketsValid w) (i : ℕ) :
    SocketsValid (Function.update w i none) := h.update (fun _ hy => by cases hy) i

/-- Whatever is replied, `m` leaves valid sockets behind, and what it returns has `P`. -/
def Op.KeepsValid (m : Op World α) (w : World) (P : α → Prop) : Prop :=
  Op.Triple (.exact (Kernel.free posix) fun _ _ h => h) () m w fun r w' _ =>
    SocketsValid w' ∧ ∀ x, r = .ok x → P x

namespace Op.KeepsValid

variable {β : Type} {w : World} {P : α → Prop} {R : β → Prop}

theorem pure (h : SocketsValid w) {x : α} (hx : P x) :
    (Pure.pure x : Op World α).KeepsValid w P :=
  Op.Triple.pure ⟨h, fun y hy => by
    obtain rfl := Except.ok.inj hy
    exact hx⟩

theorem throwSocket (h : SocketsValid w) (msg : String) (b : Bool) :
    (Op.throwSocket msg b : Op World α).KeepsValid w P :=
  Op.Triple.throwSocket fun _ => ⟨h, fun _ hx => by cases hx⟩

theorem modify {f : World → World} (h : SocketsValid (f w)) :
    (Op.modify f).KeepsValid w fun _ => True := Op.Triple.modify ⟨h, fun _ _ => trivial⟩

theorem sys (h : SocketsValid w) (r : Retry) (c : Sys) : (Op.sys r c).KeepsValid w fun _ => True :=
  Op.Triple.sysIgnored (fun _ _ _ _ h _ => h) fun _ _ _ _ _ => ⟨h, fun _ _ => trivial⟩

theorem bind {m : Op World α} {f : α → Op World β} (h : m.KeepsValid w P)
    (hf : ∀ x w', SocketsValid w' → P x → (f x).KeepsValid w' R) : (m >>= f).KeepsValid w R := by
  refine Op.Triple.bind (h.mono fun r w' _ hr => ?_)
  cases r with
  | ok x => exact hf x w' hr.1 (hr.2 x rfl)
  | error e => exact ⟨hr.1, fun _ hx => by cases hx⟩

theorem bindGet {f : World → Op World β} (h : (f w).KeepsValid w R) :
    (Op.get >>= f).KeepsValid w R := Op.Triple.bindGet h

theorem ite {c : Prop} [Decidable c] {m m' : Op World α} (h : m.KeepsValid w P)
    (h' : m'.KeepsValid w P) : (if c then m else m').KeepsValid w P :=
  Op.Triple.ite (fun _ => h) fun _ => h'

end Op.KeepsValid

section Valid

variable {w : World} (h : SocketsValid w)

include h

theorem new_valid (domain type protocol : ℤ) :
    (SimpleSocket.new domain type protocol).KeepsValid w fun this => 0 ≤ this.mSocket := by
  refine .bind (.sys h _ _) fun r w' h' _ => ?_
  cases r with
  | error e => exact .throwSocket h' _ _
  | ok n => exact .pure h' (Int.natCast_nonneg n)

theorem destroy_valid (this : SimpleSocket) : this.destroy.KeepsValid w fun _ => True :=
  .bind (.sys h _ _) fun _ _ h' _ => .pure h' trivial

theorem class_new_valid (c : SocketClass) : c.new.KeepsValid w fun this => 0 ≤ this.mSocket := by
  cases c with
  | tcp => exact new_valid h _ _ _
  | unixDatagram => exact new_valid h _ _ _
  | canRaw => exact new_valid h _ _ _
  | udp =>
    refine .bind (new_valid h _ _ _) fun this w' h' hthis => ?_
    have hset : (UDPSocket.setBroadcast this.mSocket).KeepsValid w' fun _ => True :=
      .bind (.sys h' _ _) fun _ _ h' _ => .pure h' trivial
    exact .bind hset fun _ _ h' _ => .pure h' hthis
  | sctp numOut maxIn attempts initTimeout =>
    refine .bind (new_valid h _ _ _) fun this w' h' hthis => ?_
    refine .bind (P := fun _ => True) (Op.Triple.onThrow ?_) fun _ _ h' _ => .pure h' hthis
    have hset : (SCTPSocket.setInitValues this.mSocket numOut maxIn attempts initTimeout).KeepsValid
        w' fun _ => True :=
      .bind (.sys h' _ _) fun _ _ h' _ => .ite (.throwSocket h' _ _) (.pure h' trivial)
    refine hset.mono fun r w'' _ hr => ?_
    cases r with
    | ok x => exact hr
    | error e =>
      exact (destroy_valid hr.1 this).mono fun _ _ _ hw => ⟨hw.1, fun _ hx => by cases hx⟩

theorem acceptWith_valid (this : SimpleSocket) (failure : String) :
    (this.acceptWith failure).KeepsValid w fun _ => True := by
  refine .bind (.sys h _ _) fun r w' h' _ => ?_
  cases r with
  | error e => exact .throwSocket h' _ _
  | ok n => exact .pure h' trivial

theorem timedAcceptWith_valid (this : SimpleSocket) (timeout : ℤ) (f g : String) :
    (this.timedAcceptWith timeout f g).KeepsValid w fun _ => True := by
  refine .bind (.sys h _ _) fun r w' h' _ => .ite (.pure h' trivial) ?_
  exact .ite (.throwSocket h' _ _) (acceptWith_valid h' this g)

theorem reset_valid (this : SocketHandle) (fd : ℤ) :
    (this.reset fd).KeepsValid w fun _ => True :=
  .ite (.bind (.sys h _ _) fun _ _ h' _ => .pure h' trivial) (.pure h trivial)

theorem handle_destroy_valid (this : SocketHandle) : this.destroy.KeepsValid w fun _ => True :=
  .bind (reset_valid h _ _) fun _ _ h' _ => .pure h' trivial

theorem assign_valid (this other : SocketHandle) : (this.assign other).KeepsValid w fun _ => True :=
  .bind (reset_valid h _ _) fun _ _ h' _ => .pure h' trivial

theorem ofHandle_valid (c : StreamClass) (handle : SocketHandle) :
    (c.ofHandle handle).KeepsValid w fun this => 0 ≤ this.mSocket := by
  intro err
  obtain ⟨r, hr, hthis⟩ := class_ofHandle_ret c handle ⟨err, w⟩
  rw [hr]
  exact .ret ⟨h, hthis⟩

theorem create_valid {i : ℕ} {m : Op World Holder} (hm : m.KeepsValid w Holder.Valid) :
    (World.create i m).KeepsValid w fun _ => True :=
  .bindGet (.ite (.bind hm fun _ _ h' hx => .modify (h'.put hx i)) (.pure h trivial))

theorem class_accept_valid (c : StreamClass) (this : SimpleSocket) :
    (c.accept this).KeepsValid w fun _ => True := by
  cases c <;> exact acceptWith_valid h _ _

theorem class_timedAccept_valid (c : StreamClass) (this : SimpleSocket) (timeout : ℤ) :
    (c.timedAccept this timeout).KeepsValid w fun _ => True := by
  cases c <;> exact timedAcceptWith_valid h _ _ _ _

theorem withHandle_valid {i : ℕ} {m : SocketHandle → Op World Unit}
    (hm : ∀ x, (m x).KeepsValid w fun _ => True) :
    (World.withHandle i m).KeepsValid w fun _ => True :=
  World.withHandle_of (P := fun m => m.KeepsValid w fun _ => True)
    (fun _ hf => .bindGet (hf w)) (.pure h trivial) hm

theorem withRef_valid {i : ℕ} {m : SocketHandleRef → Op World Unit}
    (hm : ∀ x, (m x).KeepsValid w fun _ => True) :
    (World.withRef i m).KeepsValid w fun _ => True :=
  World.withRef_of (P := fun m => m.KeepsValid w fun _ => True)
    (fun _ hf => .bindGet (hf w)) (.pure h trivial) hm

theorem withSocket_valid {i : ℕ} {m : SimpleSocket → Op World Unit}
    (hm : ∀ x, (m x).KeepsValid w fun _ => True) :
    (World.withSocket i m).KeepsValid w fun _ => True :=
  World.withSocket_of (P := fun m => m.KeepsValid w fun _ => True)
    (fun _ hf => .bindGet (hf w)) (.pure h trivial) hm

/-- A descriptor on its way out of the object `j`, which is left as `y`. -/
theorem leave_valid {i j : ℕ} {y : Option Holder} (hy : ∀ x, y = some x → x.Valid)
    {m : Op World Holder} (hm : ∀ w', SocketsValid w' → m.KeepsValid w' Holder.Valid) :
    (World.create i (do
      modify fun w => Function.update w j y
      m)).KeepsValid w fun _ => True :=
  create_valid h (.bind (.modify (h.update hy j)) fun _ w' h' _ => hm w' h')

/-- The sockets are valid after a statement. -/
theorem Statement.run_valid (st : Statement) : st.run.KeepsValid w fun _ => True := by
  have hhandle : ∀ (n : ℤ) (x : Holder), some (Holder.handle ⟨n⟩) = some x → x.Valid := by
    intro n x hx
    obtain rfl := Option.some.inj hx
    trivial
  have hnone : ∀ x : Holder, none = some x → x.Valid := fun _ hx => by cases hx
  cases st with
  | construct i c =>
    exact create_valid h (.bind (class_new_valid h c) fun _ _ h' hthis => .pure h' hthis)
  | accept i c socket =>
    refine withSocket_valid h fun this => create_valid h ?_
    exact .bind (class_accept_valid h c this) fun _ _ h' _ => .pure h' trivial
  | timedAccept i c socket timeout =>
    refine withSocket_valid h fun this => create_valid h ?_
    exact .bind (class_timedAccept_valid h c this timeout) fun _ _ h' _ => .pure h' trivial
  | invalidHandle i => exact create_valid h (.pure h trivial)
  | copy i other =>
    exact withHandle_valid h fun x => leave_valid h (hhandle _) fun _ h' => .pure h' trivial
  | toRef i this =>
    exact withHandle_valid h fun x => leave_valid h (hhandle _) fun _ h' => .pure h' trivial
  | ofRef i ref =>
    exact withRef_valid h fun x => leave_valid h hnone fun _ h' => .pure h' trivial
  | assign i other =>
    refine withHandle_valid h fun x => .ite ?_ (withHandle_valid h fun y => ?_)
    · exact .bind (reset_valid h _ _) fun _ _ h' _ => .modify (h'.putHandle _ i)
    · refine .bind (assign_valid h x y) ?_
      exact fun _ _ h' _ => .bind (.modify (h'.putHandle _ other)) fun _ _ h' _ =>
        .modify (h'.putHandle _ i)
  | assignRef i ref =>
    refine withHandle_valid h fun x => withRef_valid h fun y => .bind (.modify (h.drop ref)) ?_
    exact fun _ _ h' _ => .bind (reset_valid h' _ _) fun _ _ h' _ => .modify (h'.putHandle _ i)
  | ofHandle i c handle =>
    refine withHandle_valid h fun x => leave_valid h (hhandle _) fun _ h' => ?_
    exact .bind (ofHandle_valid h' c _) fun _ _ h' hthis => .pure h' hthis
  | ofHandleRef i c ref =>
    refine withRef_valid h fun x => leave_valid h hnone fun _ h' => ?_
    exact .bind (ofHandle_valid h' c _) fun _ _ h' hthis => .pure h' hthis
  | destroy i =>
    refine .bindGet ?_
    split
    · exact .bind (handle_destroy_valid h _) fun _ _ h' _ => .modify (h'.drop i)
    · exact .bind (destroy_valid h _) fun _ _ h' _ => .modify (h'.drop i)
    · exact .pure h trivial

end Valid

/-! ## The statements -/

section Statements

variable {l : Ledger} {w : World}

theorem create_owned {i : ℕ} {m : Op World Holder} (hm : m.Owned F S w) :
    (World.create i m).Owned F S w :=
  .bindGet (.ite (fun _ => .bindRet hm fun _ _ => ⟨_, rfl⟩) fun _ => .pure _)

theorem withHandle_owned {i : ℕ} {m : SocketHandle → Op World Unit}
    (h : ∀ x, w i = some (.handle x) → (m x).Owned F S w) : (World.withHandle i m).Owned F S w := by
  refine .bindGet ?_
  split
  · next x hx => exact h x hx
  · exact .pure _

theorem withRef_owned {i : ℕ} {m : SocketHandleRef → Op World Unit}
    (h : ∀ x, w i = some (.ref x) → (m x).Owned F S w) : (World.withRef i m).Owned F S w := by
  refine .bindGet ?_
  split
  · next x hx => exact h x hx
  · exact .pure _

theorem withSocket_owned {i : ℕ} {m : SimpleSocket → Op World Unit}
    (h : ∀ x, w i = some (.socket x) → (m x).Owned F S w) : (World.withSocket i m).Owned F S w := by
  refine .bindGet ?_
  split
  · next x hx => exact h x hx
  · exact .pure _

theorem ofHandle_owned (c : StreamClass) (handle : SocketHandle) :
    (do return Holder.socket (← c.ofHandle handle) : Op World Holder).Owned F S w := by
  refine .of_ret fun s => ?_
  obtain ⟨r, hr, -⟩ := class_ofHandle_ret c handle s
  change ∃ y, Prog.bind (c.ofHandle handle s) _ = _
  rw [hr]
  cases r <;> exact ⟨_, rfl⟩

/-- **The calls of a statement** are made on descriptors the library owns. -/
theorem Statement.run_owned (st : Statement) (h : Alive w ⟨S, none⟩) (hvalid : SocketsValid w)
    (hF : F ⊆ st.kept w) : st.run.Owned F S w := by
  have hFS : F ⊆ S := hF.trans (kept_subset h st)
  cases st with
  | construct i c => exact create_owned (.bindRet (class_new_owned hFS c) fun _ _ => ⟨_, rfl⟩)
  | accept i c socket =>
    refine withSocket_owned fun this hthis => create_owned (.bindRet ?_ fun _ _ => ⟨_, rfl⟩)
    exact class_accept_owned c (own_subset h hthis) (hvalid socket _ hthis)
  | timedAccept i c socket timeout =>
    refine withSocket_owned fun this hthis => create_owned (.bindRet ?_ fun _ _ => ⟨_, rfl⟩)
    exact class_timedAccept_owned c (own_subset h hthis) (hvalid socket _ hthis) timeout
  | invalidHandle i => exact create_owned (.pure _)
  | copy i other => exact withHandle_owned fun x _ => create_owned (.of_ret fun s => ⟨_, rfl⟩)
  | toRef i this => exact withHandle_owned fun x _ => create_owned (.of_ret fun s => ⟨_, rfl⟩)
  | ofRef i ref => exact withRef_owned fun x _ => create_owned (.of_ret fun s => ⟨_, rfl⟩)
  | assign i other =>
    refine withHandle_owned fun x hx => .ite (fun _ => ?_) fun _ => ?_
    · refine .bindRet (reset_owned _ ?_) fun _ _ => ⟨_, rfl⟩
      rw [own_invalid]
      exact Set.empty_subset _
    · refine withHandle_owned fun y _ => .bindRet ?_ fun _ _ => ⟨_, rfl⟩
      exact .bindRet (reset_owned _ (own_target h hF rfl hx)) fun _ _ => ⟨_, rfl⟩
  | assignRef i ref =>
    refine withHandle_owned fun x hx => withRef_owned fun y _ => ?_
    exact .bindModify (.bindRet (reset_owned _ (own_target h hF rfl hx)) fun _ _ => ⟨_, rfl⟩)
  | ofHandle i c handle =>
    refine withHandle_owned fun x _ => create_owned fun err => ?_
    exact ofHandle_owned c ⟨x.mSockfd⟩ err
  | ofHandleRef i c ref =>
    refine withRef_owned fun x _ => create_owned fun err => ?_
    exact ofHandle_owned c ⟨x.sockfd⟩ err
  | destroy i =>
    refine .bindGet ?_
    split
    · next x hx =>
      exact .bindRet (handle_destroy_owned (own_target h hF rfl hx)) fun _ _ => ⟨_, rfl⟩
    · next x hx =>
      exact .bindRet (socket_destroy_owned (own_target h hF rfl hx)) fun _ _ => ⟨_, rfl⟩
    · exact .pure _

end Statements

/-! ## The functions of `SocketUtils` -/

/-- A method whose calls are made on descriptors the library owns, and that leaves the variables
and the descriptors as they were. -/
structure Op.Leaves (F S : Set ℕ) (m : Op τ α) (v : τ) : Prop where
  owned : m.Owned F S v
  kept : Op.Triple (table F) ⟨S, none⟩ m v fun _ v' l => v' = v ∧ l = ⟨S, none⟩

namespace Op.Leaves

variable {β τ' : Type}

theorem pure (x : α) : (Pure.pure x : Op τ α).Leaves F S v := ⟨.pure x, .pure ⟨rfl, rfl⟩⟩

theorem throwSocket (msg : String) (b : Bool) :
    (Op.throwSocket msg b : Op τ α).Leaves F S v :=
  ⟨.throwSocket _ _, .throwSocket fun _ => ⟨rfl, rfl⟩⟩

theorem bind {m : Op τ α} {f : α → Op τ β} (h : m.Leaves F S v) (hf : ∀ x, (f x).Leaves F S v) :
    (m >>= f).Leaves F S v where
  owned := .bind h.owned h.kept fun x v' l hl => by
    obtain ⟨rfl, rfl⟩ := hl
    exact (hf x).owned
  kept := by
    refine .bind (h.kept.mono fun r v' l hl => ?_)
    obtain ⟨rfl, rfl⟩ := hl
    cases r with
    | ok x => exact (hf x).kept
    | error e => exact ⟨rfl, rfl⟩

theorem ite {c : Prop} [Decidable c] {m m' : Op τ α} (h : m.Leaves F S v)
    (h' : m'.Leaves F S v) : (if c then m else m').Leaves F S v := by
  split
  · exact h
  · exact h'

theorem sys {w : Retry} {c : Sys} (hc : ∀ t r t', descriptors.step t (Event.sys w c r) t' →
    t' = t.called) (h : Ledger.Allows ⟨S, none⟩ (.sys w c)) :
    (Op.sys w c : Op τ _).Leaves F S v :=
  ⟨guarded_sys hc h, triple_sys hc fun _ => ⟨rfl, rfl⟩⟩

theorem lib (c : Lib) : (Op.lib c : Op τ c.Val).Leaves F S v where
  owned err := by
    refine .call (· = ⟨S, none⟩) rfl (fun _ _ => trivial) (fun _ _ _ _ _ _ _ ha => by cases ha) ?_
    intro l t r t' hl ht hs _
    subst hl
    obtain rfl : t' = t.called := hs
    exact ⟨_, ⟨ht.1.called, ht.2⟩, fun b => .ret⟩
  kept := .lib fun t r t' ht hs => by
    obtain rfl : t' = t.called := hs
    exact ⟨_, ⟨ht.1.called, ht.2⟩, rfl, rfl⟩

/-- A local variable that is filled without a call. -/
theorem withLocal {x : τ'} {m : Op τ' α} (h : ∀ s, ∃ y, m s = .ret y) :
    (Op.withLocal x m : Op τ _).Leaves F S v := by
  have hret (err : Errno) :
      ∃ r err', (Op.withLocal x m : Op τ _) ⟨err, v⟩ = .ret (r, ⟨err', v⟩) := by
    obtain ⟨⟨r, s'⟩, hr⟩ := h ⟨err, x⟩
    change ∃ r err', Prog.bind (m ⟨err, x⟩) _ = _
    rw [hr]
    cases r <;> exact ⟨_, _, rfl⟩
  refine ⟨fun err => ?_, fun err => ?_⟩
  · obtain ⟨r, err', hr⟩ := hret err
    rw [hr]
    exact .ret
  · obtain ⟨r, err', hr⟩ := hret err
    rw [hr]
    exact .ret ⟨rfl, rfl⟩

/-- The temporary socket is gone on both exits of the block. -/
theorem withTempSocket (hF : F ⊆ S) {body : ℤ → Op τ α} (h : ∀ fd S', own fd ⊆ S' → 0 ≤ fd →
    (body fd).Leaves F S' v) : (SocketUtils.withTempSocket body).Leaves F S v := by
  have hbody (this : SimpleSocket) (hneg : 0 ≤ this.mSocket) :
      (body this.mSocket).Leaves F (S ∪ own this.mSocket) v :=
    h _ _ Set.subset_union_right hneg
  have hown (this : SimpleSocket) (hfresh : ∀ n ∈ own this.mSocket, n ∉ S) :
      own this.mSocket ⊆ (S ∪ own this.mSocket) \ F :=
    fun n hn => ⟨Or.inr hn, fun hnF => hfresh n hn (hF hnF)⟩
  constructor
  · refine .bind (new_owned _ _ _) (new_nonneg _ _ _) ?_
    rintro this v' l ⟨⟨rfl, rfl, hfresh⟩, hneg⟩
    refine .finally' (hbody this (hneg this rfl)).owned (hbody this (hneg this rfl)).kept ?_
    rintro r v'' l ⟨rfl, rfl⟩
    exact socket_destroy_owned (hown this hfresh)
  · refine .bind ((new_nonneg _ _ _).mono ?_)
    rintro (e | this) v' l ⟨⟨rfl, hl⟩, hneg⟩
    · exact ⟨rfl, hl⟩
    · obtain ⟨rfl, hfresh⟩ := hl
      refine .finally' ((hbody this (hneg this rfl)).kept.mono ?_)
      rintro r v'' l ⟨rfl, rfl⟩
      refine (socket_destroy (hown this hfresh)).mono ?_
      rintro - v'' l ⟨-, rfl, rfl⟩
      rw [union_own_diff hfresh]
      exact ⟨rfl, rfl⟩

end Op.Leaves

section Utilities

open SocketUtils

theorem localIfreq_leaves (interface : Str) : (localIfreq interface : Op τ _).Leaves F S v := by
  refine .bind (.lib _) fun ifr => .bind (.withLocal fun s => ?_) fun _ => .pure _
  unfold assignIfreq
  split <;> exact ⟨_, rfl⟩

theorem getSetting_leaves (hF : F ⊆ S) {request : ℤ} {failure : String} {read : Ifreq → Op τ α}
    (hread : ∀ ifr S', (read ifr).Leaves F S' v) (interface : Str) :
    (getSetting request failure read interface).Leaves F S v := by
  refine .bind (localIfreq_leaves interface) fun ifr => .withTempSocket hF fun fd S' hown hneg => ?_
  refine .bind (.sys (fun _ _ _ h => h) (allows_own (fun _ h => by cases h) rfl hown hneg)) ?_
  intro r
  cases r with
  | error e => exact .throwSocket _ _
  | ok ifr => exact hread ifr S'

theorem setSetting_leaves (hF : F ⊆ S) {request : ℤ} {failure : String}
    {write : Ifreq → Op τ Ifreq} (hwrite : ∀ ifr, (write ifr).Leaves F S v) (interface : Str) :
    (setSetting request failure write interface).Leaves F S v := by
  refine .bind (localIfreq_leaves interface) fun ifr => .bind (hwrite ifr) fun ifr => ?_
  refine .withTempSocket hF fun fd S' hown hneg => .bind (.sys (fun _ _ _ h => h) ?_) fun r => ?_
  · exact allows_own (fun _ h => by cases h) rfl hown hneg
  · exact .ite (.throwSocket _ _) (.pure _)

theorem writeAddress_leaves (address : Str) (ifr : Ifreq) :
    (writeAddress address ifr : Op τ _).Leaves F S v := by
  refine .bind (.lib _) fun a => ?_
  cases a <;> exact .pure _

theorem getNetworkInterfaces_leaves (hF : F ⊆ S) :
    (getNetworkInterfaces : Op τ _).Leaves F S v := by
  refine .withTempSocket hF fun fd S' hown hneg => .bind (.sys (fun _ _ _ h => h) ?_) fun r => ?_
  · exact allows_own (fun _ h => by cases h) rfl hown hneg
  · cases r with
    | error e => exact .throwSocket _ _
    | ok conf => exact .pure _

theorem resolveHostname_leaves (hostname : Str) :
    (resolveHostname hostname : Op τ _).Leaves F S v := by
  refine .bind (.lib _) fun host => ?_
  cases host with
  | none => exact .throwSocket _ _
  | some a => exact .pure _

theorem resolveService_leaves (service protocol : Str) :
    (resolveService service protocol : Op τ _).Leaves F S v := by
  refine .bind (.lib _) fun port => ?_
  cases port <;> exact .pure _

/-- **The functions of `SocketUtils`** leave the descriptors of the library as they were. -/
theorem Utility.body_leaves (hF : F ⊆ S) (u : Utility) : (u.body : Op τ _).Leaves F S v := by
  have getAddress (request : ℤ) (failure : String) (interface : Str) :
      (ofStr (getSetting request failure readAddress interface) : Op τ _).Leaves F S v :=
    .bind (getSetting_leaves hF (fun _ _ => .pure _) interface) fun _ => .pure _
  have setAddress (request : ℤ) (failure : String) (interface address : Str) :
      (ofUnit (setSetting request failure (writeAddress address) interface) :
        Op τ _).Leaves F S v :=
    .bind (setSetting_leaves hF (writeAddress_leaves address) interface) fun _ => .pure _
  cases u with
  | resolveHostname hostname => exact .bind (resolveHostname_leaves hostname) fun _ => .pure _
  | resolveService service protocol =>
    exact .bind (resolveService_leaves service protocol) fun _ => .pure _
  | getNetworkInterfaces => exact .bind (getNetworkInterfaces_leaves hF) fun _ => .pure _
  | getMTU interface =>
    exact .bind (getSetting_leaves hF (fun _ _ => .pure _) interface) fun _ => .pure _
  | setMTU interface mtu =>
    exact .bind (setSetting_leaves hF (fun _ => .pure _) interface) fun _ => .pure _
  | getHardwareAddress interface separationChar =>
    refine .bind (getSetting_leaves hF (fun ifr _ => ?_) interface) fun _ => .pure _
    exact .ite (.pure _) (.throwSocket _ _)
  | getInterfaceAddress interface => exact getAddress _ _ interface
  | getBroadcastAddress interface => exact getAddress _ _ interface
  | getNetmask interface => exact getAddress _ _ interface
  | getDestinationAddress interface => exact getAddress _ _ interface
  | setInterfaceAddress interface address => exact setAddress _ _ interface address
  | setBroadcastAddress interface address => exact setAddress _ _ interface address
  | setNetmask interface address => exact setAddress _ _ interface address
  | setDestinationAddress interface address => exact setAddress _ _ interface address

end Utilities

/-! ## The operations -/

/-- The call hands out a descriptor, or takes it back. -/
def SysKind.transfers : SysKind → Bool
  | .socket | .close | .accept => true
  | _ => false

theorem step_called {c : Call} {r : c.Reply} {t t' : DescriptorTable}
    (h : ∀ w s, c = .sys w s → s.kind.transfers = false) (hs : descriptors.step t ⟨c, r⟩ t') :
    t' = t.called := by
  cases c with
  | lib c => exact hs
  | sys w c =>
    have hno := h w c rfl
    cases c <;> first | exact hs | cases hno

/-- Only the `accept` operations obtain a descriptor, and none of them closes one. -/
theorem Operation.kinds_keep (op : Operation) (h : SysKind.accept ∉ op.kinds) :
    ∀ k ∈ op.kinds, k.transfers = false := by
  cases op <;> simp_all [Operation.kinds, SysKind.transfers]

section Operations

variable {w : World} {op : Operation} {f : Frame}

theorem callIn_called {kinds : List SysKind} {fd : ℤ} (hkinds : ∀ k ∈ kinds, k.transfers = false)
    {c : Call} (hc : CallIn kinds fd c) {r : c.Reply} {t t' : DescriptorTable}
    (hs : descriptors.step t ⟨c, r⟩ t') : t' = t.called := by
  refine step_called (fun w s heq => ?_) hs
  subst heq
  exact hkinds _ hc.1

theorem callIn_allows {kinds : List SysKind} {fd : ℤ} (hkinds : ∀ k ∈ kinds, k.transfers = false)
    (hown : own fd ⊆ S) (hneg : 0 ≤ fd) {c : Call} (hc : CallIn kinds fd c) :
    Ledger.Allows ⟨S, none⟩ c := by
  cases c with
  | lib c => trivial
  | sys w c =>
    obtain ⟨hkind, hfd | hfd⟩ := hc
    · refine allows_own (fun fd' heq => ?_) hfd hown hneg
      subst heq
      cases hkinds _ hkind
    · exact allows_none hfd

/-- The calls of a method are made on the descriptor of its socket, which keeps it. -/
theorem uses_leaves {kinds : List SysKind} {m : Method α} (hm : m.Uses kinds f.this.mSocket)
    (hkinds : ∀ k ∈ kinds, k.transfers = false) (hown : own f.this.mSocket ⊆ S)
    (hneg : 0 ≤ f.this.mSocket) : m.Owned F S f ∧
      Op.Triple (table F) ⟨S, none⟩ m f fun _ (f' : Frame) l =>
        l = ⟨S, none⟩ ∧ f'.this.mSocket = f.this.mSocket := by
  have hcalls (err : Errno) := hm ⟨err, f⟩ rfl
  have hC : ∀ c, CallIn kinds f.this.mSocket c → ∀ t (r : c.Reply) t',
      (table F).rel ⟨S, none⟩ t → descriptors.step t ⟨c, r⟩ t' → (table F).rel ⟨S, none⟩ t' := by
    intro c hc t r t' ht hs
    rw [callIn_called hkinds hc hs]
    exact ⟨ht.1.called, ht.2⟩
  refine ⟨.of_wp (R := fun _ (f' : Frame) => f'.this.mSocket = f.this.mSocket) hC
    (fun c hc => callIn_allows hkinds hown hneg hc) hcalls, ?_⟩
  exact .of_wp (R := fun _ (f' : Frame) => f'.this.mSocket = f.this.mSocket) hC hcalls

/-- **The calls of an operation.** -/
theorem Operation.body_leaves (hkinds : ∀ k ∈ op.kinds, k.transfers = false)
    (hown : own f.this.mSocket ⊆ S) (hneg : 0 ≤ f.this.mSocket) :
    op.body.Owned F S f ∧ Op.Triple (table F) ⟨S, none⟩ op.body f fun _ (f' : Frame) l =>
      l = ⟨S, none⟩ ∧ f'.this.mSocket = f.this.mSocket :=
  uses_leaves (op.body_calls f.this.mSocket) hkinds hown hneg

end Operations

/-! ## Runs of the whole library -/

/-- What `accept` returns has a name in a program: it is made by a statement. -/
def LibraryCall.Named : LibraryCall → Prop
  | .operation _ op _ => SysKind.accept ∉ op.kinds
  | _ => True

/-- The object whose descriptor a call may close. -/
def LibraryCall.target : LibraryCall → Option ℕ
  | .statement st => st.target
  | _ => none

/-- What the other objects own. -/
def LibraryCall.kept (c : LibraryCall) (w : World) : Set ℕ :=
  {n | ∃ i, c.target ≠ some i ∧ n ∈ ownOf (w i)}

/-- The live objects share the descriptors of the library out among them, and sockets have one. -/
structure LibraryInv (w : World) (l : Ledger) : Prop where
  alive : Alive w l
  valid : SocketsValid w

section Library

variable {w : World} {err : Errno}

theorem libraryCall_kept_subset {l : Ledger} (h : Alive w l) (c : LibraryCall) :
    c.kept w ⊆ l.owned := by
  intro n hn
  obtain ⟨i, -, hn⟩ := hn
  exact h.1.mem i n hn

/-- What a call leaves of the objects and the descriptors. -/
def LibraryCall.Post (c : LibraryCall) (S : Set ℕ) (x : CallOutcome × Proc World)
    (l : Ledger) : Prop :=
  LibraryInv x.2.vars l ∧ ((∀ st, c ≠ .statement st) → l = ⟨S, none⟩)

/-- A statement. -/
theorem statement_triple (st : Statement) (h : LibraryInv w ⟨S, none⟩) (hF : F ⊆ st.kept w) :
    Interact.Triple (table F) ⟨S, none⟩ ((LibraryCall.statement st).run ⟨err, w⟩)
      ((LibraryCall.statement st).Post S) := by
  have hvalid : ∀ tr (x : Except Exn Unit × Proc World), Runs (st.run ⟨err, w⟩) tr x →
      SocketsValid x.2.vars := fun tr x hr => by
    obtain ⟨-, -, hvalid, -⟩ :=
      (Statement.run_valid h.valid st err).runs rfl hr (Kernel.free_accepts tr)
    exact hvalid
  refine .bind ((st.run_triple h.alive hF err).and_runs hvalid) fun x l hx => .ret ?_
  exact ⟨⟨hx.1, hx.2⟩, fun hno => absurd rfl (hno st)⟩

/-- An operation gives its socket back with the descriptor it had. -/
theorem LibraryInv.update {l : Ledger} (h : LibraryInv w l) {i : ℕ} {this this' : SimpleSocket}
    (hi : w i = some (.socket this)) (heq : this'.mSocket = this.mSocket) :
    LibraryInv (Function.update w i (some (.socket this'))) l := by
  refine ⟨⟨?_, h.alive.2⟩, h.valid.put (x := .socket this') ?_ i⟩
  · have hown : ownOf (some (.socket this')) = ownOf (w i) := by
      rw [hi]
      exact congrArg own heq
    rw [ownOf_update, hown, Function.update_eq_self i fun j => ownOf (w j)]
    exact h.alive.1
  · have hthis : 0 ≤ this.mSocket := h.valid i _ hi
    rwa [← heq] at hthis

theorem library_triple (err : Errno) (c : LibraryCall) (hc : c.Named)
    (h : LibraryInv w ⟨S, none⟩) (hF : F ⊆ c.kept w) :
    Interact.Guarded (table F) Ledger.Allows ⟨S, none⟩ (c.run ⟨err, w⟩) ∧
      Interact.Triple (table F) ⟨S, none⟩ (c.run ⟨err, w⟩) (c.Post S) := by
  have hFS : F ⊆ S := hF.trans (libraryCall_kept_subset h.alive c)
  cases c with
  | statement st =>
    refine ⟨.bindRet ?_ fun _ => ⟨_, rfl⟩, statement_triple st h hF⟩
    exact st.run_owned h.alive h.valid hF err
  | operation i op vars =>
    dsimp only [LibraryCall.run]
    split
    · next this hthis =>
      obtain ⟨howned, htriple⟩ := Operation.body_leaves (F := F) (f := vars.frame this)
        (op.kinds_keep hc) (own_subset h.alive hthis) (h.valid i _ hthis)
      refine ⟨.bindRet (howned err) fun _ => ⟨_, rfl⟩, .bind (htriple err) fun x l hx => .ret ?_⟩
      obtain ⟨rfl, heq⟩ := hx
      exact ⟨h.update hthis heq, fun _ => rfl⟩
    · exact ⟨.ret, .ret ⟨h, fun _ => rfl⟩⟩
  | utility u =>
    obtain ⟨howned, htriple⟩ := Utility.body_leaves (v := w) hFS u
    refine ⟨.bindRet (howned err) fun _ => ⟨_, rfl⟩, .bind (htriple err) fun x l hx => .ret ?_⟩
    obtain ⟨hw, rfl⟩ := hx
    refine ⟨?_, fun _ => rfl⟩
    rw [hw]
    exact h
  | other err' => exact ⟨.ret, .ret ⟨h, fun _ => rfl⟩⟩

/-- A program: statements, operations and calls of `SocketUtils` one after another, from no objects,
while other code of the process opens and closes descriptors of its own. -/
abbrev LibraryRun (others : ℕ → Bool) (err : Errno) :=
  Session LibraryCall.run descriptors ⟨err, World.empty⟩ (DescriptorTable.initial others)

variable {others : ℕ → Bool} {es : List LibraryEntry} {s : Proc World} {t t' : DescriptorTable}

theorem LibraryRun.inv (h : LibraryRun others err es s t) (hes : ∀ e ∈ es, e.op.Named) :
    ∃ S, t.Matches ⟨S, none⟩ ∧ LibraryInv s.vars ⟨S, none⟩ := by
  have hempty : LibraryInv World.empty ⟨∅, none⟩ := ⟨⟨.empty, rfl⟩, fun i x hx => by cases hx⟩
  refine h.invariant
    (P := fun _ s (t : DescriptorTable) => ∃ S, t.Matches ⟨S, none⟩ ∧ LibraryInv s.vars ⟨S, none⟩)
    (G := fun e => e.op.Named) hes ⟨∅, initial_matches others, hempty⟩ ?_
  intro es c s t tr o s' t' hP hc hr ht
  obtain ⟨S, hS, hinv⟩ := hP
  obtain ⟨⟨S', pending⟩, ht', hpost, -⟩ := (library_triple s.errno c hc hinv
    (Set.empty_subset _)).2.runs ⟨hS, Set.empty_subset _⟩ hr ht
  obtain rfl : pending = none := hpost.alive.2
  exact ⟨S', ht'.1, hpost⟩

/-- **The descriptors of the whole library.** Between two calls every open descriptor of the library
is owned by one live object, and every socket has one. At every moment of a further call the objects
it does not destroy or assign to have kept theirs, and the next system call is made on an open
descriptor of the library. A call that is no statement leaves the descriptors as they were. -/
theorem library_ownership (h : LibraryRun others err es s t) (hes : ∀ e ∈ es, e.op.Named) :
    ((∀ n, t.owner n = some .library → ∃! i, n ∈ ownOf (s.vars i)) ∧
      (∀ i n, n ∈ ownOf (s.vars i) → t.owner n = some .library) ∧
      ∀ i this, s.vars i = some (.socket this) → t.find this.mSocket = some .library) ∧
    ∀ (c : LibraryCall) (tr : List Event) (p : Prog posix (CallOutcome × Proc World))
      (t' : DescriptorTable), c.Named → Trace (c.run s) tr p → descriptors.Accepts t tr t' →
      (∀ i n, c.target ≠ some i → n ∈ ownOf (s.vars i) → t'.owner n = some .library) ∧
      (∀ d g, p = .call d g → t'.Allows d) ∧
      ∀ x, p = .ret x → (∀ st, c ≠ .statement st) →
        ∀ n, t'.owner n = some .library ↔ t.owner n = some .library := by
  obtain ⟨S, hS, hinv⟩ := h.inv hes
  refine ⟨⟨fun n hn => hinv.alive.1.existsUnique ((hS.owned n).1 hn),
    fun i n hn => (hS.owned n).2 (hinv.alive.1.mem i n hn), fun i this hi => ?_⟩, ?_⟩
  · have hneg : ¬this.mSocket < 0 := Int.not_lt.2 (hinv.valid i _ hi)
    obtain ⟨n, hn, hfind⟩ := DescriptorTable.find_of_nonneg (t := t) hneg
    exact hfind.trans ((hS.owned n).2 (own_subset hinv.alive hi hn))
  · intro c tr p t' hc hr ht
    obtain ⟨hguarded, htriple⟩ := library_triple s.errno c hc hinv (le_refl (c.kept s.vars))
    have hk : (table (c.kept s.vars)).rel ⟨S, none⟩ t :=
      ⟨hS, libraryCall_kept_subset hinv.alive c⟩
    obtain ⟨⟨l, hl, hkept⟩, hret⟩ := htriple t tr p t' hk hr ht
    refine ⟨fun i n hi hn => (hl.owned n).2 (hkept ⟨i, hi, hn⟩), fun d g hp => ?_, ?_⟩
    · subst hp
      obtain ⟨l', hl', hallows⟩ := hguarded t tr d g t' hk hr ht
      exact hl'.1.allows hallows
    · intro x hp hno n
      obtain ⟨l', hl', -, hsame⟩ := hret x hp
      obtain rfl := hsame hno
      rw [hl'.1.owned n, hS.owned n]

/-- The program has made one socket, and asks for the MTU of `lo`: the request goes to the temporary
socket. -/
theorem library_ownership_mtu : (oneOpen.acquire 4 rfl).owner 3 = some .library ∧
    (oneOpen.acquire 4 rfl).Allows
      (.sys .once (.ioctl 4 0x8921 (Ifreq.zero.1.assign [108, 111]))) := by
  have hr : Runs ((LibraryCall.statement (.construct 0 .tcp)).run ⟨0, World.empty⟩)
      [Event.sys .once (.socket 2 1 6) (.ok (3 : ℕ))] (.statement (.ok ()), ⟨0, oneSocket⟩) :=
    .cons (.answer rfl) (.nil _)
  have hk : descriptors.Accepts (DescriptorTable.initial fun _ => false)
      [Event.sys .once (.socket 2 1 6) (.ok (3 : ℕ))] oneOpen := .single ⟨rfl, rfl⟩
  have hmtu : Trace ((LibraryCall.utility (.getMTU [108, 111])).run ⟨0, oneSocket⟩)
      [Event.lib .uninitIfreq Ifreq.zero, Event.sys .once (.socket 2 2 0) (.ok (4 : ℕ))] _ :=
    .cons (.answer rfl) (.cons (.answer rfl) (.nil _))
  have ht : descriptors.Accepts oneOpen
      [Event.lib .uninitIfreq Ifreq.zero, Event.sys .once (.socket 2 2 0) (.ok (4 : ℕ))]
      (oneOpen.acquire 4 rfl) := .step rfl (.single ⟨rfl, rfl⟩)
  have key := (library_ownership (.single _ hr hk) (List.forall_mem_singleton.2 trivial)).2
    (.utility (.getMTU [108, 111])) _ _ _ trivial hmtu ht
  exact ⟨key.1 0 3 (by simp [LibraryCall.target]) rfl, key.2.1 _ _ rfl⟩

end Library

end NET
