import Mathlib.Data.PEquiv
import SimpleSocket.Net.Operation
import SimpleSocket.Verify.Triple

/-!
# CAN interfaces by name and by index

The kernel has a one-to-one table of names and indexes. `getInterfaceIndex` has a case of its own
for the empty name, which stands for all interfaces; `getInterfaceName` has none for the index 0. So
a name is read back after `bind` unless it was the empty one, and an interface that a frame came
from can be sent to under the name that was reported.
-/

namespace NET

open Op Interact SimpleSocket

/-! ## The kernel's table -/

/-- The interfaces: names that fit, indexes that are positive. -/
structure InterfaceTable where
  index : Str ≃. ℤ
  no_nul : ∀ s i, index s = some i → 0 ∉ s
  nonempty : ∀ s i, index s = some i → s ≠ []
  short : ∀ s i, index s = some i → s.length < ifNameSize
  positive : ∀ s i, index s = some i → 0 < i
  le_intMax : ∀ s i, index s = some i → i ≤ intMax

namespace InterfaceTable

/-- The name of an index. -/
def name (t : InterfaceTable) (i : ℤ) : Option Str := t.index.symm i

theorem name_eq_some_iff {t : InterfaceTable} {s : Str} {i : ℤ} :
    t.name i = some s ↔ t.index s = some i := t.index.eq_some_iff

/-- `SIOCGIFINDEX` and `SIOCGIFNAME` look the table up, and fail when there is no entry. -/
def Replies (t : InterfaceTable) : Event → Prop
  | ⟨.sys _ (.ioctl _ request ifr), r⟩ =>
    (request = siocgifindex → match t.index (cStr ifr.ifrName) with
      | some i => ∃ ifr' : Ifreq, r = .ok ifr' ∧ ifr'.ifrIfindex = i
      | none => failed r = true) ∧
    (request = siocgifname → match t.name ifr.ifrIfindex with
      | some s => ∃ ifr' : Ifreq, r = .ok ifr' ∧ cStr ifr'.ifrName = s
      | none => failed r = true)
  | _ => True

/-- What `getInterfaceIndex` makes of a name. -/
def Indexes (t : InterfaceTable) (s : Str) (i : ℤ) : Prop :=
  (s = [] ∧ i = 0) ∨ t.index s = some i

end InterfaceTable

/-- `bind` stores the index, and `getsockname` returns it. -/
def boundStep (k : ℤ → ℤ) : Event → (ℤ → ℤ) → Prop
  | ⟨.sys _ (.bind fd (.can addr)), .ok _⟩, k' => k' = Function.update k fd addr.canIfindex
  | ⟨.sys _ (.getsockname fd .can), r⟩, k' => r = .ok ⟨afCan, k fd⟩ ∧ k' = k
  | _, k' => k' = k

/-- The kernel keeps the index that every socket is bound to. -/
def tableKernel (t : InterfaceTable) : Kernel posix where
  State := ℤ → ℤ
  step k e k' := t.Replies e ∧ boundStep k e k'
  idle _ _ := False

/-! ## The index in an `ifreq` -/

theorem ifrIfindex_setIfindex (ifr : Ifreq) {i : ℤ} (h0 : 0 ≤ i) (hmax : i ≤ intMax) :
    (ifr.setIfindex i).ifrIfindex = i := by
  unfold Ifreq.ifrIfindex Ifreq.setIfindex
  rw [overwrite, word32_le32, BitVec.toInt_ofInt]
  exact toInt_of_range (by omega) hmax

/-! ## The two translations -/

section Lookup

variable {K : Kernel posix} {A τ : Type} {V : View K A} {a : A} {v : τ} {t : InterfaceTable}

/-- A view of a kernel with the table, in which a lookup is not visible. -/
structure InterfaceTable.Serves (t : InterfaceTable) (V : View K A) : Prop where
  uninit : V.Ignores (.lib .uninitIfreq)
  ioctl : ∀ fd request ifr, V.Ignores (.sys .once (.ioctl fd request ifr))
  replies : ∀ a k e k', V.rel a k → K.step k e k' → t.Replies e

theorem triple_getInterfaceIndex (hV : t.Serves V) {fd : ℤ} {interface : Str}
    (h0 : 0 ∉ interface) :
    Op.Triple V a (CANSocket.getInterfaceIndex fd interface) v fun r v' a' =>
      v' = v ∧ a' = a ∧ ∀ i, r = .ok i ↔ t.Indexes interface i := by
  unfold CANSocket.getInterfaceIndex InterfaceTable.Indexes
  refine .ite (fun hnil => .pure ⟨rfl, rfl, fun i => ?_⟩) fun hne =>
    .ite (fun hlong => .throwSocket fun x => ⟨rfl, rfl, fun i => ?_⟩) fun _ =>
      .bind (.libIgnored hV.uninit fun _ mem _ _ _ =>
        .bind (.sysIgnored (hV.ioctl _ _ _) fun k r k' hk hs => ?_))
  · have hnone : t.index interface ≠ some i := fun hi => t.nonempty _ _ hi hnil
    rw [Except.ok.injEq, or_iff_left hnone, and_iff_right hnil, eq_comm]
  · refine iff_of_false (fun h => by cases h) ?_
    intro h
    rcases h with ⟨hnil, -⟩ | hi
    · exact hne hnil
    · exact absurd (t.short _ _ hi) (Nat.not_lt.2 hlong)
  · have hreply := (hV.replies a k _ k' hk hs).1 rfl
    rw [cStr_strcpy, cStr_of_no_nul h0] at hreply
    cases hindex : t.index interface with
    | none =>
      rw [hindex] at hreply
      cases r with
      | ok ifr => cases hreply
      | error e =>
        refine .throwSocket fun x => ⟨rfl, rfl, fun i => iff_of_false (fun h => by cases h) ?_⟩
        simp [hne]
    | some j =>
      rw [hindex] at hreply
      obtain ⟨ifr, rfl, hj⟩ := hreply
      refine .pure ⟨rfl, rfl, fun i => ?_⟩
      simp [hne, hj]

theorem triple_getInterfaceName (hV : t.Serves V) {fd : ℤ} {addr : SockaddrCan} :
    Op.Triple V a (CANSocket.getInterfaceName fd addr) v fun r v' a' =>
      v' = v ∧ a' = a ∧ (0 ≤ addr.canIfindex → addr.canIfindex ≤ intMax →
        ∀ s, r = .ok s ↔ t.name addr.canIfindex = some s) := by
  unfold CANSocket.getInterfaceName
  refine .bind (.libIgnored hV.uninit fun _ mem _ _ _ =>
    .bind (.sysIgnored (hV.ioctl _ _ _) fun k r k' hk hs => ?_))
  have hreply := (hV.replies a k _ k' hk hs).2 rfl
  cases r with
  | error e =>
    refine .throwSocket fun x => ⟨rfl, rfl, fun h0 hmax s => iff_of_false (fun h => by cases h) ?_⟩
    intro hs
    rw [ifrIfindex_setIfindex _ h0 hmax, hs] at hreply
    obtain ⟨ifr, hifr, -⟩ := hreply
    cases hifr
  | ok ifr =>
    refine .pure ⟨rfl, rfl, fun h0 hmax s => ?_⟩
    rw [ifrIfindex_setIfindex _ h0 hmax] at hreply
    cases hname : t.name addr.canIfindex with
    | none =>
      rw [hname] at hreply
      cases hreply
    | some n =>
      rw [hname] at hreply
      obtain ⟨ifr', hifr, hn⟩ := hreply
      obtain rfl := Except.ok.inj hifr
      simp [hn]

end Lookup

/-! ## `bind` and `getLocalInterface` -/

section Bind

variable {t : InterfaceTable} {k : ℤ → ℤ} {v : Frame}

/-- The indexes the sockets are bound to, as they are. -/
def boundView (t : InterfaceTable) : View (tableKernel t) (ℤ → ℤ) where
  rel a k := k = a
  idle _ _ _ _ hi := hi.elim

theorem boundView_serves (t : InterfaceTable) : t.Serves (boundView t) where
  uninit _ _ _ _ hk hs := hs.2.trans hk
  ioctl _ _ _ _ _ _ _ hk hs := hs.2.trans hk
  replies _ _ _ _ _ hs := hs.1

/-- A socket that has been bound has the index of the name. -/
theorem triple_canBind {interface : Str} (h0 : 0 ∉ interface) :
    Op.Triple (boundView t) k (CANSocket.bind interface) v fun r v' k' =>
      v' = v ∧ (r = .ok () → ∃ i, t.Indexes interface i ∧ k' v.this.mSocket = i) := by
  unfold CANSocket.bind thisSocket
  refine .bind (.bind (.get (.pure (.bind ?_))))
  apply (triple_getInterfaceIndex (boundView_serves t) h0).mono
  intro r v' k₁ h
  obtain ⟨rfl, rfl, hindex⟩ := h
  cases r with
  | error x => exact ⟨rfl, fun h => by cases h⟩
  | ok i =>
    refine .bind (.sys (fun _ _ _ _ _ ha => by cases ha) fun k₂ r k₃ hk hs _ => ?_)
    cases r with
    | error e => exact ⟨k₁, hs.2.trans hk, .throwSocket fun x => ⟨rfl, fun h => by cases h⟩⟩
    | ok u =>
      refine ⟨_, hs.2, .pure ⟨rfl, fun _ => ⟨i, (hindex i).1 rfl, ?_⟩⟩⟩
      exact Function.update_self _ _ _

/-- It reports the name of its index, if there is one. -/
theorem triple_getLocalInterface {this : SimpleSocket} (h0 : 0 ≤ k this.mSocket)
    (hmax : k this.mSocket ≤ intMax) :
    Op.Triple (boundView t) k (CANSocket.getLocalInterface this) v fun r _ _ =>
      ∀ s, r = .ok s ↔ t.name (k this.mSocket) = some s := by
  unfold CANSocket.getLocalInterface
  refine .bind (.sys (fun _ _ _ _ _ ha => by cases ha) fun k₂ r k₃ hk hs _ => ?_)
  obtain ⟨-, rfl, hk₃⟩ := hs
  refine ⟨k, hk₃.trans hk, ?_⟩
  rw [hk]
  exact (triple_getInterfaceName (boundView_serves t)).mono fun r v' a' h => h.2.2 h0 hmax

end Bind

/-! ## `receiveFrom` and `sendTo` -/

/-- The frames that are received: their length and the address that is reported. -/
def receivedFrom : Event → List (ℕ × SockaddrCan)
  | ⟨.sys _ (.recvfrom _ _ .can), .ok (got, addr)⟩ => [(got.bytes.length, addr)]
  | _ => []

/-- The addresses a frame is sent to. -/
def addressed : Event → List Sockaddr
  | ⟨.sys _ (.sendto _ _ addr), _⟩ => [addr]
  | _ => []

/-- The call has received no frame, or it has, and reports the name of its interface. -/
def NamesSource (t : InterfaceTable) (frames : List (ℕ × SockaddrCan)) (r : Except Exn ℤ)
    (source : Str) : Prop :=
  frames = [] ∨ ∃ n addr, frames = [(n, addr)] ∧
    (n ≤ intMax → ∀ s, t.name addr.canIfindex = some s → r = .ok n ∧ source = s)

/-- Only `addr` is sent to; the flag says that it was. -/
def sendView (t : InterfaceTable) (addr : Sockaddr) :
    View (.log t.Replies addressed) Bool where
  rel b (l : List Sockaddr) := (∀ x ∈ l, x = addr) ∧ (b = true → addr ∈ l)
  idle _ _ _ _ hi := hi.elim

section Frames

variable {t : InterfaceTable} {v : Frame}

theorem logView_serves {β : Type} {f : Event → List β}
    (hlib : ∀ r, f (Event.lib .uninitIfreq r) = [])
    (hioctl : ∀ fd request ifr r, f (Event.sys .once (.ioctl fd request ifr) r) = []) :
    t.Serves (View.log t.Replies f) where
  uninit := View.log_ignores hlib
  ioctl fd request ifr := View.log_ignores (hioctl fd request ifr)
  replies _ _ _ _ hk hs := (View.log_step hk hs).1

theorem triple_canReceiveFrom (len : ℕ) :
    Op.Triple (View.log t.Replies receivedFrom) [] (CANRawSocket.receiveFrom len) v
      fun r v' frames => NamesSource t frames r v'.source := by
  have hserves : t.Serves (View.log t.Replies receivedFrom) :=
    logView_serves (fun _ => rfl) fun _ _ _ _ => rfl
  unfold CANRawSocket.receiveFrom receiveDatagram thisSocket store
  refine .bind (.libIgnored (View.log_ignores fun _ => rfl) fun _ addr₀ _ _ _ => ?_)
  refine .bind (.bind (.get (.pure (.bind (.sys (fun k r k' hk hs ha => ?_)
    fun k r k' hk hs _ => ?_)))))
  · cases r with
    | ok got => cases ha
    | error e => exact (View.log_step hk hs).2
  · have hl := (View.log_step hk hs).2
    refine ⟨_, hl, .bind (.modify ?_)⟩
    cases r with
    | error e =>
      refine .ite (fun _ => .throwSocket fun x => Or.inl rfl) fun hneg => absurd ?_ hneg
      change toInt (-1) < 0
      decide
    | ok got =>
      obtain ⟨got, addr⟩ := got
      have hint : got.bytes.length ≤ intMax → toInt (ssize (Except.map
          (fun got : Received len × SockaddrCan => got.1.bytes.length)
          (.ok (got, addr) : Except Errno _))) = got.bytes.length := toInt_of_le
      refine .ite (fun hneg => .throwSocket fun x => Or.inr ⟨_, addr, rfl, fun hle => ?_⟩)
        fun hneg => .bind (.bind (.bind (.get (.pure (.bind ?_)))))
      · rw [hint hle] at hneg
        omega
      · apply (triple_getInterfaceName hserves).mono
        intro r v' frames h
        obtain ⟨-, rfl, hname⟩ := h
        have hof : ∀ s, t.name addr.canIfindex = some s → r = .ok s := by
          intro s hs
          have hindex := InterfaceTable.name_eq_some_iff.1 hs
          exact (hname (t.positive _ _ hindex).le (t.le_intMax _ _ hindex) s).2 hs
        cases r with
        | error x => exact Or.inr ⟨_, addr, rfl, fun _ s hs => by cases hof s hs⟩
        | ok interface =>
          refine .modify (.pure (Or.inr ⟨_, addr, rfl, fun hle s hs => ⟨?_, ?_⟩⟩))
          · rw [hint hle]
          · exact Except.ok.inj (hof s hs)

theorem sendView_start (t : InterfaceTable) (addr : Sockaddr) :
    (sendView t addr).rel false ([] : List Sockaddr) := by
  constructor
  · intro x hx
    cases hx
  · intro h
    cases h

theorem sendView_quiet {addr : Sockaddr} {b : Bool} {l l' : List Sockaddr} {e : Event}
    (hk : (sendView t addr).rel b l) (hs : t.Replies e ∧ l' = l ++ addressed e)
    (he : addressed e = []) : (sendView t addr).rel b l' := by
  rw [hs.2, he, List.append_nil]
  exact hk

theorem sendView_sent {addr : Sockaddr} {b : Bool} {l l' : List Sockaddr} {e : Event}
    (hk : (sendView t addr).rel b l) (hs : t.Replies e ∧ l' = l ++ addressed e)
    (he : addressed e = [addr]) : (sendView t addr).rel true l' := by
  rw [hs.2, he]
  refine ⟨fun x hx => ?_, fun _ => List.mem_append_right _ (List.mem_singleton.2 rfl)⟩
  rcases List.mem_append.1 hx with hx | hx
  · exact hk.1 x hx
  · exact List.mem_singleton.1 hx

theorem sendView_serves (t : InterfaceTable) (addr : Sockaddr) : t.Serves (sendView t addr) where
  uninit _ _ _ _ hk hs := sendView_quiet hk hs rfl
  ioctl _ _ _ _ _ _ _ hk hs := sendView_quiet hk hs rfl
  replies _ _ _ _ _ hs := hs.1

theorem triple_canSendTo {data : List UInt8} {interface : Str} {i : ℤ}
    (hi : t.index interface = some i) : Op.Triple (sendView t (.can ⟨afCan, i⟩)) false
      (CANRawSocket.sendTo data interface) v fun _ _ sent => sent = true := by
  unfold CANRawSocket.sendTo sendDatagram thisSocket
  refine .bind (.bind (.get (.pure (.bind ?_))))
  apply (triple_getInterfaceIndex (sendView_serves t _) (t.no_nul _ _ hi)).mono
  intro r v' sent h
  obtain ⟨rfl, rfl, hindex⟩ := h
  obtain rfl := (hindex i).2 (Or.inr hi)
  refine .bind (.bind (.get (.pure (.bind (.sys (fun k r k' hk hs _ => ?_)
    fun k r k' hk hs _ => ⟨true, sendView_sent hk hs rfl, ?_⟩)))))
  · exact ⟨(sendView_sent hk hs rfl).1, fun h => by cases h⟩
  · exact .ite (fun _ => .throwSocket fun _ => rfl) fun _ => .pure rfl

/-- The call that receives a frame reports the name of its interface. -/
theorem triple_receiveFrom_body (len : ℕ) :
    Op.Triple (View.log t.Replies receivedFrom) [] (Operation.canReceiveFrom len).body v
      fun r v' frames => ∀ n addr s, (n, addr) ∈ frames → n ≤ intMax →
        t.name addr.canIfindex = some s → r = .ok (.int n) ∧ v'.source = s := by
  unfold Operation.body asInt
  apply Op.Triple.bind
  apply (triple_canReceiveFrom len).mono
  intro r v' frames h
  have hof : ∀ n addr s, (n, addr) ∈ frames → n ≤ intMax → t.name addr.canIfindex = some s →
      r = .ok n ∧ v'.source = s := by
    intro n addr s hmem hn hs
    rcases h with rfl | ⟨n', addr', rfl, h⟩
    · cases hmem
    · obtain ⟨rfl, rfl⟩ := Prod.mk.inj (List.mem_singleton.1 hmem)
      exact h hn s hs
  cases r with
  | error x => exact fun n addr s hmem hn hs => by cases (hof n addr s hmem hn hs).1
  | ok n' =>
    refine .pure fun n addr s hmem hn hs => ?_
    obtain ⟨hr, hsource⟩ := hof n addr s hmem hn hs
    obtain rfl := Except.ok.inj hr
    exact ⟨rfl, hsource⟩

/-- The call that sends to the name of an index sends to that index. -/
theorem triple_sendTo_body (data : List UInt8) {interface : Str} {i : ℤ}
    (hi : t.index interface = some i) : Op.Triple (sendView t (.can ⟨afCan, i⟩)) false
      (Operation.canSendTo data interface).body v fun _ _ sent => sent = true := by
  unfold Operation.body asUnit
  apply Op.Triple.bind
  apply (triple_canSendTo hi).mono
  intro r v' sent h
  cases r with
  | error x => exact h
  | ok u => exact .pure h

end Frames

/-! ## Round trips -/

/-- What `getLocalInterface` returns after a `bind` that returned is the name that was bound. -/
def BindRoundTrips (t : InterfaceTable) (interface : Str) : Prop :=
  ∀ (c c' : Invocation) (this this₁ this₂ : SimpleSocket) tr tr' o o' (k k₁ k₂ : ℤ → ℤ),
    c.op = .canBind interface → Runs (invoke c this) tr (o, this₁) →
    (tableKernel t).Accepts k tr k₁ → o.ret = .ok .unit →
    c'.op = .getLocalInterface → Runs (invoke c' this₁) tr' (o', this₂) →
    (tableKernel t).Accepts k₁ tr' k₂ → o'.ret = .ok (.str interface)

/-- A frame that is received on an interface of the table is reported with a name, and a frame sent
to that name goes to the same interface. -/
def ReplyRoundTrips (t : InterfaceTable) : Prop :=
  ∀ (c : Invocation) (this this₁ : SimpleSocket) tr o len n addr s,
    c.op = .canReceiveFrom len → Runs (invoke c this) tr (o, this₁) → (∀ e ∈ tr, t.Replies e) →
    (n, addr) ∈ tr.flatMap receivedFrom → n ≤ intMax → t.name addr.canIfindex = some s →
    o.ret = .ok (.int n) ∧
      ∀ (c' : Invocation) (this' this₂ : SimpleSocket) tr' o' data,
        c'.op = .canSendTo data o.vars.source → Runs (invoke c' this') tr' (o', this₂) →
        (∀ e ∈ tr', t.Replies e) → tr'.flatMap addressed ≠ [] ∧
          ∀ x ∈ tr'.flatMap addressed, x = .can ⟨afCan, addr.canIfindex⟩

/-- The name that was bound is the name of the index. -/
theorem bindRoundTrips {t : InterfaceTable} {interface : Str} (h0 : 0 ∉ interface)
    (hne : interface ≠ []) : BindRoundTrips t interface := by
  intro c c' this this₁ this₂ tr tr' o o' k k₁ k₂ hop hr hk hret hop' hr' hk'
  have hbind : Op.Triple (boundView t) k c.op.body (c.vars.frame this) fun r v' k' =>
      v' = c.vars.frame this ∧
        (r = .ok .unit → ∃ i, t.Indexes interface i ∧ k' this.mSocket = i) := by
    rw [hop]
    unfold Operation.body asUnit
    apply Op.Triple.bind
    apply (triple_canBind h0).mono
    intro r v' k' h
    obtain ⟨rfl, hindex⟩ := h
    cases r with
    | error x => exact ⟨rfl, fun h => by cases h⟩
    | ok u => exact .pure ⟨rfl, fun _ => hindex rfl⟩
  obtain ⟨k', rfl, hframe, hindex⟩ := hbind.invoke rfl hr hk
  obtain rfl : this₁ = this := congrArg Frame.this hframe
  obtain ⟨i, hi, hbound⟩ := hindex hret
  have hsome : t.index interface = some i := by
    rcases hi with ⟨hnil, -⟩ | hi
    · exact absurd hnil hne
    · exact hi
  have hlocal : Op.Triple (boundView t) k₁ c'.op.body (c'.vars.frame this₁) fun r _ _ =>
      r = .ok (.str interface) := by
    rw [hop']
    unfold Operation.body asStr onThis
    apply Op.Triple.bind
    apply Op.Triple.bindGet
    have hrange : 0 ≤ k₁ this₁.mSocket ∧ k₁ this₁.mSocket ≤ intMax := by
      rw [hbound]
      exact ⟨(t.positive _ _ hsome).le, t.le_intMax _ _ hsome⟩
    apply (triple_getLocalInterface hrange.1 hrange.2).mono
    intro r v' k' h
    have hname : t.name (k₁ this₁.mSocket) = some interface := by
      rw [hbound]
      exact InterfaceTable.name_eq_some_iff.2 hsome
    rw [(h interface).2 hname]
    exact .pure rfl
  obtain ⟨-, -, hret'⟩ := hlocal.invoke rfl hr' hk'
  exact hret'

theorem replyRoundTrips (t : InterfaceTable) : ReplyRoundTrips t := by
  intro c this this₁ tr o len n addr s hop hr hall hframe hn hs
  have hlog : (Kernel.log t.Replies receivedFrom).Accepts [] tr (tr.flatMap receivedFrom) :=
    Kernel.log_accepts.2 ⟨hall, rfl⟩
  have hreceive := triple_receiveFrom_body (t := t) (v := c.vars.frame this) len
  rw [← hop] at hreceive
  obtain ⟨frames, rfl, hpost⟩ := hreceive.invoke rfl hr hlog
  obtain ⟨hret, hsource⟩ := hpost n addr s hframe hn hs
  refine ⟨hret, fun c' this' this₂ tr' o' data hop' hr' hall' => ?_⟩
  have hlog' : (Kernel.log t.Replies addressed).Accepts [] tr' (tr'.flatMap addressed) :=
    Kernel.log_accepts.2 ⟨hall', rfl⟩
  have hvars : o.vars.source = s := hsource
  have hsend := triple_sendTo_body (v := c'.vars.frame this') data
    (InterfaceTable.name_eq_some_iff.1 hs)
  rw [← hvars, ← hop'] at hsend
  obtain ⟨sent, ⟨honly, hmem⟩, rfl⟩ := hsend.invoke (sendView_start t _) hr' hlog'
  exact ⟨List.ne_nil_of_mem (hmem rfl), honly⟩

/-- A socket bound to all interfaces has the index 0, which is not in the table. -/
theorem not_bindRoundTrips_nil (t : InterfaceTable) : ¬BindRoundTrips t [] := by
  intro h
  let this : SimpleSocket := ⟨3, false⟩
  let vars : Vars := ⟨[], [], 0, 0, 0⟩
  let k : ℤ → ℤ := fun _ => 0
  let ifr : Ifreq := ⟨List.replicate 16 0, List.replicate 24 0⟩
  have hmem : ifr.ifrName.length = ifNameSize ∧ ifr.ifrIfru.length = 24 := ⟨rfl, rfl⟩
  have hbind : Runs (invoke ⟨.canBind [], vars, 0⟩ this)
      [Event.sys .once (.bind 3 (.can ⟨afCan, 0⟩)) (.ok ())] (⟨.ok .unit, vars⟩, this) :=
    .cons (.answer rfl) (.nil _)
  have hk : (tableKernel t).Accepts k [Event.sys .once (.bind 3 (.can ⟨afCan, 0⟩)) (.ok ())] k :=
    .single ⟨trivial, (Function.update_eq_self 3 k).symm⟩
  have hname : t.name 0 = none := by
    rw [Option.eq_none_iff_forall_ne_some]
    intro s hs
    exact absurd (t.positive _ _ (InterfaceTable.name_eq_some_iff.1 hs)) (by decide)
  let request := Event.sys .once (.ioctl 3 siocgifname (ifr.setIfindex 0)) (.error 19)
  let tr := [Event.sys .once (.getsockname 3 .can) (.ok ⟨afCan, 0⟩),
    Event.lib .uninitIfreq ⟨ifr, hmem⟩, request]
  have hlocal : Runs (invoke ⟨.getLocalInterface, vars, 0⟩ this) tr
      (⟨.error (.socket ⟨"ioctl failed (getInterfaceName)", true, 19⟩), vars⟩, this) :=
    .cons (.answer rfl) (.cons (.answer rfl) (.cons (.answer rfl) (.nil _)))
  have hreply : t.Replies request := by
    refine ⟨fun h => absurd h (by decide), fun _ => ?_⟩
    rw [ifrIfindex_setIfindex _ le_rfl (by decide), hname]
    rfl
  have hk' : (tableKernel t).Accepts k tr k := by
    have hall : ∀ e ∈ tr, (tableKernel t).step k e k := by
      intro e he
      rcases List.mem_cons.1 he with rfl | he
      · exact ⟨trivial, rfl, rfl⟩
      rcases List.mem_cons.1 he with rfl | he
      · exact ⟨trivial, rfl⟩
      obtain rfl := List.mem_singleton.1 he
      exact ⟨hreply, rfl⟩
    exact .of_forall hall
  cases h _ _ _ _ _ _ _ _ _ _ _ _ rfl hbind hk rfl rfl hlocal hk'

/-- The empty name is the only one that does not come back. -/
theorem can_names_round_trip_iff (t : InterfaceTable) {interface : Str} (h0 : 0 ∉ interface) :
    BindRoundTrips t interface ∧ ReplyRoundTrips t ↔ interface ≠ [] := by
  constructor
  · intro h hnil
    rw [hnil] at h
    exact not_bindRoundTrips_nil t h.1
  · intro hne
    exact ⟨bindRoundTrips h0 hne, replyRoundTrips t⟩

/-- One interface, `vcan0`, with the index 3. -/
def vcanTable : InterfaceTable where
  index := PEquiv.single [118, 99, 97, 110, 48] 3
  no_nul s i h := by
    obtain ⟨rfl, -⟩ := (PEquiv.mem_single_iff _ _ _ _).1 h
    decide
  nonempty s i h := by
    obtain ⟨rfl, -⟩ := (PEquiv.mem_single_iff _ _ _ _).1 h
    decide
  short s i h := by
    obtain ⟨rfl, -⟩ := (PEquiv.mem_single_iff _ _ _ _).1 h
    decide
  positive s i h := by
    obtain ⟨-, rfl⟩ := (PEquiv.mem_single_iff _ _ _ _).1 h
    decide
  le_intMax s i h := by
    obtain ⟨-, rfl⟩ := (PEquiv.mem_single_iff _ _ _ _).1 h
    decide

theorem can_names_round_trip_vcan :
    BindRoundTrips vcanTable [118, 99, 97, 110, 48] ∧ ReplyRoundTrips vcanTable :=
  (can_names_round_trip_iff vcanTable (by decide)).2 (by decide)

/-- The default argument of `bind` is the empty name. -/
theorem bind_all_interfaces_not_read_back : ¬∀ (t : InterfaceTable) (interface : Str),
    0 ∉ interface → BindRoundTrips t interface ∧ ReplyRoundTrips t := by
  intro h
  exact not_bindRoundTrips_nil vcanTable (h vcanTable [] (by decide)).1

end NET
