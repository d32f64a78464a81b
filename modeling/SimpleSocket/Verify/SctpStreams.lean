import Mathlib.Data.List.Forall2
import SimpleSocket.Net.Library
import SimpleSocket.Verify.OwnCalls

/-!
# The stream a message is reported with

The kernel moves messages between the ends of SCTP associations and keeps the stream of each. It
fills the `sctp_sndrcvinfo` of a receiving call when the socket has subscribed to the data-io event,
and leaves it alone otherwise. No call of the library subscribes, so what `receive` reports is what
the local variable held before (`receive_reports`).

* `Moves`: what an operation may send and receive.
* `SctpEffect`: what the kernel can do at an event; along a run the messages are those that have
  been sent, and no `sctp_sndrcvinfo` is filled.
-/

namespace NET

open Op Interact SimpleSocket

/-! ## Associations -/

/-- A message, or the part of it that has not been received. -/
structure SctpMessage where
  data : List UInt8
  stream : BitVec 16
  unordered : Bool
  deriving DecidableEq

namespace SctpMessage

/-- What is left after a reception into a buffer of `len` bytes. -/
def rest (m : SctpMessage) (len : ℕ) : List SctpMessage :=
  if m.data.length ≤ len then [] else [{ m with data := m.data.drop len }]

/-- What the kernel writes for a subscriber. -/
def info (m : SctpMessage) : SctpSndrcvinfo := ⟨m.stream, if m.unordered then 1 else 0⟩

end SctpMessage

/-- `SCTP_EVENTS`: the first byte of its value is `sctp_data_io_event`. -/
def sctpEvents : ℤ := 11

/-- The kernel's state. `log` keeps what every reception has been given: a message, or nothing when
the association has ended. -/
structure Associations where
  subscribed : ℤ → Bool
  peer : ℤ → ℤ
  flight : ℤ → List SctpMessage
  log : List (Option SctpMessage)

namespace Associations

def start : Associations := ⟨fun _ => false, fun fd => fd, fun _ => [], []⟩

/-- A new descriptor. -/
def opened (k : Associations) (fd : ℤ) (subscribed : Bool) : Associations :=
  { k with
    subscribed := Function.update k.subscribed fd subscribed
    flight := Function.update k.flight fd [] }

def subscribe (k : Associations) (fd : ℤ) (optval : List UInt8) : Associations :=
  { k with subscribed := Function.update k.subscribed fd (optval.headD 0 != 0) }

/-- A message on its way to the other end. -/
def post (k : Associations) (fd : ℤ) (m : SctpMessage) : Associations :=
  { k with flight := Function.update k.flight (k.peer fd) (k.flight (k.peer fd) ++ [m]) }

/-- The message `m` is received into `len` bytes; `before` and `after` stay. -/
def receive (k : Associations) (fd : ℤ) (m : SctpMessage) (len : ℕ)
    (before after : List SctpMessage) : Associations :=
  { k with
    flight := Function.update k.flight fd (before ++ m.rest len ++ after)
    log := k.log ++ [some m] }

/-- No socket has asked for the data-io event. -/
def Unsubscribed (k : Associations) : Prop := ∀ fd, k.subscribed fd = false

end Associations

/-- What the kernel does at an event. A message overtakes those of other streams, and one that is
unordered overtakes all. -/
def sctpStep (k : Associations) : Event → Associations → Prop
  | ⟨.sys _ (.socket ..), .ok (fd : ℕ)⟩, k' => k' = k.opened fd false
  | ⟨.sys _ (.accept listener), .ok (fd : ℕ)⟩, k' => k' = k.opened fd (k.subscribed listener)
  | ⟨.sys _ (.close fd), .ok _⟩, k' => k' = k.opened fd false
  | ⟨.sys _ (.setsockopt fd level optname optval), .ok _⟩, k' =>
    k' = if level = ipprotoSctp ∧ optname = sctpEvents then k.subscribe fd optval else k
  | ⟨.sys _ (.sctpSendmsg fd data _ flags stream _ _), .ok n⟩, k' =>
    k' = k.post fd ⟨data.take n.count, stream, flags % 2 == 1⟩
  | ⟨.sys _ (.sctpRecvmsg fd len), .ok (got, filled)⟩, k' =>
    (got.bytes = [] ∧ filled = none ∧ k' = { k with log := k.log ++ [none] }) ∨
    ∃ before m after, k.flight fd = before ++ m :: after ∧
      (m.unordered = true ∨ ∀ x ∈ before, x.stream ≠ m.stream) ∧
      got.bytes = m.data.take len ∧ got.bytes.length ≤ intMax ∧
      filled = (if k.subscribed fd then some m.info else none) ∧
      k' = k.receive fd m len before after
  | _, k' => k' = k

/-- On its own the kernel makes and ends associations, and messages are lost with them. -/
def sctpIdle (k k' : Associations) : Prop :=
  k'.subscribed = k.subscribed ∧ k'.log = k.log ∧ ∀ fd, (k'.flight fd).Sublist (k.flight fd)

def sctpKernel : Kernel posix where
  State := Associations
  step := sctpStep
  idle := sctpIdle

/-! ## What an operation sends and receives -/

/-- The call does not subscribe, sends only what is `sent`, and receives only if it may. -/
def Moves (sent : List UInt8 → BitVec 16 → Bool → Prop) (receives : Prop) : Call → Prop
  | .sys _ (.setsockopt _ level optname _) => ¬(level = ipprotoSctp ∧ optname = sctpEvents)
  | .sys _ (.sctpSendmsg _ data _ flags stream _ _) => sent data stream (flags % 2 == 1)
  | .sys _ (.sctpRecvmsg ..) => receives
  | _ => True

/-- Every call of the method is one of these. -/
abbrev Op.Quiet {τ α : Type} (sent : List UInt8 → BitVec 16 → Bool → Prop) (receives : Prop)
    (m : Op τ α) : Prop := m.Makes fun e => Moves sent receives e.call

section Methods

variable {τ α β : Type} {sent : List UInt8 → BitVec 16 → Bool → Prop} {receives : Prop}

theorem new_quiet (domain type protocol : ℤ) :
    (SimpleSocket.new domain type protocol : Op τ SimpleSocket).Quiet sent receives :=
  .bindSys (fun _ => trivial) (fun _ => .throwSocket _ _) fun _ => .pure _

theorem destroy_quiet (this : SimpleSocket) : (this.destroy : Op τ Unit).Quiet sent receives :=
  .bind (.sys _ fun _ => trivial) fun _ => .pure _

/-- `SCTP_INITMSG` is another option than the events. -/
theorem setInitValues_quiet (socket : ℤ) (a b c d : BitVec 16) :
    (SCTPSocket.setInitValues socket a b c d : Op τ Unit).Quiet sent receives :=
  .checked (fun _ h => absurd h.2 (by decide)) (.pure _)

theorem sctpNew_quiet (a b c d : BitVec 16) :
    (SCTPSocket.new a b c d : Op τ SimpleSocket).Quiet sent receives :=
  .bind (new_quiet _ _ _) fun this =>
    .bind (.onThrow (setInitValues_quiet _ _ _ _ _) (destroy_quiet this)) fun _ => .pure _

theorem udpNew_quiet : (UDPSocket.new : Op τ SimpleSocket).Quiet sent receives :=
  .bind (new_quiet _ _ _) fun _ =>
    .bind (.bind (.sys _ fun _ h => absurd h.1 (by decide)) fun _ => .pure _) fun _ => .pure _

theorem class_new_quiet (c : SocketClass) : (c.new : Op τ SimpleSocket).Quiet sent receives := by
  cases c with
  | tcp => exact new_quiet _ _ _
  | udp => exact udpNew_quiet
  | sctp a b c d => exact sctpNew_quiet a b c d
  | unixDatagram => exact new_quiet _ _ _
  | canRaw => exact new_quiet _ _ _

theorem acceptWith_quiet (this : SimpleSocket) (failure : String) :
    (this.acceptWith failure : Op τ SocketHandle).Quiet sent receives :=
  .acceptWith fun _ => trivial

theorem timedAcceptWith_quiet (this : SimpleSocket) (timeout : ℤ) (f g : String) :
    (this.timedAcceptWith timeout f g : Op τ SocketHandle).Quiet sent receives :=
  .timedAcceptWith (fun _ => trivial) fun _ => trivial

theorem class_accept_quiet (c : StreamClass) (this : SimpleSocket) :
    (c.accept this : Op τ SocketHandle).Quiet sent receives := by
  cases c <;> exact acceptWith_quiet this _

theorem class_timedAccept_quiet (c : StreamClass) (this : SimpleSocket) (timeout : ℤ) :
    (c.timedAccept this timeout : Op τ SocketHandle).Quiet sent receives := by
  cases c <;> exact timedAcceptWith_quiet this timeout _ _

theorem reset_quiet (this : SocketHandle) (fd : ℤ) :
    (this.reset fd : Op τ SocketHandle).Quiet sent receives :=
  .ite (.bind (.sys _ fun _ => trivial) fun _ => .pure _) (.pure _)

theorem handle_destroy_quiet (this : SocketHandle) :
    (this.destroy : Op τ Unit).Quiet sent receives :=
  .bind (reset_quiet _ _) fun _ => .pure _

theorem ofHandle_quiet (h : SocketHandle) :
    (SimpleSocket.ofHandle h : Op τ SimpleSocket).Quiet sent receives :=
  .finally' (.ite (.throwSocket _ _) (.pure _)) (handle_destroy_quiet _)

theorem class_ofHandle_quiet (c : StreamClass) (h : SocketHandle) :
    (c.ofHandle h : Op τ SimpleSocket).Quiet sent receives := by
  cases c <;> exact ofHandle_quiet h

/-! ### Statements -/

theorem create_quiet {i : ℕ} {m : Op World Holder} (h : m.Quiet sent receives) :
    (World.create i m).Quiet sent receives :=
  .bind .get fun _ => .ite (.bind h fun _ => .modify _) (.pure _)

theorem withHandle_quiet {i : ℕ} {m : SocketHandle → Op World Unit}
    (h : ∀ x, (m x).Quiet sent receives) : (World.withHandle i m).Quiet sent receives :=
  World.withHandle_of (fun _ => .bind .get) (.pure _) h

theorem withRef_quiet {i : ℕ} {m : SocketHandleRef → Op World Unit}
    (h : ∀ x, (m x).Quiet sent receives) : (World.withRef i m).Quiet sent receives :=
  World.withRef_of (fun _ => .bind .get) (.pure _) h

theorem withSocket_quiet {i : ℕ} {m : SimpleSocket → Op World Unit}
    (h : ∀ x, (m x).Quiet sent receives) : (World.withSocket i m).Quiet sent receives :=
  World.withSocket_of (fun _ => .bind .get) (.pure _) h

theorem copyOf_quiet (i : ℕ) (h : SocketHandle) : (copyOf i h).Quiet sent receives :=
  .bind (.modify _) fun _ => .pure _

theorem consume_quiet (i : ℕ) (r : SocketHandleRef) : (consume i r).Quiet sent receives :=
  .bind (.modify _) fun _ => .pure _

/-- A statement only makes, moves and closes descriptors. -/
theorem statement_quiet (st : Statement) : st.run.Quiet sent receives := by
  cases st with
  | construct i c => exact create_quiet (.bind (class_new_quiet c) fun _ => .pure _)
  | accept i c socket =>
    refine withSocket_quiet fun this => create_quiet ?_
    exact .bind (class_accept_quiet c this) fun _ => .pure _
  | timedAccept i c socket timeout =>
    refine withSocket_quiet fun this => create_quiet ?_
    exact .bind (class_timedAccept_quiet c this timeout) fun _ => .pure _
  | invalidHandle i => exact create_quiet (.pure _)
  | copy i other =>
    exact withHandle_quiet fun h => create_quiet (.bind (copyOf_quiet _ h) fun _ => .pure _)
  | toRef i this =>
    refine withHandle_quiet fun h => create_quiet (.bind ?_ fun _ => .pure _)
    exact .bind (.modify _) fun _ => .pure _
  | ofRef i ref =>
    exact withRef_quiet fun r => create_quiet (.bind (consume_quiet _ r) fun _ => .pure _)
  | assign i other =>
    refine withHandle_quiet fun this => .ite ?_ (withHandle_quiet fun h => ?_)
    · exact .bind (reset_quiet _ _) fun _ => .modify _
    · refine .bind (.bind (reset_quiet _ _) fun _ => .pure _) fun x => ?_
      exact .bind (.modify _) fun _ => .modify _
  | assignRef i ref =>
    refine withHandle_quiet fun this => withRef_quiet fun r => .bind (.modify _) fun _ => ?_
    exact .bind (reset_quiet _ _) fun _ => .modify _
  | ofHandle i c handle =>
    refine withHandle_quiet fun h => create_quiet (.bind (copyOf_quiet _ h) fun x => ?_)
    exact .bind (class_ofHandle_quiet c x) fun _ => .pure _
  | ofHandleRef i c ref =>
    refine withRef_quiet fun r => create_quiet (.bind (consume_quiet _ r) fun x => ?_)
    exact .bind (class_ofHandle_quiet c x) fun _ => .pure _
  | destroy i =>
    refine .bind .get fun w => ?_
    split
    · exact .bind (handle_destroy_quiet _) fun _ => .modify _
    · exact .bind (destroy_quiet _) fun _ => .modify _
    · exact .pure _

/-- A message goes to the kernel with the stream it is sent on. -/
theorem sendMessage_quiet {data : List UInt8} {stream : BitVec 16} {flags : ℕ} {u : Bool}
    (hu : (flags % 2 == 1) = u) (h : sent data stream u) (ttl context ppid : ℕ) :
    (SCTPSocket.sendMessage data stream ttl context ppid flags).Quiet sent receives := by
  unfold SCTPSocket.sendMessage
  refine .bind .thisSocket fun fd => .bind (.sys _ fun _ => ?_) fun r => ?_
  · change sent data stream (flags % 2 == 1)
    rwa [hu]
  · exact .ite (.throwSocket _ _) (.ite (.throwSocket _ _) (.pure _))

end Methods

/-- The message an operation sends. -/
def Operation.Sends : Operation → List UInt8 → BitVec 16 → Bool → Prop
  | .sctpSend data stream .., d, st, u => d = data ∧ st = stream ∧ u = false
  | .sctpSendUnordered data stream .., d, st, u => d = data ∧ st = stream ∧ u = true
  | _, _, _, _ => False

/-- The `receive` and `timedReceive` operations of `SCTPSocket`. -/
def Operation.ReceivesSctp : Operation → Prop
  | .sctpReceive _ => True
  | .sctpReceiveFlag _ => True
  | .sctpTimedReceive .. => True
  | .sctpTimedReceiveFlag .. => True
  | _ => False

/-- The operations of `SCTPSocket`, without the `send` and `receive` of its base class, which know
no streams. -/
def Operation.OfSctp : Operation → Prop
  | .disconnect | .shutdown _ => True
  | .inetConnect .. | .inetBindAny _ | .inetBind .. => True
  | .getLocalAddress | .getLocalPort | .getForeignAddress | .getForeignPort => True
  | .sctpBind .. | .sctpConnect .. => True
  | .sctpState | .sctpNotAckedData | .sctpPendingData => True
  | .sctpInStreams | .sctpOutStreams | .sctpFragmentationPoint => True
  | .sctpSend .. | .sctpSendUnordered .. => True
  | .sctpReceive _ | .sctpReceiveFlag _ | .sctpTimedReceive .. | .sctpTimedReceiveFlag .. => True
  | .sctpListen _ | .sctpAccept | .sctpTimedAccept _ => True
  | _ => False

theorem flags_even (a : SCTPSocket.AbortFlag) (s : SCTPSocket.SwitchAddressFlag) :
    ((a.val + s.val) % 2 == 1) = false ∧
      ((a.val + s.val + SCTPSocket.sctpUnordered) % 2 == 1) = true := by
  cases a <;> cases s <;> decide

/-- The calls of an operation of `SCTPSocket` that sends no message. -/
theorem Operation.OfSctp.moves {op : Operation} (hop : op.OfSctp)
    (hsend : SysKind.sctpSendmsg ∉ op.kinds) {fd : ℤ} {c : Call} (hc : CallIn op.kinds fd c) :
    Moves op.Sends op.ReceivesSctp c := by
  have hoption (level optname : ℤ) : SysKind.setsockopt level optname ∉ op.kinds := by
    intro h
    cases op <;> simp [Operation.kinds, Operation.OfSctp] at h hop
  have hreceive : SysKind.sctpRecvmsg ∈ op.kinds → op.ReceivesSctp := by
    cases op <;> simp [Operation.kinds, Operation.ReceivesSctp]
  cases c with
  | lib c => trivial
  | sys w c =>
    cases c with
    | setsockopt fd' level optname optval => exact absurd hc.1 (hoption level optname)
    | sctpSendmsg => exact absurd hc.1 hsend
    | sctpRecvmsg => exact hreceive hc.1
    | _ => trivial

/-- What an operation sends and receives is what it is asked to. -/
theorem body_quiet {op : Operation} (hop : op.OfSctp) :
    op.body.Quiet op.Sends op.ReceivesSctp := by
  by_cases hsend : SysKind.sctpSendmsg ∈ op.kinds
  · cases op with
    | sctpSend data stream ttl context ppid a s =>
      exact .asInt (sendMessage_quiet (flags_even a s).1 ⟨rfl, rfl, rfl⟩ _ _ _)
    | sctpSendUnordered data stream ttl context ppid a s =>
      exact .asInt (sendMessage_quiet (flags_even a s).2 ⟨rfl, rfl, rfl⟩ _ _ _)
    | _ => simp [Operation.kinds] at hsend
  · intro s
    refine wp_mono (op.body_calls _ s rfl) fun as r s' h a ha => ?_
    exact hop.moves hsend (h.1 a ha)

/-! ## The kernel along a run -/

/-- A receiving call that has returned. -/
def reception : Event → Bool
  | ⟨.sys _ (.sctpRecvmsg ..), .ok _⟩ => true
  | _ => false

/-- The reception has been given the message, or the end of the association, and nothing has been
written to its `sctp_sndrcvinfo`. -/
def Handed : Event → Option SctpMessage → Prop
  | ⟨.sys _ (.sctpRecvmsg _ len), .ok (got, filled)⟩, m =>
    filled = none ∧ got.bytes.length ≤ intMax ∧ got.bytes = (m.map fun m => m.data.take len).getD []
  | _, _ => False

section Steps

variable {k k' : Associations} {e : Event}

/-- What the kernel can do at an event. -/
inductive SctpEffect (k : Associations) : Event → Associations → Prop
  | inert {e : Event} (he : reception e = false) : SctpEffect k e k
  | opened {e : Event} {fd : ℤ} {b : Bool} (he : reception e = false)
      (hb : b = false ∨ ∃ fd', b = k.subscribed fd') : SctpEffect k e (k.opened fd b)
  | option {w : Retry} {fd level optname : ℤ} {optval : List UInt8} (r : Unit) :
      SctpEffect k (Event.sys w (.setsockopt fd level optname optval) (.ok r))
        (if level = ipprotoSctp ∧ optname = sctpEvents then k.subscribe fd optval else k)
  | sent {w : Retry} {fd : ℤ} {data : List UInt8} {ppid flags ttl context : ℕ} {stream : BitVec 16}
      (n : Count data.length) :
      SctpEffect k (Event.sys w (.sctpSendmsg fd data ppid flags stream ttl context) (.ok n))
        (k.post fd ⟨data.take n.count, stream, flags % 2 == 1⟩)
  | ended {w : Retry} {fd : ℤ} {len : ℕ} {got : Received len} (hgot : got.bytes = []) :
      SctpEffect k (Event.sys w (.sctpRecvmsg fd len) (.ok (got, none)))
        { k with log := k.log ++ [none] }
  | received {w : Retry} {fd : ℤ} {len : ℕ} {got : Received len} {before after : List SctpMessage}
      {m : SctpMessage} (hf : k.flight fd = before ++ m :: after)
      (hgot : got.bytes = m.data.take len) (hle : got.bytes.length ≤ intMax) :
      SctpEffect k (Event.sys w (.sctpRecvmsg fd len)
          (.ok (got, if k.subscribed fd then some m.info else none)))
        (k.receive fd m len before after)

theorem sctpStep_effect (h : sctpStep k e k') : SctpEffect k e k' := by
  obtain ⟨call, r⟩ := e
  cases call with
  | lib c =>
    cases h
    exact .inert rfl
  | sys w c =>
    cases r with
    | error err => cases c <;> cases h <;> exact .inert rfl
    | ok v =>
      cases c with
      | socket =>
        cases h
        exact .opened rfl (Or.inl rfl)
      | accept listener =>
        cases h
        exact .opened rfl (Or.inr ⟨listener, rfl⟩)
      | close fd =>
        cases h
        exact .opened rfl (Or.inl rfl)
      | setsockopt =>
        cases h
        exact .option v
      | sctpSendmsg =>
        cases h
        exact .sent v
      | sctpRecvmsg fd len =>
        obtain ⟨got, filled⟩ := v
        rcases h with ⟨hgot, rfl, rfl⟩ | ⟨before, m, after, hf, -, hgot, hle, rfl, rfl⟩
        · exact .ended hgot
        · exact .received hf hgot hle
      | _ =>
        cases h
        exact .inert rfl

variable {sent : List UInt8 → BitVec 16 → Bool → Prop} {receives : Prop}

/-- Nobody subscribes. -/
theorem unsubscribed_step (hu : k.Unsubscribed) (hc : Moves sent receives e.call)
    (h : sctpStep k e k') : k'.Unsubscribed := by
  intro fd
  cases sctpStep_effect h with
  | inert => exact hu fd
  | @opened _ fd' b _ hb =>
    have hb : b = false := by
      rcases hb with hb | ⟨fd'', hb⟩
      · exact hb
      · rw [hb, hu fd'']
    rw [hb]
    by_cases hfd : fd = fd'
    · rw [hfd]
      exact Function.update_self ..
    · exact (Function.update_of_ne hfd ..).trans (hu fd)
  | option =>
    rw [if_neg hc]
    exact hu fd
  | sent => exact hu fd
  | ended => exact hu fd
  | received => exact hu fd

/-- The log grows by what the reception has been given. -/
theorem log_step (hu : k.Unsubscribed) (hc : Moves sent receives e.call) (h : sctpStep k e k') :
    ∃ l, k'.log = k.log ++ l ∧ List.Forall₂ Handed ([e].filter reception) l := by
  have hno : ∀ {e : Event}, reception e = false →
      List.Forall₂ Handed ([e].filter reception) [] := by
    intro e he
    rw [List.filter_cons_of_neg (by simp [he])]
    exact .nil
  cases sctpStep_effect h with
  | inert he => exact ⟨[], (List.append_nil _).symm, hno he⟩
  | opened he => exact ⟨[], (List.append_nil _).symm, hno he⟩
  | option =>
    rw [if_neg hc]
    exact ⟨[], (List.append_nil _).symm, .nil⟩
  | sent => exact ⟨[], (List.append_nil _).symm, .nil⟩
  | ended hgot => exact ⟨[none], rfl, .cons ⟨rfl, by simp [hgot], hgot⟩ .nil⟩
  | @received w fd len got before after m hf hgot hle =>
    refine ⟨[some m], rfl, .cons ⟨?_, hle, hgot⟩ .nil⟩
    rw [hu fd]
    rfl

/-- The message is, as far as it has not been received, one that has been sent. -/
def SctpMessage.From (sent : List UInt8 → BitVec 16 → Bool → Prop) (m : SctpMessage) : Prop :=
  ∃ data, sent data m.stream m.unordered ∧ m.data <:+: data

/-- All messages have been sent. -/
structure Carries (sent : List UInt8 → BitVec 16 → Bool → Prop) (k : Associations) : Prop where
  flight : ∀ fd, ∀ m ∈ k.flight fd, m.From sent
  log : ∀ m, some m ∈ k.log → m.From sent

theorem SctpMessage.From.rest {m : SctpMessage} (h : m.From sent) {len : ℕ} :
    ∀ x ∈ m.rest len, x.From sent := by
  obtain ⟨data, hs, hd⟩ := h
  intro x hx
  unfold SctpMessage.rest at hx
  split at hx
  · cases hx
  · obtain rfl := List.mem_singleton.1 hx
    exact ⟨data, hs, ((List.drop_suffix _ _).isInfix).trans hd⟩

/-- One queue is replaced. -/
theorem Carries.update {P : SctpMessage → Prop} {flight : ℤ → List SctpMessage} {i : ℤ}
    {queue : List SctpMessage} (h : ∀ fd, ∀ m ∈ flight fd, P m) (hq : ∀ m ∈ queue, P m) :
    ∀ fd, ∀ m ∈ Function.update flight i queue fd, P m := by
  intro fd m hm
  by_cases hfd : fd = i
  · subst hfd
    rw [Function.update_self] at hm
    exact hq m hm
  · rw [Function.update_of_ne hfd] at hm
    exact h fd m hm

theorem carries_step (hcar : Carries sent k) (hc : Moves sent receives e.call)
    (h : sctpStep k e k') : Carries sent k' := by
  cases sctpStep_effect h with
  | inert => exact hcar
  | opened => exact ⟨Carries.update hcar.flight (List.forall_mem_nil _), hcar.log⟩
  | option =>
    rw [if_neg hc]
    exact hcar
  | sent =>
    refine ⟨Carries.update hcar.flight (List.forall_mem_append.2 ⟨hcar.flight _, ?_⟩), hcar.log⟩
    exact List.forall_mem_singleton.2 ⟨_, hc, (List.take_prefix _ _).isInfix⟩
  | ended =>
    refine ⟨hcar.flight, fun m hm => hcar.log m ?_⟩
    simpa using hm
  | @received w fd len got before after m hf =>
    have hall := hcar.flight fd
    rw [hf] at hall
    obtain ⟨hbefore, hall⟩ := List.forall_mem_append.1 hall
    obtain ⟨hm, hafter⟩ := List.forall_mem_cons.1 hall
    refine ⟨Carries.update hcar.flight ?_, fun x hx => ?_⟩
    · exact List.forall_mem_append.2 ⟨List.forall_mem_append.2 ⟨hbefore, hm.rest⟩, hafter⟩
    · rcases List.mem_append.1 hx with hx | hx
      · exact hcar.log x hx
      · obtain rfl := Option.some.inj (List.mem_singleton.1 hx)
        exact hm

theorem carries_idle (hcar : Carries sent k) (h : sctpIdle k k') : Carries sent k' := by
  obtain ⟨-, hlog, hflight⟩ := h
  refine ⟨fun fd m hm => hcar.flight fd m ((hflight fd).subset hm), fun m hm => hcar.log m ?_⟩
  rwa [← hlog]

/-- A run of quiet calls: nobody has subscribed, and the log has grown by its receptions. -/
theorem accepts_log {tr : List Event} (h : sctpKernel.Accepts k tr k')
    (hc : ∀ e ∈ tr, Moves sent receives e.call) (hu : k.Unsubscribed) :
    k'.Unsubscribed ∧ ∃ l, k'.log = k.log ++ l ∧ List.Forall₂ Handed (tr.filter reception) l := by
  refine h.relate (P := fun (k : Associations) tr (k' : Associations) =>
    (∀ e ∈ tr, Moves sent receives e.call) → k.Unsubscribed → k'.Unsubscribed ∧
      ∃ l, k'.log = k.log ++ l ∧ List.Forall₂ Handed (tr.filter reception) l) ?_ ?_ ?_ hc hu
  · exact fun k _ hu => ⟨hu, [], (List.append_nil _).symm, .nil⟩
  · intro k e k₁ tr k' hs ih hc hu
    obtain ⟨he, htr⟩ := List.forall_mem_cons.1 hc
    obtain ⟨l, hl, htook⟩ := log_step hu he hs
    obtain ⟨hu', l', hl', htook'⟩ := ih htr (unsubscribed_step hu he hs)
    refine ⟨hu', l ++ l', by rw [hl', hl, List.append_assoc], ?_⟩
    have hcons : (e :: tr).filter reception = [e].filter reception ++ tr.filter reception := by
      rw [← List.filter_append, List.singleton_append]
    rw [hcons]
    exact List.rel_append htook htook'
  · rintro k k₁ tr k' ⟨hsub, hlog, -⟩ ih hc hu
    obtain ⟨hu', l, hl, htook⟩ := ih hc fun fd => by rw [hsub, hu fd]
    exact ⟨hu', l, by rw [hl, hlog], htook⟩

theorem accepts_carries {tr : List Event} (h : sctpKernel.Accepts k tr k')
    (hc : ∀ e ∈ tr, Moves sent receives e.call) (hcar : Carries sent k) : Carries sent k' :=
  h.invariant hcar (fun _ e _ he hcar hs => carries_step hcar (hc e he) hs)
    fun _ _ hcar hi => carries_idle hcar hi

end Steps

/-! ## What is reported -/

/-- The stream a local `info` holds before anything is written to it. -/
def leftovers (evs : List Event) : List (BitVec 16) :=
  evs.flatMap fun
    | ⟨.lib .uninitInfo, (info : SctpSndrcvinfo)⟩ => [info.sinfoStream]
    | _ => []

/-- The previous content of the first local `info`. -/
def leftover (evs : List Event) : Option (BitVec 16) := (leftovers evs).head?

/-- An operation receives at most once, and where nothing is filled in it returns and reports what
the local variable held. -/
def ReportsLeftover {α : Type} (evs : List Event) (r : Except Exn α) (stream : BitVec 16) : Prop :=
  evs.filter reception = [] ∨ ∃ x, evs.filter reception = [x] ∧
    ∀ got, Handed x got → (∃ v, r = .ok v) ∧ leftover evs = some stream

theorem ReportsLeftover.map {α β : Type} {evs : List Event} {r : Except Exn α} {stream : BitVec 16}
    (h : ReportsLeftover evs r stream) (f : α → β) : ReportsLeftover evs (r.map f) stream := by
  apply h.imp_right
  intro h
  obtain ⟨x, hx, hall⟩ := h
  refine ⟨x, hx, fun got hgot => ?_⟩
  obtain ⟨⟨v, rfl⟩, hl⟩ := hall got hgot
  exact ⟨⟨f v, rfl⟩, hl⟩

/-- Without a reception there is nothing to report. -/
theorem ReportsLeftover.of_no {α : Type} {evs : List Event} {r : Except Exn α} {stream : BitVec 16}
    (h : ∀ e ∈ evs, reception e = false) : ReportsLeftover evs r stream :=
  Or.inl (List.filter_eq_nil_iff.2 fun e he => by simp [h e he])

section Reports

variable {s : Proc Frame}

-- a comparison with a count is never evaluated
attribute [local irreducible] toInt

theorem receive_reports (len : ℕ) {report : SctpSndrcvinfo → Frame → Frame}
    (hreport : ∀ info f, (report info f).stream = info.sinfoStream) :
    (SCTPSocket.receiveMessage len report).wp
      (fun as r s' => ReportsLeftover (as.map Prod.snd) r s'.vars.stream) s := by
  simp only [SCTPSocket.receiveMessage, wp_bind]
  apply wp_lib.2
  intro b info
  simp only [wp_thisSocket]
  apply wp_sys.2
  intro b' r _
  simp only [wp_store, wp_ite, wp_throwSocket, wp_bind, wp_modify, wp_pure, List.nil_append,
    List.append_nil, List.singleton_append, List.map_cons, List.map_nil]
  cases r with
  | error e =>
    split <;> refine .of_no ?_ <;> simp [reception]
  | ok got =>
    obtain ⟨got, filled⟩ := got
    have hret : ssize (Except.map (fun got : Received len × Option SctpSndrcvinfo =>
        got.1.bytes.length) (.ok (got, filled) : Except Errno _)) = got.bytes.length := rfl
    rw [hret]
    by_cases hneg : toInt got.bytes.length < 0
    · rw [if_pos hneg]
      -- a count that fits an `int` is not negative
      refine Or.inr ⟨_, rfl, fun m hm => ?_⟩
      have hle := toInt_of_le hm.2.1
      omega
    · rw [if_neg hneg]
      refine Or.inr ⟨_, rfl, fun m hm => ⟨⟨_, rfl⟩, ?_⟩⟩
      obtain ⟨rfl, -, -⟩ := hm
      rw [hreport]
      rfl

theorem timedWith_reports {receive : Method ℤ} (h : ∀ s, receive.wp
    (fun as r s' => ReportsLeftover (as.map Prod.snd) r s'.vars.stream) s) (failure : String)
    (timeout : ℤ) : (timedWith failure timeout receive).wp
      (fun as r s' => ReportsLeftover (as.map Prod.snd) r s'.vars.stream) s := by
  rw [wp_timedWith]
  intro b r _
  dsimp only
  split
  · exact .of_no (by simp [reception])
  · split
    · exact .of_no (by simp [reception])
    · split
      · exact wp_mono (h _) fun as r s' h => h
      · exact .of_no (by simp [reception])

end Reports

/-! ## Runs -/

/-- Statements, and operations of `SCTPSocket`. -/
def LibraryCall.OfSctp : LibraryCall → Prop
  | .operation _ op _ => op.OfSctp
  | .utility _ => False
  | _ => True

def LibraryCall.Sends : LibraryCall → List UInt8 → BitVec 16 → Bool → Prop
  | .operation _ op _ => op.Sends
  | _ => fun _ _ _ => False

def LibraryCall.ReceivesSctp : LibraryCall → Prop
  | .operation _ op _ => op.ReceivesSctp
  | _ => False

/-- The stream that a call reports when it returns. -/
def CallOutcome.stream : CallOutcome → Option (BitVec 16)
  | .operation ⟨.ok _, vars⟩ => some vars.stream
  | _ => Option.none

section Entries

variable {c : LibraryCall} {s s' : Proc World} {tr : List Event} {o : CallOutcome}

theorem run_quiet (hc : c.OfSctp) (hr : Runs (c.run s) tr (o, s')) :
    ∀ e ∈ tr, Moves c.Sends c.ReceivesSctp e.call := by
  cases c with
  | statement st =>
    obtain ⟨r, h₁, -⟩ := statement_runs hr
    exact Op.Makes.all_of_runs (statement_quiet st) h₁
  | operation i op vars =>
    rcases operation_runs hr with ⟨rfl, -⟩ | ⟨this, r, p, h₁, -⟩
    · exact List.forall_mem_nil _
    · exact Op.Makes.all_of_runs (body_quiet hc) h₁
  | utility u => exact hc.elim
  | other err =>
    obtain ⟨rfl, -⟩ := other_runs hr
    exact List.forall_mem_nil _

/-- Only an operation that receives has receptions. -/
theorem not_reception {sent : List UInt8 → BitVec 16 → Bool → Prop} {receives : Prop} {e : Event}
    (hc : Moves sent receives e.call) (h : ¬receives) : reception e = false := by
  obtain ⟨call, r⟩ := e
  cases call with
  | lib c => rfl
  | sys w c =>
    cases c with
    | sctpRecvmsg fd len => exact absurd hc h
    | _ => cases r <;> rfl

theorem filter_reception_settled (tr : List Event) :
    (settled tr).filter reception = tr.filter reception := by
  refine filter_settled (fun e ha => ?_) tr
  obtain ⟨c, rfl⟩ := Event.eq_of_again ha
  cases c <;> rfl

theorem leftover_settled (tr : List Event) : leftover (settled tr) = leftover tr := by
  unfold leftover leftovers
  rw [flatMap_settled]
  intro e ha
  obtain ⟨c, rfl⟩ := Event.eq_of_again ha
  rfl

/-- A receiving operation reports what its local variable held. -/
theorem body_reports {op : Operation} (hop : op.ReceivesSctp) (s : Proc Frame) :
    op.body.wp (fun as r s' => ReportsLeftover (as.map Prod.snd) r s'.vars.stream) s := by
  have hasInt : ∀ {m : Method ℤ}, (m.wp
      (fun as r s' => ReportsLeftover (as.map Prod.snd) r s'.vars.stream) s) → (asInt m).wp
      (fun as r s' => ReportsLeftover (as.map Prod.snd) r s'.vars.stream) s := by
    intro m h
    rw [wp_asInt]
    exact wp_mono h fun as r s' h => h.map _
  cases op with
  | sctpReceive len => exact hasInt (receive_reports len fun _ _ => rfl)
  | sctpReceiveFlag len => exact hasInt (receive_reports len fun _ _ => rfl)
  | sctpTimedReceive len timeout =>
    exact hasInt (timedWith_reports (fun _ => receive_reports len fun _ _ => rfl) _ _)
  | sctpTimedReceiveFlag len timeout =>
    exact hasInt (timedWith_reports (fun _ => receive_reports len fun _ _ => rfl) _ _)
  | _ => exact hop.elim

/-- A call receives at most once, and reports what its local variable held. -/
theorem run_reports (hc : c.OfSctp) (hr : Runs (c.run s) tr (o, s')) :
    tr.filter reception = [] ∨ ∃ x, tr.filter reception = [x] ∧
      ∀ got, Handed x got → ∃ stream, o.stream = some stream ∧ leftover tr = some stream := by
  by_cases hrec : c.ReceivesSctp
  · cases c with
    | operation i op vars =>
      rcases operation_runs hr with ⟨rfl, -⟩ | ⟨this, r, p, h₁, rfl⟩
      · exact Or.inl rfl
      · have h := Op.Runs.wp h₁ (body_reports hrec _)
        rw [ReportsLeftover, map_snd_answers, filter_reception_settled, leftover_settled] at h
        apply h.imp_right
        intro h
        obtain ⟨x, hx, hall⟩ := h
        refine ⟨x, hx, fun got hgot => ?_⟩
        obtain ⟨⟨v, rfl⟩, hl⟩ := hall got hgot
        exact ⟨_, rfl, hl⟩
    | _ => exact hrec.elim
  · refine Or.inl (List.filter_eq_nil_iff.2 fun e he => ?_)
    simp [not_reception (run_quiet hc hr e he) hrec]

end Entries

/-- The call received something: a message, or the end of the association. -/
def received (e : LibraryEntry) : Bool := e.events.any reception

def receptions (es : List LibraryEntry) : List LibraryEntry := es.filter received

/-- What the `send` and `sendUnordered` operations of a run have sent. -/
def SentBy (es : List LibraryEntry) (data : List UInt8) (stream : BitVec 16) (u : Bool) : Prop :=
  ∃ e ∈ es, e.op.Sends data stream u

theorem Moves.mono {sent sent' : List UInt8 → BitVec 16 → Bool → Prop} {receives : Prop} {c : Call}
    (h : Moves sent receives c) (hs : ∀ d st u, sent d st u → sent' d st u) :
    Moves sent' receives c := by
  unfold Moves at h ⊢
  split at h
  · exact h
  · exact hs _ _ _ h
  · exact h
  · trivial

theorem Carries.mono {sent sent' : List UInt8 → BitVec 16 → Bool → Prop} {k : Associations}
    (h : Carries sent k) (hs : ∀ d st u, sent d st u → sent' d st u) : Carries sent' k := by
  have hfrom : ∀ m : SctpMessage, m.From sent → m.From sent' := by
    intro m h
    obtain ⟨data, hd, hm⟩ := h
    exact ⟨data, hs _ _ _ hd, hm⟩
  exact ⟨fun fd m hm => hfrom m (h.flight fd m hm), fun m hm => hfrom m (h.log m hm)⟩

/-- What holds after a run: nobody has subscribed, every message has been sent, and the log lines up
with the calls that received. -/
structure SctpInv (es : List LibraryEntry) (k : Associations) : Prop where
  unsubscribed : k.Unsubscribed
  carries : Carries (SentBy es) k
  log : List.Forall₂ (fun e got => (∃ x ∈ e.events, Handed x got) ∧
    ∃ stream, e.result.stream = some stream ∧ leftover e.events = some stream) (receptions es) k.log

theorem sctpInv_start : SctpInv [] .start :=
  ⟨fun _ => rfl, ⟨fun _ m hm => (by cases hm), fun m hm => (by cases hm)⟩, .nil⟩

theorem SctpInv.step {es : List LibraryEntry} {e : LibraryEntry} {k k' : Associations}
    (h : SctpInv es k) (hc : e.op.OfSctp) (hr : Runs (e.op.run e.pre) e.events (e.result, e.post))
    (hk : sctpKernel.Accepts k e.events k') : SctpInv (es ++ [e]) k' := by
  have hquiet := run_quiet hc hr
  obtain ⟨hu, l, hl, htook⟩ := accepts_log hk hquiet h.unsubscribed
  refine ⟨hu, ?_, ?_⟩
  · refine accepts_carries hk (fun x hx => (hquiet x hx).mono ?_) (h.carries.mono ?_)
    · exact fun d st u hs => ⟨e, by simp, hs⟩
    · intro d st u h
      obtain ⟨e', he', hs⟩ := h
      exact ⟨e', List.mem_append_left _ he', hs⟩
  · have hsplit : receptions (es ++ [e]) = receptions es ++ receptions [e] := List.filter_append ..
    rw [hl, hsplit]
    apply List.rel_append h.log
    exact Entry.forall₂_filter htook (run_reports hc hr)

/-- **A message is reported with its stream only by accident.** In every run of `SCTPSocket`s from
the start, the calls that receive are given, one after another, the messages of the log, and those
have been sent by the `send` and `sendUnordered` operations on the streams they carry. Each call
reports the stream of its message if and only if that is what its local variable held before. -/
theorem stream_reported_iff {err : Errno} {es : List LibraryEntry} {s : Proc World}
    {k : Associations} (h : Session LibraryCall.run sctpKernel ⟨err, World.empty⟩
      Associations.start es s k) (hops : ∀ e ∈ es, e.op.OfSctp) :
    List.Forall₂ (fun e got => ∃ x ∈ e.events, Handed x got) (receptions es) k.log ∧
      (∀ m, some m ∈ k.log → m.From (SentBy es)) ∧
      (List.Forall₂ (fun e got => ∀ m ∈ got, e.result.stream = some m.stream)
          (receptions es) k.log ↔
        List.Forall₂ (fun e got => ∀ m ∈ got, leftover e.events = some m.stream)
          (receptions es) k.log) := by
  have hinv : SctpInv es k := h.invariant (P := fun es _ (k : Associations) => SctpInv es k) hops
    sctpInv_start fun es op s k tr r s' k' hinv hc hr hk => hinv.step hc hr hk
  refine ⟨hinv.log.imp fun e got h => h.1, hinv.carries.log, ?_⟩
  constructor
  · refine List.Forall₂.mp (fun e got hlog hgot m hm => ?_) hinv.log
    obtain ⟨-, stream, hreported, hleft⟩ := hlog
    rw [hleft, ← hreported]
    exact hgot m hm
  · refine List.Forall₂.mp (fun e got hlog hgot m hm => ?_) hinv.log
    obtain ⟨-, stream, hreported, hleft⟩ := hlog
    rw [hreported, ← hleft]
    exact hgot m hm

/-! ## One message -/

theorem receiveMessage_runs (len : ℕ) (report : SctpSndrcvinfo → Frame → Frame) (s : Proc Frame)
    (info : SctpSndrcvinfo) (got : Received len) (filled : Option SctpSndrcvinfo)
    (hle : got.bytes.length ≤ intMax) :
    Runs (SCTPSocket.receiveMessage len report s) [Event.lib .uninitInfo info,
      Event.sys .once (.sctpRecvmsg s.vars.this.mSocket len) (.ok (got, filled))]
      (.ok got.bytes.length, ⟨s.errno, report (filled.getD info)
        { s.vars with buffer := overwrite s.vars.buffer got.bytes }⟩) := by
  have hret : toInt got.bytes.length = got.bytes.length := toInt_of_le hle
  have hneg : ¬toInt (got.bytes.length : ℤ) < 0 := by omega
  have hssize : ssize (Except.map (fun got : Received len × Option SctpSndrcvinfo =>
      got.1.bytes.length) (.ok (got, filled) : Except Errno _)) = got.bytes.length := rfl
  unfold SCTPSocket.receiveMessage
  refine Op.Runs.bind_cons (.cons (.answer rfl) (.nil _)) (Op.Runs.bind_nil (.nil _) ?_)
  refine Op.Runs.bind_cons (.cons (.answer rfl) (.nil _)) (Op.Runs.bind_nil (.nil _) ?_)
  rw [hssize]
  dsimp only
  rw [if_neg hneg, hret]
  exact .nil _

/-! A connected pair: a socket with descriptor 4, and one with descriptor 5 that was built from the
handle a listening socket has accepted. -/

def listenerWorld : World := Function.update World.empty 0 (some (.socket ⟨3, false⟩))

def listeningWorld : World := Function.update listenerWorld 0 (some (.socket ⟨3, false⟩))

def clientWorld : World := Function.update listeningWorld 1 (some (.socket ⟨4, false⟩))

def connectedWorld : World := Function.update clientWorld 1 (some (.socket ⟨4, false⟩))

def acceptedWorld : World := Function.update connectedWorld 2 (some (.handle ⟨5⟩))

def pairWorld : World :=
  Function.update (Function.update acceptedWorld 2 (some (.handle ⟨-1⟩))) 3
    (some (.socket ⟨5, false⟩))

def openedPair : Associations :=
  ((Associations.start.opened 3 false).opened 4 false).opened 5 false

def associatedPair : Associations :=
  { openedPair with peer := Function.update openedPair.peer 4 5 }

def callerVars : Vars := ⟨[0, 0], [], 0, 0, 0⟩

theorem pair_session : ∃ es,
    Session LibraryCall.run sctpKernel ⟨0, World.empty⟩ Associations.start es ⟨0, pairWorld⟩
      associatedPair ∧ (∀ e ∈ es, e.op.OfSctp) ∧ receptions es = [] := by
  let quad : Str := [49, 50, 55, 46, 48, 46, 48, 46, 49]
  let optval : List UInt8 := le16 10 ++ le16 65535 ++ le16 4 ++ le16 0
  have h₁ : Runs ((LibraryCall.statement (.construct 0 (.sctp 10 65535 4 0))).run ⟨0, World.empty⟩)
      [Event.sys .once (.socket 2 1 132) (.ok (3 : ℕ)),
        Event.sys .once (.setsockopt 3 132 2 optval) (.ok ())]
      (.statement (.ok ()), ⟨0, listenerWorld⟩) :=
    .cons (.answer rfl) (.cons (.answer rfl) (.nil _))
  have h₂ : Runs ((LibraryCall.operation 0 (.sctpListen 5) callerVars).run ⟨0, listenerWorld⟩)
      [Event.sys .once (.listen 3 5) (.ok ())]
      (.operation ⟨.ok .unit, callerVars⟩, ⟨0, listeningWorld⟩) := .cons (.answer rfl) (.nil _)
  have h₃ : Runs ((LibraryCall.statement (.construct 1 (.sctp 10 65535 4 0))).run
      ⟨0, listeningWorld⟩)
      [Event.sys .once (.socket 2 1 132) (.ok (4 : ℕ)),
        Event.sys .once (.setsockopt 4 132 2 optval) (.ok ())]
      (.statement (.ok ()), ⟨0, clientWorld⟩) :=
    .cons (.answer rfl) (.cons (.answer rfl) (.nil _))
  have h₄ : Runs ((LibraryCall.operation 1 (.sctpConnect [quad] 5000) callerVars).run
      ⟨0, clientWorld⟩)
      [Event.lib (.inetAton (cStr quad)) (some ⟨127, 0, 0, 1⟩),
        Event.sys .once (.sctpConnectx 4 [⟨afInet, htons 5000, ⟨127, 0, 0, 1⟩⟩]) (.ok (0 : ℕ))]
      (.operation ⟨.ok (.int 0), callerVars⟩, ⟨0, connectedWorld⟩) :=
    .cons (.answer rfl) (.cons (.answer rfl) (.nil _))
  have h₅ : Runs ((LibraryCall.statement (.accept 2 .sctp 0)).run ⟨0, connectedWorld⟩)
      [Event.sys .once (.accept 3) (.ok (5 : ℕ))] (.statement (.ok ()), ⟨0, acceptedWorld⟩) :=
    .cons (.answer rfl) (.nil _)
  have h₆ : Runs ((LibraryCall.statement (.ofHandle 3 .sctp 2)).run ⟨0, acceptedWorld⟩) []
      (.statement (.ok ()), ⟨0, pairWorld⟩) := .nil _
  have hidle : sctpIdle openedPair associatedPair := ⟨rfl, rfl, fun fd => List.Sublist.refl _⟩
  have hs₃ : Session LibraryCall.run sctpKernel ⟨0, World.empty⟩ Associations.start _ _ _ :=
    .snoc (.snoc (.snoc .nil _ h₁ (.step rfl (.single rfl))) _ h₂ (.single rfl)) _ h₃
      (.step rfl (.single rfl))
  have hs₆ : Session LibraryCall.run sctpKernel ⟨0, World.empty⟩ Associations.start _ _
      associatedPair :=
    .snoc (.snoc (.snoc hs₃ _ h₄ (.step rfl (.single rfl))) _ h₅ (.single rfl)) _ h₆
      (.idle hidle (.nil _))
  refine ⟨_, hs₆, ?_, rfl⟩
  iterate 6 refine List.forall_mem_append.2 ⟨?_, List.forall_mem_singleton.2 trivial⟩
  exact List.forall_mem_nil _

/-- A message on stream 5 to the accepted socket, which receives it while its local variable holds
`left`. -/
theorem one_message (left : BitVec 16) : ∃ es s k,
    Session LibraryCall.run sctpKernel ⟨0, World.empty⟩ Associations.start es s k ∧
      (∀ e ∈ es, e.op.OfSctp) ∧ k.log = [some ⟨[7], 5, false⟩] ∧
      (receptions es).map (fun e => (e.result.stream, leftover e.events)) =
        [(some left, some left)] := by
  obtain ⟨es, hs, hops, hrec⟩ := pair_session
  have h₁ : Runs ((LibraryCall.operation 1 (.sctpSend [7] 5 0 0 0 .keepalive .keepPrimary)
      callerVars).run ⟨0, pairWorld⟩)
      [Event.sys .once (.sctpSendmsg 4 [7] 0 0 5 0 0) (.ok ⟨1, by decide, by decide⟩)]
      (.operation ⟨.ok (.int 1), callerVars⟩,
        ⟨0, Function.update pairWorld 1 (some (.socket ⟨4, false⟩))⟩) :=
    .cons (.answer rfl) (.nil _)
  have hbody : Runs ((Operation.sctpReceive 2).body ⟨0, callerVars.frame ⟨5, false⟩⟩)
      [Event.lib .uninitInfo ⟨left, 0⟩,
        Event.sys .once (.sctpRecvmsg 5 2) (.ok (⟨[7], by decide⟩, none))]
      (.ok (.int 1), ⟨0, ⟨⟨5, false⟩, [7, 0], [], 0, left, 0⟩⟩) :=
    Op.Runs.bind_ret (receiveMessage_runs 2 (fun info f => { f with stream := info.sinfoStream })
      ⟨0, callerVars.frame ⟨5, false⟩⟩ ⟨left, 0⟩ ⟨[7], by decide⟩ none (by decide)) (.nil _)
  have h₂ : Runs ((LibraryCall.operation 3 (.sctpReceive 2) callerVars).run
      ⟨0, Function.update pairWorld 1 (some (.socket ⟨4, false⟩))⟩)
      [Event.lib .uninitInfo ⟨left, 0⟩,
        Event.sys .once (.sctpRecvmsg 5 2) (.ok (⟨[7], by decide⟩, none))]
      (.operation ⟨.ok (.int 1), ⟨[7, 0], [], 0, left, 0⟩⟩, ⟨0, Function.update
        (Function.update pairWorld 1 (some (.socket ⟨4, false⟩))) 3
        (some (.socket ⟨5, false⟩))⟩) := hbody.bind _
  have hs₂ : Session LibraryCall.run sctpKernel ⟨0, World.empty⟩ Associations.start _ _
      ((associatedPair.post 4 ⟨[7], 5, false⟩).receive 5 ⟨[7], 5, false⟩ 2 [] []) :=
    .snoc (.snoc hs _ h₁ (.single rfl)) _ h₂
      (.step rfl (.single (Or.inr ⟨[], _, [], rfl, Or.inr (List.forall_mem_nil _), rfl,
        by decide, rfl, rfl⟩)))
  refine ⟨_, _, _, hs₂, ?_, rfl, ?_⟩
  · iterate 2 refine List.forall_mem_append.2 ⟨?_, List.forall_mem_singleton.2 trivial⟩
    exact hops
  · unfold receptions at hrec ⊢
    rw [List.filter_append, List.filter_append, hrec]
    rfl

/-- A call that received a message, and the pair of streams it is known by. -/
theorem forall₂_of_map {es : List LibraryEntry} {m : SctpMessage} {x y : Option (BitVec 16)}
    (h : es.map (fun e => (e.result.stream, leftover e.events)) = [(x, y)]) :
    (List.Forall₂ (fun e got => ∀ m ∈ got, e.result.stream = some m.stream) es [some m] ↔
      x = some m.stream) ∧
    (List.Forall₂ (fun e got => ∀ m ∈ got, leftover e.events = some m.stream) es [some m] ↔
      y = some m.stream) := by
  obtain ⟨e, rest, rfl, he, hrest⟩ := List.map_eq_cons_iff.1 h
  obtain rfl := List.map_eq_nil_iff.1 hrest
  obtain ⟨rfl, rfl⟩ := Prod.mk.inj he
  simp

/-- The local variable happens to hold the stream of the message. -/
theorem stream_reported_by_accident : ∃ es s k,
    Session LibraryCall.run sctpKernel ⟨0, World.empty⟩ Associations.start es s k ∧
      k.log = [some ⟨[7], 5, false⟩] ∧
      List.Forall₂ (fun e got => ∀ m ∈ got, e.result.stream = some m.stream)
        (receptions es) k.log := by
  obtain ⟨es, s, k, h, hops, hlog, hmap⟩ := one_message 5
  refine ⟨es, s, k, h, hlog, (stream_reported_iff h hops).2.2.2 ?_⟩
  rw [hlog]
  exact (forall₂_of_map hmap).2.2 rfl

/-- A message that was sent on stream 5 is reported on stream 0. -/
theorem stream_reported_from_local : ∃ es s k,
    Session LibraryCall.run sctpKernel ⟨0, World.empty⟩ Associations.start es s k ∧
      (∀ e ∈ es, e.op.OfSctp) ∧ k.log = [some ⟨[7], 5, false⟩] ∧
      (receptions es).map (fun e => e.result.stream) = [some 0] ∧
      ¬List.Forall₂ (fun e got => ∀ m ∈ got, e.result.stream = some m.stream)
        (receptions es) k.log := by
  obtain ⟨es, s, k, h, hops, hlog, hmap⟩ := one_message 0
  refine ⟨es, s, k, h, hops, hlog, ?_, fun hall => ?_⟩
  · have := congrArg (List.map Prod.fst) hmap
    rwa [List.map_map] at this
  · rw [hlog] at hall
    exact absurd ((forall₂_of_map hmap).1.1 hall) (by decide)

end NET
