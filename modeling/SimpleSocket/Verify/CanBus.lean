import SimpleSocket.Interact.Medium
import SimpleSocket.Verify.CanFilters
import SimpleSocket.Verify.CanNames

/-!
# The CAN bus

The sockets of a program and the other nodes are stations of one medium (`canBus`). A socket hears
the frames on the interfaces it is bound to that pass its filters; a frame of the program is heard
by its sockets when the sender has local loopback on, and by the sender itself when it also receives
its own messages. The kernel drops a frame for a socket whose receive queue has no room
(`CanMessage.lost`). A frame is on the bus as soon as it is sent.

`Operation.canEffect` says what a call does to the medium, in the words of the library: the settings
it has changed, the frame it has transmitted, the frame it has taken. Over every run the sockets
have received exactly the frames they heard, in their order and each once.
-/

namespace NET

open Op Interact SimpleSocket

/-! ## The bus -/

/-- What the kernel keeps for a socket: the interface it is bound to (the empty name stands for all
of them), the receive filters, the error classes, and the two switches. -/
structure CanSettings where
  interface : Option Str
  filters : List WordFilter
  errorMask : BitVec 32
  loopback : Bool
  receiveOwn : Bool

/-- What a new socket finds. -/
def CanSettings.new : CanSettings := ⟨none, [(0, 0)], 0, true, false⟩

/-- The settings by descriptor. -/
abbrev CanConfig : Type := ℤ → CanSettings

def CanConfig.set (fd : ℤ) (f : CanSettings → CanSettings) (c : CanConfig) : CanConfig :=
  Function.update c fd (f (c fd))

/-- A frame on an interface. Those of the other nodes have no sender. It is lost for the sockets
whose receive queue has no room for it. -/
structure CanMessage where
  sender : Option ℤ
  interface : Str
  frame : CanFrame
  lost : ℤ → Bool

def CanMessage.foreign (m : CanMessage) : Bool := m.sender.isNone

/-- Bit 29 of an id word marks error frames: they pass by their error class, or by a reserved
filter. -/
def CanSettings.admits (special : WordFilter → BitVec 32 → Bool) (s : CanSettings)
    (w : BitVec 32) : Bool :=
  (w.getLsbD 29 && w &&& s.errorMask != 0) || s.filters.any fun f =>
    if f.reserved then special f w else !w.getLsbD 29 && w &&& f.2 == f.1 &&& f.2

/-- The socket `fd` hears the frame: it is bound to the interface, the frame passes, is not its own
unless it receives those too, and there is room for it. -/
def canHears (special : WordFilter → BitVec 32 → Bool) (c : CanConfig) (m : CanMessage) (fd : ℤ) :
    Bool :=
  ((c fd).interface = some [] || (c fd).interface = some m.interface) &&
    (c fd).admits special (word32 m.frame.bytes) &&
    (match m.sender with
    | none => true
    | some sender => (c sender).loopback && (sender != fd || (c fd).receiveOwn)) && !m.lost fd

abbrev CanMedium (special : WordFilter → BitVec 32 → Bool) : Type := Medium (canHears special)

abbrev CanEffect : Type := Effect CanConfig CanMessage ℤ

/-- `CAN_ERR_MASK`. -/
def canErrMask : BitVec 32 := 0x1fffffff

/-- The options of a raw CAN socket: `CAN_RAW_FILTER`, `CAN_RAW_ERR_FILTER`, `CAN_RAW_LOOPBACK` and
`CAN_RAW_RECV_OWN_MSGS`. -/
def CanSettings.Sets (level optname : ℤ) (optval : List UInt8) (f : CanSettings → CanSettings) :
    Prop :=
  match level, optname with
  | 101, 1 => optval.length % canFilterSize = 0 ∧
    optval.length ≤ canFilterSize * canRawFilterMax ∧
    f = fun s => { s with filters := filtersOf optval }
  | 101, 2 => optval.length = 4 ∧ f = fun s => { s with errorMask := word32 optval &&& canErrMask }
  | 101, 3 => optval.length = 4 ∧ f = fun s => { s with loopback := word32 optval != 0 }
  | 101, 4 => optval.length = 4 ∧ f = fun s => { s with receiveOwn := word32 optval != 0 }
  | _, _ => f = id

/-- What happens on the bus at an event. The interface of an address is known by its index. What is
not a call of a raw CAN socket does nothing. -/
def canBusStep (t : InterfaceTable) (special : WordFilter → BitVec 32 → Bool)
    (b : CanMedium special) : Event → CanMedium special → Prop
  | ⟨.sys _ (.setsockopt fd level optname optval), .ok _⟩, b' =>
    ∃ f, CanSettings.Sets level optname optval f ∧ b' = b.configure (CanConfig.set fd f)
  | ⟨.sys _ (.bind fd (.can addr)), .ok _⟩, b' => ∃ s, t.Indexes s addr.canIfindex ∧
    b' = b.configure (CanConfig.set fd fun x => { x with interface := some s })
  | ⟨.sys _ (.sendto fd data (.can addr)), .ok n⟩, b' => ∃ s frame lost, n.count = data.length ∧
    t.index s = some addr.canIfindex ∧ data = frame.bytes ∧
      b' = b.transmit ⟨some fd, s, frame, lost⟩
  | ⟨.sys _ (.send fd data), .ok n⟩, b' => ∃ s frame lost, n.count = data.length ∧
    (b.config fd).interface = some s ∧ s ≠ [] ∧ data = frame.bytes ∧
      b' = b.transmit ⟨some fd, s, frame, lost⟩
  | ⟨.sys _ (.recv fd len _), .ok got⟩, b' => ∃ m, got.bytes = m.frame.bytes.take len ∧
    b.Takes fd m b'
  | ⟨.sys _ (.recvfrom fd len .can), .ok (got, addr)⟩, b' => ∃ m,
    got.bytes = m.frame.bytes.take len ∧ t.index m.interface = some addr.canIfindex ∧
      b.Takes fd m b'
  | e, b' => t.Replies e ∧ b' = b

/-- The kernel, and the frames of the other nodes. -/
def canBus (t : InterfaceTable) (special : WordFilter → BitVec 32 → Bool) : Kernel posix where
  State := CanMedium special
  step := canBusStep t special
  idle b b' := ∃ s frame lost, (t.index s).isSome = true ∧ b' = b.transmit ⟨none, s, frame, lost⟩

/-! ## What the calls do -/

/-- A call of a CAN entry: on one of many sockets. -/
abbrev CanEntry (ι : Type) : Type := Entry posix (ι × Invocation) (ι → SimpleSocket) Outcome

/-- The operations of a `CANRawSocket`. -/
def Operation.isCan : Operation → Bool
  | .send _ | .receive _ | .timedReceive .. | .disconnect | .shutdown _ => true
  | .canConnect _ | .canBind _ | .getLocalInterface | .getForeignInterface => true
  | .canSendTo .. | .canReceiveFrom _ | .canTimedReceiveFrom .. => true
  | .canSetReceiveFilter .. | .canSetErrorFilter .. => true
  | .canSetLocalLoopback _ | .canSetReceiveOwnMessages _ => true
  | _ => false

/-- The call has taken a frame and stored it; `named` when it reports the interface. -/
def TookFrame (fd : ℤ) (len : ℕ) (named : Bool) (before after : Vars) (v : Value)
    (eff : CanEffect) : Prop :=
  ∃ m : CanMessage, eff = .took fd m ∧ v = .int (min len canFrameSize : ℕ) ∧
    after = { before with
      buffer := overwrite before.buffer (m.frame.bytes.take len)
      source := if named then m.interface else before.source }

/-- What a call on the socket `fd` has done, by its outcome. A call that throws has done nothing. -/
def Operation.canEffect (fd : ℤ) (c : CanConfig) (before after : Vars) :
    Operation → Except Exn Value → CanEffect → Prop
  | _, .error _, eff => after = before ∧ eff = .none
  | .receive len, .ok v, eff => TookFrame fd len false before after v eff
  | .canReceiveFrom len, .ok v, eff => TookFrame fd len true before after v eff
  | .timedReceive len _, .ok v, eff => TookFrame fd len false before after v eff ∨
    (after = before ∧ eff = .none ∧ (v = .int 0 ∨ v = .int 1))
  | .canTimedReceiveFrom len _, .ok v, eff => TookFrame fd len true before after v eff ∨
    (after = before ∧ eff = .none ∧ v = .int 0)
  | .send data, .ok v, eff => after = before ∧ ((eff = .none ∧ v = .int (-1)) ∨
    ∃ s frame lost, data = frame.bytes ∧ v = .int canFrameSize ∧ (c fd).interface = some s ∧
      s ≠ [] ∧ eff = .transmitted ⟨some fd, s, frame, lost⟩)
  -- the result of a failed call is the length of a buffer that is too long for an `int`
  | .canSendTo data s, .ok _, eff => after = before ∧ ((eff = .none ∧ toInt data.length = -1) ∨
    ∃ frame lost, data = frame.bytes ∧ eff = .transmitted ⟨some fd, cStr s, frame, lost⟩)
  | .canBind s, .ok _, eff => after = before ∧
    eff = .configured (.set fd fun x => { x with interface := some (cStr s) })
  | .canSetReceiveFilter ptrSize filter len, .ok _, eff => after = before ∧
    eff = .configured (.set fd fun x =>
      { x with filters := (filter.take (ptrSize * len / canFilterSize)).map CanFilter.words })
  | .canSetErrorFilter _ filter _, .ok _, eff => after = before ∧ ∃ f ∈ filter.head?,
    eff = .configured (.set fd fun x => { x with errorMask := f.id.word &&& canErrMask })
  | .canSetLocalLoopback enable, .ok _, eff => after = before ∧
    eff = .configured (.set fd fun x => { x with loopback := enable })
  | .canSetReceiveOwnMessages enable, .ok _, eff => after = before ∧
    eff = .configured (.set fd fun x => { x with receiveOwn := enable })
  | _, .ok _, eff => after = before ∧ eff = .none

/-- What a call has done on the settings `c`. -/
def CanDoes {ι : Type} (e : CanEntry ι) (c : CanConfig) (eff : CanEffect) : Prop :=
  e.op.2.op.canEffect (e.pre e.op.1).mSocket c e.op.2.vars e.result.vars e.result.ret eff

/-! ## Calls on the bus -/

section Calls

variable {t : InterfaceTable} {special : WordFilter → BitVec 32 → Bool} {b : CanMedium special}

/-- The bus, as one call sees it. -/
def canView (t : InterfaceTable) (special : WordFilter → BitVec 32 → Bool) (b : CanMedium special) :
    View (canBus t special) CanEffect :=
  Medium.view (K := canBus t special) id CanMessage.foreign
    (fun _ _ hi => by
      obtain ⟨s, frame, lost, -, hk⟩ := hi
      exact ⟨⟨none, s, frame, lost⟩, rfl, hk⟩) b

theorem canView_configured {k k' : CanMedium special} {g : CanConfig → CanConfig}
    (hk : (canView t special b).rel .none k) (h : k' = k.configure g) :
    (canView t special b).rel (.configured g) k' :=
  Medium.During.act hk h (List.forall_mem_nil _)

theorem canView_transmitted {k k' : CanMedium special} {fd : ℤ} {s : Str} {frame : CanFrame}
    {lost : ℤ → Bool} (hk : (canView t special b).rel .none k)
    (h : k' = k.transmit ⟨some fd, s, frame, lost⟩) :
    (canView t special b).rel (.transmitted ⟨some fd, s, frame, lost⟩) k' :=
  Medium.During.act hk h (List.forall_mem_singleton.2 rfl)

theorem canView_took {k k' : CanMedium special} {fd : ℤ} {m : CanMessage}
    (hk : (canView t special b).rel .none k) (h : k.Takes fd m k') :
    (canView t special b).rel (.took fd m) k' :=
  Medium.During.act hk h (List.forall_mem_nil _)

/-- A call that does nothing on the bus. -/
theorem canView_ignores {c : Call} (h : ∀ r (k k' : CanMedium special),
    canBusStep t special k ⟨c, r⟩ k' → k' = k) : (canView t special b).Ignores c := by
  intro eff k r k' hk hs
  obtain rfl := h r k k' hs
  exact hk

theorem canView_serves : t.Serves (canView t special b) where
  uninit := canView_ignores fun _ _ _ hs => hs.2
  ioctl _ _ _ := canView_ignores fun _ _ _ hs => hs.2
  replies eff k e k' hk hs := by
    obtain ⟨call, r⟩ := e
    cases call with
    | lib c => trivial
    | sys w c =>
      cases c with
      | ioctl fd request ifr => exact hs.1
      | _ => trivial

variable {f : Frame}

/-- An option is set on the socket, or nothing has happened. -/
theorem triple_canOption {level optname : ℤ} {optval : List UInt8} {failure : String}
    {Q : Except Exn Unit → Frame → CanEffect → Prop} (herr : ∀ x, Q (.error x) f .none)
    (hset : ∀ g, CanSettings.Sets level optname optval g →
      Q (.ok ()) f (.configured (.set f.this.mSocket g))) :
    Op.Triple (canView t special b) .none (setOption level optname optval failure) f Q := by
  refine .onFd (.checked (fun k x k' hk hs => ?_) fun k x k' hk hs => ?_)
  · obtain rfl : k' = k := hs.2
    exact ⟨.none, hk, herr⟩
  · obtain ⟨g, hg, hk'⟩ := hs
    exact ⟨_, canView_configured hk hk', .pure (hset g hg)⟩

/-- The index that is found is that of the C string. -/
theorem triple_index {τ : Type} {v : τ} {fd : ℤ} {interface : Str} {eff : CanEffect} :
    Op.Triple (canView t special b) eff (CANSocket.getInterfaceIndex fd interface) v
      fun r v' eff' => v' = v ∧ eff' = eff ∧ ∀ i, r = .ok i → t.Indexes (cStr interface) i := by
  unfold CANSocket.getInterfaceIndex
  refine .ite (fun hnil => .pure ⟨rfl, rfl, fun i hi => ?_⟩) fun _ =>
    .ite (fun _ => .throwSocket fun x => ⟨rfl, rfl, fun i hi => by cases hi⟩) fun _ =>
      .bind (.libIgnored canView_serves.uninit fun _ mem _ _ _ =>
        .bind (.sysIgnored (canView_serves.ioctl _ _ _) fun k r k' hk hs => ?_))
  · obtain rfl := Except.ok.inj hi
    exact Or.inl ⟨by rw [hnil]; rfl, rfl⟩
  · cases r with
    | error x => exact .throwSocket fun x => ⟨rfl, rfl, fun i hi => by cases hi⟩
    | ok ifr =>
      refine .pure ⟨rfl, rfl, fun i hi => Or.inr ?_⟩
      have hreply := (canView_serves.replies _ k _ k' hk hs).1 rfl
      rw [cStr_strcpy] at hreply
      cases hindex : t.index (cStr interface) with
      | none =>
        rw [hindex] at hreply
        cases hreply
      | some j =>
        rw [hindex] at hreply
        obtain ⟨ifr', hifr, hj⟩ := hreply
        obtain rfl := Except.ok.inj hifr
        obtain rfl := Except.ok.inj hi
        rw [hj]

/-- An index stands for one name. -/
theorem InterfaceTable.Indexes.unique {s s' : Str} {i : ℤ} (h : t.Indexes s i)
    (h' : t.Indexes s' i) : s = s' := by
  rcases h with ⟨rfl, rfl⟩ | h
  · rcases h' with ⟨rfl, -⟩ | h'
    · rfl
    · exact absurd (t.positive _ _ h') (lt_irrefl 0)
  · rcases h' with ⟨rfl, rfl⟩ | h'
    · exact absurd (t.positive _ _ h) (lt_irrefl 0)
    · exact Option.some.inj ((name_eq_some_iff.2 h).symm.trans (name_eq_some_iff.2 h'))

/-! ### One operation -/

/-- What holds of a call of `op` on the settings of `b`. -/
def CanSpec (t : InterfaceTable) (special : WordFilter → BitVec 32 → Bool) (op : Operation) :
    Prop :=
  ∀ (b : CanMedium special) (f : Frame), Op.Triple (canView t special b) .none op.body f
    fun r f' eff => op.canEffect f.this.mSocket b.config f.vars f'.vars r eff

theorem canEffect_error {op : Operation} {fd : ℤ} {c : CanConfig} {vars : Vars} (x : Exn) :
    op.canEffect fd c vars vars (.error x) .none := by
  cases op <;> exact ⟨rfl, rfl⟩

theorem canBind_spec (interface : Str) : CanSpec t special (.canBind interface) := by
  intro b f
  refine .asUnit (.onFd (.bind (triple_index.mono ?_)))
  rintro r f' eff ⟨rfl, rfl, hindex⟩
  cases r with
  | error x => exact canEffect_error x
  | ok i =>
    refine .checked (fun k x k' hk hs => ?_) fun k x k' hk hs => ?_
    · obtain rfl : k' = k := hs.2
      exact ⟨.none, hk, fun x => canEffect_error x⟩
    · obtain ⟨s, hs, hk'⟩ := hs
      obtain rfl := hs.unique (hindex i rfl)
      exact ⟨_, canView_configured hk hk', .pure ⟨rfl, rfl⟩⟩

theorem word32_le32' (w : BitVec 32) : word32 (le32 w) = w := by
  have h := word32_le32 w []
  rwa [List.append_nil] at h

theorem canSetLocalLoopback_spec (enable : Bool) :
    CanSpec t special (.canSetLocalLoopback enable) := by
  refine fun b f => .asUnit (triple_canOption (fun x => canEffect_error x) ?_)
  rintro g ⟨-, rfl⟩
  refine ⟨rfl, ?_⟩
  rw [word32_le32']
  cases enable <;> rfl

theorem canSetReceiveOwnMessages_spec (enable : Bool) :
    CanSpec t special (.canSetReceiveOwnMessages enable) := by
  refine fun b f => .asUnit (triple_canOption (fun x => canEffect_error x) ?_)
  rintro g ⟨-, rfl⟩
  refine ⟨rfl, ?_⟩
  rw [word32_le32']
  cases enable <;> rfl

theorem take_flatMap_bytes (fs : List CanFilter) (n : ℕ) :
    (fs.flatMap CanFilter.bytes).take (canFilterSize * n) =
      (fs.take n).flatMap CanFilter.bytes := by
  induction fs generalizing n with
  | nil => simp
  | cons f fs ih =>
    cases n with
    | zero => simp
    | succ n =>
      rw [List.flatMap_cons, List.take_succ_cons, List.flatMap_cons, ← ih, Nat.mul_succ,
        Nat.add_comm, ← bytes_length f, List.take_length_add_append]

/-- Whole filters are read back, as many as the length has room for. -/
theorem filtersOf_filterBytes {ptrSize len : ℕ} {filter : List CanFilter}
    (h : (CANRawSocket.filterBytes ptrSize filter len).length % canFilterSize = 0) :
    filtersOf (CANRawSocket.filterBytes ptrSize filter len) =
      (filter.take (ptrSize * len / canFilterSize)).map CanFilter.words := by
  unfold CANRawSocket.filterBytes at h ⊢
  rw [List.length_take, flatMap_bytes_length] at h
  rw [← filtersOf_bytes, ← take_flatMap_bytes]
  congr 1
  generalize ptrSize * len = n at h ⊢
  unfold canFilterSize at h ⊢
  by_cases hn : n ≤ 8 * filter.length
  · have hdiv : 8 * (n / 8) = n := by omega
    rw [hdiv]
  · have hall : ∀ m, 8 * filter.length ≤ m →
        (filter.flatMap CanFilter.bytes).take m = filter.flatMap CanFilter.bytes :=
      fun m hm => List.take_of_length_le ((flatMap_bytes_length filter).trans_le hm)
    rw [hall n (by omega), hall (8 * (n / 8)) (by omega)]

theorem canSetReceiveFilter_spec (ptrSize : ℕ) (filter : List CanFilter) (len : ℕ) :
    CanSpec t special (.canSetReceiveFilter ptrSize filter len) := by
  refine fun b f => .asUnit (triple_canOption (fun x => canEffect_error x) ?_)
  rintro g ⟨hmod, -, rfl⟩
  refine ⟨rfl, ?_⟩
  rw [filtersOf_filterBytes hmod]

theorem canSetErrorFilter_spec (ptrSize : ℕ) (filter : List CanFilter) (len : ℕ) :
    CanSpec t special (.canSetErrorFilter ptrSize filter len) := by
  refine fun b f => .asUnit (triple_canOption (fun x => canEffect_error x) ?_)
  rintro g ⟨hlen, rfl⟩
  refine ⟨rfl, ?_⟩
  cases filter with
  | nil => simp [CANRawSocket.filterBytes] at hlen
  | cons x filter =>
    refine ⟨x, rfl, ?_⟩
    have hfour : ptrSize * len = 4 := by
      rw [CANRawSocket.filterBytes, List.length_take, flatMap_bytes_length, canFilterSize,
        List.length_cons] at hlen
      omega
    have hword : CANRawSocket.filterBytes ptrSize (x :: filter) len = le32 x.id.word := by
      rw [CANRawSocket.filterBytes, hfour]
      rfl
    rw [hword, word32_le32']

/-! ### Frames -/

theorem canSendTo_spec (data : List UInt8) (interface : Str) :
    CanSpec t special (.canSendTo data interface) := by
  intro b f
  refine .asUnit (.onFd (.bind (triple_index.mono ?_)))
  rintro r f' eff ⟨rfl, rfl, hindex⟩
  cases r with
  | error x => exact canEffect_error x
  | ok i =>
    refine .onFd (.bind (.sys (fun k r k' hk hs ha => ?_) fun k r k' hk hs _ => ?_))
    · cases r with
      | ok n => cases ha
      | error x =>
        obtain rfl : k' = k := hs.2
        exact hk
    · cases r with
      | error x =>
        obtain rfl : k' = k := hs.2
        refine ⟨.none, hk, .ite (fun _ => .throwSocket fun x => canEffect_error x) fun h => ?_⟩
        exact .pure ⟨rfl, Or.inl ⟨rfl, (not_not.1 h).symm.trans toInt_neg_one⟩⟩
      | ok n =>
        obtain ⟨s, frame, lost, hn, hs, hdata, hk'⟩ := hs
        obtain rfl := InterfaceTable.Indexes.unique (Or.inr hs) (hindex i rfl)
        refine ⟨_, canView_transmitted hk hk', .ite (fun h => absurd ?_ h) fun _ => ?_⟩
        · exact congrArg (fun n : ℕ => toInt n) hn
        · exact .pure ⟨rfl, Or.inr ⟨frame, lost, hdata, rfl⟩⟩

theorem canSend_spec (data : List UInt8) : CanSpec t special (.send data) := by
  intro b f
  refine .bind (.onFd (.bind (.sys (fun k r k' hk hs ha => ?_) fun k r k' hk hs _ => ?_)))
  · cases r with
    | ok n => cases ha
    | error x =>
      obtain rfl : k' = k := hs.2
      exact hk
  · cases r with
    | error x =>
      obtain rfl : k' = k := hs.2
      refine ⟨.none, hk, .ite (fun _ => .bind (.errno fun e => ?_)) fun h => absurd ?_ h⟩
      · refine .ite (fun _ => .bind (.modify (.pure (.pure ?_)))) fun _ =>
          .throwSocket fun x => canEffect_error x
        exact ⟨rfl, Or.inl ⟨rfl, congrArg Value.int (SendRet.ofReply_error x)⟩⟩
      · rw [SendRet.ofReply_error]
        decide
    | ok n =>
      obtain ⟨s, frame, lost, hn, hs, hne, hdata, hk'⟩ := hs
      have hsize : n.count = canFrameSize := by rw [hn, hdata, frame.bytes_length]
      refine ⟨_, canView_transmitted hk hk', .ite (fun h => absurd h ?_) fun _ => .pure (.pure ?_)⟩
      · rw [SendRet.ofReply_ok]
        omega
      · refine ⟨rfl, Or.inr ⟨s, frame, lost, hdata, ?_, ?_, hne, rfl⟩⟩
        · rw [SendRet.ofReply_ok, hsize]
        · rw [← Medium.During.config_of_none hk]
          exact hs

/-- The number of bytes of a frame is an `int`. -/
theorem toInt_frame (len : ℕ) : toInt (min len canFrameSize : ℕ) = (min len canFrameSize : ℕ) := by
  apply toInt_of_le
  unfold canFrameSize intMax
  omega

theorem toInt_error_neg : toInt (-1) < 0 := by decide

/-- `::recv` and the check of its result: a frame is taken, or the operation throws. -/
theorem triple_canRecv {len : ℕ} {flags : ℤ} {failure : String}
    {Q : Except Exn ℤ → Frame → CanEffect → Prop} (herr : ∀ x, Q (.error x) f .none)
    (htook : ∀ m : CanMessage, Q (.ok (min len canFrameSize : ℕ))
      { f with buffer := overwrite f.buffer (m.frame.bytes.take len) } (.took f.this.mSocket m)) :
    Op.Triple (canView t special b) .none (do
      let ret := toInt (← SimpleSocket.recv len flags)
      if ret < 0 then throwSocket failure true else return ret) f Q := by
  refine .bind (.onFd (.bind (.sys (fun k r k' hk hs ha => ?_) fun k r k' hk hs _ => ?_)))
  · cases r with
    | ok got => cases ha
    | error x =>
      obtain rfl : k' = k := hs.2
      exact hk
  · cases r with
    | error x =>
      obtain rfl : k' = k := hs.2
      refine ⟨.none, hk, .bind (.modify (.pure (.ite (fun _ => .throwSocket herr) fun h => ?_)))⟩
      exact absurd toInt_error_neg h
    | ok got =>
      obtain ⟨m, hbytes, htakes⟩ := hs
      have hlen : got.bytes.length = min len canFrameSize := by
        rw [hbytes, List.length_take, m.frame.bytes_length]
      have hret : toInt (got.bytes.length : ℕ) = (min len canFrameSize : ℕ) := by
        rw [hlen, toInt_frame]
      have h := htook m
      rw [← hret, ← hbytes] at h
      refine ⟨_, canView_took hk htakes, .bind (.modify (.pure ?_))⟩
      exact .ite (fun hneg => absurd (hret ▸ hneg) (by omega)) fun _ => .pure h

theorem canReceive_spec (len : ℕ) : CanSpec t special (.receive len) := fun _ _ =>
  .asInt (triple_canRecv (fun x => canEffect_error x) fun m => ⟨m, rfl, rfl, rfl⟩)

/-- The part of the timed operations before the call that receives. -/
theorem triple_pollReceive {timeout : ℤ} {Q : Except Exn (Except Errno (BitVec 16)) → Frame →
    CanEffect → Prop} (h : ∀ r, Q (.ok r) f .none) :
    Op.Triple (canView t special b) .none (pollReceive timeout) f Q :=
  .onFd (.sysIgnored (canView_ignores fun _ _ _ hs => hs.2) fun _ r _ _ _ => h r)

theorem triple_noteRdHup {revents : BitVec 16} {m : Method ℤ}
    {Q : Except Exn ℤ → Frame → CanEffect → Prop}
    (h : ∀ d, Op.Triple (canView t special b) .none m
      { f with this := { f.this with mPeerDisconnected := d } } Q) :
    Op.Triple (canView t special b) .none (noteRdHup revents >>= fun _ => m) f Q :=
  .bind (.ite (fun _ => .modify (h true)) fun _ => .pure (h f.this.mPeerDisconnected))

theorem canTimedReceive_spec (len : ℕ) (timeout : ℤ) :
    CanSpec t special (.timedReceive len timeout) := by
  intro b f
  refine .asInt (.bind (triple_pollReceive fun r => ?_))
  refine .ite (fun _ => .pure (Or.inr ⟨rfl, rfl, Or.inl rfl⟩)) fun h0 =>
    .ite (fun _ => .throwSocket fun x => canEffect_error x) fun hneg =>
      triple_noteRdHup fun d => .ite (fun _ => ?_) fun _ => ?_
  · exact triple_canRecv (fun x => canEffect_error x) fun m => Or.inl ⟨m, rfl, rfl, rfl⟩
  · have hone : pollCount r = 1 := by
      unfold pollCount at h0 hneg ⊢
      split at h0 <;> simp_all
    exact .pure (Or.inr ⟨rfl, rfl, Or.inr (congrArg Value.int hone)⟩)

/-- `receiveFrom` takes a frame and names its interface, or throws. -/
theorem triple_canReceive {len : ℕ} {Q : Except Exn ℤ → Frame → CanEffect → Prop}
    (herr : ∀ x, Q (.error x) f .none)
    (htook : ∀ m : CanMessage, Q (.ok (min len canFrameSize : ℕ))
      { f with
        buffer := overwrite f.buffer (m.frame.bytes.take len)
        source := m.interface } (.took f.this.mSocket m)) :
    Op.Triple (canView t special b) .none (CANRawSocket.receiveFrom len) f Q := by
  refine .bind (.libIgnored (canView_ignores fun _ _ _ hs => hs.2) fun _ addr₀ _ _ _ => ?_)
  refine .onFd (.bind (.sys (fun k r k' hk hs ha => ?_) fun k r k' hk hs _ => ?_))
  · cases r with
    | ok got => cases ha
    | error x =>
      obtain rfl : k' = k := hs.2
      exact hk
  · cases r with
    | error x =>
      obtain rfl : k' = k := hs.2
      refine ⟨.none, hk, .bind (.modify (.ite (fun _ => .throwSocket herr) fun h => ?_))⟩
      exact absurd toInt_error_neg h
    | ok got =>
      obtain ⟨got, addr⟩ := got
      obtain ⟨m, hbytes, hindex, htakes⟩ := hs
      have hlen : got.bytes.length = min len canFrameSize := by
        rw [hbytes, List.length_take, m.frame.bytes_length]
      have hret : toInt (got.bytes.length : ℕ) = (min len canFrameSize : ℕ) := by
        rw [hlen, toInt_frame]
      have h := htook m
      rw [← hret, ← hbytes] at h
      refine ⟨_, canView_took hk htakes, .bind (.modify (.ite
        (fun hneg => absurd (hret ▸ hneg) (by omega)) fun _ => .bind (.onFd (.bind ?_))))⟩
      refine (triple_getInterfaceName canView_serves).mono ?_
      rintro r f' eff ⟨rfl, rfl, hname⟩
      have hok := (hname (t.positive _ _ hindex).le (t.le_intMax _ _ hindex) m.interface).2
        (InterfaceTable.name_eq_some_iff.2 hindex)
      subst hok
      exact .modify (.pure h)

theorem canReceiveFrom_spec (len : ℕ) : CanSpec t special (.canReceiveFrom len) := fun _ _ =>
  .asInt (triple_canReceive (fun x => canEffect_error x) fun m => ⟨m, rfl, rfl, rfl⟩)

theorem canTimedReceiveFrom_spec (len : ℕ) (timeout : ℤ) :
    CanSpec t special (.canTimedReceiveFrom len timeout) := by
  intro b f
  refine .asInt (.bind (triple_pollReceive fun r => ?_))
  refine .ite (fun _ => .pure (Or.inr ⟨rfl, rfl, rfl⟩)) fun _ =>
    .ite (fun _ => .throwSocket fun x => canEffect_error x) fun _ =>
      triple_noteRdHup fun d => .ite (fun _ => ?_) fun _ => .pure (Or.inr ⟨rfl, rfl, rfl⟩)
  exact triple_canReceive (fun x => canEffect_error x) fun m => Or.inl ⟨m, rfl, rfl, rfl⟩

/-! ### Operations that do nothing on the bus -/

theorem canDisconnect_spec : CanSpec t special .disconnect := by
  intro b f
  refine .asUnit (.onFd (.checkedErrno (fun k x k' hk hs => ?_) fun k x k' hk hs => ?_))
  · obtain rfl : k' = k := hs.2
    refine ⟨.none, hk, .ite (fun _ => .throwSocket fun x => canEffect_error x) fun _ => ?_⟩
    exact .modify ⟨rfl, rfl⟩
  · obtain rfl : k' = k := hs.2
    exact ⟨.none, hk, .pure ⟨rfl, rfl⟩⟩

theorem canShutdown_spec (type : ShutdownDirection) : CanSpec t special (.shutdown type) := by
  intro b f
  refine .asUnit (.onFd (.checked (fun k x k' hk hs => ?_) fun k x k' hk hs => ?_))
  · obtain rfl : k' = k := hs.2
    exact ⟨.none, hk, fun x => canEffect_error x⟩
  · obtain rfl : k' = k := hs.2
    exact ⟨.none, hk, .pure ⟨rfl, rfl⟩⟩

theorem canConnect_spec (interface : Str) : CanSpec t special (.canConnect interface) := by
  intro b f
  refine .asUnit (.onFd (.bind (triple_index.mono ?_)))
  rintro r f' eff ⟨rfl, rfl, -⟩
  cases r with
  | error x => exact canEffect_error x
  | ok i =>
    refine .checked (fun k x k' hk hs => ?_) fun k x k' hk hs => ?_
    · obtain rfl : k' = k := hs.2
      exact ⟨.none, hk, fun x => canEffect_error x⟩
    · obtain rfl : k' = k := hs.2
      exact ⟨.none, hk, .pure ⟨rfl, rfl⟩⟩

/-- The name of the interface of an address that the kernel reports. -/
theorem triple_reported {op : Operation} {k : CanMedium special}
    (hk : (canView t special b).rel .none k) {addr : SockaddrCan} (fd : ℤ)
    (h : ∀ r : Except Exn Str,
      op.canEffect f.this.mSocket b.config f.vars f.vars (r.map .str) .none) :
    ∃ eff, (canView t special b).rel eff k ∧
      Op.Triple (canView t special b) eff (CANSocket.getInterfaceName fd addr) f fun r f' eff =>
        op.canEffect f.this.mSocket b.config f.vars f'.vars (r.map .str) eff := by
  refine ⟨.none, hk, (triple_getInterfaceName canView_serves).mono ?_⟩
  rintro r f' eff ⟨rfl, rfl, -⟩
  exact h r

theorem getLocalInterface_spec : CanSpec t special .getLocalInterface := by
  refine fun b f => .asStr (.onThis (.sysOnce (fun k x k' hk hs => ?_) fun k x k' hk hs => ?_))
  · obtain rfl : k' = k := hs.2
    exact ⟨.none, hk, .throwSocket fun x => canEffect_error x⟩
  · obtain rfl : k' = k := hs.2
    exact triple_reported hk _ fun r => by cases r <;> exact ⟨rfl, rfl⟩

theorem getForeignInterface_spec : CanSpec t special .getForeignInterface := by
  refine fun b f => .asStr (.onThis (.sysOnce (fun k x k' hk hs => ?_) fun k x k' hk hs => ?_))
  · obtain rfl : k' = k := hs.2
    exact ⟨.none, hk, .throwSocket fun x => canEffect_error x⟩
  · obtain rfl : k' = k := hs.2
    exact triple_reported hk _ fun r => by cases r <;> exact ⟨rfl, rfl⟩

/-- Every operation of a CAN socket. -/
theorem can_spec : ∀ op : Operation, op.isCan = true → CanSpec t special op
  | .send data, _ => canSend_spec data
  | .receive len, _ => canReceive_spec len
  | .timedReceive len timeout, _ => canTimedReceive_spec len timeout
  | .disconnect, _ => canDisconnect_spec
  | .shutdown type, _ => canShutdown_spec type
  | .canConnect interface, _ => canConnect_spec interface
  | .canBind interface, _ => canBind_spec interface
  | .getLocalInterface, _ => getLocalInterface_spec
  | .getForeignInterface, _ => getForeignInterface_spec
  | .canSendTo data interface, _ => canSendTo_spec data interface
  | .canReceiveFrom len, _ => canReceiveFrom_spec len
  | .canTimedReceiveFrom len timeout, _ => canTimedReceiveFrom_spec len timeout
  | .canSetReceiveFilter ptrSize filter len, _ => canSetReceiveFilter_spec ptrSize filter len
  | .canSetErrorFilter ptrSize filter len, _ => canSetErrorFilter_spec ptrSize filter len
  | .canSetLocalLoopback enable, _ => canSetLocalLoopback_spec enable
  | .canSetReceiveOwnMessages enable, _ => canSetReceiveOwnMessages_spec enable

/-- A call has one effect on the bus, which its outcome tells. -/
theorem can_call {ι : Type} [DecidableEq ι] {c : ι × Invocation} {socks socks' : ι → SimpleSocket}
    {tr : List Event} {o : Outcome} {k k' : CanMedium special} (hc : c.2.op.isCan = true)
    (hr : Runs (onFamily invoke c socks) tr (o, socks')) (hk : (canBus t special).Accepts k tr k') :
    ∃ eff, CanDoes ⟨c, socks, tr, o, socks'⟩ k.config eff ∧
      Medium.During CanMessage.foreign k eff k' := by
  obtain ⟨this', hr, -⟩ := onFamily_runs hr
  obtain ⟨eff, hd, heff⟩ := (can_spec (t := t) c.2.op hc k _).invoke (Medium.During.refl k) hr hk
  exact ⟨eff, heff, hd⟩

end Calls

end NET
