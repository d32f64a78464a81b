import SimpleSocket.Net.UnixSocket
import SimpleSocket.Verify.Calls
import SimpleSocket.Verify.InterfaceSettings

/-!
# How names are handed to the kernel

The three encoders check the length of a string and copy it to the start of a struct whose other
bytes are what the memory held. The kernel stops at the first NUL, except in a Unix address that
begins with one: there the memory behind it is part of the name. So two strings are told apart
exactly if they differ before a NUL (`Encoder.Keeps`), and the empty path is not even told from
itself.
-/

namespace NET

open Op Interact SimpleSocket

/-! ## What the kernel reads -/

inductive KernelName
  | path (s : Str)
  | abstract (bytes : List UInt8)
  | interface (s : Str)
  | allInterfaces
  deriving DecidableEq

/-- A Unix address of full size. -/
def KernelName.ofUn (addr : SockaddrUn) : KernelName :=
  if addr.sunPath.head? = some 0 then abstract addr.sunPath else path (cStr addr.sunPath)

/-- The names in the arguments of a call. -/
def shown : Call → List KernelName
  | .sys _ (.connect _ (.un addr)) => [.ofUn addr]
  | .sys _ (.bind _ (.un addr)) => [.ofUn addr]
  | .sys _ (.sendto _ _ (.un addr)) => [.ofUn addr]
  | .sys _ (.ioctl _ _ ifr) => [.interface (cStr ifr.ifrName)]
  | _ => []

/-! ## The encoders -/

inductive Encoder
  | unix
  | ifreq
  | can

/-- The operations that encode the path `s`. -/
inductive EncodesPath (s : Str) : Operation → Prop
  | connect : EncodesPath s (.unixConnect s)
  | bind : EncodesPath s (.unixBind s)
  | sendTo (data : List UInt8) : EncodesPath s (.unixSendTo data s)

namespace Encoder

/-- The strings that are accepted are shorter than the array. -/
def size : Encoder → ℕ
  | unix => sunPathSize
  | ifreq => ifNameSize
  | can => ifNameSize

/-- The kernel sees the name `n` in some run that encodes `s`. `getInterfaceIndex` has the index 0
for all interfaces without a call. -/
def Hands : Encoder → Str → KernelName → Prop
  | unix, s, n => ∃ (c : Invocation) (this : SimpleSocket) (tr : List Event)
    (x : Outcome × SimpleSocket),
    EncodesPath s c.op ∧ Runs (invoke c this) tr x ∧ ∃ e ∈ tr, n ∈ shown e.call
  | ifreq, s, n => ∃ (u : Utility) (err : Errno) (tr : List Event)
    (x : Except Exn Utility.Result × Errno),
    u.interface = some s ∧ Runs (u.run err) tr x ∧ ∃ e ∈ tr, n ∈ shown e.call
  | can, s, n => ∃ (fd : ℤ) (st st' : Proc Frame) (tr : List Event) (r : Except Exn ℤ),
    Runs (CANSocket.getInterfaceIndex fd s st) tr (r, st') ∧
      ((∃ e ∈ tr, n ∈ shown e.call) ∨ (n = .allInterfaces ∧ tr = [] ∧ r = .ok 0))

/-- The names of a string that is accepted, over all contents of the memory. -/
def Encodes : Encoder → Str → KernelName → Prop
  | unix, s, n => ∃ mem : List UInt8, mem.length = sunPathSize ∧ n = .ofUn ⟨afLocal, strcpy mem s⟩
  | ifreq, s, n => n = .interface (cStr s)
  | can, s, n => n = if s = [] then .allInterfaces else .interface (cStr s)

/-- The strings are told apart, and each is always the same name. -/
def Faithful (e : Encoder) (s s' : Str) : Prop :=
  ∀ n n', e.Hands s n → e.Hands s' n' → (n = n' ↔ s = s')

/-- They differ before a NUL, or are equal and, as paths, not empty. -/
def Keeps : Encoder → Str → Str → Prop
  | unix, s, s' => cStr s = cStr s' → s = s' ∧ cStr s ≠ []
  | ifreq, s, s' => cStr s = cStr s' → s = s'
  | can, s, s' => cStr s = cStr s' → s = s' ∨ s = [] ∨ s' = []

end Encoder

/-! ## Paths -/

section Unix

variable {s : Str}

theorem ofUn_strcpy_path (h : cStr s ≠ []) (family : ℕ) (mem : List UInt8) :
    KernelName.ofUn ⟨family, strcpy mem s⟩ = .path (cStr s) := by
  have hhead : (strcpy mem s).head? ≠ some 0 := by
    obtain ⟨b, t, hcons⟩ := List.exists_cons_of_ne_nil h
    intro h0
    apply cStr_no_nul s
    unfold strcpy overwrite at h0
    rw [hcons] at h0 ⊢
    rw [List.cons_append, List.cons_append, List.head?_cons, Option.some_inj] at h0
    rw [h0]
    exact List.mem_cons_self
  unfold KernelName.ofUn
  rw [if_neg hhead, cStr_strcpy]

/-- The memory behind the first byte is part of the name. -/
theorem ofUn_strcpy_nil (h : cStr s = []) (family : ℕ) (mem : List UInt8) :
    KernelName.ofUn ⟨family, strcpy mem s⟩ = .abstract (0 :: mem.drop 1) := by
  have hcopy : strcpy mem s = 0 :: mem.drop 1 := by
    unfold strcpy overwrite
    rw [h]
    rfl
  unfold KernelName.ofUn
  rw [hcopy]
  exact if_pos rfl

/-- The local struct of a path that fits. -/
theorem unixLocalAddress_eq {τ : Type} (h : s.length < sunPathSize) :
    (UnixSocket.localAddress s : Op τ SockaddrUn) = (do
      let addr ← lib .uninitUn
      return ⟨afLocal, strcpy addr.1.sunPath s⟩) := by
  unfold UnixSocket.localAddress UnixSocket.fillAddress
  rw [if_neg (Nat.not_le.2 h)]
  rfl

theorem Op.Can.unixLocalAddress {K : Kernel posix} {τ : Type} {k : K.State}
    {Q : SockaddrUn → K.State → Prop} (h : s.length < sunPathSize) (mem : Lib.Val .uninitUn)
    (hs : K.step k (Event.lib .uninitUn mem) k) (hQ : Q ⟨afLocal, strcpy mem.1.sunPath s⟩ k) :
    Op.Can K k (UnixSocket.localAddress s : Op τ SockaddrUn) Q := by
  rw [unixLocalAddress_eq h]
  exact .bind (.lib mem hs (.pure hQ))

/-- Every call that an operation makes after it has encoded the path shows it. -/
theorem makes_localAddress {f : SockaddrUn → Method Unit} (h : s.length < sunPathSize)
    (hf : ∀ addr, Encoder.unix.Encodes s (.ofUn addr) →
      (f addr).Makes fun e => ∀ n ∈ shown e.call, Encoder.unix.Encodes s n) :
    (UnixSocket.localAddress s >>= f).Makes fun e =>
      ∀ n ∈ shown e.call, Encoder.unix.Encodes s n := by
  apply Op.Makes.bindOf _ hf
  intro st
  apply (wp_unixLocalAddress s).2
  intro b mem
  rw [if_neg (Nat.not_le.2 h)]
  refine ⟨List.forall_mem_singleton.2 fun n hn => (by cases hn), fun addr haddr => ?_⟩
  rw [← Except.ok.inj haddr]
  exact ⟨mem.1.sunPath, mem.2, rfl⟩

theorem encodesPath_makes {op : Operation} (hop : EncodesPath s op) (h : s.length < sunPathSize) :
    op.body.Makes fun e => ∀ n ∈ shown e.call, Encoder.unix.Encodes s n := by
  have hnone : ∀ n ∈ ([] : List KernelName), Encoder.unix.Encodes s n := List.forall_mem_nil _
  cases hop with
  | connect =>
    refine .bind ?_ fun _ => .pure _
    refine makes_localAddress h fun addr haddr => .bind .thisSocket fun fd => ?_
    exact .checked (fun r => List.forall_mem_singleton.2 haddr) (.pure _)
  | bind =>
    refine .bind ?_ fun _ => .pure _
    refine makes_localAddress h fun addr haddr => .bind (.sys _ fun r => hnone) fun _ => ?_
    refine .bind .thisSocket fun fd => ?_
    exact .checked (fun r => List.forall_mem_singleton.2 haddr) (.pure _)
  | sendTo data =>
    refine .bind ?_ fun _ => .pure _
    refine makes_localAddress h fun addr haddr => .bind .thisSocket fun fd => ?_
    refine .bind (.sys _ fun r => List.forall_mem_singleton.2 haddr) fun r => ?_
    exact .ite (.throwSocket _ _) (.pure _)

/-- A connect shows the path in any memory. -/
theorem can_connectPath (h : s.length < sunPathSize) {mem : List UInt8}
    (hmem : mem.length = sunPathSize) :
    Op.Can (.log (fun _ => True) fun e => shown e.call) [] (Operation.unixConnect s).body
      fun _ names => names = [.ofUn ⟨afLocal, strcpy mem s⟩] := by
  refine .bind (.bind (.unixLocalAddress h ⟨⟨0, mem⟩, hmem⟩ (Kernel.log_quiet trivial rfl) ?_))
  refine .bind (.bind (.get fun v => .pure (.bind ?_)))
  exact .sys (.ok ()) rfl (Kernel.log_noted trivial rfl) (.pure (.pure rfl))

end Unix

/-! ## Interface names -/

section Ifreq

variable {s : Str} {τ α : Type}

/-- The events show no other name than that of `s`. -/
def ShowsInterface (s : Str) (e : Event) : Prop := ∀ n ∈ shown e.call, n = .interface (cStr s)

/-- A request for a struct with the name. -/
theorem showsInterface_ioctl {ifr : Ifreq} (h : cStr ifr.ifrName = cStr s) (fd request : ℤ)
    (r : Except Errno Ifreq) : ShowsInterface s (Event.sys .once (.ioctl fd request ifr) r) :=
  List.forall_mem_singleton.2 (congrArg KernelName.interface h)

theorem makes_localIfreq {f : Ifreq → Op τ α} (h : s.length < ifNameSize)
    (hf : ∀ ifr : Ifreq, cStr ifr.ifrName = cStr s → (f ifr).Makes (ShowsInterface s)) :
    (SocketUtils.localIfreq s >>= f).Makes (ShowsInterface s) := by
  apply Op.Makes.bindOf _ hf
  intro st
  rw [localIfreq_eq h, wp_bind]
  apply wp_lib.2
  intro b mem
  refine ⟨List.forall_mem_singleton.2 (List.forall_mem_nil _), fun ifr hifr => ?_⟩
  rw [← Except.ok.inj hifr]
  exact Ifreq.cStr_assign mem.1 s

theorem makes_withTempSocket {body : ℤ → Op τ α}
    (hbody : ∀ fd, (body fd).Makes (ShowsInterface s)) :
    (SocketUtils.withTempSocket body).Makes (ShowsInterface s) := by
  unfold SocketUtils.withTempSocket SimpleSocket.new SimpleSocket.destroy
  refine .bind (.bindSys (fun r => List.forall_mem_nil _) (fun e => .throwSocket _ _)
    fun fd => .pure _) fun sock => ?_
  refine .finally' (hbody sock.mSocket) ?_
  exact .bind (.sys _ fun r => List.forall_mem_nil _) fun _ => .pure _

theorem makes_getSetting {request : ℤ} {failure : String} {read : Ifreq → Op τ α}
    (h : s.length < ifNameSize) (hread : ∀ ifr, (read ifr).Makes (ShowsInterface s)) :
    (SocketUtils.getSetting request failure read s).Makes (ShowsInterface s) := by
  refine makes_localIfreq h fun ifr hifr => makes_withTempSocket fun fd => ?_
  exact .bindSys (showsInterface_ioctl hifr fd request) (fun e => .throwSocket _ _) hread

/-- What `write` changes is not the name. -/
theorem makes_setSetting {request : ℤ} {failure : String} {write : Ifreq → Op τ Ifreq}
    (h : s.length < ifNameSize)
    (hwrite : ∀ ifr st, (write ifr).wp (fun as r _ => (∀ a ∈ as, ShowsInterface s a.2) ∧
      ∀ ifr', r = .ok ifr' → ifr'.ifrName = ifr.ifrName) st) :
    (SocketUtils.setSetting request failure write s).Makes (ShowsInterface s) := by
  refine makes_localIfreq h fun ifr hifr => .bindOf (hwrite ifr) fun ifr' hname => ?_
  refine makes_withTempSocket fun fd => .checked (showsInterface_ioctl ?_ fd request) (.pure _)
  rw [hname, hifr]

theorem wp_writeAddress_name (address : Str) (ifr : Ifreq) (st : Proc τ) :
    (SocketUtils.writeAddress address ifr).wp (fun as r _ => (∀ a ∈ as, ShowsInterface s a.2) ∧
      ∀ ifr', r = .ok ifr' → ifr'.ifrName = ifr.ifrName) st := by
  unfold SocketUtils.writeAddress
  rw [wp_bind]
  apply wp_lib.2
  intro b parsed
  cases parsed with
  | some a =>
    refine ⟨List.forall_mem_singleton.2 (List.forall_mem_nil _), fun ifr' h => ?_⟩
    rw [← Except.ok.inj h]
    rfl
  | none =>
    refine ⟨List.forall_mem_singleton.2 (List.forall_mem_nil _), fun ifr' h => ?_⟩
    rw [← Except.ok.inj h]

theorem utility_makes {u : Utility} (hu : u.interface = some s) (h : s.length < ifNameSize) :
    (u.body : Op τ Utility.Result).Makes (ShowsInterface s) := by
  have hread : ∀ {β : Type} (field : Ifreq → β) (ifr : Ifreq),
      (Pure.pure (field ifr) : Op τ β).Makes (ShowsInterface s) := fun field ifr => .pure _
  cases u with
  | resolveHostname hostname => cases hu
  | resolveService service protocol => cases hu
  | getNetworkInterfaces => cases hu
  | getInterfaceAddress i | getBroadcastAddress i | getNetmask i | getDestinationAddress i
  | getMTU i =>
    obtain rfl := Option.some.inj hu
    exact .bind (makes_getSetting h (hread _)) fun _ => .pure _
  | setInterfaceAddress i address | setBroadcastAddress i address | setNetmask i address
  | setDestinationAddress i address =>
    obtain rfl := Option.some.inj hu
    exact .bind (makes_setSetting h (wp_writeAddress_name address)) fun _ => .pure _
  | setMTU i mtu =>
    obtain rfl := Option.some.inj hu
    refine .bind (makes_setSetting h fun ifr st => ⟨List.forall_mem_nil _, fun ifr' h => ?_⟩)
      fun _ => .pure _
    rw [← Except.ok.inj h]
    rfl
  | getHardwareAddress i c =>
    obtain rfl := Option.some.inj hu
    exact .bind (makes_getSetting h fun ifr => .ite (.pure _) (.throwSocket _ _)) fun _ => .pure _

/-- A request for the MTU shows the name. -/
theorem can_getMTU_name (h : s.length < ifNameSize) :
    Op.Can (.log (fun _ => True) fun e => shown e.call) []
      ((Utility.getMTU s).body : Op Unit Utility.Result)
      fun _ names => names = [.interface (cStr s)] := by
  refine .bind (.bind (.localIfreq h Ifreq.zero (Kernel.log_quiet trivial rfl) ?_))
  refine .withTempSocket (Kernel.log_quiet trivial rfl) (fun _ => Kernel.log_quiet trivial rfl) ?_
  refine .bind (.sys (.ok ⟨[], []⟩) rfl (Kernel.log_noted trivial rfl) (.pure (.pure ?_)))
  exact congrArg (fun name : Str => [KernelName.interface name]) (Ifreq.cStr_assign _ s)

end Ifreq

/-! ## The names of CAN interfaces -/

section Can

variable {s : Str}

theorem getInterfaceIndex_nil (fd : ℤ) (st : Proc Frame) :
    CANSocket.getInterfaceIndex fd [] st = .ret (.ok 0, st) := rfl

theorem getInterfaceIndex_makes (hne : s ≠ []) (h : s.length < ifNameSize) (fd : ℤ) :
    (CANSocket.getInterfaceIndex fd s : Method ℤ).Makes (ShowsInterface s) := by
  unfold CANSocket.getInterfaceIndex
  rw [if_neg hne, if_neg (Nat.not_le.2 h)]
  refine .bind (.lib fun mem => List.forall_mem_nil _) fun ifr => ?_
  exact .bindSys (showsInterface_ioctl (cStr_strcpy _ _) fd siocgifindex)
    (fun e => .throwSocket _ _) fun ifr' => .pure _

theorem can_getInterfaceIndex (hne : s ≠ []) (h : s.length < ifNameSize) (fd : ℤ) :
    Op.Can (.log (fun _ => True) fun e => shown e.call) []
      (CANSocket.getInterfaceIndex fd s : Method ℤ)
      fun _ names => names = [.interface (cStr s)] := by
  unfold CANSocket.getInterfaceIndex
  rw [if_neg hne, if_neg (Nat.not_le.2 h)]
  refine .bind (.lib Ifreq.zero (Kernel.log_quiet trivial rfl) ?_)
  refine .bind (.sys (.ok ⟨[], []⟩) rfl (Kernel.log_noted trivial rfl) (.pure ?_))
  exact congrArg (fun name : Str => [KernelName.interface name]) (cStr_strcpy _ s)

end Can

/-! ## What the encoders keep -/

namespace Encoder

section Hands

variable {s : Str} {n : KernelName}

theorem hands_unix_iff (h : s.length < sunPathSize) : unix.Hands s n ↔ unix.Encodes s n := by
  constructor
  · intro hands
    obtain ⟨c, this, tr, ⟨o, this'⟩, hop, hr, e, he, hn⟩ := hands
    obtain ⟨s', hbody, -⟩ := invoke_runs hr
    exact Op.Makes.all_of_runs (C := fun c => ∀ n ∈ shown c, unix.Encodes s n)
      (encodesPath_makes hop h) hbody e he n hn
  · intro hn
    obtain ⟨mem, hmem, rfl⟩ := hn
    let c : Invocation := ⟨.unixConnect s, ⟨[], [], 0, 0, 0⟩, 0⟩
    obtain ⟨tr, x, s', hr, -, hnames⟩ := (can_connectPath h hmem).log_runs (c.start ⟨3, false⟩)
    have hshown := List.mem_flatMap.1 (hnames ▸ List.mem_singleton.2 rfl)
    exact ⟨c, _, tr, _, .connect, runs_invoke hr, hshown⟩

theorem hands_ifreq_iff (h : s.length < ifNameSize) : ifreq.Hands s n ↔ ifreq.Encodes s n := by
  constructor
  · intro hands
    obtain ⟨u, err, tr, ⟨x, err'⟩, hu, hr, e, he, hn⟩ := hands
    obtain ⟨tr₁, tr₂, ⟨r, s'⟩, rfl, h₁, h₂⟩ := Runs.bind_inv hr
    obtain ⟨rfl, -⟩ := Runs.ret_inv h₂
    rw [List.append_nil] at he
    exact Op.Makes.all_of_runs (C := fun c => ∀ n ∈ shown c, n = .interface (cStr s))
      (utility_makes hu h) h₁ e he n hn
  · intro hn
    obtain ⟨tr, x, s', hr, -, hnames⟩ := (can_getMTU_name h).log_runs ⟨0, ()⟩
    have hshown := List.mem_flatMap.1 (hnames ▸ List.mem_singleton.2 hn)
    exact ⟨.getMTU s, 0, tr, _, rfl, Trace.bind hr _, hshown⟩

theorem encodes_can_of_ne_nil (hne : s ≠ []) : can.Encodes s n ↔ n = .interface (cStr s) := by
  change (n = if s = [] then .allInterfaces else .interface (cStr s)) ↔ _
  rw [if_neg hne]

theorem hands_can_iff (h : s.length < ifNameSize) : can.Hands s n ↔ can.Encodes s n := by
  let st₀ : Proc Frame := ⟨0, ⟨⟨3, false⟩, [], [], 0, 0, 0⟩⟩
  by_cases hnil : s = []
  · subst hnil
    constructor
    · intro hands
      obtain ⟨fd, st, st', tr, r, hr, hn⟩ := hands
      rw [getInterfaceIndex_nil] at hr
      obtain ⟨rfl, -⟩ := Runs.ret_inv hr
      rcases hn with ⟨e, he, -⟩ | ⟨rfl, -⟩
      · cases he
      · rfl
    · intro hn
      exact ⟨3, st₀, st₀, [], _, .nil _, Or.inr ⟨hn, rfl, rfl⟩⟩
  · rw [encodes_can_of_ne_nil hnil]
    constructor
    · intro hands
      obtain ⟨fd, st, st', tr, r, hr, hn⟩ := hands
      have hall := Op.Makes.all_of_runs (C := fun c => ∀ n ∈ shown c, n = .interface (cStr s))
        (getInterfaceIndex_makes hnil h fd) hr
      rcases hn with ⟨e, he, hn⟩ | ⟨-, rfl, -⟩
      · exact hall e he n hn
      · -- a name that is not empty is looked up
        exfalso
        apply hr.settled_ne_nil _ rfl
        intro x hx
        unfold CANSocket.getInterfaceIndex at hx
        rw [if_neg hnil, if_neg (Nat.not_le.2 h)] at hx
        cases hx
    · intro hn
      obtain ⟨tr, x, st', hr, -, hnames⟩ := (can_getInterfaceIndex hnil h 3).log_runs st₀
      have hshown := List.mem_flatMap.1 (hnames ▸ List.mem_singleton.2 hn)
      exact ⟨3, st₀, st', tr, _, hr, Or.inl hshown⟩

/-- The kernel sees the names that are encoded, and no others. -/
theorem hands_iff {e : Encoder} (h : s.length < e.size) : e.Hands s n ↔ e.Encodes s n := by
  cases e with
  | unix => exact hands_unix_iff h
  | ifreq => exact hands_ifreq_iff h
  | can => exact hands_can_iff h

end Hands

section Faithful

variable {s s' : Str}

/-- The empty path has a name for every content of the memory. -/
theorem encodes_unix_nil (h : cStr s = []) (b : UInt8) :
    unix.Encodes s (.abstract (0 :: List.replicate 107 b)) := by
  refine ⟨List.replicate 108 b, List.length_replicate, ?_⟩
  rw [ofUn_strcpy_nil h]
  rfl

theorem encodes_unix_path (h : cStr s ≠ []) {n : KernelName} :
    unix.Encodes s n ↔ n = .path (cStr s) := by
  constructor
  · intro hn
    obtain ⟨mem, -, rfl⟩ := hn
    exact ofUn_strcpy_path h _ mem
  · intro hn
    refine ⟨List.replicate 108 0, List.length_replicate, ?_⟩
    rw [hn, ofUn_strcpy_path h]

/-- Strings that are always seen as one name. -/
theorem forall_names_iff {N N' : KernelName} :
    (∀ n n', n = N → n' = N' → (n = n' ↔ s = s')) ↔ (N = N' ↔ s = s') := by
  constructor
  · intro h
    exact h N N' rfl rfl
  · intro h n n' hn hn'
    rw [hn, hn']
    exact h

theorem keeps_unix_iff : unix.Keeps s s' ↔
    ∀ n n', unix.Encodes s n → unix.Encodes s' n' → (n = n' ↔ s = s') := by
  by_cases hnil : cStr s = []
  · by_cases hnil' : cStr s' = []
    · -- the names are those of the memory, whatever the strings are
      refine iff_of_false (fun h => (h (hnil.trans hnil'.symm)).2 hnil) fun h => ?_
      have hsame := h _ _ (encodes_unix_nil hnil 1) (encodes_unix_nil hnil' 1)
      have hother := h _ _ (encodes_unix_nil hnil 1) (encodes_unix_nil hnil' 2)
      exact absurd (hother.2 (hsame.1 rfl)) (by decide)
    · refine iff_of_true (fun h => absurd (h.symm.trans hnil) hnil') ?_
      intro n n' hn hn'
      obtain ⟨mem, -, rfl⟩ := hn
      rw [encodes_unix_path hnil'] at hn'
      rw [ofUn_strcpy_nil hnil, hn']
      refine iff_of_false (fun h => by cases h) ?_
      rintro rfl
      exact hnil' hnil
  · by_cases hnil' : cStr s' = []
    · refine iff_of_true (fun h => absurd (h.trans hnil') hnil) ?_
      intro n n' hn hn'
      obtain ⟨mem, -, rfl⟩ := hn'
      rw [encodes_unix_path hnil] at hn
      rw [ofUn_strcpy_nil hnil', hn]
      refine iff_of_false (fun h => by cases h) ?_
      rintro rfl
      exact hnil hnil'
    · simp only [encodes_unix_path hnil, encodes_unix_path hnil', forall_names_iff,
        KernelName.path.injEq]
      constructor
      · intro h
        exact ⟨fun hc => (h hc).1, congrArg cStr⟩
      · intro h hc
        exact ⟨h.1 hc, hnil⟩

theorem keeps_ifreq_iff : ifreq.Keeps s s' ↔
    ∀ n n', ifreq.Encodes s n → ifreq.Encodes s' n' → (n = n' ↔ s = s') := by
  unfold Keeps Encodes
  rw [forall_names_iff, KernelName.interface.injEq]
  exact ⟨fun h => ⟨h, congrArg cStr⟩, fun h => h.1⟩

theorem keeps_can_iff : can.Keeps s s' ↔
    ∀ n n', can.Encodes s n → can.Encodes s' n' → (n = n' ↔ s = s') := by
  unfold Keeps Encodes
  rw [forall_names_iff]
  by_cases hnil : s = []
  · subst hnil
    by_cases hnil' : s' = []
    · subst hnil'
      simp
    · simp [hnil', eq_comm]
  · by_cases hnil' : s' = []
    · subst hnil'
      simp [hnil]
    · simp only [hnil, hnil', if_false, or_false, KernelName.interface.injEq]
      exact ⟨fun h => ⟨h, congrArg cStr⟩, fun h => h.1⟩

theorem faithful_iff_encodes {e : Encoder} (hs : s.length < e.size) (hs' : s'.length < e.size) :
    e.Faithful s s' ↔ ∀ n n', e.Encodes s n → e.Encodes s' n' → (n = n' ↔ s = s') := by
  simp only [Faithful, hands_iff hs, hands_iff hs']

end Faithful

end Encoder

/-- **When names are encoded faithfully.** Two accepted strings are told apart by the kernel, and
each is always seen as the same name, exactly if they differ before a NUL or are equal; except that
the empty path is not even seen as one name, and that the empty CAN name is a case of its own. -/
theorem names_faithful_iff (e : Encoder) {s s' : Str} (hs : s.length < e.size)
    (hs' : s'.length < e.size) : e.Faithful s s' ↔ e.Keeps s s' := by
  rw [Encoder.faithful_iff_encodes hs hs']
  cases e with
  | unix => exact Encoder.keeps_unix_iff.symm
  | ifreq => exact Encoder.keeps_ifreq_iff.symm
  | can => exact Encoder.keeps_can_iff.symm

/-- The paths `a` and `b`. -/
theorem names_faithful_paths : Encoder.unix.Faithful [97] [98] :=
  (names_faithful_iff .unix (by decide) (by decide)).2 fun h => absurd h (by decide)

/-- The empty path is not seen as one name, and what follows a NUL is not seen. -/
theorem names_not_faithful : ¬Encoder.unix.Faithful [] [] ∧
    ¬Encoder.ifreq.Faithful [97] [97, 0, 98] ∧ ¬Encoder.can.Faithful [97] [97, 0, 98] := by
  refine ⟨fun h => ?_, fun h => ?_, fun h => ?_⟩
  · rw [Encoder.faithful_iff_encodes (by decide) (by decide)] at h
    exact (Encoder.keeps_unix_iff.2 h rfl).2 rfl
  · rw [Encoder.faithful_iff_encodes (by decide) (by decide)] at h
    exact absurd (Encoder.keeps_ifreq_iff.2 h (by decide)) (by decide)
  · rw [Encoder.faithful_iff_encodes (by decide) (by decide)] at h
    exact absurd (Encoder.keeps_can_iff.2 h (by decide)) (by decide)

end NET
