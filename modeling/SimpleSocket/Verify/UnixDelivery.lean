import SimpleSocket.Verify.UdpDelivery

/-!
# Addressing and delivery of Unix datagrams

The kernel keeps a map from paths to sockets, the path every socket is bound to, and a queue of
datagrams for every socket. Over runs of any number of sockets, a datagram goes to the socket that
was the last to bind its path, and carries the path of its sender. A call takes nothing, or sends
nothing, only when one of its system calls has failed or `poll` has reported nothing to read.

* `wp_*` and `Unix*` below: what each call does to the kernel's state.
* `UnixInv`: the kernel's maps are the history of the successful binds.
-/

namespace NET

open Op Interact SimpleSocket

/-- A path that fits into `sun_path` with its NUL. A path that fills `sun_path` is none: the kernel
takes it, but reports it with a length that is beyond the struct. -/
structure UnixPath where
  bytes : Str
  nonempty : bytes ≠ []
  no_nul : 0 ∉ bytes
  length_lt : bytes.length < sunPathSize
  deriving DecidableEq

namespace UnixPath

theorem ext {p q : UnixPath} (h : p.bytes = q.bytes) : p = q := by
  cases p
  cases q
  cases h
  rfl

theorem cStr_bytes (p : UnixPath) : cStr p.bytes = p.bytes := cStr_of_no_nul p.no_nul

end UnixPath

/-- A datagram in a queue, with the path its sender was bound to. -/
structure UnixDatagram where
  payload : List UInt8
  source : Option UnixPath

/-- The kernel's state: which socket a path leads to, the path a socket is bound to, its queue. -/
structure UnixState where
  file : UnixPath → Option ℤ
  name : ℤ → Option UnixPath
  queue : ℤ → Fifo UnixDatagram

namespace UnixState

def init : UnixState := ⟨fun _ => none, fun _ => none, fun _ => Fifo.empty⟩

def unlinked (k : UnixState) (p : UnixPath) : UnixState :=
  { k with file := Function.update k.file p none }

def boundTo (k : UnixState) (p : UnixPath) (fd : ℤ) : UnixState :=
  { k with
    file := Function.update k.file p (some fd)
    name := Function.update k.name fd (some p) }

def setQueue (k : UnixState) (fd : ℤ) (q : Fifo UnixDatagram) : UnixState :=
  { k with queue := Function.update k.queue fd q }

def putTo (k : UnixState) (fd : ℤ) (d : UnixDatagram) : UnixState :=
  k.setQueue fd ((k.queue fd).put [d])

@[simp] theorem unlinked_file (k : UnixState) (p : UnixPath) :
    (k.unlinked p).file = Function.update k.file p none := rfl

@[simp] theorem boundTo_file (k : UnixState) (p : UnixPath) (fd : ℤ) :
    (k.boundTo p fd).file = Function.update k.file p (some fd) := rfl

@[simp] theorem boundTo_name (k : UnixState) (p : UnixPath) (fd : ℤ) :
    (k.boundTo p fd).name = Function.update k.name fd (some p) := rfl

@[simp] theorem setQueue_queue (k : UnixState) (fd : ℤ) (q : Fifo UnixDatagram) :
    (k.setQueue fd q).queue = Function.update k.queue fd q := rfl

@[simp] theorem putTo_queue (k : UnixState) (fd : ℤ) (d : UnixDatagram) :
    (k.putTo fd d).queue = Function.update k.queue fd ((k.queue fd).put [d]) := rfl

theorem boundTo_unlinked (k : UnixState) (p : UnixPath) (fd : ℤ) :
    (k.unlinked p).boundTo p fd = k.boundTo p fd := by
  unfold unlinked boundTo
  rw [Function.update_idem]

end UnixState

/-- The name the kernel reports for a socket bound to a path. -/
def Reports (source : Option UnixPath) (name : UnName) : Prop :=
  ∀ p ∈ source, name = ⟨saFamilySize + p.bytes.length + 1, p.bytes ++ [0]⟩

/-- What the kernel does at an event; what fails does nothing. -/
def unixStep (k : UnixState) : Event → UnixState → Prop
  | ⟨.sys _ (.unlink path), .ok _⟩, k' =>
    k' = { k with file := fun p => if p.bytes = path then none else k.file p }
  | ⟨.sys _ (.bind fd (.un addr)), .ok _⟩, k' => ∃ p : UnixPath, cStr addr.sunPath = p.bytes ∧
    k.file p = none ∧ k.name fd = none ∧ k' = k.boundTo p fd
  | ⟨.sys _ (.sendto fd data (.un addr)), .ok n⟩, k' => ∃ (p : UnixPath) (j : ℤ),
    cStr addr.sunPath = p.bytes ∧ k.file p = some j ∧
      k' = k.putTo j ⟨data.take n.count, k.name fd⟩
  | ⟨.sys _ (.recvfrom fd len .un), .ok (got, name)⟩, k' => ∃ d q, (k.queue fd).Takes [d] q ∧
    got.bytes = d.payload.take len ∧ Reports d.source name ∧ k' = k.setQueue fd q
  | ⟨.sys _ (.getsockname fd .un), .ok (name : UnName)⟩, k' => Reports (k.name fd) name ∧ k' = k
  | _, k' => k' = k

def unixKernel : Kernel posix where
  State := UnixState
  step := unixStep
  idle _ _ := False

theorem unixStep_again {k k' : UnixState} {e : Event} (h : e.again = true)
    (hs : unixStep k e k') : k' = k := by
  obtain ⟨c, rfl⟩ := Event.eq_of_again h
  cases c with
  | bind fd addr => cases addr <;> exact hs
  | sendto fd data addr => cases addr <;> exact hs
  | recvfrom fd len kind => cases kind <;> exact hs
  | getsockname fd kind => cases kind <;> exact hs
  | _ => exact hs

section Accepts

variable {k k' : UnixState}

theorem unix_nil : unixKernel.Accepts k [] k' ↔ k' = k :=
  Kernel.Accepts.nil_iff fun _ _ => id

theorem unix_cons {e : Event} {tr : List Event} :
    unixKernel.Accepts k (e :: tr) k' ↔ ∃ k₁, unixStep k e k₁ ∧ unixKernel.Accepts k₁ tr k' :=
  Kernel.Accepts.cons_iff fun _ _ => id

/-- An event that does nothing. -/
theorem unix_cons_inert {e : Event} {tr : List Event} (h : unixKernel.Accepts k (e :: tr) k')
    (he : ∀ k k', unixStep k e k' → k' = k) : unixKernel.Accepts k tr k' := by
  obtain ⟨k₁, hs, ht⟩ := unix_cons.1 h
  rwa [he _ _ hs] at ht

theorem unlink_eq {p : UnixPath} {w : Retry} {r : Except Errno Unit}
    (h : unixStep k (Event.sys w (.unlink p.bytes) r) k') : k' = k ∨ k' = k.unlinked p := by
  cases r with
  | error e => exact Or.inl h
  | ok u =>
    refine Or.inr (h.trans ?_)
    unfold UnixState.unlinked
    congr 1
    funext q
    by_cases hq : q = p
    · rw [hq, if_pos rfl, Function.update_self]
    · rw [if_neg fun hb => hq (UnixPath.ext hb), Function.update_of_ne hq]

end Accepts

/-! ## The encoder and the decoder -/

/-- `fillAddress` writes the path and its NUL to the start of `sun_path`, and nothing else. -/
theorem strcpy_path (p : UnixPath) (dst : List UInt8) :
    strcpy dst p.bytes = p.bytes ++ 0 :: dst.drop (p.bytes.length + 1) := by
  simp [strcpy, overwrite, p.cStr_bytes]

/-- The path is read back from the struct. -/
theorem cStr_strcpy_path (p : UnixPath) (dst : List UInt8) :
    cStr (strcpy dst p.bytes) = p.bytes := by
  rw [cStr_strcpy, p.cStr_bytes]

/-- What `extractPath` returns or throws. -/
def extracted (addr : SockaddrUn) (len : ℕ) : Except Exn Str :=
  if maxSize < sizeSub (sizeSub len saFamilySize) 1 then .error .lengthError
  else .ok (addr.sunPath.take (sizeSub (sizeSub len saFamilySize) 1))

theorem wp_extractPath {τ : Type} {s : Proc τ}
    {Q : List (Answer posix) → Except Exn Str → Proc τ → Prop} (addr : SockaddrUn) (len : ℕ) :
    (UnixSocket.extractPath addr len).wp Q s ↔ Q [] (extracted addr len) s := by
  unfold UnixSocket.extractPath extracted
  dsimp only
  rw [wp_ite]
  split <;> rfl

/-- The decoder recovers the path from the name the kernel reports, whatever the struct held. -/
theorem extracted_reported {source : Option UnixPath} {p : UnixPath} {name : UnName}
    (h : Reports source name) (hp : p ∈ source) (addr : SockaddrUn) :
    extracted (name.fill addr) name.len = .ok p.bytes := by
  have hlt := p.length_lt
  obtain rfl := h p hp
  have hcount : sizeSub (sizeSub (saFamilySize + p.bytes.length + 1) saFamilySize) 1 =
      p.bytes.length := by
    unfold sunPathSize at hlt
    rw [saFamilySize, sizeSub_of_le (a := 2 + p.bytes.length + 1) (by omega) (by omega),
      sizeSub_of_le (by omega) (by omega)]
    omega
  have hmax : ¬maxSize < p.bytes.length := by
    unfold sunPathSize at hlt
    unfold maxSize
    omega
  unfold extracted
  rw [hcount, if_neg hmax]
  congr 1
  simp [UnName.fill, overwrite]

/-! ## One call

What each call does to the kernel's state. -/

section Calls

/-- The calls of a run, with the paths and the datagrams they are allowed. -/
inductive UnixCall
  | bind (p : UnixPath)
  | sendTo (data : List UInt8) (hdata : data.length ≤ intMax) (p : UnixPath)
  | receiveFrom (len : ℕ)
  | timedReceiveFrom (len : ℕ) (timeout : ℤ)
  | getLocalPath

def UnixCall.op : UnixCall → Operation
  | .bind p => .unixBind p.bytes
  | .sendTo data _ p => .unixSendTo data p.bytes
  | .receiveFrom len => .unixReceiveFrom len
  | .timedReceiveFrom len timeout => .unixTimedReceiveFrom len timeout
  | .getLocalPath => .getLocalPath

/-- The system call failed, and the method threw with its `errno`. -/
def Threw (w : Retry) (c : Sys) (evs : List Event) (ret : Except Exn Value) : Prop :=
  ∃ what e, Event.sys w c (.error e) ∈ evs ∧ ret = .error (.socket ⟨what, true, e⟩)

/-- The head of the queue was taken and reported, or nothing was taken. -/
def UnixReceives (len : ℕ) (timeout : Option ℤ) (fd : ℤ) (before : Vars) (k : UnixState)
    (evs : List Event) (ret : Except Exn Value) (after : Vars) (k' : UnixState) : Prop :=
  (k' = k ∧ after = before ∧ NothingRead .un fd len evs timeout ret) ∨
  ∃ d q, (k.queue fd).Takes [d] q ∧ k' = k.setQueue fd q ∧ (d.payload.length ≤ intMax →
    ∀ src ∈ d.source, Delivered len d.payload src.bytes before.sourcePort before after ret)

/-- The effect of a call on the socket `fd`. -/
def UnixEffect (fd : ℤ) (before : Vars) (k : UnixState) (evs : List Event)
    (ret : Except Exn Value) (after : Vars) (k' : UnixState) : UnixCall → Prop
  | .bind p => (ret = .ok .unit ∧ k.name fd = none ∧ k' = k.boundTo p fd) ∨
    ((∃ addr, Threw .once (.bind fd addr) evs ret) ∧ (k' = k ∨ k' = k.unlinked p))
  | .sendTo data _ p =>
    (ret = .ok .unit ∧ ∃ j, k.file p = some j ∧ k' = k.putTo j ⟨data, k.name fd⟩) ∨
    ((∃ addr, Threw .tempFailureRetry (.sendto fd data addr) evs ret) ∧ k' = k) ∨
    (∃ x, ret = .error x) ∧ ∃ j n, n < data.length ∧ k.file p = some j ∧
      k' = k.putTo j ⟨data.take n, k.name fd⟩
  | .receiveFrom len => UnixReceives len none fd before k evs ret after k'
  | .timedReceiveFrom len timeout => UnixReceives len (some timeout) fd before k evs ret after k'
  | .getLocalPath => k' = k ∧ ∀ p, k.name fd = some p → ret = .ok (.str p.bytes) ∨
    ∃ e, Event.sys .once (.getsockname fd .un) (.error e) ∈ evs

/-- A call has its effect, over all replies. -/
def UnixSpec (c : UnixCall) : Prop :=
  ∀ s, c.op.body.wp (fun as r s' => ∀ k k', unixKernel.Accepts k (as.map Prod.snd) k' →
    UnixEffect s.vars.this.mSocket s.vars.vars k (as.map Prod.snd) r s'.vars.vars k' c) s

theorem bind_spec (p : UnixPath) : UnixSpec (.bind p) := by
  intro s
  apply wp_asUnit.2
  rw [UnixSocket.bind, wp_bind, wp_unixLocalAddress]
  intro b₀ c
  rw [if_neg (by have := p.length_lt; omega)]
  simp only [wp_bind]
  apply wp_sys.2
  intro b₁ r₁ _
  simp only [wp_thisSocket, List.nil_append]
  apply wp_sys.2
  intro b₂ r₂ _
  rw [cStr_strcpy_path]
  cases r₂ with
  | error e =>
    simp only [failed_error, if_true, wp_throwSocket]
    intro k k' hk
    obtain ⟨k₁, h₁, hk⟩ := unix_cons.1 (unix_cons_inert hk fun _ _ h => h)
    obtain rfl := unix_nil.1 (unix_cons_inert hk fun _ _ h => h)
    refine Or.inr ⟨⟨.un ⟨afLocal, strcpy c.1.sunPath p.bytes⟩, _, e, ?_, rfl⟩, unlink_eq h₁⟩
    exact List.mem_cons_of_mem _ (List.mem_cons_of_mem _ List.mem_cons_self)
  | ok u =>
    simp only [failed_ok, Bool.false_eq_true, if_false, wp_pure]
    intro k k' hk
    obtain ⟨k₁, h₁, hk⟩ := unix_cons.1 (unix_cons_inert hk fun _ _ h => h)
    obtain ⟨k₂, ⟨q, hq, -, hname, rfl⟩, hk⟩ := unix_cons.1 hk
    obtain rfl := unix_nil.1 hk
    rw [cStr_strcpy_path] at hq
    obtain rfl := UnixPath.ext hq
    rcases unlink_eq h₁ with rfl | rfl
    · exact Or.inl ⟨rfl, hname, rfl⟩
    · exact Or.inl ⟨rfl, hname, UnixState.boundTo_unlinked _ _ _⟩

theorem sendTo_spec {data : List UInt8} (hdata : data.length ≤ intMax) (p : UnixPath) :
    UnixSpec (.sendTo data hdata p) := by
  intro s
  apply wp_asUnit.2
  rw [UnixDatagramSocket.sendTo, wp_bind, wp_unixLocalAddress]
  intro b₀ c
  rw [if_neg (by have := p.length_lt; omega)]
  dsimp only
  rw [wp_sendDatagram]
  intro b r _
  cases r with
  | error e =>
    have hne : toInt (ssize (Except.map Count.count (.error e : Except Errno (Count data.length))))
        ≠ toInt data.length := by
      rw [toInt_of_le hdata]
      simp [Except.map]
    dsimp only
    rw [if_pos hne]
    intro k k' hk
    obtain rfl := unix_nil.1 (unix_cons_inert
      (unix_cons_inert hk fun _ _ h => h) fun _ _ h => h)
    exact Or.inr (Or.inl ⟨⟨_, _, e, List.mem_cons_of_mem _ List.mem_cons_self, rfl⟩, rfl⟩)
  | ok n =>
    have hn := n.le_len
    have hret : toInt (ssize (Except.map Count.count (.ok n : Except Errno (Count data.length)))) =
        n.count := toInt_of_le n.le_intMax
    have hsent : ∀ k k', unixKernel.Accepts k (List.map Prod.snd
        ([(b₀, Event.lib .uninitUn c)] ++ [(b, Event.sys .tempFailureRetry (.sendto
          s.vars.this.mSocket data (.un ⟨afLocal, strcpy c.1.sunPath p.bytes⟩)) (.ok n))])) k' →
        ∃ j, k.file p = some j ∧
          k' = k.putTo j ⟨data.take n.count, k.name s.vars.this.mSocket⟩ := by
      intro k k' hk
      obtain ⟨k₁, ⟨q, j, hq, hj, rfl⟩, hk⟩ :=
        unix_cons.1 (unix_cons_inert hk fun _ _ h => h)
      obtain rfl := unix_nil.1 hk
      rw [cStr_strcpy_path] at hq
      obtain rfl := UnixPath.ext hq
      exact ⟨j, hj, rfl⟩
    dsimp only
    rw [hret, toInt_of_le hdata]
    split
    · next hne =>
      intro k k' hk
      obtain ⟨j, hj, hk'⟩ := hsent k k' hk
      exact Or.inr (Or.inr ⟨⟨_, rfl⟩, j, n.count, by omega, hj, hk'⟩)
    · next heq =>
      intro k k' hk
      obtain ⟨j, hj, hk'⟩ := hsent k k' hk
      rw [List.take_of_length_le (by omega)] at hk'
      exact Or.inl ⟨rfl, j, hj, hk'⟩

/-- A successful `recvfrom` takes the head of the queue. -/
theorem taken_of_accepts {k k' : UnixState} {fd : ℤ} {w : Retry} {len : ℕ} {got : Received len}
    {name : UnName}
    (h : unixKernel.Accepts k [Event.sys w (.recvfrom fd len .un) (.ok (got, name))] k') :
    ∃ d q, (k.queue fd).Takes [d] q ∧ k' = k.setQueue fd q ∧ got.bytes = d.payload.take len ∧
      Reports d.source name := by
  obtain ⟨k₁, ⟨d, q, htakes, hgot, hname, rfl⟩, hk⟩ := unix_cons.1 h
  obtain rfl := unix_nil.1 hk
  exact ⟨d, q, htakes, rfl, hgot, hname⟩

theorem receiveFrom_spec (len : ℕ) : UnixSpec (.receiveFrom len) := by
  intro s
  apply wp_asInt.2
  rw [UnixDatagramSocket.receiveFrom, wp_bind]
  refine wp_lib.2 fun b₀ c => wp_receiveDatagram ?_ ?_ ?_
  · intro b e k k' hk
    obtain rfl := unix_nil.1 (unix_cons_inert
      (unix_cons_inert hk fun _ _ h => h) fun _ _ h => h)
    exact Or.inl ⟨rfl, rfl, .recvfrom (List.mem_cons_of_mem _ List.mem_cons_self)⟩
  · intro b got name err hneg k k' hk
    obtain ⟨d, q, htakes, rfl, hgot, -⟩ := taken_of_accepts (unix_cons_inert hk fun _ _ h => h)
    refine Or.inr ⟨d, q, htakes, rfl, fun hle => ?_⟩
    rw [hgot, toInt_of_le (by rw [List.length_take]; omega)] at hneg
    omega
  · intro b got name err _
    rw [wp_bind, wp_extractPath, UnixDatagramSocket.senderOf]
    cases hpath : extracted (name.fill c.1) name.len with
    | error x =>
      intro k k' hk
      obtain ⟨d, q, htakes, rfl, -, hname⟩ := taken_of_accepts (unix_cons_inert hk fun _ _ h => h)
      refine Or.inr ⟨d, q, htakes, rfl, fun _ src hsrc => ?_⟩
      rw [extracted_reported hname hsrc] at hpath
      cases hpath
    | ok path =>
      dsimp only
      rw [wp_modify]
      intro k k' hk
      obtain ⟨d, q, htakes, rfl, hgot, hname⟩ :=
        taken_of_accepts (unix_cons_inert hk fun _ _ h => h)
      refine Or.inr ⟨d, q, htakes, rfl, fun hle src hsrc => ?_⟩
      rw [extracted_reported hname hsrc] at hpath
      obtain rfl := Except.ok.inj hpath
      exact Delivered.of_bytes hgot (by rw [hgot, List.length_take]; omega) rfl

theorem timedReceiveFrom_spec (len : ℕ) (timeout : ℤ) :
    UnixSpec (.timedReceiveFrom len timeout) := by
  intro s
  apply wp_asInt.2
  rw [UnixDatagramSocket.timedReceiveFrom]
  refine wp_timedWith_of ?_ ?_ ?_
  · intro b e k k' hk
    obtain rfl := unix_nil.1 (unix_cons_inert hk fun _ _ h => h)
    exact Or.inl ⟨rfl, rfl, .poll List.mem_cons_self⟩
  · intro b revents err hr k k' hk
    obtain rfl := unix_nil.1 (unix_cons_inert hk fun _ _ h => h)
    exact Or.inl ⟨rfl, Frame.noted_vars _ _, .idle hr List.mem_cons_self⟩
  · intro b revents err _
    apply wp_mono (wp_asInt.1 (receiveFrom_spec len _))
    intro as ret s' h k k' hk
    have key := h k k' (unix_cons_inert hk fun _ _ h => h)
    simp only [Frame.noted_vars, Frame.noted_mSocket, UnixEffect] at key
    exact key.imp_left fun h => ⟨h.1, h.2.1, h.2.2.cons _⟩

theorem getLocalPath_spec : UnixSpec .getLocalPath := by
  intro s
  apply wp_asStr.2
  simp only [onThis, UnixSocket.getLocalPath, wp_bind, wp_get, List.nil_append]
  apply wp_lib.2
  intro b₀ c
  apply wp_sys.2
  intro b r _
  cases r with
  | error e =>
    intro k k' hk
    obtain rfl := unix_nil.1 (unix_cons_inert
      (unix_cons_inert hk fun _ _ h => h) fun _ _ h => h)
    exact ⟨rfl, fun p _ => Or.inr ⟨e, by simp⟩⟩
  | ok name =>
    apply (wp_extractPath _ _).2
    intro k k' hk
    obtain ⟨k₁, ⟨hname, rfl⟩, ht⟩ := unix_cons.1 (unix_cons_inert hk fun _ _ h => h)
    obtain rfl := unix_nil.1 ht
    refine ⟨rfl, fun p hp => Or.inl ?_⟩
    rw [extracted_reported hname hp]
    rfl

theorem UnixCall.body_spec : ∀ c, UnixSpec c
  | .bind p => bind_spec p
  | .sendTo _ hdata p => sendTo_spec hdata p
  | .receiveFrom len => receiveFrom_spec len
  | .timedReceiveFrom len timeout => timedReceiveFrom_spec len timeout
  | .getLocalPath => getLocalPath_spec

/-- A call has its effect. -/
theorem call_effect {inv : Invocation} {this this' : SimpleSocket} {o : Outcome} {tr : List Event}
    {k k' : UnixState} {c : UnixCall} (hop : inv.op = c.op)
    (h : Runs (invoke inv this) tr (o, this')) (hk : unixKernel.Accepts k tr k') :
    UnixEffect this.mSocket inv.vars k (settled tr) o.ret o.vars k' c := by
  have key := invoke_wp (Q := fun as r f => ∀ k k', unixKernel.Accepts k (as.map Prod.snd) k' →
    UnixEffect this.mSocket inv.vars k (as.map Prod.snd) r f.vars k' c) h
    (by rw [hop]; exact c.body_spec _)
  rw [map_snd_answers] at key
  exact key k k' (hk.settled fun k e k' => unixStep_again)

end Calls

/-! ## Runs -/

section Runs

variable {ι : Type}

/-- One call of a run of the sockets `ι`. -/
abbrev UnixEntry (ι : Type) := Entry posix (ι × Invocation) (ι → SimpleSocket) Outcome

/-- Runs of the sockets `ι`; nothing is bound and nothing is queued before. -/
abbrev UnixRun [DecidableEq ι] (socks₀ : ι → SimpleSocket) :=
  Session (onFamily invoke) unixKernel socks₀ UnixState.init

/-- The descriptor of the socket that is called. -/
def UnixEntry.fd (e : UnixEntry ι) : ℤ := (e.pre e.op.1).mSocket

/-- The call bound the socket `fd` to `p`. -/
def Binds (p : UnixPath) (fd : ℤ) (e : UnixEntry ι) : Prop :=
  e.op.2.op = .unixBind p.bytes ∧ e.result.ret = .ok .unit ∧ UnixEntry.fd e = fd

/-- The socket `fd` has been bound to `p`. -/
def BoundTo (es : List (UnixEntry ι)) (fd : ℤ) (p : UnixPath) : Prop := ∃ e ∈ es, Binds p fd e

/-- The latest successful `bind` to `p` was that of the socket `fd`. -/
def LatestBind (es : List (UnixEntry ι)) (p : UnixPath) (fd : ℤ) : Prop :=
  Since (Binds p fd) (fun e => ∃ fd', Binds p fd' e) es

/-- Every sender has been bound before it sends. -/
def SendersBound (es : List (UnixEntry ι)) : Prop :=
  ∀ es₁ e es₂, es = es₁ ++ e :: es₂ → (∃ data p, e.op.2.op = .unixSendTo data p) →
    ∃ p, BoundTo es₁ (UnixEntry.fd e) p

/-- The maps of the kernel are the history of the binds, and whatever was queued can be
delivered. -/
structure UnixInv (es : List (UnixEntry ι)) (k : UnixState) : Prop where
  file : ∀ p fd, k.file p = some fd → LatestBind es p fd
  name : ∀ fd p, k.name fd = some p ↔ BoundTo es fd p
  queue : ∀ fd, ∀ d ∈ (k.queue fd).arrived, d.payload.length ≤ intMax ∧ ∃ src, d.source = some src

theorem boundTo_snoc {es : List (UnixEntry ι)} {e : UnixEntry ι} {fd : ℤ} {p : UnixPath} :
    BoundTo (es ++ [e]) fd p ↔ BoundTo es fd p ∨ Binds p fd e := by
  simp [BoundTo, or_and_right, exists_or]

theorem unixInv_init : UnixInv ([] : List (UnixEntry ι)) UnixState.init where
  file p fd h := nomatch h
  name fd p := iff_of_false (fun h => nomatch h) (by rintro ⟨e, he, -⟩; cases he)
  queue fd d h := nomatch h

/-- A call that binds nothing keeps the history of the binds. -/
theorem UnixInv.snoc {es : List (UnixEntry ι)} {k k' : UnixState} {e : UnixEntry ι}
    (h : UnixInv es k) (hno : ∀ p fd, ¬Binds p fd e)
    (hfile : ∀ p fd, k'.file p = some fd → k.file p = some fd) (hname : k'.name = k.name)
    (hqueue : ∀ fd, ∀ d ∈ (k'.queue fd).arrived, d ∈ (k.queue fd).arrived ∨
      d.payload.length ≤ intMax ∧ ∃ src, d.source = some src) : UnixInv (es ++ [e]) k' where
  file p fd hp := since_snoc.2 (Or.inr ⟨h.file p fd (hfile p fd hp), fun ⟨fd', hb⟩ => hno p fd' hb⟩)
  name fd p := by
    rw [hname, h.name, boundTo_snoc, or_iff_left (hno p fd)]
  queue fd d hd := (hqueue fd d hd).elim (h.queue fd d) id

/-- A successful `bind` extends the history as it changes the maps. -/
theorem UnixInv.bound {es : List (UnixEntry ι)} {k : UnixState} {e : UnixEntry ι}
    (h : UnixInv es k) {p : UnixPath} (hop : e.op.2.op = .unixBind p.bytes)
    (hret : e.result.ret = .ok .unit) (hnone : k.name (UnixEntry.fd e) = none) :
    UnixInv (es ++ [e]) (k.boundTo p (UnixEntry.fd e)) := by
  have hbinds : ∀ q fd, Binds q fd e ↔ q = p ∧ fd = UnixEntry.fd e := by
    refine fun q fd => ⟨fun ⟨hq, _, hfd⟩ => ⟨?_, hfd.symm⟩, ?_⟩
    · rw [hop] at hq
      injection hq with hq
      exact UnixPath.ext hq.symm
    · intro h
      obtain ⟨rfl, rfl⟩ := h
      exact ⟨hop, hret, rfl⟩
  refine ⟨fun q fd hq => since_snoc.2 ?_, fun fd q => ?_, h.queue⟩
  · by_cases hqp : q = p
    · subst hqp
      rw [UnixState.boundTo_file, Function.update_self] at hq
      exact Or.inl ((hbinds q fd).2 ⟨rfl, (Option.some.inj hq).symm⟩)
    · rw [UnixState.boundTo_file, Function.update_of_ne hqp] at hq
      exact Or.inr ⟨h.file q fd hq, fun ⟨fd', hb⟩ => hqp ((hbinds q fd').1 hb).1⟩
  · rw [boundTo_snoc, hbinds, ← h.name]
    by_cases hfd : fd = UnixEntry.fd e
    · subst hfd
      rw [UnixState.boundTo_name, Function.update_self, hnone]
      simp [eq_comm]
    · rw [UnixState.boundTo_name, Function.update_of_ne hfd]
      simp [hfd]

theorem not_binds {e : UnixEntry ι} {c : UnixCall} (hop : e.op.2.op = c.op)
    (h : ∀ p, c = .bind p → ∃ x, e.result.ret = .error x) (p : UnixPath) (fd : ℤ) :
    ¬Binds p fd e := by
  intro h
  obtain ⟨hp, hret, -⟩ := h
  rw [hop] at hp
  cases c with
  | bind q =>
    obtain ⟨x, hx⟩ := h q rfl
    rw [hx] at hret
    cases hret
  | _ => cases hp

theorem mem_putTo {k : UnixState} {j fd : ℤ} {d d' : UnixDatagram}
    (h : d' ∈ ((k.putTo j d).queue fd).arrived) : d' ∈ (k.queue fd).arrived ∨ d' = d := by
  rw [UnixState.putTo_queue] at h
  by_cases hfd : fd = j
  · subst hfd
    rw [Function.update_self] at h
    exact (List.mem_append.1 h).imp_right List.mem_singleton.1
  · rw [Function.update_of_ne hfd] at h
    exact Or.inl h

theorem setQueue_arrived {k : UnixState} {j : ℤ} {q : Fifo UnixDatagram} {ds : List UnixDatagram}
    (h : (k.queue j).Takes ds q) (fd : ℤ) :
    ((k.setQueue j q).queue fd).arrived = (k.queue fd).arrived := by
  rw [UnixState.setQueue_queue]
  by_cases hfd : fd = j
  · subst hfd
    rw [Function.update_self, h.1]
  · rw [Function.update_of_ne hfd]

/-- The invariant is kept by every call of a bound sender. -/
theorem UnixInv.step {es : List (UnixEntry ι)} {k k' : UnixState} {e : UnixEntry ι}
    (h : UnixInv es k) {c : UnixCall} (hop : e.op.2.op = c.op)
    (hsender : (∃ data p, e.op.2.op = .unixSendTo data p) → ∃ p, BoundTo es (UnixEntry.fd e) p)
    (heff : UnixEffect (UnixEntry.fd e) e.op.2.vars k (settled e.events) e.result.ret
      e.result.vars k' c) : UnixInv (es ++ [e]) k' := by
  have hreceive : ∀ len timeout, (∀ p, c ≠ .bind p) → UnixReceives len timeout (UnixEntry.fd e)
      e.op.2.vars k (settled e.events) e.result.ret e.result.vars k' →
      UnixInv (es ++ [e]) k' := by
    intro len timeout hc heff
    have hno := not_binds hop fun p hp => absurd hp (hc p)
    rcases heff with ⟨rfl, -⟩ | ⟨d, q, htakes, rfl, -⟩
    · exact h.snoc hno (fun _ _ => id) rfl fun _ _ => Or.inl
    · refine h.snoc hno (fun _ _ => id) rfl fun fd d' hd' => Or.inl ?_
      rwa [setQueue_arrived htakes] at hd'
  cases c with
  | bind p =>
    have hthrew : (∃ addr, Threw .once (.bind (UnixEntry.fd e) addr) (settled e.events)
        e.result.ret) → ∃ x, e.result.ret = .error x := by
      intro h
      obtain ⟨addr, what, err, -, hret⟩ := h
      exact ⟨_, hret⟩
    rcases heff with ⟨hret, hnone, rfl⟩ | ⟨herr, rfl | rfl⟩
    · exact h.bound hop hret hnone
    · exact h.snoc (not_binds hop fun _ _ => hthrew herr) (fun _ _ => id) rfl fun _ _ => Or.inl
    · refine h.snoc (not_binds hop fun _ _ => hthrew herr) (fun q fd hq => ?_) rfl fun _ _ => Or.inl
      by_cases hqp : q = p
      · subst hqp
        rw [UnixState.unlinked_file, Function.update_self] at hq
        cases hq
      · rwa [UnixState.unlinked_file, Function.update_of_ne hqp] at hq
  | sendTo data hdata p =>
    have hno := not_binds hop fun _ hp => nomatch hp
    obtain ⟨src, hsrc⟩ := hsender ⟨data, p.bytes, hop⟩
    have hput : ∀ j n, UnixInv (es ++ [e])
        (k.putTo j ⟨data.take n, k.name (UnixEntry.fd e)⟩) := by
      refine fun j n => h.snoc hno (fun _ _ => id) rfl fun fd d hd => ?_
      rcases mem_putTo hd with hd | rfl
      · exact Or.inl hd
      · refine Or.inr ⟨?_, src, (h.name _ _).2 hsrc⟩
        dsimp only
        rw [List.length_take]
        omega
    rcases heff with ⟨-, j, -, rfl⟩ | ⟨-, rfl⟩ | ⟨-, j, n, -, -, rfl⟩
    · have := hput j data.length
      rwa [List.take_length] at this
    · exact h.snoc hno (fun _ _ => id) rfl fun _ _ => Or.inl
    · exact hput j n
  | receiveFrom len => exact hreceive len none (fun _ hp => nomatch hp) heff
  | timedReceiveFrom len timeout => exact hreceive len (some timeout) (fun _ hp => nomatch hp) heff
  | getLocalPath =>
    obtain ⟨rfl, -⟩ := heff
    exact h.snoc (not_binds hop fun _ hp => nomatch hp) (fun _ _ => id) rfl fun _ _ => Or.inl

/-- The socket `fd` has been bound to `src` and to no other path. -/
def Named (es : List (UnixEntry ι)) (fd : ℤ) (src : UnixPath) : Prop :=
  ∀ p, BoundTo es fd p ↔ p = src

theorem UnixInv.named {es : List (UnixEntry ι)} {k : UnixState} (h : UnixInv es k) {fd : ℤ}
    {src : UnixPath} (hsrc : k.name fd = some src) : Named es fd src := by
  intro p
  rw [← h.name, hsrc, Option.some_inj, eq_comm]

/-- A datagram goes from the socket `fd` to the end of the queue of the socket that was the last to
bind `p`. -/
def Posted (es : List (UnixEntry ι)) (fd : ℤ) (p : UnixPath) (data : List UInt8)
    (q q' : ℤ → Fifo UnixDatagram) : Prop :=
  ∃ j src, LatestBind es p j ∧ Named es fd src ∧
    q' = Function.update q j ((q j).put [⟨data, some src⟩])

/-- The head of the queue of the socket is taken and reported with the path of its sender, or
nothing is taken, because a system call failed or `poll` reported nothing to read. -/
def Collected (len : ℕ) (timeout : Option ℤ) (e : UnixEntry ι) (q q' : ℤ → Fifo UnixDatagram) :
    Prop :=
  (q' = q ∧ e.result.vars = e.op.2.vars ∧
    NothingRead .un (UnixEntry.fd e) len (settled e.events) timeout e.result.ret) ∨
  ∃ d qd src, (q (UnixEntry.fd e)).Takes [d] qd ∧ q' = Function.update q (UnixEntry.fd e) qd ∧
    d.source = some src ∧ Delivered len d.payload src.bytes e.op.2.vars.sourcePort e.op.2.vars
      e.result.vars e.result.ret

/-- What the calls mean to their callers, who know the history of the calls and the queues only. -/
def MailStep (es : List (UnixEntry ι)) (e : UnixEntry ι) (q q' : ℤ → Fifo UnixDatagram) :
    UnixCall → Prop
  | .bind _ => q' = q ∧ (e.result.ret = .ok .unit ∨
    ∃ addr, Threw .once (.bind (UnixEntry.fd e) addr) (settled e.events) e.result.ret)
  | .sendTo data _ p =>
    (e.result.ret = .ok .unit ∧ Posted es (UnixEntry.fd e) p data q q') ∨
    ((∃ addr, Threw .tempFailureRetry (.sendto (UnixEntry.fd e) data addr) (settled e.events)
      e.result.ret) ∧ q' = q) ∨
    (∃ x, e.result.ret = .error x) ∧
      ∃ n < data.length, Posted es (UnixEntry.fd e) p (data.take n) q q'
  | .receiveFrom len => Collected len none e q q'
  | .timedReceiveFrom len timeout => Collected len (some timeout) e q q'
  | .getLocalPath => q' = q ∧ ∀ p, BoundTo es (UnixEntry.fd e) p →
    e.result.ret = .ok (.str p.bytes) ∨
      ∃ err, Event.sys .once (.getsockname (UnixEntry.fd e) .un) (.error err) ∈ e.events

/-- The histories the callers can see, and the queues after them. -/
inductive Mailboxes : List (UnixEntry ι) → (ℤ → Fifo UnixDatagram) → Prop
  | nil : Mailboxes [] fun _ => Fifo.empty
  | snoc {es : List (UnixEntry ι)} {e : UnixEntry ι} {q q' : ℤ → Fifo UnixDatagram}
      (h : Mailboxes es q) (c : UnixCall) (hop : e.op.2.op = c.op) (hm : MailStep es e q q' c) :
      Mailboxes (es ++ [e]) q'

/-- The kernel's maps do what the history says. -/
theorem UnixInv.mailStep {es : List (UnixEntry ι)} {k k' : UnixState} {e : UnixEntry ι}
    (h : UnixInv es k) {c : UnixCall} (hop : e.op.2.op = c.op)
    (hsender : (∃ data p, e.op.2.op = .unixSendTo data p) → ∃ p, BoundTo es (UnixEntry.fd e) p)
    (heff : UnixEffect (UnixEntry.fd e) e.op.2.vars k (settled e.events) e.result.ret
      e.result.vars k' c) : MailStep es e k.queue k'.queue c := by
  have hreceive : ∀ len timeout, UnixReceives len timeout (UnixEntry.fd e) e.op.2.vars k
      (settled e.events) e.result.ret e.result.vars k' →
      Collected len timeout e k.queue k'.queue := by
    intro len timeout h
    rcases h with ⟨rfl, hvars⟩ | ⟨d, q, htakes, rfl, hdel⟩
    · exact Or.inl ⟨rfl, hvars⟩
    · have hd : d ∈ (k.queue (UnixEntry.fd e)).arrived := by
        rw [← (k.queue (UnixEntry.fd e)).inv, htakes.queue_eq]
        simp
      obtain ⟨hle, src, hsrc⟩ := h.queue _ d hd
      exact Or.inr ⟨d, q, src, htakes, rfl, hsrc, hdel hle src hsrc⟩
  cases c with
  | bind p =>
    rcases heff with ⟨hret, -, rfl⟩ | ⟨herr, rfl | rfl⟩
    · exact ⟨rfl, Or.inl hret⟩
    · exact ⟨rfl, Or.inr herr⟩
    · exact ⟨rfl, Or.inr herr⟩
  | sendTo data hdata p =>
    obtain ⟨src, hsrc⟩ := hsender ⟨data, p.bytes, hop⟩
    have hsrc := (h.name _ _).2 hsrc
    have hpost : ∀ j data, k.file p = some j → Posted es (UnixEntry.fd e) p data k.queue
        (k.putTo j ⟨data, k.name (UnixEntry.fd e)⟩).queue := by
      intro j data hj
      refine ⟨j, src, h.file p j hj, h.named hsrc, ?_⟩
      rw [hsrc, UnixState.putTo_queue]
    rcases heff with ⟨hret, j, hj, rfl⟩ | ⟨herr, rfl⟩ | ⟨herr, j, n, hn, hj, rfl⟩
    · exact Or.inl ⟨hret, hpost j data hj⟩
    · exact Or.inr (Or.inl ⟨herr, rfl⟩)
    · exact Or.inr (Or.inr ⟨herr, n, hn, hpost j _ hj⟩)
  | receiveFrom len => exact hreceive len none heff
  | timedReceiveFrom len timeout => exact hreceive len (some timeout) heff
  | getLocalPath =>
    obtain ⟨rfl, hpath⟩ := heff
    refine ⟨rfl, fun p hp => (hpath p ((h.name _ _).2 hp)).imp_right ?_⟩
    intro h
    obtain ⟨err, herr⟩ := h
    exact ⟨err, mem_settled herr⟩

/-- What `fillAddress` leaves in the struct: the path and its NUL, and behind them what was there
before. -/
theorem fillAddress_path (p : UnixPath) (err : Errno) {addr : SockaddrUn}
    (haddr : addr.sunPath.length = sunPathSize) :
    UnixSocket.fillAddress p.bytes ⟨err, addr⟩ = .ret (.ok (), ⟨err, ⟨afLocal,
      p.bytes ++ 0 :: addr.sunPath.drop (p.bytes.length + 1)⟩⟩) ∧
    (p.bytes ++ 0 :: addr.sunPath.drop (p.bytes.length + 1)).length = sunPathSize := by
  have hlt := p.length_lt
  rw [← strcpy_path]
  refine ⟨?_, (strcpy_length (by omega)).trans haddr⟩
  unfold UnixSocket.fillAddress
  rw [if_neg (by omega)]
  rfl

/-- **A Unix datagram goes to the socket that was the last to bind its path, whole, and is received
in order with the path of its sender**: every run of sockets against the kernel is one that the
history of the calls explains, and `fillAddress` stays inside `sun_path`. -/
theorem unix_delivery [DecidableEq ι] {socks₀ socks : ι → SimpleSocket} {es : List (UnixEntry ι)}
    {k : UnixState} (h : UnixRun socks₀ es socks k)
    (hops : ∀ e ∈ es, ∃ c : UnixCall, e.op.2.op = c.op) (hsenders : SendersBound es) :
    Mailboxes es k.queue ∧ ∀ (p : UnixPath) (err : Errno) (addr : SockaddrUn),
      addr.sunPath.length = sunPathSize → ∃ path, path.length = sunPathSize ∧
        path = p.bytes ++ 0 :: addr.sunPath.drop (p.bytes.length + 1) ∧
        UnixSocket.fillAddress p.bytes ⟨err, addr⟩ = .ret (.ok (), ⟨err, ⟨afLocal, path⟩⟩) := by
  refine ⟨?_, fun p err addr haddr => ⟨_, (fillAddress_path p err haddr).2, rfl,
    (fillAddress_path p err haddr).1⟩⟩
  suffices key : SendersBound es → Mailboxes es k.queue ∧ UnixInv es k from (key hsenders).1
  refine h.invariant (P := fun es _ (k : UnixState) => SendersBound es →
    Mailboxes es k.queue ∧ UnixInv es k) hops (fun _ => ⟨.nil, unixInv_init⟩) ?_
  intro es op socks k tr r socks' k' ih hop hr hk hsenders
  obtain ⟨hprev, hlast⟩ := forall_split_snoc.1 hsenders
  obtain ⟨hmail, hinv⟩ := ih hprev
  obtain ⟨c, hc⟩ := hop
  obtain ⟨this', hrun, -⟩ := onFamily_runs hr
  have heff := call_effect hc hrun hk
  exact ⟨hmail.snoc c hc (hinv.mailStep hc hlast heff), hinv.step hc hlast heff⟩

end Runs

/-- A socket binds the path `"a"`, sends itself one byte, and receives it from `"a"`. -/
theorem unix_delivery_to_itself :
    ∃ (es : List (UnixEntry Unit)) (e : UnixEntry Unit) (k : UnixState) (p : UnixPath),
      Mailboxes (es ++ [e]) k.queue ∧ e.op.2.op = .unixReceiveFrom 1 ∧
        e.result.ret = .ok (.int 1) ∧ e.result.vars.buffer = [7] ∧
        e.result.vars.source = p.bytes ∧ (k.queue 3).taken = [⟨[7], some p⟩] := by
  let p : UnixPath := ⟨[97], by decide, by decide, by decide⟩
  let c : Lib.Val .uninitUn := ⟨⟨0, List.replicate 108 0⟩, rfl⟩
  let v : Vars := ⟨[], [], 0, 0, 0⟩
  let addr : Sockaddr := .un ⟨afLocal, strcpy c.1.sunPath p.bytes⟩
  let bound : UnixState := UnixState.init.boundTo p 3
  let sent : UnixState := bound.putTo 3 ⟨[7], some p⟩
  let empty : Fifo UnixDatagram := ⟨[⟨[7], some p⟩], [⟨[7], some p⟩], [], rfl⟩
  have hr₁ : Runs (onFamily invoke ((), ⟨.unixBind p.bytes, v, 0⟩) fun _ : Unit => ⟨3, false⟩)
      [Event.lib .uninitUn c, Event.sys .once (.unlink (cStr (strcpy c.1.sunPath p.bytes)))
        (.error 2), Event.sys .once (.bind 3 addr) (.ok ())]
      (⟨.ok .unit, v⟩, fun _ => ⟨3, false⟩) :=
    .cons (.answer rfl) (.cons (.answer rfl) (.cons (.answer rfl) (.nil _)))
  have hr₂ : Runs (onFamily invoke ((), ⟨.unixSendTo [7] p.bytes, v, 0⟩)
      fun _ : Unit => ⟨3, false⟩)
      [Event.lib .uninitUn c, Event.sys .tempFailureRetry (.sendto 3 [7] addr)
        (.ok ⟨1, by decide, by decide⟩)] (⟨.ok .unit, v⟩, fun _ => ⟨3, false⟩) :=
    .cons (.answer rfl) (.cons (.answer rfl) (.nil _))
  have hr₃ : Runs (onFamily invoke ((), ⟨.unixReceiveFrom 1, ⟨[0], [], 0, 0, 0⟩, 0⟩)
      fun _ : Unit => ⟨3, false⟩)
      [Event.lib .uninitUn c, Event.sys .tempFailureRetry (.recvfrom 3 1 .un)
        (.ok (⟨[7], by decide⟩, ⟨4, [97, 0]⟩))]
      (⟨.ok (.int 1), ⟨[7], [97], 0, 0, 0⟩⟩, fun _ => ⟨3, false⟩) :=
    .cons (.answer rfl) (.cons (.answer rfl) (.nil _))
  have hk₁ : unixKernel.Accepts UnixState.init [Event.lib .uninitUn c,
      Event.sys .once (.unlink (cStr (strcpy c.1.sunPath p.bytes))) (.error 2),
      Event.sys .once (.bind 3 addr) (.ok ())] bound :=
    unix_cons.2 ⟨_, rfl, unix_cons.2 ⟨_, rfl, .single ⟨p, cStr_strcpy_path p _, rfl, rfl, rfl⟩⟩⟩
  have hk₂ : unixKernel.Accepts bound [Event.lib .uninitUn c,
      Event.sys .tempFailureRetry (.sendto 3 [7] addr) (.ok ⟨1, by decide, by decide⟩)] sent :=
    unix_cons.2 ⟨_, rfl, .single ⟨p, 3, cStr_strcpy_path p _, rfl, rfl⟩⟩
  have hk₃ : unixKernel.Accepts sent [Event.lib .uninitUn c, Event.sys .tempFailureRetry
      (.recvfrom 3 1 .un) (.ok (⟨[7], by decide⟩, ⟨4, [97, 0]⟩))] (sent.setQueue 3 empty) := by
    refine unix_cons.2 ⟨_, rfl, .single ⟨⟨[7], some p⟩, empty, ⟨rfl, rfl⟩, rfl, ?_, rfl⟩⟩
    rintro _ ⟨⟩
    rfl
  have hmail := unix_delivery (.snoc (.snoc (.single _ hr₁ hk₁) _ hr₂ hk₂) _ hr₃ hk₃) ?_ ?_
  · exact ⟨_, _, _, p, hmail.1, rfl, rfl, rfl, rfl, rfl⟩
  · intro e h
    rcases h with _ | ⟨_, _ | ⟨_, _ | ⟨_, _ | _⟩⟩⟩
    · exact ⟨.bind p, rfl⟩
    · exact ⟨.sendTo [7] (by decide) p, rfl⟩
    · exact ⟨.receiveFrom 1, rfl⟩
  · refine forall_split_snoc.2 ⟨forall_split_snoc.2 ⟨?_, fun _ => ?_⟩, ?_⟩
    · rintro (_ | ⟨_, _ | _⟩) e es₂ hes ⟨data, q, hop⟩
      · cases hes
        cases hop
      · cases hes
      · cases hes
    · exact ⟨p, _, List.mem_singleton.2 rfl, rfl, rfl, rfl⟩
    · rintro ⟨data, q, hop⟩
      cases hop

end NET
