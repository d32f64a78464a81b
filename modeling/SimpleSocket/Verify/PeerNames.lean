import Mathlib.Data.Set.Basic
import SimpleSocket.Verify.DatagramLoss
import SimpleSocket.Verify.Triple

/-!
# The names of Unix peers

The kernel reports three kinds of addresses. `extractPath` computes the length of the name from the
reported length as if there always was a terminator to leave out: for a path there is one, an
abstract name loses its last byte, and without a name the subtraction wraps around. So
`PeerNamesRead` holds of a set of peers exactly if all of them are bound to paths.
-/

namespace NET

open Op Interact SimpleSocket

/-! ## What the kernel reports -/

inductive PeerName
  | unnamed
  | path (p : UnixPath)
  | abstract (a : AbstractName)

namespace PeerName

/-- The name itself. -/
def text : PeerName → Str
  | unnamed => []
  | path p => p.bytes
  | abstract a => a.bytes

/-- The lengths and the bytes with which the kernel reports it. -/
def Reports : PeerName → UnName → Prop
  | unnamed, name => name = ⟨0, []⟩ ∨ name = ⟨saFamilySize, []⟩
  | path p, name => name = ⟨saFamilySize + p.bytes.length + 1, p.bytes ++ [0]⟩
  | abstract a, name => name = ⟨saFamilySize + a.bytes.length, a.bytes⟩

def IsPath (q : PeerName) : Prop := ∃ p, q = path p

theorem abstract_bytes_pos (a : AbstractName) : 0 < a.bytes.length := by
  apply List.length_pos_of_ne_nil
  intro h
  have hnul := a.nul
  rw [h] at hnul
  cases hnul

/-- Two peers do not have one name. -/
theorem text_injective : Function.Injective text := by
  have hpath : ∀ (p : UnixPath) (a : AbstractName), p.bytes ≠ a.bytes := by
    intro p a h
    apply p.no_nul
    rw [h]
    exact List.mem_of_mem_head? a.nul
  intro q q' h
  cases q with
  | unnamed =>
    cases q' with
    | unnamed => rfl
    | path p => exact absurd h.symm p.nonempty
    | abstract a => exact absurd h.symm (List.ne_nil_of_length_pos (abstract_bytes_pos a))
  | path p =>
    cases q' with
    | unnamed => exact absurd h p.nonempty
    | path p' => rw [UnixPath.ext h]
    | abstract a => exact absurd h (hpath p a)
  | abstract a =>
    cases q' with
    | unnamed => exact absurd h (List.ne_nil_of_length_pos (abstract_bytes_pos a))
    | path p => exact absurd h.symm (hpath p a)
    | abstract a' =>
      cases a
      cases a'
      cases h
      rfl

end PeerName

/-! ## The calls that read a name -/

inductive NameCall
  | getLocalPath
  | getForeignPath
  | receiveFrom (len : ℕ)
  | timedReceiveFrom (len : ℕ) (timeout : ℤ)

namespace NameCall

def op : NameCall → Operation
  | getLocalPath => .getLocalPath
  | getForeignPath => .getForeignPath
  | receiveFrom len => .unixReceiveFrom len
  | timedReceiveFrom len timeout => .unixTimedReceiveFrom len timeout

/-- What the caller is told: the string that is returned, or the source of a datagram. -/
def Tells (c : NameCall) (ret : Except Exn Value) (source : Str) : Except Exn Str → Prop
  | .error x => ret = .error x
  | .ok s => match c with
    | getLocalPath => ret = .ok (.str s)
    | getForeignPath => ret = .ok (.str s)
    | receiveFrom _ => (∃ n, ret = .ok (.int n)) ∧ source = s
    | timedReceiveFrom _ _ => (∃ n, ret = .ok (.int n)) ∧ source = s

end NameCall

/-- The names in the replies; of a datagram, when its length is an `int`. -/
def named : Event → List UnName
  | ⟨.sys _ (.getsockname _ .un), .ok (name : UnName)⟩ => [name]
  | ⟨.sys _ (.getpeername _ .un), .ok (name : UnName)⟩ => [name]
  | ⟨.sys _ (.recvfrom _ _ .un), .ok (got, name)⟩ =>
    if got.bytes.length ≤ intMax then [name] else []
  | _ => []

/-- A run of a call in which the kernel reports `name`. -/
structure NameRun (name : UnName) where
  call : NameCall
  invocation : Invocation
  this : SimpleSocket
  this' : SimpleSocket
  events : List Event
  outcome : Outcome
  op_eq : invocation.op = call.op
  runs : Runs (invoke invocation this) events (outcome, this')
  reported : name ∈ events.flatMap named

/-- The caller is told a name, or an exception. -/
def NameRun.Tells {name : UnName} (r : NameRun name) : Except Exn Str → Prop :=
  r.call.Tells r.outcome.ret r.outcome.vars.source

/-- The peers of a set are read: no length wraps around, every call tells the name of its peer, and
no two peers are confused. -/
structure PeerNamesRead (peers : Set PeerName) : Prop where
  no_wrap : ∀ q ∈ peers, ∀ name, q.Reports name →
    (sizeSub (sizeSub name.len saFamilySize) 1 : ℤ) = name.len - saFamilySize - 1
  exact : ∀ q ∈ peers, ∀ name, q.Reports name → ∀ r : NameRun name, r.Tells (.ok q.text)
  distinct : ∀ q ∈ peers, ∀ q' ∈ peers, ∀ name name', q.Reports name → q'.Reports name' →
    ∀ (r : NameRun name) (r' : NameRun name') (s : Str), r.Tells (.ok s) → r'.Tells (.ok s) → q = q'

/-! ## What a call tells -/

section Calls

variable {s : Proc Frame}

/-- The caller is told what `extractPath` makes of the name. -/
def TellsExtracted (c : NameCall) (as : List (Answer posix)) (ret : Except Exn Value)
    (source : Str) : Prop :=
  ∀ name ∈ as.flatMap fun x => named x.2,
    ∃ addr, c.Tells ret source (extracted (UnName.fill name addr) name.len)

theorem tellsExtracted_nil {c : NameCall} {as : List (Answer posix)} {ret : Except Exn Value}
    {source : Str} (h : ∀ x ∈ as, named x.2 = []) : TellsExtracted c as ret source := by
  intro name hname
  obtain ⟨x, hx, hname⟩ := List.mem_flatMap.1 hname
  rw [h x hx] at hname
  cases hname

theorem tellsExtracted_get {c : NameCall} (hc : c = .getLocalPath ∨ c = .getForeignPath)
    {as : List (Answer posix)} {name : UnName} (has : (as.flatMap fun x => named x.2) = [name])
    (addr : SockaddrUn) (source : Str) : TellsExtracted c as
      ((extracted (name.fill addr) name.len).map Value.str) source := by
  intro name' hname
  rw [has] at hname
  obtain rfl := List.mem_singleton.1 hname
  refine ⟨addr, ?_⟩
  cases extracted (name'.fill addr) name'.len with
  | error x => rfl
  | ok s => rcases hc with rfl | rfl <;> rfl

theorem wp_getPath_tells {c : NameCall} (hc : c = .getLocalPath ∨ c = .getForeignPath) :
    c.op.body.wp (fun as r s' => TellsExtracted c as r s'.vars.source) s := by
  rcases hc with rfl | rfl
  · simp only [NameCall.op, Operation.body, wp_asStr, onThis, wp_bind, wp_get,
      UnixSocket.getLocalPath, List.nil_append]
    apply wp_lib.2
    intro b mem
    apply wp_sys.2
    intro b' r _
    cases r with
    | error e => exact tellsExtracted_nil (by simp [named])
    | ok name =>
      dsimp only
      rw [wp_extractPath]
      exact tellsExtracted_get (Or.inl rfl) rfl mem.1 _
  · simp only [NameCall.op, Operation.body, wp_asStr, onThis, wp_bind, wp_get,
      UnixSocket.getForeignPath, List.nil_append]
    apply wp_lib.2
    intro b mem
    apply wp_sys.2
    intro b' r _
    cases r with
    | error e => exact tellsExtracted_nil (by simp [named])
    | ok name =>
      dsimp only
      rw [wp_extractPath]
      exact tellsExtracted_get (Or.inr rfl) rfl mem.1 _

theorem wp_receiveFrom_tells {c : NameCall} {len : ℕ}
    (hc : c = .receiveFrom len ∨ ∃ timeout, c = .timedReceiveFrom len timeout) :
    (UnixDatagramSocket.receiveFrom len).wp
      (fun as r s' => TellsExtracted c as (r.map Value.int) s'.vars.source) s := by
  rw [UnixDatagramSocket.receiveFrom, wp_bind]
  refine wp_lib.2 fun b₀ mem => wp_receiveDatagram ?_ ?_ ?_
  · intro b e
    exact tellsExtracted_nil (by simp [named])
  · intro b got name err hneg
    -- a negative count is not one of an `int`
    have hlong : ¬got.bytes.length ≤ intMax := by
      intro hle
      rw [toInt_of_le hle] at hneg
      omega
    exact tellsExtracted_nil (by simp [named, hlong])
  · intro b got name err _
    rw [wp_bind, wp_extractPath, UnixDatagramSocket.senderOf]
    have hname : ∀ name', name' ∈ [(b₀, Event.lib .uninitUn mem), (b, Event.sys .tempFailureRetry
        (.recvfrom s.vars.this.mSocket len .un) (.ok (got, name)))].flatMap
          (fun x => named x.2) → name' = name := by
      intro name' h
      simp only [List.flatMap_cons, List.flatMap_nil, named] at h
      split at h
      · simpa using h
      · cases h
    cases hpath : extracted (name.fill mem.1) name.len with
    | error x =>
      intro name' h
      obtain rfl := hname name' h
      refine ⟨mem.1, ?_⟩
      rw [hpath]
      rfl
    | ok path =>
      dsimp only
      rw [wp_modify]
      intro name' h
      obtain rfl := hname name' h
      refine ⟨mem.1, ?_⟩
      rw [hpath]
      rcases hc with rfl | ⟨timeout, rfl⟩ <;> exact ⟨⟨_, rfl⟩, rfl⟩

theorem wp_nameCall (c : NameCall) :
    c.op.body.wp (fun as r s' => TellsExtracted c as r s'.vars.source) s := by
  cases c with
  | getLocalPath => exact wp_getPath_tells (Or.inl rfl)
  | getForeignPath => exact wp_getPath_tells (Or.inr rfl)
  | receiveFrom len => exact wp_asInt.2 (wp_receiveFrom_tells (Or.inl rfl))
  | timedReceiveFrom len timeout =>
    apply wp_asInt.2
    rw [UnixDatagramSocket.timedReceiveFrom, wp_timedWith]
    intro b r _
    have hquiet : ∀ x ∈ [(b, Event.sys .tempFailureRetry (.poll s.vars.this.mSocket
        (pollIn ||| pollPri ||| pollRdHup) timeout) r)], named x.2 = [] := by
      intro x hx
      obtain rfl := List.mem_singleton.1 hx
      cases r <;> rfl
    dsimp only
    split
    · exact tellsExtracted_nil hquiet
    split
    · exact tellsExtracted_nil hquiet
    split
    · apply wp_mono (wp_receiveFrom_tells (Or.inr ⟨timeout, rfl⟩))
      intro as ret s' h name hname
      apply h name
      cases r <;> exact hname
    · exact tellsExtracted_nil hquiet

end Calls

/-- **What a run tells is what `extractPath` makes of the reported name.** -/
theorem NameRun.tells {name : UnName} (r : NameRun name) :
    ∃ addr, r.Tells (extracted (UnName.fill name addr) name.len) := by
  have hbody : r.invocation.op.body.wp (fun as ret s' =>
      TellsExtracted r.call as ret s'.vars.source) (r.invocation.start r.this) := by
    rw [r.op_eq]
    exact wp_nameCall r.call
  have h := @invoke_wp _ _ _ _ _
    (fun as ret f => TellsExtracted r.call as ret f.source) r.runs hbody
  apply h name
  have hquiet : ∀ e : Event, e.again = true → named e = [] := by
    intro e he
    obtain ⟨c, rfl⟩ := Event.eq_of_again he
    cases c with
    | getsockname fd kind => cases kind <;> rfl
    | getpeername fd kind => cases kind <;> rfl
    | recvfrom fd len kind => cases kind <;> rfl
    | _ => rfl
  rw [← List.flatMap_map, map_snd_answers, flatMap_settled hquiet]
  exact r.reported

theorem NameCall.tells_inj {c : NameCall} {ret : Except Exn Value} {source s s' : Str}
    (h : c.Tells ret source (.ok s)) (h' : c.Tells ret source (.ok s')) : s = s' := by
  cases c with
  | getLocalPath => exact Value.str.inj (Except.ok.inj (h.symm.trans h'))
  | getForeignPath => exact Value.str.inj (Except.ok.inj (h.symm.trans h'))
  | receiveFrom len => exact h.2.symm.trans h'.2
  | timedReceiveFrom len timeout => exact h.2.symm.trans h'.2

/-- A name with a length that can be computed is reported in some run. -/
theorem exists_nameRun {name : UnName}
    (hlen : sizeSub (sizeSub name.len saFamilySize) 1 ≤ maxSize) : Nonempty (NameRun name) := by
  have hcan : Op.Can (.log (fun _ => True) named) [] Operation.getLocalPath.body
      fun _ names => names = [name] := by
    refine .bind (.bind (.get fun v => .bind (.lib ⟨⟨0, List.replicate sunPathSize 0⟩,
      List.length_replicate⟩ (Kernel.log_quiet trivial rfl) (.bind (.sys (.ok name) rfl
        (Kernel.log_noted trivial rfl) ?_)))))
    dsimp only
    unfold UnixSocket.extractPath
    dsimp only
    rw [if_neg (Nat.not_lt.2 hlen)]
    exact .pure (.pure rfl)
  let i : Invocation := ⟨.getLocalPath, ⟨[], [], 0, 0, 0⟩, 0⟩
  let this : SimpleSocket := ⟨3, false⟩
  obtain ⟨tr, x, s', hr, -, hnames⟩ := hcan.log_runs (i.start this)
  have hmem : name ∈ tr.flatMap named := by
    rw [hnames]
    exact List.mem_singleton.2 rfl
  exact ⟨⟨.getLocalPath, i, this, _, tr, _, rfl, runs_invoke hr, hmem⟩⟩

/-! ## Which peers are read -/

theorem peerNamesRead_of_paths {peers : Set PeerName} (h : ∀ q ∈ peers, q.IsPath) :
    PeerNamesRead peers := by
  have hexact : ∀ q ∈ peers, ∀ name, q.Reports name → ∀ r : NameRun name, r.Tells (.ok q.text) := by
    intro q hq name hname r
    obtain ⟨p, rfl⟩ := h q hq
    obtain ⟨addr, htells⟩ := r.tells
    have hreports : Reports (some p) name := by
      intro p' hp'
      obtain rfl := Option.some.inj hp'
      exact hname
    rw [extracted_reported hreports rfl addr] at htells
    exact htells
  refine ⟨fun q hq name hname => ?_, hexact, ?_⟩
  · obtain ⟨p, rfl⟩ := h q hq
    have hlt := p.length_lt
    obtain rfl : name = ⟨saFamilySize + p.bytes.length + 1, p.bytes ++ [0]⟩ := hname
    unfold sunPathSize at hlt
    unfold saFamilySize sizeSub
    dsimp only
    omega
  · intro q hq q' hq' name name' hname hname' r r' s hs hs'
    have htext : s = q.text := NameCall.tells_inj hs (hexact q hq name hname r)
    have htext' : s = q'.text := NameCall.tells_inj hs' (hexact q' hq' name' hname' r')
    exact PeerName.text_injective (htext.symm.trans htext')

/-- Without a name there is nothing to subtract the terminator from. -/
theorem not_read_unnamed {peers : Set PeerName} (h : .unnamed ∈ peers) : ¬PeerNamesRead peers := by
  intro hread
  have hwrap := hread.no_wrap _ h ⟨0, []⟩ (Or.inl rfl)
  unfold saFamilySize at hwrap
  dsimp only at hwrap
  omega

/-- The last byte of an abstract name is left out for a terminator. -/
theorem not_read_abstract {peers : Set PeerName} {a : AbstractName} (h : .abstract a ∈ peers) :
    ¬PeerNamesRead peers := by
  intro hread
  have hpos := PeerName.abstract_bytes_pos a
  have hle := a.length_le
  unfold sunPathSize at hle
  let name : UnName := ⟨saFamilySize + a.bytes.length, a.bytes⟩
  have hcount : sizeSub (sizeSub name.len saFamilySize) 1 = a.bytes.length - 1 := by
    change sizeSub (sizeSub (2 + a.bytes.length) 2) 1 = _
    rw [sizeSub_of_le (a := 2 + a.bytes.length) (by omega) (by omega),
      sizeSub_of_le (by omega) (by omega)]
    omega
  have hmax : ¬maxSize < a.bytes.length - 1 := by
    unfold maxSize
    omega
  obtain ⟨r⟩ : Nonempty (NameRun name) := by
    apply exists_nameRun
    rw [hcount]
    exact Nat.not_lt.1 hmax
  obtain ⟨addr, htells⟩ := r.tells
  rw [extracted, hcount, if_neg hmax] at htells
  have htext := NameCall.tells_inj htells (hread.exact _ h name rfl r)
  have hlength := congrArg List.length htext
  change _ = a.bytes.length at hlength
  rw [List.length_take] at hlength
  omega

/-- **The names of the peers are read exactly if all the peers are bound to paths.** -/
theorem peer_names_read_iff (peers : Set PeerName) :
    PeerNamesRead peers ↔ ∀ q ∈ peers, q.IsPath := by
  refine ⟨fun hread q hq => ?_, peerNamesRead_of_paths⟩
  cases q with
  | unnamed => exact absurd hread (not_read_unnamed hq)
  | path p => exact ⟨p, rfl⟩
  | abstract a => exact absurd hread (not_read_abstract hq)

/-- An unbound peer is reported with the length of the family alone, or none; an abstract one loses
a byte. -/
theorem peer_names_not_read : ¬PeerNamesRead {PeerName.unnamed} ∧
    ¬PeerNamesRead {PeerName.abstract ⟨[0, 97], by decide, by decide⟩} :=
  ⟨not_read_unnamed rfl, not_read_abstract rfl⟩

end NET
