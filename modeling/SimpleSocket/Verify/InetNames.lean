import SimpleSocket.Verify.InetConfig

/-!
# Local and foreign names of UDP and TCP sockets

`connect` and `bind` turn a text and a port into an address in network byte order, and the getters
turn addresses back. What the getters return on a socket that was new at the beginning of the run is
the port and the address of the latest `connect` that returned, or of the `bind` that has given it a
port, after which no `bind` returns; and `connect` takes the text for the same address again.
-/

namespace NET

open Op Interact SimpleSocket

/-- The call has connected the socket to this address and port. -/
def Connects (names : Resolver) (a : InAddr) (port : BitVec 16) (e : CallEntry) : Prop :=
  ∃ address v, e.op.op = .inetConnect address port ∧ e.result.ret = .ok v ∧
    names.resolve address = some a

/-- The call has dissolved the association. -/
def Dissolves (e : CallEntry) : Prop := e.op.op = .disconnect ∧ ∃ v, e.result.ret = .ok v

/-- The call has changed the peer. -/
def ChangesPeer (names : Resolver) (e : CallEntry) : Prop :=
  (∃ a port, Connects names a port e) ∨ Dissolves e

/-- The call has bound the socket to this address and port. -/
def BindsName (names : Resolver) (a : InAddr) (port : BitVec 16) (e : CallEntry) : Prop :=
  ∃ v, e.result.ret = .ok v ∧ ((e.op.op = .inetBindAny port ∧ a = inAddrAny) ∨
    ∃ address, e.op.op = .inetBind address port ∧ names.resolve address = some a)

section Names

variable {names : Resolver} {e : CallEntry} {k₀ : InetConfig} {es : List CallEntry}

theorem writes_peer_iff {x : Option SockaddrIn} : e.writes names .peer x ↔
    (∃ a port, Connects names a port e ∧ x = some ⟨afInet, htons port, a⟩) ∨
      (Dissolves e ∧ x = none) := by
  constructor
  · intro h
    obtain ⟨⟨op, vars, err⟩, pre, events, ⟨ret, vars'⟩, post⟩ := e
    cases ret with
    | error x => cases op <;> exact h.elim
    | ok v =>
      cases op with
      | inetConnect address port =>
        obtain ⟨a, ha, hx⟩ := h
        exact Or.inl ⟨a, port, ⟨address, v, rfl, rfl, ha⟩, hx⟩
      | disconnect => exact Or.inr ⟨⟨rfl, v, rfl⟩, h⟩
      | _ => exact h.elim
  · intro h
    rcases h with ⟨a, port, ⟨address, v, hop, hret, ha⟩, rfl⟩ | ⟨⟨hop, v, hret⟩, rfl⟩
    · rw [CallEntry.writes, hop, hret]
      exact ⟨a, ha, rfl⟩
    · rw [CallEntry.writes, hop, hret]
      exact rfl

theorem writes_name_iff {x : Option SockaddrIn} : e.writes names .name x ↔
    ∃ a port, BindsName names a port e ∧ port ≠ 0 ∧ x = some ⟨afInet, htons port, a⟩ := by
  constructor
  · intro h
    obtain ⟨⟨op, vars, err⟩, pre, events, ⟨ret, vars'⟩, post⟩ := e
    cases ret with
    | error x => cases op <;> exact h.elim
    | ok v =>
      cases op with
      | inetBindAny port => exact ⟨inAddrAny, port, ⟨v, rfl, Or.inl ⟨rfl, rfl⟩⟩, h⟩
      | inetBind address port =>
        obtain ⟨hport, a, ha, hx⟩ := h
        exact ⟨a, port, ⟨v, rfl, Or.inr ⟨address, rfl, ha⟩⟩, hport, hx⟩
      | _ => exact h.elim
  · intro h
    obtain ⟨a, port, ⟨v, hret, ⟨hop, rfl⟩ | ⟨address, hop, ha⟩⟩, hport, rfl⟩ := h
    · rw [CallEntry.writes, hop, hret]
      exact ⟨hport, rfl⟩
    · rw [CallEntry.writes, hop, hret]
      exact ⟨hport, a, ha, rfl⟩

/-- The peer of a socket that was new. -/
theorem peer_latest {p : SockaddrIn} (h₀ : k₀ .peer = none)
    (h : LastWrite (CallEntry.writes names) k₀ es .peer (some p)) :
    ∃ a port, p = ⟨afInet, htons port, a⟩ ∧
      Since (Connects names a port) (ChangesPeer names) es := by
  rcases h with ⟨l₁, x, l₂, hes, hx, hno⟩ | ⟨hp, -⟩
  · rcases writes_peer_iff.1 hx with ⟨a, port, hc, hp⟩ | ⟨-, hp⟩
    · refine ⟨a, port, Option.some.inj hp, l₁, x, l₂, hes, hc, fun y hy hch => hno y hy ?_⟩
      rcases hch with ⟨a', port', hc'⟩ | hd
      · exact ⟨_, writes_peer_iff.2 (Or.inl ⟨a', port', hc', rfl⟩)⟩
      · exact ⟨_, writes_peer_iff.2 (Or.inr ⟨hd, rfl⟩)⟩
    · cases hp
  · rw [h₀] at hp
    cases hp

/-- A socket without a name has not been bound to a port. -/
theorem no_binds (h : LastWrite (CallEntry.writes names) k₀ es .name none) {b : CallEntry}
    (hb : b ∈ es) {a : InAddr} {port : BitVec 16} (hbind : BindsName names a port b) :
    port = 0 := by
  by_contra hport
  rcases h with ⟨l₁, x, l₂, hes, hx, hno⟩ | ⟨-, hno⟩
  · obtain ⟨a', port', -, -, hnone⟩ := writes_name_iff.1 hx
    cases hnone
  · exact hno b hb _ (writes_name_iff.2 ⟨a, port, hbind, hport, rfl⟩)

theorem BindsName.unique {a a' : InAddr} {port port' : BitVec 16} (h : BindsName names a port e)
    (h' : BindsName names a' port' e) : a = a' ∧ port = port' := by
  obtain ⟨v, -, ⟨hop, rfl⟩ | ⟨address, hop, ha⟩⟩ := h
  · obtain ⟨v', -, ⟨hop', rfl⟩ | ⟨address', hop', ha'⟩⟩ := h'
    · rw [hop] at hop'
      cases hop'
      exact ⟨rfl, rfl⟩
    · rw [hop] at hop'
      cases hop'
  · obtain ⟨v', -, ⟨hop', rfl⟩ | ⟨address', hop', ha'⟩⟩ := h'
    · rw [hop] at hop'
      cases hop'
    · rw [hop] at hop'
      cases hop'
      rw [ha] at ha'
      exact ⟨Option.some.inj ha', rfl⟩

/-- A socket that was bound to a port is not bound again. -/
def BoundOnce (names : Resolver) (es : List CallEntry) : Prop :=
  ∀ l₁ e l₂, es = l₁ ++ e :: l₂ → ∀ a port, BindsName names a port e →
    ∀ b ∈ l₁, ∀ a' port', BindsName names a' port' b → port' = 0

theorem BoundOnce.of_append {es' : List CallEntry} (h : BoundOnce names (es ++ es')) :
    BoundOnce names es := by
  rintro l₁ e l₂ rfl
  exact h l₁ e (l₂ ++ es') (by simp)

/-- When a `bind` returns, the socket had no port of its own. -/
theorem boundOnce {this s : SimpleSocket} {k : InetConfig}
    (h : SocketRun (inetKernel names) this k₀ es s k) : BoundOnce names es := by
  intro l₁ e l₂ hes a port hbind b hb a' port' hbefore
  obtain ⟨regs, hlast, hans⟩ := (run_registers h).2 l₁ e l₂ hes
  have hname : regs .name = none := by
    obtain ⟨w, hret, ⟨hop, -⟩ | ⟨address, hop, -⟩⟩ := hbind
    · rw [hop, hret] at hans
      exact hans
    · rw [hop, hret] at hans
      exact hans
  exact no_binds (hname ▸ hlast .name) hb hbefore

/-- The name of a socket that is bound to a port at most once. -/
theorem name_latest {x : Option SockaddrIn} (honce : BoundOnce names es)
    (h : LastWrite (CallEntry.writes names) k₀ es .name x) {b : CallEntry} (hb : b ∈ es)
    {a : InAddr} {port : BitVec 16} (hbind : BindsName names a port b) (hport : port ≠ 0) :
    x = some ⟨afInet, htons port, a⟩ := by
  have hwrote := writes_name_iff.2 ⟨a, port, hbind, hport, rfl⟩
  rcases h with ⟨l₁, e, l₂, hes, hx, hno⟩ | ⟨-, hno⟩
  · obtain ⟨a', port', he, -, rfl⟩ := writes_name_iff.1 hx
    rw [hes] at hb
    rcases List.mem_append.1 hb with hb | hb
    · exact absurd (honce l₁ e l₂ hes a' port' he b hb a port hbind) hport
    rcases List.mem_cons.1 hb with rfl | hb
    · obtain ⟨rfl, rfl⟩ := hbind.unique he
      rfl
    · exact absurd ⟨_, hwrote⟩ (hno b hb)
  · exact absurd hwrote (hno b hb _)

end Names

/-- What the names that `e` returns say about the calls before it. -/
structure NamesAnswered (names : Resolver) (before : List CallEntry) (e : CallEntry) (v : Value) :
    Prop where
  foreignPort : e.op.op = .getForeignPort → ∃ a port,
    Since (Connects names a port) (ChangesPeer names) before ∧ (port ≠ 0 → v = .int port.toNat)
  foreignAddress : e.op.op = .getForeignAddress → ∃ a port,
    Since (Connects names a port) (ChangesPeer names) before ∧
      (a ≠ inAddrAny → v = .str (inetNtoa a) ∧ names.resolve (inetNtoa a) = some a)
  localPort : e.op.op = .getLocalPort → ∀ b ∈ before, ∀ a port, BindsName names a port b →
    port ≠ 0 → v = .int port.toNat
  localAddress : e.op.op = .getLocalAddress → ∀ b ∈ before, ∀ a port, BindsName names a port b →
    port ≠ 0 → a ≠ inAddrAny → v = .str (inetNtoa a)
  -- a socket that has been bound to a port is not bound again
  bindOnce : ∀ a port, BindsName names a port e → ∀ b ∈ before, ∀ a' port',
    BindsName names a' port' b → port' = 0

end NET
