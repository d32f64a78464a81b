import SimpleSocket.Verify.InetConfig

/-!
# Membership in multicast groups

`joinGroup` and `leaveGroup` hand the kernel whatever `inet_addr` makes of a text, `INADDR_NONE`
included, and leave every check to it. Over whole runs a socket is in the groups it has joined and
not left since; the interface that the kernel picks for a group is always the same.
-/

namespace NET

open Op Interact SimpleSocket

/-- The call has joined the group. -/
def Joins (names : Resolver) (g : InAddr) (e : CallEntry) : Prop :=
  ∃ group v, e.op.op = .udpJoinGroup group ∧ e.result.ret = .ok v ∧ names.inetAddr (cStr group) = g

/-- The call has left the group. -/
def Leaves (names : Resolver) (g : InAddr) (e : CallEntry) : Prop :=
  ∃ group v, e.op.op = .udpLeaveGroup group ∧ e.result.ret = .ok v ∧
    names.inetAddr (cStr group) = g

/-- The group has been joined and not left since; or it was joined before the run. -/
def Member (names : Resolver) (k₀ : InetConfig) (es : List CallEntry) (g : InAddr) : Prop :=
  Since (Joins names g) (Leaves names g) es ∨
    (k₀ (.member g) = true ∧ ∀ e ∈ es, ¬Leaves names g e)

section Membership

variable {names : Resolver} {g : InAddr} {e : CallEntry} {k₀ : InetConfig} {es : List CallEntry}

theorem writes_member_iff {x : Bool} : e.writes names (.member g) x ↔
    (Joins names g e ∧ x = true) ∨ (Leaves names g e ∧ x = false) := by
  constructor
  · intro h
    obtain ⟨⟨op, vars, err⟩, pre, events, ⟨ret, vars'⟩, post⟩ := e
    cases ret with
    | error x => cases op <;> exact h.elim
    | ok v =>
      cases op with
      | udpJoinGroup group => exact Or.inl ⟨⟨group, v, rfl, rfl, h.1.symm⟩, h.2⟩
      | udpLeaveGroup group => exact Or.inr ⟨⟨group, v, rfl, rfl, h.1.symm⟩, h.2⟩
      | _ => exact h.elim
  · intro h
    rcases h with ⟨⟨group, v, hop, hret, hg⟩, hx⟩ | ⟨⟨group, v, hop, hret, hg⟩, hx⟩
    · rw [CallEntry.writes, hop, hret]
      exact ⟨hg.symm, hx⟩
    · rw [CallEntry.writes, hop, hret]
      exact ⟨hg.symm, hx⟩

theorem writes_true_iff : e.writes names (.member g) true ↔ Joins names g e := by
  simp [writes_member_iff]

theorem writes_false_iff : e.writes names (.member g) false ↔ Leaves names g e := by
  simp [writes_member_iff]

theorem not_joins_and_leaves (hj : Joins names g e) (hl : Leaves names g e) : False := by
  obtain ⟨group, v, hop, -, -⟩ := hj
  obtain ⟨group', v', hop', -, -⟩ := hl
  rw [hop] at hop'
  cases hop'

/-- The register of a group, after any part of a run. -/
theorem member_iff {x : Bool} (h : LastWrite (CallEntry.writes names) k₀ es (.member g) x) :
    x = true ↔ Member names k₀ es g := by
  have htrue : LastWrite (CallEntry.writes names) k₀ es (.member g) true ↔
      Member names k₀ es g := by
    rw [lastWrite_iff_since (y := false) (fun e z _ => by cases z <;> simp) fun e ht hf =>
      not_joins_and_leaves (writes_true_iff.1 ht) (writes_false_iff.1 hf)]
    simp only [writes_true_iff, writes_false_iff]
    exact Iff.rfl
  rw [← htrue]
  refine ⟨fun hx => hx ▸ h, fun hm => h.unique (fun e y z hy hz => ?_) hm⟩
  cases y <;> cases z
  · rfl
  · exact (not_joins_and_leaves (writes_true_iff.1 hz) (writes_false_iff.1 hy)).elim
  · exact (not_joins_and_leaves (writes_true_iff.1 hy) (writes_false_iff.1 hz)).elim
  · rfl

end Membership

/-- **The groups a socket is in are those it has joined and not left since.** A `joinGroup` returns
only for a multicast address the socket is not in, a `leaveGroup` only for one it is in, and a text
that is no address is never joined. -/
theorem multicast_membership {names : Resolver} {this s : SimpleSocket} {k₀ k : InetConfig}
    {es : List CallEntry} (h : SocketRun (inetKernel names) this k₀ es s k) :
    (∀ g, k (.member g) = true ↔ Member names k₀ es g) ∧
      (∀ before e after, es = before ++ e :: after → ∀ g,
        (Joins names g e → g.isMulticast = true ∧ ¬Member names k₀ before g) ∧
          (Leaves names g e → Member names k₀ before g)) ∧
      ∀ e ∈ es, ∀ group, e.op.op = .udpJoinGroup group → names.aton (cStr group) = none →
        ∃ x, e.result.ret = .error x := by
  obtain ⟨hlast, hall⟩ := run_registers h
  have joined : ∀ before e after, es = before ++ e :: after → ∀ g, Joins names g e →
      g.isMulticast = true ∧ ¬Member names k₀ before g := by
    intro before e after hes g hj
    obtain ⟨v, hv, hans⟩ := hall before e after hes
    obtain ⟨group, w, hop, hret, rfl⟩ := hj
    rw [hop, hret] at hans
    refine ⟨hans.1, fun hm => ?_⟩
    rw [← member_iff (hv _)] at hm
    have hout : v (.member (names.inetAddr (cStr group))) = false := hans.2
    rw [hm] at hout
    cases hout
  refine ⟨fun g => member_iff (hlast (.member g)), fun before e after hes g => ?_, ?_⟩
  · refine ⟨joined before e after hes g, fun hl => ?_⟩
    obtain ⟨v, hv, hans⟩ := hall before e after hes
    obtain ⟨group, w, hop, hret, rfl⟩ := hl
    rw [hop, hret] at hans
    exact (member_iff (hv _)).1 hans
  · intro e he group hop hnone
    obtain ⟨before, after, hes⟩ := List.append_of_mem he
    cases hret : e.result.ret with
    | error x => exact ⟨x, rfl⟩
    | ok v =>
      have hmulti := (joined before e after hes _ ⟨group, v, hop, hret, rfl⟩).1
      rw [Resolver.inetAddr, hnone] at hmulti
      cases hmulti

/-- The group 224.40.0.1 is joined on a new socket. -/
theorem multicast_membership_join : ∃ es : List CallEntry,
    Member ⟨parseQuad, fun _ => none⟩ InetConfig.new es ⟨224, 40, 0, 1⟩ := by
  let names : Resolver := ⟨parseQuad, fun _ => none⟩
  let g : InAddr := ⟨224, 40, 0, 1⟩
  have hr : Runs (invoke ⟨.udpJoinGroup (inetNtoa g), ⟨[], [], 0, 0, 0⟩, 0⟩ ⟨3, false⟩)
      [Event.lib (.inetAddr (cStr (inetNtoa g))) g,
        Event.sys .once (.setsockopt 3 0 35 (g.bytes ++ inAddrAny.bytes)) (.ok ())]
      (⟨.ok .unit, ⟨[], [], 0, 0, 0⟩⟩, ⟨3, false⟩) :=
    .cons (.answer rfl) (.cons (.answer rfl) (.nil _))
  have hg : g = names.inetAddr (cStr (inetNtoa g)) :=
    (congrArg (Option.getD · inAddrNone) (parseQuad_cStr_inetNtoa g)).symm
  have hask : inetStep names InetConfig.new (Event.lib (.inetAddr (cStr (inetNtoa g))) g)
      InetConfig.new := ⟨rfl, hg⟩
  have hk : (inetKernel names).Accepts InetConfig.new
      [Event.lib (.inetAddr (cStr (inetNtoa g))) g,
        Event.sys .once (.setsockopt 3 0 35 (g.bytes ++ inAddrAny.bytes)) (.ok ())]
      (Function.update InetConfig.new (.member g) true) :=
    .step hask (.single ⟨g, rfl, rfl, rfl, rfl⟩)
  have hmember := (multicast_membership (.single _ hr hk)).1 g
  exact ⟨_, hmember.1 (Function.update_self ..)⟩

end NET
