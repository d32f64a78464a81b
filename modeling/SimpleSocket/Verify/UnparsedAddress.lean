import SimpleSocket.Net.UnixSocket
import SimpleSocket.Verify.InterfaceSettings

/-!
# Addresses that do not parse

`inet_aton` leaves its output alone when it rejects a text. `fillAddress` has written the family and
the port by then, and throws when the resolver does not know the text either. The functions that set
an address do not look at what `inet_aton` returned: they hand the kernel what the local struct
held.
-/

namespace NET

open Op Interact SimpleSocket

/-! ## `fillAddress` -/

/-- What `inet_aton` and `gethostbyname` make of the texts. -/
structure Resolver where
  aton : Str → Option InAddr
  host : Str → Option InAddr

namespace Resolver

/-- The answers are those of the resolver. -/
def Replies (d : Resolver) : Event → Prop
  | ⟨.lib (.inetAton s), r⟩ => r = d.aton s
  | ⟨.lib (.gethostbyname s), r⟩ => r = d.host s
  | _ => True

/-- A failing `fillAddress` leaves the struct of its caller as it was, field by field. -/
def KeepsAddress (d : Resolver) (address : Str) (port : BitVec 16) (addr : SockaddrIn) : Prop :=
  ∀ err tr x (s' : Proc SockaddrIn),
    Runs (InternetSocket.fillAddress address port ⟨err, addr⟩) tr (.error x, s') →
      (∀ e ∈ tr, d.Replies e) → s'.vars = addr

end Resolver

section Fill

variable {d : Resolver} {address : Str} {port : BitVec 16}

/-- `fillAddress` throws when the text neither parses nor resolves, with two fields written. -/
theorem fillAddress_throws {s s' : Proc SockaddrIn} {tr : List Event} {x : Exn}
    (hr : Runs (InternetSocket.fillAddress address port s) tr (.error x, s'))
    (hd : ∀ e ∈ tr, d.Replies e) : d.aton (cStr address) = none ∧ d.host (cStr address) = none ∧
      s'.vars = ⟨afInet, htons port, s.vars.sinAddr⟩ := by
  have key := Op.Runs.wp (Q := fun as r s' => (∀ a ∈ as, d.Replies a.2) → ∀ x, r = .error x →
    d.aton (cStr address) = none ∧ d.host (cStr address) = none ∧
      s'.vars = ⟨afInet, htons port, s.vars.sinAddr⟩) hr (by
    simp only [InternetSocket.fillAddress, wp_bind, wp_modify, List.nil_append]
    apply wp_lib.2
    intro b parsed
    cases parsed with
    | some a =>
      intro _ x hx
      cases hx
    | none =>
      simp only [wp_bind]
      apply wp_lib.2
      intro b' answer
      cases answer with
      | some a =>
        intro _ x hx
        cases hx
      | none =>
        intro hd x _
        have haton : none = d.aton (cStr address) := hd _ List.mem_cons_self
        have hhost : none = d.host (cStr address) :=
          hd _ (List.mem_cons_of_mem _ List.mem_cons_self)
        exact ⟨haton.symm, hhost.symm, rfl⟩)
  exact key (forall_answers hd false) x rfl

/-- The run of `fillAddress` on a text that neither parses nor resolves. -/
theorem fillAddress_fails (address : Str) (port : BitVec 16) (s : Proc SockaddrIn) :
    Runs (InternetSocket.fillAddress address port s)
      [Event.lib (.inetAton (cStr address)) none, Event.lib (.gethostbyname (cStr address)) none]
      (.error (.socket ⟨"Failed to resolve address (gethostbyname)", false, 0⟩),
        ⟨s.errno, ⟨afInet, htons port, s.vars.sinAddr⟩⟩) :=
  .cons (.answer rfl) (.cons (.answer rfl) (.nil _))

theorem keepsAddress_iff {addr : SockaddrIn} : d.KeepsAddress address port addr ↔
    (d.aton (cStr address)).isSome ∨ (d.host (cStr address)).isSome ∨
      (addr.sinFamily = afInet ∧ addr.sinPort = htons port) := by
  constructor
  · intro h
    cases haton : d.aton (cStr address) with
    | some a => exact Or.inl rfl
    | none =>
      cases hhost : d.host (cStr address) with
      | some a => exact Or.inr (Or.inl rfl)
      | none =>
        have hkept := h 0 _ _ _ (fillAddress_fails address port _)
          (List.forall_mem_cons.2 ⟨haton.symm, List.forall_mem_singleton.2 hhost.symm⟩)
        have hfamily := congrArg SockaddrIn.sinFamily hkept
        have hport := congrArg SockaddrIn.sinPort hkept
        exact Or.inr (Or.inr ⟨hfamily.symm, hport.symm⟩)
  · intro h err tr x s' hr hd
    obtain ⟨haton, hhost, hs⟩ := fillAddress_throws hr hd
    rw [haton, hhost] at h
    rcases h with h | h | ⟨hfamily, hport⟩
    · cases h
    · cases h
    · rw [hs, ← hfamily, ← hport]

/-- `UnixSocket::fillAddress` checks the path before it writes anything. -/
theorem unixFillAddress_keeps {path : Str} {s s' : Proc SockaddrUn} {tr : List Event} {x : Exn}
    (hr : Runs (UnixSocket.fillAddress path s) tr (.error x, s')) : s' = s := by
  unfold UnixSocket.fillAddress at hr
  split at hr
  · obtain ⟨-, hx⟩ := Runs.ret_inv hr
    exact (Prod.mk.inj hx).2
  · obtain ⟨-, hx⟩ := Runs.ret_inv hr
    cases (Prod.mk.inj hx).1

end Fill

/-- **When a failing `fillAddress` leaves the address alone.** That of a Unix socket always does.
That of an internet socket does exactly if it cannot fail on the text, or the struct already holds
the family and the port it writes first. -/
theorem fillAddress_keeps_address_iff (d : Resolver) (address : Str) (port : BitVec 16)
    (addr : SockaddrIn) :
    (d.KeepsAddress address port addr ∧
      ∀ (path : Str) err (addr' : SockaddrUn) tr x (s' : Proc SockaddrUn),
        Runs (UnixSocket.fillAddress path ⟨err, addr'⟩) tr (.error x, s') → s'.vars = addr') ↔
    (d.aton (cStr address)).isSome ∨ (d.host (cStr address)).isSome ∨
      (addr.sinFamily = afInet ∧ addr.sinPort = htons port) := by
  rw [← keepsAddress_iff]
  refine and_iff_left ?_
  intro path err addr' tr x s' hr
  rw [unixFillAddress_keeps hr]

/-- The name `a` is not known: the struct of the caller has a new family and a new port. -/
theorem fillAddress_changes_address :
    ¬∀ (d : Resolver) (address : Str) (port : BitVec 16) (addr : SockaddrIn),
      d.KeepsAddress address port addr := by
  intro h
  have hkeep := keepsAddress_iff.1 (h ⟨fun _ => none, fun _ => none⟩ [97] 80 ⟨0, 0, inAddrAny⟩)
  revert hkeep
  decide

/-! ## The functions that set an address -/

/-- A function that sets an address; what it sets it for. -/
inductive AddressCall
  | setInterfaceAddress (interface : Str)
  | setBroadcastAddress (interface : Str)
  | setNetmask (interface : Str)
  | setDestinationAddress (interface : Str)
  | setMulticastInterfaceAddr

namespace AddressCall

def body : AddressCall → Str → Method Unit
  | .setInterfaceAddress i, s => SocketUtils.setInterfaceAddress i s
  | .setBroadcastAddress i, s => SocketUtils.setBroadcastAddress i s
  | .setNetmask i, s => SocketUtils.setNetmask i s
  | .setDestinationAddress i, s => SocketUtils.setDestinationAddress i s
  | .setMulticastInterfaceAddr, s => UDPSocket.setMulticastInterfaceAddr s

/-- The name of the interface fits into an `ifreq`. -/
def Fits : AddressCall → Prop
  | .setInterfaceAddress i => i.length < ifNameSize
  | .setBroadcastAddress i => i.length < ifNameSize
  | .setNetmask i => i.length < ifNameSize
  | .setDestinationAddress i => i.length < ifNameSize
  | .setMulticastInterfaceAddr => True

end AddressCall

/-- The addresses an event asks the kernel to set. -/
def asked : Event → List (List UInt8)
  | ⟨.sys _ (.ioctl _ _ ifr), _⟩ => [ifr.sinAddr.bytes]
  | ⟨.sys _ (.setsockopt _ _ _ optval), _⟩ => [optval]
  | _ => []

/-- `inet_aton` answers as the function `aton`. -/
def Parses (aton : Str → Option InAddr) : Event → Prop
  | ⟨.lib (.inetAton s), r⟩ => r = aton s
  | _ => True

/-- The text was parsed and its address is the only one the kernel was asked to set, or the call
threw and asked nothing. -/
def AppliesParsed (aton : Str → Option InAddr) (s : Str) (asks : List (List UInt8))
    (r : Except Exn Unit) : Prop :=
  (∃ x, aton (cStr s) = some x ∧ (∀ a ∈ asks, a = x.bytes) ∧ (r = .ok () → x.bytes ∈ asks)) ∨
    ((∃ x, r = .error x) ∧ asks = [])

/-- Every run applies the parsed address, and two runs on the same text ask for the same address,
whatever the memory they find. -/
structure AddressCall.SetsParsed (aton : Str → Option InAddr) (c : AddressCall) (s : Str) :
    Prop where
  applies : ∀ st tr r st', Runs (c.body s st) tr (r, st') → (∀ e ∈ tr, Parses aton e) →
    AppliesParsed aton s (tr.flatMap asked) r
  agree : ∀ st tr r st', Runs (c.body s st) tr (r, st') → (∀ e ∈ tr, Parses aton e) →
    ∀ st₁ tr₁ r₁ st₁', Runs (c.body s st₁) tr₁ (r₁, st₁') → (∀ e ∈ tr₁, Parses aton e) →
      ∀ a ∈ tr.flatMap asked, ∀ a₁ ∈ tr₁.flatMap asked, a = a₁

section Set

variable {aton : Str → Option InAddr} {l : List (List UInt8)} {v : Frame}

/-- The kernel whose log is what it is asked to set. -/
abbrev asks (aton : Str → Option InAddr) :
    View (.log (Parses aton) asked) (List (List UInt8)) := View.log (Parses aton) asked

/-- The address that is handed over: the parsed one, or what was in the struct. -/
def HandsOver (aton : Str → Option InAddr) (s : Str) (l : List (List UInt8)) (r : Except Exn Unit)
    (l' : List (List UInt8)) : Prop :=
  ((∃ x, r = .error x) ∧ l' = l) ∨ ∃ g, l' = l ++ [((aton (cStr s)).getD g).bytes]

/-- A call that asks, and the check of its result. -/
theorem triple_asks {c : Sys} {failure : String} {s : Str}
    (hc : ∃ g, ∀ r, asked (Event.sys .once c r) = [((aton (cStr s)).getD g).bytes]) :
    Op.Triple (asks aton) l (Op.sys .once c >>= fun r =>
      if failed r then throwSocket failure true else return ()) v
      fun r _ l' => HandsOver aton s l r l' := by
  obtain ⟨g, hg⟩ := hc
  refine .bind (.sys (fun _ _ _ _ _ ha => by cases ha) fun k r k' hk hs _ => ?_)
  have hl := (View.log_step hk hs).2
  rw [hg] at hl
  refine ⟨_, hl, ?_⟩
  exact .ite (fun _ => .throwSocket fun x => Or.inr ⟨g, rfl⟩) fun _ => .pure (Or.inr ⟨g, rfl⟩)

/-- What `writeAddress` leaves at the place of the address. -/
theorem triple_writeAddress_asks {s : Str} {ifr : Ifreq} (hsize : ifr.ifrIfru.length = 24) :
    Op.Triple (asks aton) l (SocketUtils.writeAddress s ifr) v fun r v' l' => v' = v ∧ l' = l ∧
      ∃ ifr', r = .ok ifr' ∧ ifr'.sinAddr = (aton (cStr s)).getD ifr.sinAddr := by
  unfold SocketUtils.writeAddress
  refine .bind (.libIgnored (View.log_ignores fun _ => rfl) fun k r k' hk hs => ?_)
  have hr : r = aton (cStr s) := (View.log_step hk hs).1
  rw [← hr]
  cases r with
  | some x => exact .pure ⟨rfl, rfl, _, rfl, sinAddr_setSinAddr hsize x⟩
  | none => exact .pure ⟨rfl, rfl, _, rfl, rfl⟩

theorem triple_setAddress {request : ℤ} {failure : String} {i s : Str} :
    Op.Triple (asks aton) l (SocketUtils.setSetting request failure (SocketUtils.writeAddress s) i)
      v fun r _ l' => HandsOver aton s l r l' := by
  unfold SocketUtils.setSetting
  refine .bind (.localIfreq (View.log_ignores fun _ => rfl) (fun _ x => Or.inl ⟨⟨x, rfl⟩, rfl⟩)
    fun _ mem => .bind ?_)
  apply (triple_writeAddress_asks (Ifreq.assign_ifru_length mem.2.2 i)).mono
  intro r v' l' h
  obtain ⟨rfl, rfl, ifr', rfl, haddr⟩ := h
  refine .withTempSocket (View.log_ignores fun _ => rfl) (fun _ => View.log_ignores fun _ => rfl)
    (fun _ _ _ _ _ x => Or.inl ⟨⟨x, rfl⟩, rfl⟩) fun fd => ?_
  exact triple_asks ⟨_, fun r => congrArg (fun a => [InAddr.bytes a]) haddr⟩

theorem triple_setMulticast {s : Str} :
    Op.Triple (asks aton) l (UDPSocket.setMulticastInterfaceAddr s) v
      fun r _ l' => HandsOver aton s l r l' := by
  unfold UDPSocket.setMulticastInterfaceAddr setOption thisSocket
  refine .bind (.libIgnored (View.log_ignores fun _ => rfl) fun _ g _ _ _ => ?_)
  refine .bind (.libIgnored (View.log_ignores fun _ => rfl) fun k r k' hk hs => ?_)
  have hr : r = aton (cStr s) := (View.log_step hk hs).1
  refine .bind (.bind (.get (.pure (triple_asks ⟨g, fun r => ?_⟩))))
  rw [← hr]
  rfl

/-- A call throws and asks nothing, or hands over one address. -/
theorem triple_addressCall (c : AddressCall) (s : Str) :
    Op.Triple (asks aton) l (c.body s) v fun r _ l' => HandsOver aton s l r l' := by
  cases c with
  | setMulticastInterfaceAddr => exact triple_setMulticast
  | _ => exact triple_setAddress

theorem can_setAddress {request : ℤ} {failure : String} {i s : Str} (hi : i.length < ifNameSize)
    (hs : aton (cStr s) = none) :
    Op.Can (.log (Parses aton) asked) l (SocketUtils.setSetting request failure
      (SocketUtils.writeAddress s) i : Method Unit) fun _ l' => ∃ a, l' = l ++ [a] := by
  unfold SocketUtils.setSetting SocketUtils.writeAddress
  refine .bind (.localIfreq hi Ifreq.zero (Kernel.log_quiet trivial rfl) ?_)
  refine .bind (.bind (.lib none (Kernel.log_quiet hs.symm rfl) (.pure ?_)))
  refine .withTempSocket (Kernel.log_quiet trivial rfl) (fun _ => Kernel.log_quiet trivial rfl) ?_
  exact .bind (.sys (.ok ⟨[], []⟩) rfl (Kernel.log_noted trivial rfl) (.pure ⟨_, rfl⟩))

/-- On a text that `inet_aton` rejects a call can return, and the kernel has been asked. -/
theorem can_addressCall {c : AddressCall} {s : Str} (hfits : c.Fits)
    (hs : aton (cStr s) = none) :
    Op.Can (.log (Parses aton) asked) l (c.body s) fun _ l' => ∃ a, l' = l ++ [a] := by
  cases c with
  | setMulticastInterfaceAddr =>
    unfold AddressCall.body UDPSocket.setMulticastInterfaceAddr setOption thisSocket
    refine .bind (.lib inAddrAny (Kernel.log_quiet trivial rfl) ?_)
    refine .bind (.lib none (Kernel.log_quiet hs.symm rfl) ?_)
    refine .bind (.bind (.get fun f => .pure (.bind ?_)))
    exact .sys (.ok ()) rfl (Kernel.log_noted trivial rfl) (.pure ⟨_, rfl⟩)
  | _ => exact can_setAddress hfits hs

/-- What a run hands over. -/
theorem handsOver_of_runs {c : AddressCall} {s : Str} {st st' : Proc Frame} {tr : List Event}
    {r : Except Exn Unit} (hr : Runs (c.body s st) tr (r, st')) (htr : ∀ e ∈ tr, Parses aton e) :
    HandsOver aton s [] r (tr.flatMap asked) :=
  (triple_addressCall c s).log_runs hr htr

theorem HandsOver.eq_parsed {s : Str} {x : InAddr} {r : Except Exn Unit} {as : List (List UInt8)}
    (h : HandsOver aton s [] r as) (hx : aton (cStr s) = some x) : ∀ a ∈ as, a = x.bytes := by
  intro a ha
  rcases h with ⟨-, rfl⟩ | ⟨g, rfl⟩
  · cases ha
  · rw [hx] at ha
    exact List.mem_singleton.1 ha

theorem HandsOver.mem_of_ok {s : Str} {x : InAddr} {r : Except Exn Unit} {as : List (List UInt8)}
    (h : HandsOver aton s [] r as) (hx : aton (cStr s) = some x) (hok : r = .ok ()) :
    x.bytes ∈ as := by
  rcases h with ⟨⟨y, hy⟩, -⟩ | ⟨g, rfl⟩
  · rw [hok] at hy
    cases hy
  · simp [hx]

/-- A text that is rejected is applied by some run. -/
theorem exists_applied {c : AddressCall} (hfits : c.Fits) {s : Str} (hs : aton (cStr s) = none) :
    ∃ st tr r st', Runs (c.body s st) tr (r, st') ∧ (∀ e ∈ tr, Parses aton e) ∧
      ¬AppliesParsed aton s (tr.flatMap asked) r := by
  let st : Proc Frame := ⟨0, ⟨⟨3, false⟩, [], [], 0, 0, 0⟩⟩
  obtain ⟨tr, x, st', hr, htr, a, hasked⟩ := (can_addressCall hfits hs).log_runs st
  refine ⟨st, tr, .ok x, st', hr, htr, ?_⟩
  intro h
  rcases h with ⟨y, hy, -⟩ | ⟨⟨y, hy⟩, -⟩
  · rw [hs] at hy
    cases hy
  · cases hy

end Set

/-- **An address that does not parse is applied.** The functions that set an address set the parsed
one and nothing else, in every run and whatever memory it finds, exactly on the texts that
`inet_aton` accepts. -/
theorem address_parsed_iff {aton : Str → Option InAddr} {c : AddressCall} (hfits : c.Fits)
    (s : Str) :
    c.SetsParsed aton s ↔ (aton (cStr s)).isSome := by
  constructor
  · intro h
    cases hs : aton (cStr s) with
    | some x => rfl
    | none =>
      obtain ⟨st, tr, r, st', hr, htr, hnot⟩ := exists_applied hfits hs
      exact absurd (h.applies st tr r st' hr htr) hnot
  · intro h
    obtain ⟨x, hx⟩ := Option.isSome_iff_exists.1 h
    constructor
    · intro st tr r st' hr htr
      have hover := handsOver_of_runs hr htr
      exact Or.inl ⟨x, hx, hover.eq_parsed hx, hover.mem_of_ok hx⟩
    · intro st tr r st' hr htr st₁ tr₁ r₁ st₁' hr₁ htr₁ a ha a₁ ha₁
      rw [(handsOver_of_runs hr htr).eq_parsed hx a ha,
        (handsOver_of_runs hr₁ htr₁).eq_parsed hx a₁ ha₁]

/-- The netmask 255.0.0.0 of the interface `lo`. -/
theorem address_parsed_netmask :
    (AddressCall.setNetmask [108, 111]).SetsParsed parseQuad (inetNtoa ⟨255, 0, 0, 0⟩) := by
  have hfits : (AddressCall.setNetmask [108, 111]).Fits := show 2 < ifNameSize by decide
  apply (address_parsed_iff hfits _).2
  rw [parseQuad_cStr_inetNtoa]
  rfl

/-- The text `x` is no address, and is set as the netmask of `lo`. -/
theorem setNetmask_applies_unparsed : ¬∀ (aton : Str → Option InAddr) (c : AddressCall) (s : Str),
    c.Fits → c.SetsParsed aton s := by
  intro h
  have hfits : (AddressCall.setNetmask [108, 111]).Fits := show 2 < ifNameSize by decide
  obtain ⟨st, tr, r, st', hr, htr, hnot⟩ := exists_applied hfits
    (show parseQuad (cStr [120]) = none by decide)
  exact hnot ((h parseQuad _ [120] hfits).applies st tr r st' hr htr)

end NET
