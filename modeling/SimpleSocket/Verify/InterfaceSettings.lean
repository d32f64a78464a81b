import Mathlib.Data.List.GetD
import Mathlib.Data.List.Induction
import SimpleSocket.Verify.InterfaceCalls

/-!
# Interface settings as a store

The kernel keeps five attributes for every interface name (`Store`). An `ioctl` request reads or
writes one of them, at the place of the attribute in the union of the `ifreq`; the rest of the
answer is arbitrary. One lemma says what a function that asks does (`triple_getSetting`), and one
what a function that changes something does (`triple_setSetting`); the ten functions are their
instances.
-/

namespace NET

open Op Interact SocketUtils

/-! ## The store -/

inductive Attr
  | address
  | broadcast
  | netmask
  | destination
  | mtu
  deriving DecidableEq

namespace Attr

@[reducible] def Value : Attr → Type
  | .address => InAddr
  | .broadcast => InAddr
  | .netmask => InAddr
  | .destination => InAddr
  | .mtu => BitVec 32

/-- The place of the attribute in the union. -/
def read : (a : Attr) → Ifreq → a.Value
  | .address => Ifreq.sinAddr
  | .broadcast => Ifreq.sinAddr
  | .netmask => Ifreq.sinAddr
  | .destination => Ifreq.sinAddr
  | .mtu => fun ifr => word32 ifr.ifrIfru

/-- `SIOCGIFADDR`, `SIOCGIFBRDADDR`, `SIOCGIFNETMASK`, `SIOCGIFDSTADDR` and `SIOCGIFMTU`. -/
def getRequest : Attr → ℤ
  | .address => 0x8915
  | .broadcast => 0x8919
  | .netmask => 0x891b
  | .destination => 0x8917
  | .mtu => 0x8921

/-- `SIOCSIFADDR`, `SIOCSIFBRDADDR`, `SIOCSIFNETMASK`, `SIOCSIFDSTADDR` and `SIOCSIFMTU`. -/
def setRequest : Attr → ℤ
  | .address => 0x8916
  | .broadcast => 0x891a
  | .netmask => 0x891c
  | .destination => 0x8918
  | .mtu => 0x8922

/-- How a getter returns a value: an address in its standard form. -/
def print : (a : Attr) → a.Value → Utility.Result
  | .address => fun x => .str (inetNtoa x)
  | .broadcast => fun x => .str (inetNtoa x)
  | .netmask => fun x => .str (inetNtoa x)
  | .destination => fun x => .str (inetNtoa x)
  | .mtu => fun x => .int x.toInt

theorem getRequest_inj {a b : Attr} (h : a.getRequest = b.getRequest) : a = b := by
  cases a <;> cases b <;> first | rfl | cases h

theorem setRequest_inj {a b : Attr} (h : a.setRequest = b.setRequest) : a = b := by
  cases a <;> cases b <;> first | rfl | cases h

theorem getRequest_ne_setRequest (a b : Attr) : a.getRequest ≠ b.setRequest := by
  cases a <;> cases b <;> decide

end Attr

/-- The attributes of every interface. -/
abbrev Store : Type := Str → (a : Attr) → a.Value

def Store.set (k : Store) (name : Str) (a : Attr) (x : a.Value) : Store :=
  Function.update k name (Function.update (k name) a x)

theorem Store.set_self (k : Store) (name : Str) (a : Attr) (x : a.Value) :
    k.set name a x name a = x := by
  simp [Store.set]

theorem Store.set_of_ne {k : Store} {name name' : Str} {a a' : Attr} {x : a.Value}
    (h : name' = name → a' ≠ a) : k.set name a x name' a' = k name' a' := by
  unfold Store.set
  by_cases hname : name' = name
  · subst hname
    rw [Function.update_self, Function.update_of_ne (h rfl)]
  · rw [Function.update_of_ne hname]

/-- What the kernel does at a request that succeeds. -/
structure Store.Answers (k : Store) (request : ℤ) (ifr ifr' : Ifreq) (k' : Store) : Prop where
  set : ∀ a : Attr, request = a.setRequest →
    (a ≠ .mtu → ifr.saFamily = afInet) ∧ k' = k.set (cStr ifr.ifrName) a (a.read ifr)
  get : ∀ a : Attr, request = a.getRequest → a.read ifr' = k (cStr ifr.ifrName) a
  frame : (∀ a : Attr, request ≠ a.setRequest) → k' = k

/-- What happens to the settings at an event; `aton` is `inet_aton`. -/
def storeStep (aton : Str → Option InAddr) (k : Store) : Event → Store → Prop
  | ⟨.sys _ (.ioctl _ request ifr), .ok (ifr' : Ifreq)⟩, k' => k.Answers request ifr ifr' k'
  | ⟨.lib (.inetAton s), r⟩, k' => r = aton s ∧ k' = k
  | _, k' => k' = k

/-- A kernel that keeps every attribute of every interface name by itself: no setting changes
another one, and no two names share one. -/
def storeKernel (aton : Str → Option InAddr) : Kernel posix where
  State := Store
  step := storeStep aton
  idle _ _ := False

/-- The settings, as they are. -/
abbrev settings (aton : Str → Option InAddr) : View (storeKernel aton) Store :=
  View.exact (storeKernel aton) fun _ _ => id

/-! ## The functions -/

/-- A value for an attribute of an interface. -/
structure Setting where
  name : Str
  attr : Attr
  value : attr.Value

namespace Utility

/-- What a setter is asked to set. -/
def sets (aton : Str → Option InAddr) : Utility → Option Setting
  | .setInterfaceAddress i s => (aton (cStr s)).map fun x => ⟨i, .address, x⟩
  | .setBroadcastAddress i s => (aton (cStr s)).map fun x => ⟨i, .broadcast, x⟩
  | .setNetmask i s => (aton (cStr s)).map fun x => ⟨i, .netmask, x⟩
  | .setDestinationAddress i s => (aton (cStr s)).map fun x => ⟨i, .destination, x⟩
  | .setMTU i mtu => some ⟨i, .mtu, mtu⟩
  | _ => none

/-- What a getter is asked for. -/
def gets : Utility → Option (Str × Attr)
  | .getInterfaceAddress i => some (i, .address)
  | .getBroadcastAddress i => some (i, .broadcast)
  | .getNetmask i => some (i, .netmask)
  | .getDestinationAddress i => some (i, .destination)
  | .getMTU i => some (i, .mtu)
  | _ => none

/-- The interface a function is about. -/
def interface : Utility → Option Str
  | .getInterfaceAddress i => some i
  | .setInterfaceAddress i _ => some i
  | .getBroadcastAddress i => some i
  | .setBroadcastAddress i _ => some i
  | .getNetmask i => some i
  | .setNetmask i _ => some i
  | .getDestinationAddress i => some i
  | .setDestinationAddress i _ => some i
  | .getMTU i => some i
  | .setMTU i _ => some i
  | .getHardwareAddress i _ => some i
  | _ => none

/-- The address a setter is given. -/
def address : Utility → Option Str
  | .setInterfaceAddress _ s => some s
  | .setBroadcastAddress _ s => some s
  | .setNetmask _ s => some s
  | .setDestinationAddress _ s => some s
  | _ => none

/-- The arguments are a name without NUL, and an address that `inet_aton` accepts. -/
structure Valid (aton : Str → Option InAddr) (u : Utility) : Prop where
  name : ∀ i, u.interface = some i → 0 ∉ i
  address : ∀ s, u.address = some s → ∃ x, aton (cStr s) = some x

/-- What a function returns and leaves of the settings. -/
structure Performs (aton : Str → Option InAddr) (u : Utility) (k : Store)
    (r : Except Exn Result) (k' : Store) : Prop where
  set : ∀ s, u.sets aton = some s →
    (r = .ok .unit ∧ k' = k.set s.name s.attr s.value) ∨ ((∃ x, r = .error x) ∧ k' = k)
  frame : u.sets aton = none → k' = k
  get : ∀ i a x, u.gets = some (i, a) → r = .ok x → x = a.print (k i a)
  long : ∀ i, u.interface = some i → ifNameSize ≤ i.length → ∃ x, r = .error x

end Utility

/-! ## The `ifreq` -/

/-- What `assign_ifreq` has written is in place. -/
structure Assigned (interface : Str) (ifr : Ifreq) : Prop where
  name : cStr ifr.ifrName = interface
  family : ifr.saFamily = afInet
  size : ifr.ifrIfru.length = 24

section Ifreq

variable {ifr : Ifreq}

/-- The address is read back from where it was written. -/
theorem sinAddr_setSinAddr (h : ifr.ifrIfru.length = 24) (x : InAddr) :
    (ifr.setSinAddr x).sinAddr = x := by
  have hlen : (ifr.ifrIfru.take 4).length = 4 := by
    rw [List.length_take, h]
    rfl
  have hget (i : ℕ) : (ifr.setSinAddr x).ifrIfru.getD (4 + i) 0 =
      (overwrite (ifr.ifrIfru.drop 4) x.bytes).getD i 0 := by
    unfold Ifreq.setSinAddr
    rw [List.getD_append_right _ _ _ _ (by omega), hlen, Nat.add_sub_cancel_left]
  unfold Ifreq.sinAddr
  rw [hget 0, hget 1, hget 2, hget 3]
  rfl

/-- The family lies before the address. -/
theorem saFamily_setSinAddr (h : ifr.ifrIfru.length = 24) (x : InAddr) :
    (ifr.setSinAddr x).saFamily = ifr.saFamily := by
  have hget {i : ℕ} (hi : i < 4) : (ifr.setSinAddr x).ifrIfru.getD i 0 = ifr.ifrIfru.getD i 0 := by
    have hlen : i < (ifr.ifrIfru.take 4).length := by
      rw [List.length_take, h]
      omega
    unfold Ifreq.setSinAddr
    rw [List.getD_append _ _ _ _ hlen, List.getD_eq_getElem?_getD, List.getD_eq_getElem?_getD,
      List.getElem?_take_of_lt hi]
  unfold Ifreq.saFamily
  rw [hget (by omega), hget (by omega)]

theorem word32_setMtu (mtu : BitVec 32) : word32 (ifr.setMtu mtu).ifrIfru = mtu :=
  word32_le32 mtu _

/-- `assign_ifreq` on any memory. -/
theorem assigned {interface : Str} (h0 : 0 ∉ interface) (hsize : ifr.ifrIfru.length = 24) :
    Assigned interface (ifr.assign interface) := by
  refine ⟨?_, ifr.saFamily_assign _, Ifreq.assign_ifru_length hsize _⟩
  rw [ifr.cStr_assign, cStr_of_no_nul h0]

end Ifreq

/-! ## Asking and setting -/

section Functions

variable {τ α : Type} {aton : Str → Option InAddr} {k : Store} {v : τ}

/-- Only requests and `inet_aton` concern the settings. -/
theorem settings_ignores {c : Call} (hc : ∀ k r k', storeStep aton k ⟨c, r⟩ k' → k' = k) :
    (settings aton).Ignores c := fun _ k r k' hk hs => (hc k r k' hs).trans hk

theorem triple_localIfreq {interface : Str} {Q : Except Exn Ifreq → τ → Store → Prop}
    (h0 : 0 ∉ interface) (herr : ∀ x, Q (.error x) v k)
    (hok : ∀ ifr, interface.length < ifNameSize → Assigned interface ifr → Q (.ok ifr) v k) :
    Op.Triple (settings aton) k (localIfreq interface) v Q :=
  .localIfreq (settings_ignores fun _ _ _ => id) (fun _ => herr)
    fun hlen mem => hok _ hlen (assigned h0 mem.2.2)

/-- The temporary socket does not touch the settings. -/
theorem triple_withTempSocket {body : ℤ → Op τ α} {Q : Except Exn α → τ → Store → Prop}
    (herr : ∀ x, Q (.error x) v k) (hbody : ∀ fd, Op.Triple (settings aton) k (body fd) v Q) :
    Op.Triple (settings aton) k (withTempSocket body) v Q :=
  .withTempSocket (settings_ignores fun _ _ _ => id) (fun _ => settings_ignores fun _ _ _ => id)
    (fun _ _ _ _ _ => herr) hbody

/-- A function that asks: it throws, or reads the answer of the kernel. -/
theorem triple_getSetting {request : ℤ} {failure : String} {read : Ifreq → Op τ α} {interface : Str}
    {Q : Except Exn α → τ → Store → Prop} (hreq : ∀ a : Attr, request ≠ a.setRequest)
    (h0 : 0 ∉ interface) (herr : ∀ x, Q (.error x) v k)
    (hread : ∀ ifr, interface.length < ifNameSize →
      (∀ a : Attr, request = a.getRequest → a.read ifr = k interface a) →
      Op.Triple (settings aton) k (read ifr) v Q) :
    Op.Triple (settings aton) k (getSetting request failure read interface) v Q := by
  unfold getSetting
  refine .bind (triple_localIfreq h0 herr fun ifr hlen hifr => ?_)
  refine triple_withTempSocket herr fun fd => .bind (.sys (fun _ _ _ _ _ ha => by cases ha) ?_)
  rintro k₁ r k₂ rfl hs -
  cases r with
  | error e => exact ⟨k₁, hs, .throwSocket fun x => herr x⟩
  | ok ifr' =>
    have hans : k₁.Answers request ifr ifr' k₂ := hs
    refine ⟨k₁, hans.frame hreq, hread ifr' hlen fun a ha => ?_⟩
    rw [hans.get a ha, hifr.name]

/-- A function that sets: it throws, or the kernel has read what `write` has put into the struct. -/
theorem triple_setSetting {a : Attr} {failure : String} {write : Ifreq → Op τ Ifreq}
    {interface : Str} {x : a.Value} {Q : Except Exn Unit → τ → Store → Prop} (h0 : 0 ∉ interface)
    (herr : ∀ x, Q (.error x) v k)
    (hwrite : ∀ ifr, Assigned interface ifr → Op.Triple (settings aton) k (write ifr) v
      fun r v' k' => v' = v ∧ k' = k ∧ ∃ ifr', r = .ok ifr' ∧ ifr'.ifrName = ifr.ifrName ∧
        a.read ifr' = x)
    (hok : interface.length < ifNameSize → Q (.ok ()) v (k.set interface a x)) :
    Op.Triple (settings aton) k (setSetting a.setRequest failure write interface) v Q := by
  unfold setSetting
  refine .bind (triple_localIfreq h0 herr fun ifr hlen hifr => ?_)
  refine .bind ((hwrite ifr hifr).mono ?_)
  intro r v' k' h
  obtain ⟨rfl, rfl, ifr', rfl, hname, hread⟩ := h
  refine triple_withTempSocket herr fun fd => .bind (.sys (fun _ _ _ _ _ ha => by cases ha) ?_)
  rintro k₁ r k₂ rfl hs -
  cases r with
  | error e => exact ⟨k₁, hs, .throwSocket fun x => herr x⟩
  | ok ifr'' =>
    have hans : k₁.Answers a.setRequest ifr' ifr'' k₂ := hs
    refine ⟨k₂, rfl, .pure ?_⟩
    rw [(hans.set a rfl).2, hname, hifr.name, hread]
    exact hok hlen

end Functions

/-! ## The functions one by one -/

section Body

variable {aton : Str → Option InAddr} {k : Store} {u : Utility}

/-- A function that throws and changes nothing. -/
theorem performs_error {x : Exn} : Utility.Performs aton u k (.error x) k := by
  refine ⟨fun s _ => Or.inr ⟨⟨x, rfl⟩, rfl⟩, fun _ => rfl, fun i a y _ h => ?_, fun i _ _ => ?_⟩
  · cases h
  · exact ⟨x, rfl⟩

theorem triple_getter {i : Str} {a : Attr} {α : Type} {failure : String} {read : Ifreq → Op Unit α}
    {wrap : α → Utility.Result} (field : Ifreq → α)
    (hread : ∀ ifr, read ifr = Pure.pure (field ifr))
    (hwrap : ∀ ifr, wrap (field ifr) = a.print (a.read ifr)) (hget : u.gets = some (i, a))
    (hset : u.sets aton = none) (hi : u.interface = some i) (hv : u.Valid aton) :
    Op.Triple (settings aton) k (do
      let x ← getSetting a.getRequest failure read i
      return wrap x) () fun r _ k' => u.Performs aton k r k' := by
  refine .bind (triple_getSetting (fun b => a.getRequest_ne_setRequest b) (hv.name i hi)
    (fun _ => performs_error) fun ifr hlen hans => ?_)
  rw [hread]
  refine .pure (.pure ⟨fun s hs => ?_, fun _ => rfl, fun i' a' x hx hr => ?_, fun i' hi' hle => ?_⟩)
  · rw [hset] at hs
    cases hs
  · rw [hget] at hx
    cases hx
    injection hr with hr
    rw [← hr, hwrap, hans a rfl]
  · rw [hi] at hi'
    cases hi'
    exact absurd hlen (Nat.not_lt.2 hle)

theorem triple_setter {i : Str} {a : Attr} {x : a.Value} {failure : String}
    {write : Ifreq → Op Unit Ifreq} (hset : u.sets aton = some ⟨i, a, x⟩) (hget : u.gets = none)
    (hi : u.interface = some i) (hv : u.Valid aton)
    (hwrite : ∀ ifr, Assigned i ifr → Op.Triple (settings aton) k (write ifr) ()
      fun r v' k' => v' = () ∧ k' = k ∧ ∃ ifr', r = .ok ifr' ∧ ifr'.ifrName = ifr.ifrName ∧
        a.read ifr' = x) :
    Op.Triple (settings aton) k (Utility.ofUnit (setSetting a.setRequest failure write i)) ()
      fun r _ k' => u.Performs aton k r k' := by
  refine .bind (triple_setSetting (hv.name i hi) (fun _ => performs_error) hwrite fun hlen => ?_)
  refine .pure ⟨fun s hs => ?_, fun hnone => ?_, fun i' a' y hy _ => ?_, fun i' hi' hle => ?_⟩
  · rw [hset] at hs
    cases hs
    exact Or.inl ⟨rfl, rfl⟩
  · rw [hset] at hnone
    cases hnone
  · rw [hget] at hy
    cases hy
  · rw [hi] at hi'
    cases hi'
    exact absurd hlen (Nat.not_lt.2 hle)

/-- `inet_aton` puts the address it accepts into the union. -/
theorem triple_writeAddress {s : Str} {x : InAddr} {ifr : Ifreq} (hs : aton (cStr s) = some x) :
    Op.Triple (settings aton) k (writeAddress s ifr) () fun r v' k' =>
      v' = () ∧ k' = k ∧ r = .ok (ifr.setSinAddr x) := by
  unfold writeAddress
  refine .bind (.lib fun k₁ r k₂ hk hstep => ?_)
  obtain ⟨hr, rfl⟩ := hstep
  rw [hs] at hr
  subst hr
  exact ⟨k, hk, .pure ⟨rfl, rfl, rfl⟩⟩

/-- What the setters of an address put into the struct. -/
theorem writes_address {a : Attr} {s : Str} {x : InAddr} {y : a.Value}
    (hread : ∀ ifr : Ifreq, ifr.ifrIfru.length = 24 → a.read (ifr.setSinAddr x) = y)
    (hs : aton (cStr s) = some x) {i : Str} (ifr : Ifreq) (hifr : Assigned i ifr) :
    Op.Triple (settings aton) k (writeAddress s ifr) () fun r v' k' =>
      v' = () ∧ k' = k ∧ ∃ ifr', r = .ok ifr' ∧ ifr'.ifrName = ifr.ifrName ∧ a.read ifr' = y := by
  apply (triple_writeAddress hs).mono
  intro r v' k' h
  obtain ⟨rfl, rfl, rfl⟩ := h
  exact ⟨rfl, rfl, _, rfl, rfl, hread ifr hifr.size⟩

theorem triple_body (hv : u.Valid aton) :
    Op.Triple (settings aton) k (u.body : Op Unit Utility.Result) () fun r _ k' =>
      u.Performs aton k r k' := by
  -- a function that is neither a setter nor a getter
  have hother : ∀ {u : Utility} {r : Except Exn Utility.Result}, u.sets aton = none →
      u.gets = none → (∀ i, u.interface = some i → ifNameSize ≤ i.length → ∃ x, r = .error x) →
      u.Performs aton k r k := by
    intro u r hs hg hl
    refine ⟨fun s h => ?_, fun _ => rfl, fun i a x h _ => ?_, hl⟩
    · rw [hs] at h
      cases h
    · rw [hg] at h
      cases h
  cases u with
  | resolveHostname hostname =>
    refine .bind (.bind (.lib fun k₁ r k₂ hk hs => ⟨k, Eq.trans hs hk, ?_⟩))
    cases r with
    | none => exact .throwSocket fun x => performs_error
    | some host => exact .pure (.pure (hother rfl rfl fun i h => by cases h))
  | resolveService service protocol =>
    refine .bind (.bind (.lib fun k₁ r k₂ hk hs => ⟨k, Eq.trans hs hk, ?_⟩))
    cases r with
    | none => exact .pure (.pure (hother rfl rfl fun i h => by cases h))
    | some port => exact .pure (.pure (hother rfl rfl fun i h => by cases h))
  | getNetworkInterfaces =>
    refine .bind (triple_withTempSocket (fun _ => performs_error) fun fd => .bind ?_)
    refine .sysIgnored (settings_ignores fun _ _ _ => id) fun _ r _ _ _ => ?_
    cases r with
    | error e => exact .throwSocket fun x => performs_error
    | ok conf => exact .pure (.pure (hother rfl rfl fun i h => by cases h))
  | getInterfaceAddress i =>
    exact triple_getter (a := .address) (fun ifr => inetNtoa ifr.sinAddr) (fun _ => rfl)
      (fun _ => rfl) rfl rfl rfl hv
  | getBroadcastAddress i =>
    exact triple_getter (a := .broadcast) (fun ifr => inetNtoa ifr.sinAddr) (fun _ => rfl)
      (fun _ => rfl) rfl rfl rfl hv
  | getNetmask i =>
    exact triple_getter (a := .netmask) (fun ifr => inetNtoa ifr.sinAddr) (fun _ => rfl)
      (fun _ => rfl) rfl rfl rfl hv
  | getDestinationAddress i =>
    exact triple_getter (a := .destination) (fun ifr => inetNtoa ifr.sinAddr) (fun _ => rfl)
      (fun _ => rfl) rfl rfl rfl hv
  | getMTU i =>
    exact triple_getter (a := .mtu) Ifreq.ifrMtu (fun _ => rfl) (fun _ => rfl) rfl rfl rfl hv
  | setInterfaceAddress i s =>
    obtain ⟨x, hx⟩ := hv.address s rfl
    exact triple_setter (a := .address) (by rw [Utility.sets, hx]; rfl) rfl rfl hv
      (writes_address (a := .address) (fun ifr h => sinAddr_setSinAddr h x) hx)
  | setBroadcastAddress i s =>
    obtain ⟨x, hx⟩ := hv.address s rfl
    exact triple_setter (a := .broadcast) (by rw [Utility.sets, hx]; rfl) rfl rfl hv
      (writes_address (a := .broadcast) (fun ifr h => sinAddr_setSinAddr h x) hx)
  | setNetmask i s =>
    obtain ⟨x, hx⟩ := hv.address s rfl
    exact triple_setter (a := .netmask) (by rw [Utility.sets, hx]; rfl) rfl rfl hv
      (writes_address (a := .netmask) (fun ifr h => sinAddr_setSinAddr h x) hx)
  | setDestinationAddress i s =>
    obtain ⟨x, hx⟩ := hv.address s rfl
    exact triple_setter (a := .destination) (by rw [Utility.sets, hx]; rfl) rfl rfl hv
      (writes_address (a := .destination) (fun ifr h => sinAddr_setSinAddr h x) hx)
  | setMTU i mtu =>
    exact triple_setter (a := .mtu) rfl rfl rfl hv fun ifr _ =>
      .pure ⟨rfl, rfl, _, rfl, rfl, word32_setMtu mtu⟩
  | getHardwareAddress i c =>
    refine .bind (triple_getSetting (fun a => by cases a <;> decide) (hv.name i rfl)
      (fun _ => performs_error) fun ifr hlen _ => ?_)
    refine .ite (fun _ => .pure (.pure (hother rfl rfl fun i' hi' hle => ?_))) fun _ =>
      .throwSocket fun x => performs_error
    cases hi'
    exact absurd hlen (Nat.not_lt.2 hle)

theorem run_performs (hv : u.Valid aton) {err err' : Errno} {k' : Store} {tr : List Event}
    {r : Except Exn Utility.Result} (hr : Runs (u.run err) tr (r, err'))
    (hk : (storeKernel aton).Accepts k tr k') : u.Performs aton k r k' := by
  obtain ⟨tr₁, tr₂, ⟨r', s'⟩, rfl, h₁, h₂⟩ := Runs.bind_inv hr
  obtain ⟨rfl, hx⟩ := Runs.ret_inv h₂
  obtain ⟨rfl, -⟩ := Prod.mk.inj hx
  rw [List.append_nil] at hk
  obtain ⟨k₁, rfl, hp⟩ := (triple_body hv err).runs rfl h₁ hk
  exact hp

end Body

/-! ## No function is refused -/

section Can

variable {aton : Str → Option InAddr} {k : Store}

/-- A name that fits is put into a struct that was zero. -/
theorem can_localIfreq {τ : Type} {interface : Str} (h0 : 0 ∉ interface)
    (h : interface.length < ifNameSize) :
    Op.Can (storeKernel aton) k (localIfreq interface : Op τ Ifreq) fun ifr k' =>
      k' = k ∧ Assigned interface ifr :=
  .localIfreq h Ifreq.zero rfl ⟨rfl, assigned h0 List.length_replicate⟩

theorem can_withTempSocket {τ α : Type} {body : ℤ → Op τ α} {Q : α → Store → Prop}
    (h : Op.Can (storeKernel aton) k (body 0) Q) :
    Op.Can (storeKernel aton) k (withTempSocket body) Q :=
  .withTempSocket rfl (fun _ => rfl) h

/-- A request for an attribute is answered with its value. -/
theorem answers_get {k : Store} {a : Attr} {ifr ifr' : Ifreq}
    (h : a.read ifr' = k (cStr ifr.ifrName) a) : k.Answers a.getRequest ifr ifr' k := by
  refine ⟨fun b hb => absurd hb (a.getRequest_ne_setRequest b), fun b hb => ?_, fun _ => rfl⟩
  obtain rfl := Attr.getRequest_inj hb
  exact h

/-- The kernel can answer a request for an attribute. -/
theorem exists_answer_get (k : Store) (a : Attr) (ifr : Ifreq) :
    ∃ ifr', k.Answers a.getRequest ifr ifr' k := by
  have hread : ∃ ifr', a.read ifr' = k (cStr ifr.ifrName) a := by
    have hsize : (Ifreq.mk [] (List.replicate 24 0)).ifrIfru.length = 24 := List.length_replicate
    cases a with
    | mtu => exact ⟨_, @word32_setMtu ⟨[], []⟩ _⟩
    | _ => exact ⟨_, sinAddr_setSinAddr hsize _⟩
  obtain ⟨ifr', h⟩ := hread
  exact ⟨ifr', answers_get h⟩

/-- The kernel can do what a request with the right family asks for. -/
theorem answers_set (k : Store) (a : Attr) {ifr : Ifreq} (h : a ≠ .mtu → ifr.saFamily = afInet) :
    k.Answers a.setRequest ifr ifr (k.set (cStr ifr.ifrName) a (a.read ifr)) := by
  refine ⟨fun b hb => ?_, fun b hb => absurd hb.symm (b.getRequest_ne_setRequest a), fun hne => ?_⟩
  · obtain rfl := Attr.setRequest_inj hb
    exact ⟨h, rfl⟩
  · exact absurd rfl (hne a)

theorem can_getSetting {τ α : Type} {a : Attr} {failure : String} {interface : Str}
    (field : Ifreq → α) (h0 : 0 ∉ interface) (h : interface.length < ifNameSize) :
    Op.Can (storeKernel aton) k (getSetting a.getRequest failure (fun ifr =>
      (Pure.pure (field ifr) : Op τ α)) interface) fun _ _ => True := by
  refine .bind ((can_localIfreq h0 h).mono ?_)
  intro ifr k' h
  obtain ⟨rfl, -⟩ := h
  obtain ⟨ifr', hans⟩ := exists_answer_get k' a ifr
  exact can_withTempSocket (.bind (.sys (.ok ifr') rfl hans (.pure trivial)))

theorem can_setSetting {τ : Type} {a : Attr} {failure : String} {interface : Str}
    {write : Ifreq → Op τ Ifreq} (h0 : 0 ∉ interface) (h : interface.length < ifNameSize)
    (hwrite : ∀ ifr, Assigned interface ifr → Op.Can (storeKernel aton) k (write ifr)
      fun ifr' k' => k' = k ∧ (a ≠ .mtu → ifr'.saFamily = afInet)) :
    Op.Can (storeKernel aton) k (setSetting a.setRequest failure write interface) fun _ _ =>
      True := by
  refine .bind ((can_localIfreq h0 h).mono ?_)
  intro ifr k' h
  obtain ⟨rfl, hifr⟩ := h
  refine .bind ((hwrite ifr hifr).mono ?_)
  intro ifr' k' h
  obtain ⟨rfl, hfamily⟩ := h
  exact can_withTempSocket (.bind (.sys (.ok ifr') rfl (answers_set k' a hfamily)
    (.pure trivial)))

theorem can_writeAddress {τ : Type} {s : Str} {x : InAddr} (hs : aton (cStr s) = some x)
    (ifr : Ifreq) (hsize : ifr.ifrIfru.length = 24) (hfamily : ifr.saFamily = afInet) :
    Op.Can (storeKernel aton) k (writeAddress s ifr : Op τ Ifreq) fun ifr' k' =>
      k' = k ∧ ifr'.saFamily = afInet := by
  refine .bind (.lib (some x) ⟨hs.symm, rfl⟩ (.pure ⟨rfl, ?_⟩))
  rw [saFamily_setSinAddr hsize, hfamily]

theorem can_ofUnit {m : Op Unit Unit} {Q : Unit → Store → Prop}
    (h : Op.Can (storeKernel aton) k m Q) :
    Op.Can (storeKernel aton) k (Utility.ofUnit m) fun _ _ => True :=
  .bind (h.mono fun _ _ _ => .pure trivial)

/-- The kernel accepts the family and the value it is handed. -/
theorem body_can {u : Utility} (hv : u.Valid aton)
    (hshort : ∀ i, u.interface = some i → i.length < ifNameSize)
    (hu : (u.sets aton).isSome ∨ u.gets.isSome) :
    Op.Can (storeKernel aton) k (u.body : Op Unit Utility.Result) fun _ _ => True := by
  have haddress : ∀ {a : Attr} {s : Str}, u.address = some s → ∀ {i : Str} ifr, Assigned i ifr →
      Op.Can (storeKernel aton) k (writeAddress s ifr : Op Unit Ifreq) fun ifr' k' =>
        k' = k ∧ (a ≠ .mtu → ifr'.saFamily = afInet) := by
    intro a s hs i ifr hifr
    obtain ⟨x, hx⟩ := hv.address s hs
    exact (can_writeAddress hx ifr hifr.size hifr.family).mono fun _ _ h => ⟨h.1, fun _ => h.2⟩
  cases u with
  | getInterfaceAddress i =>
    exact .bind ((can_getSetting (a := .address) _ (hv.name i rfl) (hshort i rfl)).mono
      fun _ _ _ => .pure trivial)
  | getBroadcastAddress i =>
    exact .bind ((can_getSetting (a := .broadcast) _ (hv.name i rfl) (hshort i rfl)).mono
      fun _ _ _ => .pure trivial)
  | getNetmask i =>
    exact .bind ((can_getSetting (a := .netmask) _ (hv.name i rfl) (hshort i rfl)).mono
      fun _ _ _ => .pure trivial)
  | getDestinationAddress i =>
    exact .bind ((can_getSetting (a := .destination) _ (hv.name i rfl) (hshort i rfl)).mono
      fun _ _ _ => .pure trivial)
  | getMTU i =>
    exact .bind ((can_getSetting (a := .mtu) _ (hv.name i rfl) (hshort i rfl)).mono
      fun _ _ _ => .pure trivial)
  | setInterfaceAddress i s =>
    exact can_ofUnit (can_setSetting (a := .address) (hv.name i rfl) (hshort i rfl) (haddress rfl))
  | setBroadcastAddress i s =>
    exact can_ofUnit (can_setSetting (a := .broadcast) (hv.name i rfl) (hshort i rfl)
      (haddress rfl))
  | setNetmask i s =>
    exact can_ofUnit (can_setSetting (a := .netmask) (hv.name i rfl) (hshort i rfl) (haddress rfl))
  | setDestinationAddress i s =>
    exact can_ofUnit (can_setSetting (a := .destination) (hv.name i rfl) (hshort i rfl)
      (haddress rfl))
  | setMTU i mtu =>
    exact can_ofUnit (can_setSetting (a := .mtu) (hv.name i rfl) (hshort i rfl)
      fun ifr _ => .pure ⟨rfl, fun h => absurd rfl h⟩)
  | _ => rcases hu with hu | hu <;> cases hu

/-- The kernel lets the function return. -/
def Utility.CanReturn (aton : Str → Option InAddr) (u : Utility) (k : Store) : Prop :=
  ∀ err, ∃ tr x err' k', Runs (u.run err) tr (.ok x, err') ∧ (storeKernel aton).Accepts k tr k'

/-- A getter or setter with a name that fits and a valid address can return. -/
theorem run_can {u : Utility} (hv : u.Valid aton)
    (hshort : ∀ i, u.interface = some i → i.length < ifNameSize)
    (hu : (u.sets aton).isSome ∨ u.gets.isSome) : u.CanReturn aton k := by
  intro err
  obtain ⟨tr, x, s', k', hr, hk, -⟩ := body_can hv hshort hu (k := k) ⟨err, ()⟩
  exact ⟨tr, x, s'.errno, k', Trace.bind hr _, hk⟩

end Can

/-! ## Runs -/

/-- One call of a run. -/
abbrev UtilityEntry : Type := Entry posix Utility Errno (Except Exn Utility.Result)

section Sessions

variable {aton : Str → Option InAddr}

/-- The call has set this attribute to this value. -/
def SetsTo (aton : Str → Option InAddr) (name : Str) (a : Attr) (x : a.Value) (e : UtilityEntry) :
    Prop :=
  e.op.sets aton = some ⟨name, a, x⟩ ∧ e.result = .ok .unit

/-- The value of the latest successful setter of the attribute, or the initial value. -/
def Latest (aton : Str → Option InAddr) (k₀ : Store) (es : List UtilityEntry) (name : Str)
    (a : Attr) (x : a.Value) : Prop :=
  Since (SetsTo aton name a x) (fun e => ∃ y, SetsTo aton name a y e) es ∨
    (x = k₀ name a ∧ ∀ e ∈ es, ∀ y, ¬SetsTo aton name a y e)

theorem latest_nil (k₀ : Store) (name : Str) (a : Attr) : Latest aton k₀ [] name a (k₀ name a) :=
  Or.inr ⟨rfl, fun e he => by cases he⟩

theorem latest_snoc {k₀ : Store} {es : List UtilityEntry} {e : UtilityEntry} {name : Str} {a : Attr}
    {x : a.Value} : Latest aton k₀ (es ++ [e]) name a x ↔
      SetsTo aton name a x e ∨ (Latest aton k₀ es name a x ∧ ∀ y, ¬SetsTo aton name a y e) := by
  unfold Latest
  rw [since_snoc]
  constructor
  · intro h
    rcases h with (h | ⟨h, hno⟩) | ⟨hx, hno⟩
    · exact Or.inl h
    · exact Or.inr ⟨Or.inl h, fun y hy => hno ⟨y, hy⟩⟩
    · refine Or.inr ⟨Or.inr ⟨hx, fun e' he' => hno e' (List.mem_append_left _ he')⟩, ?_⟩
      exact hno e (List.mem_append_right _ (List.mem_singleton.2 rfl))
  · intro h
    rcases h with h | ⟨h | ⟨hx, hno⟩, he⟩
    · exact Or.inl (Or.inl h)
    · exact Or.inl (Or.inr ⟨h, fun ⟨y, hy⟩ => he y hy⟩)
    · refine Or.inr ⟨hx, fun e' he' => ?_⟩
      rcases List.mem_append.1 he' with he' | he'
      · exact hno e' he'
      · rwa [List.mem_singleton.1 he']

/-- There is one latest value. -/
theorem Latest.unique {k₀ : Store} {es : List UtilityEntry} {name : Str} {a : Attr} {x y : a.Value}
    (hx : Latest aton k₀ es name a x) (hy : Latest aton k₀ es name a y) : x = y := by
  induction es using List.reverseRecOn with
  | nil =>
    rcases hx with hx | ⟨rfl, -⟩
    · exact absurd hx not_since_nil
    rcases hy with hy | ⟨rfl, -⟩
    · exact absurd hy not_since_nil
    rfl
  | append_singleton es e ih =>
    rcases latest_snoc.1 hx with hx | ⟨hx, hno⟩
    · rcases latest_snoc.1 hy with hy | ⟨-, hno⟩
      · have h := Option.some.inj (hx.1.symm.trans hy.1)
        injection h
      · exact absurd hx (hno x)
    · rcases latest_snoc.1 hy with hy | ⟨hy, -⟩
      · exact absurd hy (hno y)
      · exact ih hx hy

/-- A call keeps the store that of the latest setters. -/
theorem latest_step {k₀ k k' : Store} {es : List UtilityEntry} {e : UtilityEntry}
    (h : ∀ name a, Latest aton k₀ es name a (k name a)) (hp : e.op.Performs aton k e.result k') :
    ∀ name a, Latest aton k₀ (es ++ [e]) name a (k' name a) := by
  intro name a
  cases hset : e.op.sets aton with
  | none =>
    rw [hp.frame hset]
    refine latest_snoc.2 (Or.inr ⟨h name a, fun y hy => ?_⟩)
    rw [SetsTo, hset] at hy
    cases hy.1
  | some s =>
    rcases hp.set s hset with ⟨hr, rfl⟩ | ⟨⟨x, hr⟩, rfl⟩
    · by_cases hsame : name = s.name ∧ a = s.attr
      · obtain ⟨rfl, rfl⟩ := hsame
        rw [Store.set_self]
        exact latest_snoc.2 (Or.inl ⟨hset, hr⟩)
      · rw [Store.set_of_ne fun hname ha => hsame ⟨hname, ha⟩]
        refine latest_snoc.2 (Or.inr ⟨h name a, fun y hy => hsame ?_⟩)
        rw [SetsTo, hset] at hy
        cases hy.1
        exact ⟨rfl, rfl⟩
    · refine latest_snoc.2 (Or.inr ⟨h name a, fun y hy => ?_⟩)
      rw [SetsTo, hr] at hy
      cases hy.2

/-- What holds of a call after the calls `before`. -/
structure Answered (aton : Str → Option InAddr) (k₀ : Store) (before : List UtilityEntry)
    (e : UtilityEntry) : Prop where
  get : ∀ i a r, e.op.gets = some (i, a) → e.result = .ok r →
    ∃ x, Latest aton k₀ before i a x ∧ r = a.print x
  long : ∀ i, e.op.interface = some i → ifNameSize ≤ i.length → ∃ x, e.result = .error x

end Sessions

/-- **Interface settings behave as a store.** In every run the kernel keeps the value of the latest
successful setter of each attribute, or the initial value; every getter that returns prints it; a
name that is too long makes a call throw; and the kernel refuses no getter or setter because of what
it is handed. -/
theorem interface_settings {aton : Str → Option InAddr} {err err' : Errno} {k₀ k : Store}
    {es : List UtilityEntry} (h : Session Utility.run (storeKernel aton) err k₀ es err' k)
    (hv : ∀ e ∈ es, e.op.Valid aton) :
    (∀ name a, Latest aton k₀ es name a (k name a)) ∧
      (∀ before e after, es = before ++ e :: after → Answered aton k₀ before e) ∧
      ∀ u : Utility, u.Valid aton → (∀ i, u.interface = some i → i.length < ifNameSize) →
        (u.sets aton).isSome ∨ u.gets.isSome → u.CanReturn aton k := by
  suffices hruns : (∀ name a, Latest aton k₀ es name a (k name a)) ∧
      ∀ before e after, es = before ++ e :: after → Answered aton k₀ before e from
    ⟨hruns.1, hruns.2, fun u => run_can⟩
  refine h.invariant (P := fun es _ (k : Store) => (∀ name a, Latest aton k₀ es name a (k name a)) ∧
    ∀ before e after, es = before ++ e :: after → Answered aton k₀ before e) hv
    ⟨latest_nil k₀, fun before e after hes => by simp at hes⟩ ?_
  rintro es u err k tr r err' k' ⟨hstore, hall⟩ hvalid hr hk
  have hp := run_performs hvalid hr hk
  refine ⟨latest_step hstore hp, forall_split_snoc.2 ⟨hall, fun i a x hget hx => ?_, hp.long⟩⟩
  exact ⟨_, hstore i a, hp.get i a x hget hx⟩

/-- A netmask that is set and read back. -/
theorem interface_settings_netmask : ∃ es err k,
    Session Utility.run (storeKernel parseQuad) 0 (fun _ a => a.read ⟨[], []⟩) es err k ∧
      es.map (fun e => (e.op, e.result)) = [
        (.setNetmask [108, 111] (inetNtoa ⟨255, 0, 0, 0⟩), .ok .unit),
        (.getNetmask [108, 111], .ok (.str (inetNtoa ⟨255, 0, 0, 0⟩)))] := by
  have hparse := parseQuad_cStr_inetNtoa ⟨255, 0, 0, 0⟩
  have hset : (Utility.setNetmask [108, 111] (inetNtoa ⟨255, 0, 0, 0⟩)).sets parseQuad =
      some ⟨[108, 111], .netmask, ⟨255, 0, 0, 0⟩⟩ := by
    rw [Utility.sets, hparse]
    rfl
  have hv : (Utility.setNetmask [108, 111] (inetNtoa ⟨255, 0, 0, 0⟩)).Valid parseQuad :=
    ⟨fun i hi => by cases hi; decide, fun s hs => by cases hs; exact ⟨_, hparse⟩⟩
  have hv' : (Utility.getNetmask [108, 111]).Valid parseQuad :=
    ⟨fun i hi => by cases hi; decide, fun s hs => by cases hs⟩
  obtain ⟨tr, x, err, k, hr, hk⟩ := run_can (k := fun _ a => a.read ⟨[], []⟩) hv
    (fun i hi => by cases hi; decide) (Or.inl (by rw [hset]; rfl)) 0
  obtain ⟨tr', x', err', k', hr', hk'⟩ := run_can (k := k) hv' (fun i hi => by cases hi; decide)
    (Or.inr rfl) err
  have hset' : x = .unit := by
    rcases (run_performs hv hr hk).set _ hset with ⟨h, -⟩ | ⟨⟨y, h⟩, -⟩
    · injection h
    · cases h
  subst hset'
  have hsession := Session.snoc (.snoc .nil _ hr hk) _ hr' hk'
  obtain ⟨-, hall, -⟩ := interface_settings hsession (by simp [hv, hv'])
  obtain ⟨y, hy, hx'⟩ := (hall [_] _ [] rfl).get [108, 111] .netmask x' rfl rfl
  have hlatest : Latest parseQuad (fun _ a => a.read ⟨[], []⟩) ([] ++ [⟨_, 0, tr, .ok .unit, err⟩])
      [108, 111] .netmask ⟨255, 0, 0, 0⟩ := latest_snoc.2 (Or.inl ⟨hset, rfl⟩)
  obtain rfl := hy.unique hlatest
  refine ⟨_, _, _, hsession, ?_⟩
  rw [hx']
  rfl

end NET
