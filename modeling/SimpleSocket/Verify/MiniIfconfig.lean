import SimpleSocket.Interact.Registers
import SimpleSocket.Programs.MiniIfconfig
import SimpleSocket.Verify.Exceptions
import SimpleSocket.Verify.InterfaceList
import SimpleSocket.Verify.InterfaceSettings
import SimpleSocket.Verify.ProgramRules

/-!
# `mini_ifconfig` as a tool

The settings of the interfaces are registers, which the tool writes when it is run with three
arguments and prints when it is run without. Over any number of runs a register holds what the
latest run that ended with the status 0 has put there, and a listing shows of every field either
this value or `<fail>`.
-/

namespace NET

open Op Interact SocketUtils MiniIfconfig

/-! ## Rules for the program -/

section Rules

variable {K : Kernel posix} {A τ α : Type} {V : View K A} {a : A} {v : τ}

/-- `wrapEx` shows the result or `<fail>`. -/
theorem wrapEx_triple {c : Op Terminal α} {t : Terminal} {good : α → Prop} (text : α → Str)
    (h : Op.Triple V a c t fun r t' a' => t' = t ∧ a' = a ∧ ∀ x, r = .ok x → good x)
    (hraise : c.Raises IsSocket) : Op.Triple V a (wrapEx text c) t fun r t' a' =>
      t' = t ∧ a' = a ∧ ∃ s, r = .ok s ∧ (s = fail ∨ ∃ x, good x ∧ s = text x) := by
  refine .catchSocket (.bind ((h.and_wp hraise).mono fun r t' a' hr => ?_))
  obtain ⟨⟨rfl, rfl, hgood⟩, hsocket⟩ := hr
  cases r with
  | ok x => exact .pure ⟨rfl, rfl, _, rfl, Or.inr ⟨x, hgood x rfl, rfl⟩⟩
  | error x =>
    obtain ⟨e, rfl⟩ := hsocket x rfl
    exact .pure ⟨rfl, rfl, _, rfl, Or.inl rfl⟩

/-- The rounds of a loop print one text after another. -/
theorem forEach_triple {f : α → Op Terminal Unit} {R : α → Str → Prop} (xs : List α)
    (h : ∀ x ∈ xs, ∀ t, Op.Triple V a (f x) t fun r t' a' =>
      r = .ok () ∧ a' = a ∧ ∃ s, R x s ∧ t' = { t with cout := t.cout ++ s }) (t : Terminal) :
    Op.Triple V a (forEach f xs) t fun r t' a' => r = .ok () ∧ a' = a ∧
      ∃ ss, List.Forall₂ R xs ss ∧ t' = { t with cout := t.cout ++ ss.flatten } := by
  induction xs generalizing t with
  | nil => exact .pure ⟨rfl, rfl, [], .nil, by simp⟩
  | cons x xs ih =>
    refine .bind ((h x List.mem_cons_self t).mono ?_)
    rintro r t' a' ⟨rfl, rfl, s, hs, rfl⟩
    refine (ih (fun y hy => h y (.tail _ hy)) _).mono ?_
    rintro r t' a' ⟨rfl, rfl, ss, hss, rfl⟩
    exact ⟨rfl, rfl, s :: ss, .cons hs hss, by simp⟩

end Rules

/-! ## The settings in the words of the tool -/

namespace Attr

/-- The setting the attribute is changed by. -/
def key : Attr → Str
  | .mtu => ascii "mtu"
  | .address => ascii "address"
  | .broadcast => ascii "broadcast"
  | .netmask => ascii "netmask"
  | .destination => ascii "destination"

/-- How a listing shows a value. -/
def text : (a : Attr) → a.Value → Str
  | .mtu => fun x => intText x.toInt
  | .address => inetNtoa
  | .broadcast => inetNtoa
  | .netmask => inetNtoa
  | .destination => inetNtoa

/-- The value a text stands for. A text that `inet_aton` rejects stands for an unknown address. -/
def Denotes (aton : Str → Option InAddr) : (a : Attr) → Str → a.Value → Prop
  | .mtu => fun val x => ∃ n, stoi val = .ok n ∧ x = BitVec.ofInt 32 n
  | .address => fun val x => ∀ y, aton (cStr val) = some y → x = y
  | .broadcast => fun val x => ∀ y, aton (cStr val) = some y → x = y
  | .netmask => fun val x => ∀ y, aton (cStr val) = some y → x = y
  | .destination => fun val x => ∀ y, aton (cStr val) = some y → x = y

/-- What a listing shows stands for the value it shows. -/
theorem denotes_text_iff {aton : Str → Option InAddr} (hquad : ∀ a, aton (inetNtoa a) = some a)
    {a : Attr} {x y : a.Value} : a.Denotes aton (a.text x) y ↔ y = x := by
  have haddr (x y : InAddr) : (∀ z, aton (cStr (inetNtoa x)) = some z → y = z) ↔ y = x := by
    rw [cStr_of_no_nul (nul_not_mem_inetNtoa x), hquad]
    exact ⟨fun h => h x rfl, fun h z hz => h.trans (Option.some.inj hz)⟩
  cases a with
  | mtu =>
    have hle := BitVec.le_toInt (x := x)
    have hlt := BitVec.toInt_lt (x := x)
    have hstoi : stoi (intText x.toInt) = .ok x.toInt := stoi_intText (by omega) (by omega)
    constructor
    · intro h
      obtain ⟨n, hn, rfl⟩ := h
      have hn' : stoi (intText x.toInt) = .ok n := hn
      rw [hstoi] at hn'
      obtain rfl := Except.ok.inj hn'
      exact BitVec.ofInt_toInt
    · rintro rfl
      exact ⟨_, hstoi, BitVec.ofInt_toInt.symm⟩
  | address => exact haddr x y
  | broadcast => exact haddr x y
  | netmask => exact haddr x y
  | destination => exact haddr x y

theorem key_inj {a b : Attr} (h : a.key = b.key) : a = b := by
  revert h
  cases a <;> cases b <;> decide

end Attr

/-! ## Asking and setting -/

section Settings

variable {aton : Str → Option InAddr} {k : Store} {τ α : Type} {v : τ}

/-- A getter leaves the settings, and returns what the kernel has. -/
theorem getter_triple {a : Attr} {failure : String} {i : Str} (field : Ifreq → α) (h0 : 0 ∉ i) :
    Op.Triple (settings aton) k (getSetting a.getRequest failure
      (fun ifr => (Pure.pure (field ifr) : Op τ α)) i) v fun r v' k' =>
        v' = v ∧ k' = k ∧ ∀ x, r = .ok x → ∃ ifr, x = field ifr ∧ a.read ifr = k i a := by
  refine triple_getSetting (fun b => a.getRequest_ne_setRequest b) h0
    (fun x => ⟨rfl, rfl, fun y hy => by cases hy⟩) fun ifr _ hans => .pure ⟨rfl, rfl, ?_⟩
  intro x hx
  obtain rfl := Except.ok.inj hx
  exact ⟨ifr, rfl, hans a rfl⟩

/-- A setter whose value has a property when it is written: it throws, or the kernel has the value.
-/
theorem setter_triple {a : Attr} {failure : String} {write : Ifreq → Op τ Ifreq} {i : Str}
    {P : a.Value → Prop} (h0 : 0 ∉ i)
    (hwrite : ∀ ifr, Assigned i ifr → Op.Triple (settings aton) k (write ifr) v
      fun r v' k' => v' = v ∧ k' = k ∧ ∃ ifr', r = .ok ifr' ∧ ifr'.ifrName = ifr.ifrName ∧
        P (a.read ifr')) :
    Op.Triple (settings aton) k (setSetting a.setRequest failure write i) v fun r v' k' =>
      v' = v ∧ match r with
        | .ok _ => i.length < ifNameSize ∧ ∃ x, P x ∧ k' = k.set i a x
        | .error _ => k' = k := by
  unfold setSetting
  refine .bind (triple_localIfreq h0 (fun _ => ⟨rfl, rfl⟩) fun ifr hlen hifr => ?_)
  refine .bind ((hwrite ifr hifr).mono ?_)
  rintro r v' k' ⟨rfl, rfl, ifr', rfl, hname, hread⟩
  refine triple_withTempSocket (fun _ => ⟨rfl, rfl⟩) fun fd =>
    .bind (.sys (fun _ _ _ _ _ ha => by cases ha) ?_)
  rintro k₁ r k₂ rfl hs -
  cases r with
  | error e => exact ⟨k₁, hs, .throwSocket fun _ => ⟨rfl, rfl⟩⟩
  | ok ifr'' =>
    have hans : k₁.Answers a.setRequest ifr' ifr'' k₂ := hs
    refine ⟨k₂, rfl, .pure ⟨rfl, hlen, _, hread, ?_⟩⟩
    rw [(hans.set a rfl).2, hname, hifr.name]

/-- The struct of a setter of an address. -/
theorem writeAddress_triple {i val : Str} {ifr : Ifreq} (hifr : Assigned i ifr) :
    Op.Triple (settings aton) k (writeAddress val ifr) v fun r v' k' =>
      v' = v ∧ k' = k ∧ ∃ ifr', r = .ok ifr' ∧ ifr'.ifrName = ifr.ifrName ∧
        ∀ y, aton (cStr val) = some y → ifr'.sinAddr = y := by
  refine .bind (.lib fun k₁ parsed k₂ hk hs => ?_)
  obtain ⟨rfl, rfl⟩ := hs
  refine ⟨k, hk, ?_⟩
  cases hparsed : aton (cStr val) with
  | none => exact .pure ⟨rfl, rfl, _, rfl, rfl, fun y hy => by cases hy⟩
  | some a =>
    refine .pure ⟨rfl, rfl, _, rfl, rfl, fun y hy => ?_⟩
    obtain rfl := Option.some.inj hy
    exact sinAddr_setSinAddr hifr.size a

end Settings

/-! ## `configure` -/

/-- How `configure` ends. -/
inductive Configured (aton : Str → Option InAddr) (strerror : Errno → String)
    (progName interface setting val : Str) (t : Terminal) (k : Store) :
    Except Exn Exit → Terminal → Store → Prop
  /-- The attribute has the value. -/
  | set (a : Attr) (x : a.Value) (hkey : setting = a.key) (hx : a.Denotes aton val x)
      (hlen : interface.length < ifNameSize) :
      Configured aton strerror progName interface setting val t k (.ok (.status 0)) t
        (k.set interface a x)
  /-- The setter has thrown. -/
  | failed (a : Attr) (hkey : setting = a.key) (e : SocketException) :
      Configured aton strerror progName interface setting val t k (.ok (.status (-1)))
        { t with cerr := t.cerr ++ (ascii (e.what strerror) ++ ascii " (" ++ intText e.errorCode ++
          ascii ")" ++ ascii "\n") } k
  | unknown (h : ∀ a : Attr, setting ≠ a.key) :
      Configured aton strerror progName interface setting val t k (.ok (.status (-1)))
        { t with cout := t.cout ++ (progName ++ ascii usageString) } k
  /-- The MTU is no number; the program ends with the exception of `std::stoi`. -/
  | number (hkey : setting = Attr.mtu.key) (x : StdException) (hx : stoi val = .error x) :
      Configured aton strerror progName interface setting val t k (.ok (.uncaught x)) t k

section Configure

variable {aton : Str → Option InAddr} {strerror : Errno → String}
  {progName interface setting val : Str} {t : Terminal} {k : Store}

/-- What the `try` block of `configure` has done: `configure` has ended, or a setter has thrown. -/
def Tried (aton : Str → Option InAddr) (strerror : Errno → String)
    (progName interface setting val : Str) (t : Terminal) (k : Store) (r : Except Exn Exit)
    (t' : Terminal) (k' : Store) : Prop :=
  (∃ x, r = .ok x ∧ Configured aton strerror progName interface setting val t k r t' k') ∨
    ∃ (a : Attr) (e : SocketException), r = .error (.socket e) ∧ setting = a.key ∧ t' = t ∧ k' = k

/-- A setter, and what the `try` block makes of its end. -/
theorem tried_of_setter {a : Attr} {failure : String} {write : Ifreq → Op Terminal Ifreq}
    (hkey : setting = a.key) (h0 : 0 ∉ interface)
    (hwrite : ∀ ifr, Assigned interface ifr → Op.Triple (settings aton) k (write ifr) t
      fun r t' k' => t' = t ∧ k' = k ∧ ∃ ifr', r = .ok ifr' ∧ ifr'.ifrName = ifr.ifrName ∧
        a.Denotes aton val (a.read ifr'))
    (hraise : ∀ ifr, (write ifr).Raises IsSocket) :
    Op.Triple (settings aton) k (do
      setSetting a.setRequest failure write interface
      return .status 0) t (Tried aton strerror progName interface setting val t k) := by
  refine .bind (((setter_triple h0 hwrite).and_wp (setSetting_raises hraise _)).mono
    fun r t' k' hr => ?_)
  obtain ⟨⟨rfl, hr⟩, hsocket⟩ := hr
  cases r with
  | ok u =>
    obtain ⟨hlen, x, hx, rfl⟩ := hr
    exact .pure (Or.inl ⟨_, rfl, .set a x hkey hx hlen⟩)
  | error x =>
    obtain ⟨e, rfl⟩ := hsocket x rfl
    exact Or.inr ⟨a, e, rfl, hkey, rfl, hr⟩

/-- The setters of an address. -/
theorem tried_of_address {a : Attr} {failure : String} (hkey : setting = a.key) (h0 : 0 ∉ interface)
    (hx : ∀ ifr : Ifreq, (∀ y, aton (cStr val) = some y → ifr.sinAddr = y) →
      a.Denotes aton val (a.read ifr)) :
    Op.Triple (settings aton) k (do
      setSetting a.setRequest failure (writeAddress val) interface
      return .status 0) t (Tried aton strerror progName interface setting val t k) := by
  refine tried_of_setter hkey h0 (fun ifr hifr => ?_) (writeAddress_raises val)
  refine (writeAddress_triple hifr).mono ?_
  rintro r t' k' ⟨rfl, rfl, ifr', rfl, hname, haddr⟩
  exact ⟨rfl, rfl, _, rfl, hname, hx ifr' haddr⟩

theorem tried_of_mtu {n : ℤ} (hkey : setting = Attr.mtu.key) (h0 : 0 ∉ interface)
    (hn : stoi val = .ok n) : Op.Triple (settings aton) k (do
      setMTU interface (BitVec.ofInt 32 n)
      return .status 0) t (Tried aton strerror progName interface setting val t k) := by
  refine tried_of_setter (a := .mtu) hkey h0 (fun ifr _ => ?_) fun _ => .pure _
  exact .pure ⟨rfl, rfl, _, rfl, rfl, n, hn, word32_setMtu _⟩

theorem configure_triple (h0 : 0 ∉ interface) :
    Op.Triple (settings aton) k (configure strerror progName interface setting val) t
      (Configured aton strerror progName interface setting val t k) := by
  refine .catchSocket (Op.Triple.mono (Q := Tried aton strerror progName interface setting val t k)
    (.ite (fun hmtu => ?_) fun hmtu => .ite (fun haddr => ?_) fun haddr =>
      .ite (fun hbroad => ?_) fun hbroad => .ite (fun hmask => ?_) fun hmask =>
      .ite (fun hdest => ?_) fun hdest => ?_) ?_)
  · split
    · next x hx => exact .pure (Or.inl ⟨_, rfl, .number hmtu x hx⟩)
    · next n hn => exact tried_of_mtu hmtu h0 hn
  · exact tried_of_address (a := .address) haddr h0 fun ifr h => h
  · exact tried_of_address (a := .broadcast) hbroad h0 fun ifr h => h
  · exact tried_of_address (a := .netmask) hmask h0 fun ifr h => h
  · exact tried_of_address (a := .destination) hdest h0 fun ifr h => h
  · refine .bind (writeOut_triple (Op.Triple.pure (Or.inl ⟨_, rfl, .unknown fun a => ?_⟩)))
    cases a with
    | mtu => exact hmtu
    | address => exact haddr
    | broadcast => exact hbroad
    | netmask => exact hmask
    | destination => exact hdest
  · rintro r t' k' (⟨x, rfl, hr⟩ | ⟨a, e, rfl, hkey, rfl, rfl⟩)
    · exact hr
    · exact .bind (.modify (.pure (.failed a hkey e)))

end Configure

/-! ## `print` -/

/-- The kernel writes the entries that fit into the buffer. -/
def ListsEntries (entries : List Ifreq) : Event → Prop
  | ⟨.sys _ (.ioctlConf _ _), .ok (conf : IfConf _)⟩ => conf.Holds entries
  | _ => True

/-- A kernel with these settings, and with these interfaces in its list; the list stays the same,
whatever is set. -/
def interfaceKernel (aton : Str → Option InAddr) (entries : List Ifreq) : Kernel posix :=
  (storeKernel aton).restrict fun _ e => ListsEntries entries e

abbrev interfaces (aton : Str → Option InAddr) (entries : List Ifreq) :
    View (interfaceKernel aton entries) Store :=
  (settings aton).restrict fun _ e => ListsEntries entries e

/-- The value of an attribute, or `<fail>`. -/
def Shows (k : Store) (name : Str) (a : Attr) (s : Str) : Prop :=
  s = fail ∨ s = a.text (k name a)

/-- A hardware address, or `<fail>`. -/
def ShowsHardware (s : Str) : Prop :=
  s = fail ∨ ∃ ifr : Ifreq, ifr.saFamily ∈ hardwareTypes ∧ s = (printHardware ifr 58).text

/-- What is printed for an interface. -/
structure Block (k : Store) (name : Str) (mtu ip netmask broadcast ether : Str) : Prop where
  mtu : Shows k name .mtu mtu
  ip : Shows k name .address ip
  netmask : Shows k name .netmask netmask
  broadcast : Shows k name .broadcast broadcast
  ether : ShowsHardware ether

/-- The five lines of an interface. -/
def blockText (name mtu ip netmask broadcast ether : Str) : Str :=
  name ++ ascii ":" ++ ascii "\n" ++
  (ascii "\t" ++ ascii "mtu " ++ mtu ++ ascii "\n") ++
  (ascii "\t" ++ ascii "ip " ++ ip ++ ascii " ") ++
  (ascii "netmask " ++ netmask ++ ascii " ") ++
  (ascii "broadcast " ++ broadcast ++ ascii " " ++ ascii "\n") ++
  (ascii "\t" ++ ascii "ether " ++ ether ++ ascii "\n")

/-- The text is that of an interface with the settings `k`. -/
def Lists (k : Store) (name text : Str) : Prop :=
  ∃ mtu ip netmask broadcast ether, Block k name mtu ip netmask broadcast ether ∧
    text = blockText name mtu ip netmask broadcast ether

section Print

variable {aton : Str → Option InAddr} {entries : List Ifreq} {t : Terminal} {k : Store}

/-- A setting that is asked for and printed. -/
theorem shown_triple {α : Type} {a : Attr} {failure : String} {field : Ifreq → α} {i : Str}
    (text : α → Str) (h0 : 0 ∉ i) (htext : ∀ ifr, text (field ifr) = a.text (a.read ifr)) :
    Op.Triple (settings aton) k (wrapEx text (getSetting a.getRequest failure
      (fun ifr => (Pure.pure (field ifr) : Op Terminal α)) i)) t fun r t' k' =>
        t' = t ∧ k' = k ∧ ∃ s, r = .ok s ∧ Shows k i a s := by
  refine (wrapEx_triple text (getter_triple field h0)
    (getSetting_raises (fun _ => .pure _) _)).mono ?_
  rintro r t' k' ⟨rfl, rfl, s, rfl, hs⟩
  refine ⟨rfl, rfl, s, rfl, ?_⟩
  rcases hs with rfl | ⟨x, ⟨ifr, rfl, hread⟩, rfl⟩
  · exact Or.inl rfl
  · refine Or.inr ?_
    rw [htext, hread]

/-- The hardware address, which is no setting. -/
theorem hardware_triple {i : Str} (h0 : 0 ∉ i) : Op.Triple (settings aton) k
    (wrapEx id (getHardwareAddress i 58)) t fun r t' k' =>
      t' = t ∧ k' = k ∧ ∃ s, r = .ok s ∧ ShowsHardware s := by
  have hget : Op.Triple (settings aton) k (getHardwareAddress i 58) t fun r t' k' =>
      t' = t ∧ k' = k ∧ ∀ s, r = .ok s →
        ∃ ifr : Ifreq, ifr.saFamily ∈ hardwareTypes ∧ s = (printHardware ifr 58).text := by
    refine triple_getSetting (fun a => by cases a <;> decide) h0
      (fun x => ⟨rfl, rfl, fun s hs => by cases hs⟩)
      fun ifr _ _ => .ite (fun hfam => ?_) fun _ => ?_
    · refine .pure ⟨rfl, rfl, fun s hs => ?_⟩
      exact ⟨ifr, hfam, (Except.ok.inj hs).symm⟩
    · exact .throwSocket fun x => ⟨rfl, rfl, fun s hs => by cases hs⟩
  refine (wrapEx_triple id hget (getHardwareAddress_raises _ _)).mono ?_
  rintro r t' k' ⟨rfl, rfl, s, rfl, hs⟩
  exact ⟨rfl, rfl, s, rfl, hs.imp id fun ⟨x, hx, hid⟩ => hid ▸ hx⟩

/-- One step of a round: a text is asked for, and a line with it printed. -/
theorem Op.Triple.printed {c : Op Terminal Str} {line : Str → Str} {P : Str → Prop}
    {rest : Op Terminal Unit} {Q : Except Exn Unit → Terminal → Store → Prop}
    (hc : Op.Triple (settings aton) k c t fun r t' k' => t' = t ∧ k' = k ∧ ∃ s, r = .ok s ∧ P s)
    (hrest : ∀ s, P s → Op.Triple (settings aton) k rest
      { t with cout := t.cout ++ line s } Q) :
    Op.Triple (settings aton) k (do
      writeOut (line (← c))
      rest) t Q := by
  refine .bind (hc.mono ?_)
  rintro r t' k' ⟨rfl, rfl, s, rfl, hs⟩
  exact .bind (writeOut_triple (hrest s hs))

theorem printInterface_triple {i : Str} (h0 : 0 ∉ i) :
    Op.Triple (settings aton) k (printInterface i) t fun r t' k' =>
      r = .ok () ∧ k' = k ∧ ∃ s, Lists k i s ∧ t' = { t with cout := t.cout ++ s } := by
  unfold printInterface
  refine .bind (writeOut_triple ?_)
  refine .printed (shown_triple (a := .mtu) intText h0 fun _ => rfl) fun mtu hmtu => ?_
  refine .printed (shown_triple (a := .address) id h0 fun _ => rfl) fun ip hip => ?_
  refine .printed (shown_triple (a := .netmask) id h0 fun _ => rfl) fun netmask hmask => ?_
  refine .printed (shown_triple (a := .broadcast) id h0 fun _ => rfl) fun broadcast hbroad => ?_
  refine .bind ((hardware_triple h0).mono ?_)
  rintro r t' k' ⟨rfl, rfl, ether, rfl, hether⟩
  refine writeOut_triple ⟨rfl, rfl, blockText i mtu ip netmask broadcast ether,
    ⟨_, _, _, _, _, ⟨hmtu, hip, hmask, hbroad, hether⟩, rfl⟩, ?_⟩
  simp only [blockText, List.append_assoc]

/-- The list holds the names of the entries with an IPv4 address that fit into the buffer. -/
theorem networkInterfaces_triple : Op.Triple (interfaces aton entries) k getNetworkInterfaces t
    fun r t' k' => t' = t ∧ k' = k ∧
      ∀ names, r = .ok names → names = inetNames (entries.take maxInterfaces) := by
  have hquiet {c : Call} (hc : ∀ k r k', storeStep aton k ⟨c, r⟩ k' → k' = k) :
      (interfaces aton entries).Ignores c := (settings_ignores hc).restrict _
  have herr (x : Exn) : t = t ∧ k = k ∧ ∀ names, (Except.error x : Except Exn (List Str)) =
      .ok names → names = inetNames (entries.take maxInterfaces) :=
    ⟨rfl, rfl, fun names h => by cases h⟩
  refine .withTempSocket (hquiet fun _ _ _ => id) (fun _ => hquiet fun _ _ _ => id)
    (fun _ _ _ _ _ => herr) fun fd => .bind (.sysIgnored (hquiet fun _ _ _ => id) ?_)
  intro k₁ r k₂ _ hs
  cases r with
  | error e => exact .throwSocket herr
  | ok conf =>
    have hconf : conf.Holds entries := hs.2
    refine .pure ⟨rfl, rfl, fun names hnames => ?_⟩
    rw [← Except.ok.inj hnames]
    exact Option.get_of_eq_some _ hconf.interfacesIn

end Print

/-- What a run without arguments shows. -/
inductive Listed (entries : List Ifreq) (k : Store) (t : Terminal) :
    Except Exn Exit → Terminal → Prop
  | listed (texts : List Str)
      (h : List.Forall₂ (Lists k) (inetNames (entries.take maxInterfaces)) texts) :
      Listed entries k t (.ok (.status 0)) { t with cout := t.cout ++ texts.flatten }
  /-- The exception of `getNetworkInterfaces` is not caught. -/
  | failed (e : SocketException) : Listed entries k t (.error (.socket e)) t

/-- No name of an interface holds a NUL. -/
theorem nul_not_mem_inetNames {entries : List Ifreq} {i : Str} (h : i ∈ inetNames entries) :
    0 ∉ i := by
  obtain ⟨ifr, -, rfl⟩ := List.mem_map.1 h
  exact cStr_no_nul _

theorem print_triple {aton : Str → Option InAddr} {entries : List Ifreq} {t : Terminal}
    {k : Store} : Op.Triple (interfaces aton entries) k MiniIfconfig.print t
      fun r t' k' => k' = k ∧ Listed entries k t r t' := by
  unfold MiniIfconfig.print
  refine .bind ((networkInterfaces_triple.and_wp getNetworkInterfaces_raises).mono ?_)
  rintro r t' k' ⟨⟨rfl, rfl, hnames⟩, hsocket⟩
  cases r with
  | error x =>
    obtain ⟨e, rfl⟩ := hsocket x rfl
    exact ⟨rfl, .failed e⟩
  | ok names =>
    obtain rfl := hnames names rfl
    refine .bind ((forEach_triple (R := Lists k') _ (fun i hi t => ?_) t').mono ?_)
    · exact (printInterface_triple (nul_not_mem_inetNames hi)).restrict _
    · rintro r t₁ k₁ ⟨rfl, rfl, texts, htexts, rfl⟩
      exact .pure ⟨rfl, .listed texts htexts⟩

/-! ## Runs of the tool -/

/-- The arguments of a program behind its name. They end with their first NUL. -/
structure CommandLine where
  args : List Str
  no_nul : ∀ arg ∈ args, 0 ∉ arg

namespace MiniIfconfig

def run (strerror : Errno → String) (progName : Str) (c : CommandLine) (_ : Unit) :
    Prog posix (Ran × Unit) := start (main strerror progName c.args)

/-- The run has given the attribute a value. -/
def Wrote (aton : Str → Option InAddr) (c : CommandLine) (ran : Ran) (r : Str × Attr)
    (x : r.2.Value) : Prop :=
  ∃ val, c.args = [r.1, r.2.key, val] ∧ ran.exit = .ok (.status 0) ∧ r.2.Denotes aton val x

/-- How a run ends, and what it shows, if the settings are `k`. -/
inductive Ends (aton : Str → Option InAddr) (strerror : Errno → String) (progName : Str)
    (entries : List Ifreq) (k : Store) : List Str → Ran → Store → Prop
  | print {ran : Ran} (h : Listed entries k .empty ran.exit ran.terminal) :
      Ends aton strerror progName entries k [] ran k
  | configure {interface setting val : Str} {ran : Ran} {k' : Store}
      (h : Configured aton strerror progName interface setting val .empty k ran.exit ran.terminal
        k') : Ends aton strerror progName entries k [interface, setting, val] ran k'
  | usage {args : List Str} {ran : Ran} (h₀ : args.length ≠ 0) (h₃ : args.length ≠ 3)
      (h : ran = ⟨.ok (.status (-1)), ⟨progName ++ ascii usageString, []⟩⟩) :
      Ends aton strerror progName entries k args ran k

end MiniIfconfig

section Runs

variable {aton : Str → Option InAddr} {strerror : Errno → String} {progName : Str}
  {entries : List Ifreq} {k k' : Store} {c : CommandLine} {ran : Ran}

theorem main_triple (c : CommandLine) : Op.Triple (interfaces aton entries) k
    (MiniIfconfig.main strerror progName c.args) .empty
    fun r t k' => Ends aton strerror progName entries k c.args ⟨r, t⟩ k' := by
  obtain ⟨args, h0⟩ := c
  unfold MiniIfconfig.main
  dsimp only
  split
  · exact print_triple.mono fun r t k' h => by
      obtain ⟨rfl, h⟩ := h
      exact .print h
  · next i setting val =>
    exact ((configure_triple (h0 i List.mem_cons_self)).restrict _).mono
      fun r t k' h => .configure h
  · next hnil hthree =>
    refine .bind (writeOut_triple ?_)
    rw [Terminal.empty_append]
    refine Op.Triple.pure (.usage (fun h => ?_) (fun h => ?_) rfl)
    · exact hnil (List.length_eq_zero_iff.1 h)
    · obtain ⟨i, setting, val, hargs⟩ := List.length_eq_three.1 h
      exact hthree i setting val hargs

theorem run_ends {u v : Unit} {tr : List Event}
    (hr : Runs (MiniIfconfig.run strerror progName c u) tr (ran, v))
    (hk : (interfaceKernel aton entries).Accepts k tr k') :
    Ends aton strerror progName entries k c.args ran k' := by
  have hmain : Op.Triple (interfaces aton entries) k (main strerror progName c.args) .empty
      fun r t k' => Ends aton strerror progName entries k c.args ⟨r, t⟩ k' := main_triple c
  obtain ⟨k₁, hk₁, h⟩ := hmain.start.runs rfl hr hk
  obtain rfl : k' = k₁ := hk₁
  exact h

/-- A run writes to the attribute it is about, or to none. -/
theorem MiniIfconfig.Ends.writes (h : Ends aton strerror progName entries k c.args ran k') :
    Writes (Wrote aton c ran) (fun r => k r.1 r.2) fun r => k' r.1 r.2 := by
  generalize hargs : c.args = args at h
  cases h with
  | print h =>
    refine .refl (fun r x hx => ?_) _
    obtain ⟨val, hx, -⟩ := hx
    rw [hargs] at hx
    cases hx
  | usage h₀ h₃ h =>
    refine .refl (fun r x hx => ?_) _
    obtain ⟨val, -, hx, -⟩ := hx
    rw [h] at hx
    cases hx
  | @configure interface setting val _ _ h =>
    obtain ⟨exit, t⟩ := ran
    cases h with
    | set a x hkey hx hlen =>
      rintro ⟨name, b⟩
      by_cases hsame : name = interface ∧ b = a
      · obtain ⟨rfl, rfl⟩ := hsame
        refine Or.inl ⟨val, hkey ▸ hargs, rfl, ?_⟩
        have hset : k.set name b x name b = x := Store.set_self k name b x
        dsimp only
        rwa [hset]
      · refine Or.inr ⟨Store.set_of_ne fun hname hb => hsame ⟨hname, hb⟩, fun y hy => hsame ?_⟩
        obtain ⟨val, hy, -⟩ := hy
        rw [hargs, hkey] at hy
        obtain ⟨hname, hy⟩ := List.cons.inj hy
        exact ⟨hname.symm, (Attr.key_inj (List.cons.inj hy).1).symm⟩
    | _ =>
      refine .refl (fun r x hx => ?_) _
      obtain ⟨val, -, hx, -⟩ := hx
      cases hx

end Runs

/-- One run of the tool. -/
abbrev ToolEntry : Type := Entry posix CommandLine Unit Ran

/-- The value the latest run has given the attribute that has given it one, or the initial value. -/
def LatestSetting (aton : Str → Option InAddr) (k₀ : Store) (es : List ToolEntry) (name : Str)
    (a : Attr) (x : a.Value) : Prop :=
  LastWrite (fun e : ToolEntry => Wrote aton e.op e.result) (fun r : Str × Attr => k₀ r.1 r.2) es
    (name, a) x

section Sessions

variable {aton : Str → Option InAddr} {strerror : Errno → String} {progName : Str}
  {entries : List Ifreq} {k₀ k : Store} {es : List ToolEntry}

/-- The registers of the tool, and what its runs say of them. -/
theorem tool_registers
    (h : Session (MiniIfconfig.run strerror progName) (interfaceKernel aton entries) () k₀ es ()
      k) :
    (∀ name a, LatestSetting aton k₀ es name a (k name a)) ∧
      ∀ before e after, es = before ++ e :: after → ∃ v v' : Store,
        (∀ name a, LatestSetting aton k₀ before name a (v name a)) ∧
          Ends aton strerror progName entries v e.op.args e.result v' := by
  obtain ⟨hlast, hall⟩ := h.registers (fun (k : Store) (r : Str × Attr) => k r.1 r.2) (Wrote aton)
    (fun c ran v => ∃ v', Ends aton strerror progName entries (fun name a => v (name, a)) c.args ran
      v') fun c u k tr ran u' k' hr hk => ⟨(run_ends hr hk).writes, k', run_ends hr hk⟩
  refine ⟨fun name a => hlast (name, a), fun before e after hes => ?_⟩
  obtain ⟨v, hv, v', hends⟩ := hall before e after hes
  exact ⟨fun name a => v (name, a), v', fun name a => hv (name, a), hends⟩

/-- A text that stands for one value has been given as that value. -/
theorem LatestSetting.of_wrote {before after : List ToolEntry} {e : ToolEntry} {name : Str}
    {a : Attr} {val : Str} {x y : a.Value} (hargs : e.op.args = [name, a.key, val])
    (hok : e.result.exit = .ok (.status 0)) (hx : a.Denotes aton val x)
    (hone : ∀ y, a.Denotes aton val y → y = x)
    (hafter : ∀ e' ∈ after, ∀ y, ¬Wrote aton e'.op e'.result (name, a) y)
    (h : LatestSetting aton k₀ (before ++ e :: after) name a y) : y = x := by
  induction after using List.reverseRecOn with
  | nil =>
    rcases lastWrite_snoc.1 h with ⟨val', hargs', -, hy⟩ | ⟨-, hno⟩
    · rw [hargs] at hargs'
      obtain rfl : val = val' := by simpa using hargs'
      exact hone y hy
    · exact absurd ⟨val, hargs, hok, hx⟩ (hno x)
  | append_singleton after e' ih =>
    rw [← List.cons_append, ← List.append_assoc] at h
    rw [List.forall_mem_append, List.forall_mem_singleton] at hafter
    rcases lastWrite_snoc.1 h with hy | ⟨h, -⟩
    · exact absurd hy (hafter.2 y)
    · exact ih hafter.1 h

/-- The operation returns this text, and leaves the terminal alone. -/
def Asks (m : Op Terminal Str) (tr : List Event) (text : Str) : Prop :=
  ∀ err t, ∃ err', Runs (m ⟨err, t⟩) tr (.ok text, ⟨err', t⟩)

/-- What the five questions about an interface are answered is printed. -/
theorem printInterface_runs {i mtu ip netmask broadcast ether : Str}
    {tr₁ tr₂ tr₃ tr₄ tr₅ : List Event} (h₁ : Asks (wrapEx intText (getMTU i)) tr₁ mtu)
    (h₂ : Asks (wrapEx id (getInterfaceAddress i)) tr₂ ip)
    (h₃ : Asks (wrapEx id (getNetmask i)) tr₃ netmask)
    (h₄ : Asks (wrapEx id (getBroadcastAddress i)) tr₄ broadcast)
    (h₅ : Asks (wrapEx id (getHardwareAddress i 58)) tr₅ ether) (err : Errno) (t : Terminal) :
    ∃ err', Runs (printInterface i ⟨err, t⟩) (tr₁ ++ (tr₂ ++ (tr₃ ++ (tr₄ ++ tr₅))))
      (.ok (),
        ⟨err', { t with cout := t.cout ++ blockText i mtu ip netmask broadcast ether }⟩) := by
  let t₀ : Terminal := { t with cout := t.cout ++ (i ++ ascii ":" ++ ascii "\n") }
  let t₁ : Terminal := { t with cout := t₀.cout ++
    (ascii "\t" ++ ascii "mtu " ++ mtu ++ ascii "\n") }
  let t₂ : Terminal := { t with cout := t₁.cout ++ (ascii "\t" ++ ascii "ip " ++ ip ++ ascii " ") }
  let t₃ : Terminal := { t with cout := t₂.cout ++ (ascii "netmask " ++ netmask ++ ascii " ") }
  let t₄ : Terminal := { t with cout := t₃.cout ++
    (ascii "broadcast " ++ broadcast ++ ascii " " ++ ascii "\n") }
  obtain ⟨err₁, h₁⟩ := h₁ err t₀
  obtain ⟨err₂, h₂⟩ := h₂ err₁ t₁
  obtain ⟨err₃, h₃⟩ := h₃ err₂ t₂
  obtain ⟨err₄, h₄⟩ := h₄ err₃ t₃
  obtain ⟨err₅, h₅⟩ := h₅ err₄ t₄
  have hrun : Runs (printInterface i ⟨err, t⟩) (tr₁ ++ (tr₂ ++ (tr₃ ++ (tr₄ ++ tr₅))))
      (.ok (), ⟨err₅, { t with cout := t₄.cout ++
        (ascii "\t" ++ ascii "ether " ++ ether ++ ascii "\n") }⟩) := by
    refine Op.Runs.bind_nil (.nil _) (Op.Runs.bind h₁ (Op.Runs.bind_nil (.nil _)
      (Op.Runs.bind h₂ (Op.Runs.bind_nil (.nil _) (Op.Runs.bind h₃ (Op.Runs.bind_nil (.nil _)
        (Op.Runs.bind h₄ (Op.Runs.bind_nil (.nil _) ?_))))))))
    exact Op.Runs.bind_ret h₅ (.nil _)
  refine ⟨err₅, ?_⟩
  simpa only [t₀, t₁, t₂, t₃, t₄, blockText, List.append_assoc] using hrun

/-- The entry of the interface `lo` in the list. -/
def loopback : Ifreq := ⟨ascii "lo" ++ [0], [2, 0]⟩

/-- The argument of a request about `lo`. -/
def requestLo : Ifreq := Ifreq.zero.1.assign (ascii "lo")

/-- The calls of a function that makes a request. -/
def requestEvents (request : ℤ) (ifr : Ifreq) (r : Except Errno Ifreq) : List Event := [
  Event.lib .uninitIfreq Ifreq.zero, Event.sys .once (.socket pfInet sockDgram 0) (.ok 3),
  Event.sys .once (.ioctl 3 request ifr) r, Event.sys .tempFailureRetry (.close 3) (.ok ())]

theorem requestEvents_accepted {request : ℤ} {ifr : Ifreq} {r : Except Errno Ifreq} {k' : Store}
    (h : storeStep aton k (Event.sys .once (.ioctl 3 request ifr) r) k') :
    (interfaceKernel aton entries).Accepts k (requestEvents request ifr r) k' :=
  .step ⟨rfl, trivial⟩ (.step ⟨rfl, trivial⟩ (.step ⟨h, trivial⟩ (.single ⟨rfl, trivial⟩)))

section Asks

variable {α : Type} {text : α → Str} {request : ℤ} {failure : String}

theorem asks_fail {read : Ifreq → Op Terminal α} (e : Errno) :
    Asks (wrapEx text (getSetting request failure read (ascii "lo")))
      (requestEvents request requestLo (.error e)) fail := fun _ _ =>
  ⟨_, .cons (.answer rfl) (.cons (.answer rfl) (.cons (.answer rfl) (.cons (.answer rfl)
    (.nil _))))⟩

theorem asks_value (get : Ifreq → α) (ifr : Ifreq) :
    Asks (wrapEx text (getSetting request failure (fun ifr => return get ifr) (ascii "lo")))
      (requestEvents request requestLo (.ok ifr)) (text (get ifr)) := fun _ _ =>
  ⟨_, .cons (.answer rfl) (.cons (.answer rfl) (.cons (.answer rfl) (.cons (.answer rfl)
    (.nil _))))⟩

end Asks

/-- Nothing is set. -/
def blank : Store := fun _ a => a.read ⟨[], []⟩

/-- The MTU of `lo` is set, and a listing follows, which gets no address of `lo`. -/
theorem mtu_session : ∃ (es : List ToolEntry) (e e' : ToolEntry) (k : Store),
    Session (MiniIfconfig.run (fun _ => "") []) (interfaceKernel parseQuad [loopback]) () blank es
      () k ∧ es = [e, e'] ∧ e.op.args = [ascii "lo", ascii "mtu", ascii "1500"] ∧
      e.result.exit = .ok (.status 0) ∧ e'.op.args = [] ∧ e'.result = ⟨.ok (.status 0),
        ⟨blockText (ascii "lo") (ascii "1500") fail fail fail fail, []⟩⟩ := by
  let c : CommandLine := ⟨[ascii "lo", ascii "mtu", ascii "1500"], by decide⟩
  let c' : CommandLine := ⟨[], List.forall_mem_nil _⟩
  let ifr : Ifreq := requestLo.setMtu 1500
  let k : Store := blank.set (cStr ifr.ifrName) .mtu (Attr.mtu.read ifr)
  let conf : IfConf maxInterfaces := ⟨some loopback :: List.replicate 31 none, ifreqSize, rfl,
    fun i hi => ⟨loopback, by
      obtain rfl : i = 0 := by
        unfold ifreqSize at hi
        omega
      rfl⟩⟩
  let lists : List Event := [Event.sys .once (.socket pfInet sockDgram 0) (.ok 3),
    Event.sys .once (.ioctlConf 3 maxInterfaces) (.ok conf),
    Event.sys .tempFailureRetry (.close 3) (.ok ())]
  have hr : Runs (MiniIfconfig.run (fun _ => "") [] c ()) (requestEvents 0x8922 ifr (.ok ifr))
      (⟨.ok (.status 0), .empty⟩, ()) :=
    .cons (.answer rfl) (.cons (.answer rfl) (.cons (.answer rfl) (.cons (.answer rfl) (.nil _))))
  have htext : intText ifr.ifrMtu = ascii "1500" := by decide
  obtain ⟨err, hblock⟩ := printInterface_runs (asks_value Ifreq.ifrMtu ifr) (asks_fail 99)
    (asks_fail 99) (asks_fail 99) (asks_fail 99) 0 .empty
  rw [htext] at hblock
  have hnames : Runs (getNetworkInterfaces ⟨0, Terminal.empty⟩) lists
      (.ok [ascii "lo"], ⟨0, Terminal.empty⟩) :=
    .cons (.answer rfl) (.cons (.answer rfl) (.cons (.answer rfl) (.nil _)))
  have hprint := Op.Runs.bind (f := fun ifs => forEach printInterface ifs >>= fun _ =>
    (Pure.pure (Exit.status 0) : Op Terminal Exit)) hnames
    (Op.Runs.bind_ret (Op.Runs.bind_ret hblock (.nil _)) (.nil _))
  have hr' : Runs (MiniIfconfig.run (fun _ => "") [] c' ()) _ (⟨.ok (.status 0),
      ⟨blockText (ascii "lo") (ascii "1500") fail fail fail fail, []⟩⟩, ()) := Trace.bind hprint _
  have hk : (interfaceKernel parseQuad [loopback]).Accepts blank
      (requestEvents 0x8922 ifr (.ok ifr)) k :=
    requestEvents_accepted (answers_set blank .mtu fun h => absurd rfl h)
  have hlists : (interfaceKernel parseQuad [loopback]).Accepts k lists k :=
    .step ⟨rfl, trivial⟩ (.step ⟨rfl, rfl, rfl⟩ (.single ⟨rfl, trivial⟩))
  have hanswer : (interfaceKernel parseQuad [loopback]).Accepts k
      (requestEvents 0x8921 requestLo (.ok ifr)) k :=
    requestEvents_accepted (answers_get (a := .mtu) (Store.set_self blank _ .mtu _).symm)
  have hfail (request : ℤ) : (interfaceKernel parseQuad [loopback]).Accepts k
      (requestEvents request requestLo (.error 99)) k := requestEvents_accepted rfl
  exact ⟨_, _, _, k, .snoc (.single c hr hk) c' hr' (hlists.append (hanswer.append
    ((hfail _).append ((hfail _).append ((hfail _).append (hfail _)))))), rfl, rfl, rfl, rfl, rfl⟩

end Sessions

/-- **`mini_ifconfig`.** In every sequence of runs, a setting has the value that the latest run with
the status 0 that was about it was given; every run ends as `Ends` says, with these settings; and so
a listing shows for every field either the latest value or `<fail>`. -/
theorem mini_ifconfig {aton : Str → Option InAddr} {strerror : Errno → String} {progName : Str}
    {entries : List Ifreq} {k₀ k : Store} {es : List ToolEntry}
    (h : Session (MiniIfconfig.run strerror progName) (interfaceKernel aton entries) () k₀ es ()
      k) :
    (∀ name a, LatestSetting aton k₀ es name a (k name a)) ∧
      ∀ before e after, es = before ++ e :: after →
        (e.op.args = [] → ∃ v : Store, (∀ name a, LatestSetting aton k₀ before name a (v name a)) ∧
          Listed entries v .empty e.result.exit e.result.terminal) ∧
        (∀ interface setting val, e.op.args = [interface, setting, val] → ∃ v v' : Store,
          (∀ name a, LatestSetting aton k₀ before name a (v name a)) ∧
            Configured aton strerror progName interface setting val .empty v e.result.exit
              e.result.terminal v') ∧
        (e.op.args.length ≠ 0 → e.op.args.length ≠ 3 →
          e.result = ⟨.ok (.status (-1)), ⟨progName ++ ascii usageString, []⟩⟩) := by
  obtain ⟨hlast, hall⟩ := tool_registers h
  refine ⟨hlast, fun before e after hes => ?_⟩
  obtain ⟨v, v', hv, hends⟩ := hall before e after hes
  refine ⟨fun hargs => ?_, fun i setting val hargs => ?_, fun h₀ h₃ => ?_⟩
  · rw [hargs] at hends
    cases hends with
    | print h => exact ⟨v, hv, h⟩
    | usage h₀ => exact absurd rfl h₀
  · rw [hargs] at hends
    cases hends with
    | configure h => exact ⟨v, v', hv, h⟩
    | usage h₀ h₃ => exact absurd rfl h₃
  · generalize e.op.args = args at hends h₀ h₃
    cases hends with
    | print h => exact absurd rfl h₀
    | configure h => exact absurd rfl h₃
    | usage _ _ h => exact h

theorem mini_ifconfig_mtu : ∃ (es : List ToolEntry) (k : Store),
    es.map (fun e => e.result.exit) = [.ok (.status 0), .ok (.status 0)] ∧
      (∀ name a, LatestSetting parseQuad blank es name a (k name a)) ∧
      ∃ e v, es.getLast? = some e ∧ Listed [loopback] v .empty e.result.exit e.result.terminal ∧
        e.result.terminal.cout = blockText (ascii "lo") (ascii "1500") fail fail fail fail := by
  obtain ⟨_, e, e', k, hsession, rfl, -, hok, hargs, hok'⟩ := mtu_session
  obtain ⟨hlast, hall⟩ := mini_ifconfig hsession
  obtain ⟨v, -, hlisted⟩ := (hall [e] e' [] rfl).1 hargs
  refine ⟨_, k, ?_, hlast, e', v, rfl, hlisted, ?_⟩
  · rw [List.map_cons, List.map_singleton, hok, hok']
  · rw [hok']

/-- **What a listing shows can be given back.** A run that gives an attribute a text that a listing
shows for the value `x` leaves `x` there, and until the attribute is written again every listing
shows this value or `<fail>`. -/
theorem mini_ifconfig_copied {aton : Str → Option InAddr}
    (hquad : ∀ a, aton (inetNtoa a) = some a) {strerror : Errno → String} {progName : Str}
    {entries : List Ifreq} {k₀ k : Store} {es : List ToolEntry}
    (h : Session (MiniIfconfig.run strerror progName) (interfaceKernel aton entries) () k₀ es () k)
    {before after : List ToolEntry} {e : ToolEntry} (hes : es = before ++ e :: after) {name : Str}
    {a : Attr} {x : a.Value} (hargs : e.op.args = [name, a.key, a.text x])
    (hok : e.result.exit = .ok (.status 0))
    (hafter : ∀ e' ∈ after, ∀ y, ¬Wrote aton e'.op e'.result (name, a) y) :
    k name a = x ∧ ∀ l₁ e' l₂, after = l₁ ++ e' :: l₂ → e'.op.args = [] →
      ∃ v : Store, v name a = x ∧ Listed entries v .empty e'.result.exit e'.result.terminal := by
  have hdenotes : ∀ y, a.Denotes aton (a.text x) y → y = x := fun y =>
    (Attr.denotes_text_iff hquad).1
  have hx : a.Denotes aton (a.text x) x := (Attr.denotes_text_iff hquad).2 rfl
  obtain ⟨hlast, hall⟩ := tool_registers h
  subst hes
  refine ⟨(hlast name a).of_wrote hargs hok hx hdenotes hafter, ?_⟩
  rintro l₁ e' l₂ rfl hlist
  obtain ⟨v, v', hv, hends⟩ := hall (before ++ e :: l₁) e' l₂ (by simp)
  rw [hlist] at hends
  have hbefore : ∀ e'' ∈ l₁, ∀ y, ¬Wrote aton e''.op e''.result (name, a) y :=
    fun e'' he => hafter e'' (List.mem_append_left _ he)
  cases hends with
  | print h => exact ⟨v, (hv name a).of_wrote hargs hok hx hdenotes hbefore, h⟩
  | usage h₀ => exact absurd rfl h₀

theorem mini_ifconfig_copied_mtu : ∃ (es : List ToolEntry) (k : Store),
    Session (MiniIfconfig.run (fun _ => "") []) (interfaceKernel parseQuad [loopback]) () blank es
      () k ∧ k (ascii "lo") .mtu = 1500 ∧
      ∃ e v, es.getLast? = some e ∧ v (ascii "lo") .mtu = 1500 ∧
        Listed [loopback] v .empty e.result.exit e.result.terminal := by
  obtain ⟨_, e, e', k, hsession, rfl, hargs, hok, hargs', -⟩ := mtu_session
  have htext : ascii "1500" = Attr.mtu.text 1500 := by decide
  rw [htext] at hargs
  have hes : [e, e'] = [] ++ e :: [e'] := rfl
  have ha : e.op.args = [ascii "lo", Attr.mtu.key, Attr.mtu.text 1500] := hargs
  have hafter : ∀ e'' ∈ [e'], ∀ y,
      ¬Wrote parseQuad e''.op e''.result (ascii "lo", Attr.mtu) y := by
    rintro e'' he'' y ⟨val, hval, -⟩
    obtain rfl := List.mem_singleton.1 he''
    rw [hargs'] at hval
    cases hval
  obtain ⟨hk, hall⟩ := mini_ifconfig_copied parseQuad_inetNtoa hsession hes ha hok hafter
  obtain ⟨v, hv, hlisted⟩ := hall [] e' [] rfl hargs'
  exact ⟨_, k, hsession, hk, e', v, rfl, hv, hlisted⟩

end NET
