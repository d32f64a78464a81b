import SimpleSocket.Net.SocketUtils

/-!
# The two name resolution paths

`fillAddress` copies the address the resolver reports, `resolveHostname` prints its four bytes one
by one. It prints a `char`, which is signed: a byte is printed in the standard form when it is below
128, and with a minus sign otherwise (`minus_mem_signed`).
-/

namespace NET

open Op Interact SocketUtils

/-! ## Printing the bytes -/

/-- `'-'`. -/
def minus : UInt8 := 45

/-- The text of a byte that is printed as a signed `char`. -/
def signed (b : UInt8) : Str := (Ostream.new.putInt (charToInt b)).text

theorem signed_of_lt (b : UInt8) : b < 128 → signed b = decimal b := by
  revert b
  apply forall_byte
  decide +kernel

theorem minus_mem_signed (b : UInt8) : minus ∈ signed b ↔ ¬b < 128 := by
  revert b
  apply forall_byte
  decide +kernel

theorem minus_not_mem_decimal (b : UInt8) : minus ∉ decimal b := by
  revert b
  apply forall_byte
  decide +kernel

/-- Output that leaves no width behind is appended to the text. -/
theorem putInt_eq (text : Str) (b : UInt8) :
    (Ostream.mk text false false 0 32).putInt (charToInt b) =
      ⟨text ++ signed b, false, false, 0, 32⟩ := by
  unfold signed Ostream.putInt Ostream.new
  by_cases h : charToInt b < 0 <;> simp [h, Ostream.pad]

theorem putDot_eq (text : Str) :
    (Ostream.mk text false false 0 32).putChar dot = ⟨text ++ [dot], false, false, 0, 32⟩ := by
  simp [Ostream.putChar, Ostream.pad]

/-- The loop of `resolveHostname`. -/
theorem printBytes_text (a : InAddr) : (printBytes a).text =
    signed a.b0 ++ dot :: signed a.b1 ++ dot :: signed a.b2 ++ dot :: signed a.b3 := by
  unfold printBytes InAddr.bytes
  simp [List.zipIdx, putInt_eq, putDot_eq, Ostream.new]

/-- The printed bytes are the standard form when no byte is negative as a `char`. -/
theorem printBytes_standard_iff (a : InAddr) :
    (printBytes a).text = inetNtoa a ↔ ∀ b ∈ a.bytes, b < 128 := by
  rw [printBytes_text]
  constructor
  · intro h
    have hminus : minus ∉ inetNtoa a := by
      simp only [inetNtoa, List.mem_append, List.mem_cons, minus_not_mem_decimal]
      decide
    rw [← h] at hminus
    simp only [List.mem_append, List.mem_cons, minus_mem_signed, not_or, not_not] at hminus
    simp only [InAddr.bytes, List.forall_mem_cons]
    obtain ⟨⟨⟨h0, -, h1⟩, -, h2⟩, -, h3⟩ := hminus
    exact ⟨h0, h1, h2, h3, List.forall_mem_nil _⟩
  · intro h
    simp only [InAddr.bytes, List.forall_mem_cons] at h
    obtain ⟨h0, h1, h2, h3, -⟩ := h
    rw [signed_of_lt _ h0, signed_of_lt _ h1, signed_of_lt _ h2, signed_of_lt _ h3]
    rfl

/-! ## The two paths -/

/-- `inet_aton` accepts the standard forms, and the resolver answers as `host` says, always. -/
def Resolves (host : Str → Option InAddr) : Event → Prop
  | ⟨.lib (.inetAton s), r⟩ => r = parseQuad s
  | ⟨.lib (.gethostbyname s), r⟩ => r = host s
  | _ => True

/-- The call is a question to the resolver. -/
def Call.asksHost : Call → Bool
  | .lib (.gethostbyname _) => true
  | _ => false

/-- However the struct looked before, `fillAddress` returns, and has written `addr`. -/
def Fills (host : Str → Option InAddr) (address : Str) (port : BitVec 16) (addr : SockaddrIn) :
    Prop :=
  ∀ (s s' : Proc SockaddrIn) (tr : List Event) (r : Except Exn Unit),
    Runs (InternetSocket.fillAddress address port s) tr (r, s') → (∀ e ∈ tr, Resolves host e) →
      r = .ok () ∧ s'.vars = addr

/-- The text of the hostname `h` is the standard form of its address, so `fillAddress` gets along
without the resolver, and builds the struct it builds of the hostname. -/
structure PathsAgree (host : Str → Option InAddr) (h : Str) (a : InAddr) (text : Str) : Prop where
  standard : text = inetNtoa a
  same : ∀ port, ∃ addr, Fills host text port addr ∧ Fills host h port addr
  resolver : ∀ port (s s' : Proc SockaddrIn) (tr : List Event) (r : Except Exn Unit),
    Runs (InternetSocket.fillAddress text port s) tr (r, s') → (∀ e ∈ tr, Resolves host e) →
      ∀ e ∈ tr, Call.asksHost e.call = false

section Paths

variable {host : Str → Option InAddr}

/-- What `fillAddress` makes of a text, and whom it asks. -/
theorem wp_fillAddress {address : Str} {port : BitVec 16} {s : Proc SockaddrIn} {a : InAddr}
    (ha : parseQuad (cStr address) = some a ∨
      (parseQuad (cStr address) = none ∧ host (cStr address) = some a)) :
    (InternetSocket.fillAddress address port).wp (fun as r s' => (∀ x ∈ as, Resolves host x.2) →
      (r = .ok () ∧ s'.vars = ⟨afInet, htons port, a⟩) ∧
      ((parseQuad (cStr address)).isSome → ∀ x ∈ as, Call.asksHost x.2.call = false)) s := by
  simp only [InternetSocket.fillAddress, wp_bind, wp_modify, List.nil_append]
  apply wp_lib.2
  intro b parsed
  cases parsed with
  | some p =>
    intro hres
    have hp : some p = parseQuad (cStr address) := hres _ List.mem_cons_self
    refine ⟨⟨rfl, ?_⟩, fun _ => List.forall_mem_singleton.2 rfl⟩
    rcases ha with ha | ⟨ha, -⟩
    · rw [ha] at hp
      obtain rfl := Option.some.inj hp
      rfl
    · rw [ha] at hp
      cases hp
  | none =>
    simp only [wp_bind]
    apply wp_lib.2
    intro b' answer
    have hboth : ∀ as : List (Answer posix), (∀ x ∈ [(b, Event.lib (.inetAton (cStr address)) none)]
        ++ ([(b', Event.lib (.gethostbyname (cStr address)) answer)] ++ as), Resolves host x.2) →
        parseQuad (cStr address) = none ∧ answer = some a := by
      intro as hres
      have hp : none = parseQuad (cStr address) := hres _ List.mem_cons_self
      have hh : answer = host (cStr address) :=
        hres _ (List.mem_cons_of_mem _ List.mem_cons_self)
      rcases ha with ha | ⟨ha, hhost⟩
      · rw [ha] at hp
        cases hp
      · exact ⟨ha, hh.trans hhost⟩
    cases answer with
    | none =>
      intro hres
      cases (hboth [] hres).2
    | some p =>
      intro hres
      obtain ⟨hnone, hp⟩ := hboth [] hres
      obtain rfl := Option.some.inj hp
      refine ⟨⟨rfl, rfl⟩, fun hsome => ?_⟩
      rw [hnone] at hsome
      cases hsome

theorem fills_of {address : Str} {a : InAddr} (port : BitVec 16)
    (ha : parseQuad (cStr address) = some a ∨
      (parseQuad (cStr address) = none ∧ host (cStr address) = some a)) :
    Fills host address port ⟨afInet, htons port, a⟩ := by
  intro s s' tr r hr hres
  exact (Op.Runs.wp hr (wp_fillAddress ha) (forall_answers hres false)).1

/-- The standard form takes the path that does not ask the resolver. -/
theorem pathsAgree_standard {h : Str} {a : InAddr} (hquad : parseQuad (cStr h) = none)
    (hhost : host (cStr h) = some a) : PathsAgree host h a (inetNtoa a) := by
  have hparse := parseQuad_cStr_inetNtoa a
  refine ⟨rfl, fun port => ⟨_, fills_of port (Or.inl hparse), ?_⟩,
    fun port s s' tr r hr hres e he => ?_⟩
  · exact fills_of port (Or.inr ⟨hquad, hhost⟩)
  have key := (Op.Runs.wp hr (wp_fillAddress (Or.inl hparse)) (forall_answers hres false)).2 (by
    rw [hparse]
    rfl)
  obtain ⟨e', he', hcall⟩ := Runs.exists_settled_call hr he
  rw [← hcall]
  rw [← map_snd_answers false] at he'
  obtain ⟨x, hx, rfl⟩ := List.mem_map.1 he'
  exact key x hx

/-- What `resolveHostname` returns. -/
theorem resolveHostname_returns {τ : Type} {h : Str} {a : InAddr} {s s' : Proc τ} {tr : List Event}
    {r : Except Exn Str} (hhost : host (cStr h) = some a)
    (hr : Runs (resolveHostname h s) tr (r, s')) (hres : ∀ e ∈ tr, Resolves host e) :
    r = .ok (printBytes a).text := by
  have key := Op.Runs.wp (Q := fun as r _ => (∀ x ∈ as, Resolves host x.2) →
    r = .ok (printBytes a).text) hr (by
      simp only [resolveHostname, wp_bind]
      apply wp_lib.2
      intro b answer
      have hanswer : ∀ as : List (Answer posix), (∀ x ∈ [(b, Event.lib (.gethostbyname (cStr h))
          answer)] ++ as, Resolves host x.2) → answer = some a := fun _ hres =>
        (hres _ List.mem_cons_self : answer = host (cStr h)).trans hhost
      cases answer with
      | none => exact fun hres => by cases hanswer [] hres
      | some p =>
        intro hres
        obtain rfl := Option.some.inj (hanswer [] hres)
        rfl)
  exact key (forall_answers hres false)

end Paths

/-- **The two name resolution paths agree** exactly on the addresses whose bytes are below 128. -/
theorem resolution_paths_agree_iff {τ : Type} {host : Str → Option InAddr} {h : Str} {a : InAddr}
    {s s' : Proc τ} {tr : List Event} {r : Except Exn Str} (hquad : parseQuad (cStr h) = none)
    (hhost : host (cStr h) = some a) (hr : Runs (resolveHostname h s) tr (r, s'))
    (hres : ∀ e ∈ tr, Resolves host e) :
    (∃ text, r = .ok text ∧ PathsAgree host h a text) ↔ ∀ b ∈ a.bytes, b < 128 := by
  have hret := resolveHostname_returns hhost hr hres
  rw [← printBytes_standard_iff]
  constructor
  · intro h
    obtain ⟨text, htext, hagree⟩ := h
    rw [hret] at htext
    injection htext with htext
    rw [htext, hagree.standard]
  · intro hstd
    refine ⟨_, hret, ?_⟩
    rw [hstd]
    exact pathsAgree_standard hquad hhost

/-- A lookup of the name `a`. -/
theorem lookup_runs (a : InAddr) : Runs (resolveHostname [97] (⟨0, ()⟩ : Proc Unit))
    [Event.lib (.gethostbyname [97]) (some a)] (.ok (printBytes a).text, ⟨0, ()⟩) :=
  .cons (.answer rfl) (.nil _)

theorem lookup_resolves (a : InAddr) : ∀ e ∈ [Event.lib (.gethostbyname [97]) (some a)],
    Resolves (fun _ => some a) e := List.forall_mem_singleton.2 rfl

/-- A name that is resolved to 127.0.0.1. -/
theorem resolution_paths_agree_localhost :
    PathsAgree (fun _ => some ⟨127, 0, 0, 1⟩) [97] ⟨127, 0, 0, 1⟩
      (printBytes ⟨127, 0, 0, 1⟩).text := by
  have hsmall : ∀ b ∈ InAddr.bytes ⟨127, 0, 0, 1⟩, b < 128 := by simp [InAddr.bytes]
  obtain ⟨text, htext, hagree⟩ := (resolution_paths_agree_iff (by decide) rfl
    (lookup_runs ⟨127, 0, 0, 1⟩) (lookup_resolves _)).2 hsmall
  injection htext with htext
  rwa [← htext] at hagree

/-- A name that is resolved to 200.0.0.1 is printed with a minus sign. -/
theorem resolveHostname_prints_minus :
    ¬∀ (host : Str → Option InAddr) (h : Str) (a : InAddr) (s s' : Proc Unit) (tr : List Event)
      (r : Except Exn Str), parseQuad (cStr h) = none → host (cStr h) = some a →
        Runs (resolveHostname h s) tr (r, s') → (∀ e ∈ tr, Resolves host e) →
          ∃ text, r = .ok text ∧ PathsAgree host h a text := by
  intro h
  obtain ⟨text, htext, hagree⟩ := h (fun _ => some ⟨200, 0, 0, 1⟩) [97] ⟨200, 0, 0, 1⟩ _ _ _ _
    (by decide) rfl (lookup_runs _) (lookup_resolves _)
  injection htext with htext
  have hstd := (printBytes_standard_iff ⟨200, 0, 0, 1⟩).1 (htext.trans hagree.standard)
  exact absurd (hstd 200 List.mem_cons_self) (by decide)

end NET
