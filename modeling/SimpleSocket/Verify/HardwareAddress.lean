import SimpleSocket.Posix.DottedQuad
import SimpleSocket.Verify.InterfaceCalls

/-!
# Hardware addresses in print

`getHardwareAddress` sets the width of its stream once. A width pads the next output only, so the
first byte has two digits and a later one below 16 has one. The text has its 17 characters exactly
if there is none of these (`inFull_iff`).
-/

namespace NET

open Op Interact SocketUtils

/-! ## The digits of a byte -/

/-- The upper-case hexadecimal digit. -/
def upperHex (n : ℕ) : UInt8 := UInt8.ofNat (if n < 10 then 48 + n else 55 + n)

/-- The two digits of a byte, the leading zero included. -/
def hexPair (b : UInt8) : Str := [upperHex (b.toNat / 16), upperHex (b.toNat % 16)]

/-- A byte without padding. -/
def hexByte (b : UInt8) : Str := digitsOf 16 true b.toNat

theorem upperHex_inj {m n : ℕ} (hm : m < 16) (hn : n < 16) (h : upperHex m = upperHex n) :
    m = n := by
  have hnat := congrArg UInt8.toNat h
  simp only [upperHex, UInt8.toNat_ofNat'] at hnat
  split at hnat <;> split at hnat <;> omega

theorem hexByte_of_le (b : UInt8) : 16 ≤ b.toNat → hexByte b = hexPair b := by
  revert b
  apply forall_byte
  decide +kernel

theorem hexByte_length_of_lt (b : UInt8) : b.toNat < 16 → (hexByte b).length = 1 := by
  revert b
  apply forall_byte
  decide +kernel

theorem hexByte_length_le (b : UInt8) : (hexByte b).length ≤ 2 := by
  revert b
  apply forall_byte
  decide +kernel

theorem hexByte_padded (b : UInt8) :
    List.replicate (2 - (hexByte b).length) 48 ++ hexByte b = hexPair b := by
  revert b
  apply forall_byte
  decide +kernel

/-! ## The text -/

/-- The width is used up by the first output. -/
theorem putByte_eq (text : Str) (uppercase : Bool) (width : ℕ) (b : UInt8) :
    (Ostream.mk text true uppercase width 48).setUppercase.putInt b.toNat =
      ⟨text ++ List.replicate (width - (hexByte b).length) 48 ++ hexByte b, true, true, 0, 48⟩ := by
  have hmod : ((b.toNat : ℤ) % 4294967296).toNat = b.toNat := by
    have := b.toNat_lt
    omega
  simp [Ostream.setUppercase, Ostream.putInt, Ostream.pad, hmod, hexByte]

theorem putSeparator_eq (text : Str) (c : UInt8) :
    (Ostream.mk text true true 0 48).putChar c = ⟨text ++ [c], true, true, 0, 48⟩ := by
  simp [Ostream.putChar, Ostream.pad]

/-- The first byte is padded, the others are not. -/
theorem printHardware_text (ifr : Ifreq) (c : UInt8) : (printHardware ifr c).text =
    hexPair (ifr.saData 0) ++ c :: hexByte (ifr.saData 1) ++ c :: hexByte (ifr.saData 2) ++
      c :: hexByte (ifr.saData 3) ++ c :: hexByte (ifr.saData 4) ++
      c :: hexByte (ifr.saData 5) := by
  have hstart : ((Ostream.new.setHex).setw 2).setfill 48 = ⟨[], true, false, 2, 48⟩ := rfl
  have hrange : List.range 5 = [0, 1, 2, 3, 4] := rfl
  unfold printHardware
  rw [hstart, hrange]
  simp only [List.foldl_cons, List.foldl_nil, putByte_eq, putSeparator_eq]
  simp [← hexByte_padded]

/-- The layout of a hardware address: two digits for each byte, and a separator between two. -/
structure InFull (ifr : Ifreq) (c : UInt8) (text : Str) : Prop where
  length : text.length = 17
  digits : ∀ i < 6, text[3 * i]? = some (upperHex ((ifr.saData i).toNat / 16)) ∧
    text[3 * i + 1]? = some (upperHex ((ifr.saData i).toNat % 16))
  separators : ∀ i < 5, text[3 * i + 2]? = some c

/-- Every later byte below 16 makes the text shorter. -/
theorem le_of_printHardware_length {ifr : Ifreq} {c : UInt8}
    (h : (printHardware ifr c).text.length = 17) :
    ∀ i, 1 ≤ i → i ≤ 5 → 16 ≤ (ifr.saData i).toNat := by
  have hle (i : ℕ) := hexByte_length_le (ifr.saData i)
  have h1 := hle 1
  have h2 := hle 2
  have h3 := hle 3
  have h4 := hle 4
  have h5 := hle 5
  rw [printHardware_text] at h
  simp only [List.length_append, List.length_cons, hexPair, List.length_nil] at h
  intro i hi hi'
  by_contra hlt
  have hone := hexByte_length_of_lt (ifr.saData i) (by omega)
  have hcase : i = 1 ∨ i = 2 ∨ i = 3 ∨ i = 4 ∨ i = 5 := by omega
  rcases hcase with rfl | rfl | rfl | rfl | rfl <;> omega

theorem inFull_iff (ifr : Ifreq) (c : UInt8) : InFull ifr c (printHardware ifr c).text ↔
    ∀ i, 1 ≤ i → i ≤ 5 → 16 ≤ (ifr.saData i).toNat := by
  refine ⟨fun h => le_of_printHardware_length h.length, fun h => ?_⟩
  have htext : (printHardware ifr c).text =
      hexPair (ifr.saData 0) ++ c :: hexPair (ifr.saData 1) ++ c :: hexPair (ifr.saData 2) ++
        c :: hexPair (ifr.saData 3) ++ c :: hexPair (ifr.saData 4) ++
        c :: hexPair (ifr.saData 5) := by
    have hpair {i : ℕ} (h₁ : 1 ≤ i) (h₂ : i ≤ 5) := hexByte_of_le _ (h i h₁ h₂)
    rw [printHardware_text, hpair (i := 1) (by omega) (by omega),
      hpair (i := 2) (by omega) (by omega), hpair (i := 3) (by omega) (by omega),
      hpair (i := 4) (by omega) (by omega), hpair (i := 5) (by omega) (by omega)]
  rw [htext]
  refine ⟨rfl, fun i hi => ?_, fun i hi => ?_⟩
  · have hcase : i = 0 ∨ i = 1 ∨ i = 2 ∨ i = 3 ∨ i = 4 ∨ i = 5 := by omega
    rcases hcase with rfl | rfl | rfl | rfl | rfl | rfl <;> exact ⟨rfl, rfl⟩
  · have hcase : i = 0 ∨ i = 1 ∨ i = 2 ∨ i = 3 ∨ i = 4 := by omega
    rcases hcase with rfl | rfl | rfl | rfl | rfl <;> rfl

/-- The bytes can be read back from the layout. -/
theorem InFull.bytes_eq {ifr ifr' : Ifreq} {c c' : UInt8} {text : Str} (h : InFull ifr c text)
    (h' : InFull ifr' c' text) {i : ℕ} (hi : i < 6) : ifr'.saData i = ifr.saData i := by
  have hlt := (ifr.saData i).toNat_lt
  have hlt' := (ifr'.saData i).toNat_lt
  obtain ⟨hhigh, hlow⟩ := h.digits i hi
  obtain ⟨hhigh', hlow'⟩ := h'.digits i hi
  rw [hhigh] at hhigh'
  rw [hlow] at hlow'
  have h₁ := upperHex_inj (by omega) (by omega) (Option.some.inj hhigh')
  have h₂ := upperHex_inj (by omega) (by omega) (Option.some.inj hlow')
  apply UInt8.toNat_inj.1
  omega

/-! ## The function -/

/-- The temporary socket can be opened, and `SIOCGIFHWADDR` reports `ifr`. -/
def ReportsHardware (ifr : Ifreq) : Event → Prop
  | ⟨.sys _ (.socket ..), r⟩ => ∃ fd, r = .ok fd
  | ⟨.sys _ (.ioctl ..), r⟩ => r = .ok ifr
  | _ => True

/-- The call prints the address in full, and no call prints another address like it. -/
structure PrintsInFull (interface : Str) (ifr : Ifreq) (c : UInt8) : Prop where
  layout : ∀ (s : Proc Unit) tr r s', Runs (getHardwareAddress interface c s) tr (r, s') →
    (∀ e ∈ tr, ReportsHardware ifr e) → ∃ text, r = .ok text ∧ InFull ifr c text
  distinct : ∀ (s : Proc Unit) tr text s',
    Runs (getHardwareAddress interface c s) tr (.ok text, s') →
    (∀ e ∈ tr, ReportsHardware ifr e) → ∀ ifr' c' (s₁ : Proc Unit) tr₁ s₁',
      Runs (getHardwareAddress interface c' s₁) tr₁ (.ok text, s₁') →
      (∀ e ∈ tr₁, ReportsHardware ifr' e) → ∀ i < 6, ifr'.saData i = ifr.saData i

section Runs

variable {interface : Str} {ifr : Ifreq} {c : UInt8}

/-- A call returns the printed bytes, or the interface has no name or no hardware type that it
supports. -/
theorem getHardwareAddress_runs {s s' : Proc Unit} {tr : List Event} {r : Except Exn Str}
    (hr : Runs (getHardwareAddress interface c s) tr (r, s'))
    (htr : ∀ e ∈ tr, ReportsHardware ifr e) :
    (∀ text, r = .ok text → text = (printHardware ifr c).text) ∧
      (interface.length < ifNameSize → ifr.saFamily ∈ hardwareTypes →
        r = .ok (printHardware ifr c).text) := by
  have hquiet : ∀ call, (View.log (ReportsHardware ifr) fun _ => ([] : List Unit)).Ignores call :=
    fun call => View.log_ignores fun _ => rfl
  have key : Op.Triple (View.log (ReportsHardware ifr) fun _ => ([] : List Unit)) []
      (getHardwareAddress interface c) s.vars fun r _ _ =>
        (∀ text, r = .ok text → text = (printHardware ifr c).text) ∧
          (interface.length < ifNameSize → ifr.saFamily ∈ hardwareTypes →
            r = .ok (printHardware ifr c).text) := by
    unfold getHardwareAddress getSetting
    refine .bind (.localIfreq (hquiet _) (fun hlong x => ⟨fun _ h => ?_, fun hlen => ?_⟩)
      fun hlen mem => .withTempSocket (hquiet _) (fun _ => hquiet _) (fun k e k' hk hs => ?_)
        fun fd => .bind (.sysIgnored (hquiet _) fun k r k' hk hs => ?_))
    · cases h
    · exact absurd hlen (Nat.not_lt.2 hlong)
    · obtain ⟨fd, hfd⟩ := (View.log_step hk hs).1
      cases hfd
    · obtain rfl : r = .ok ifr := (View.log_step hk hs).1
      refine .ite (fun hfam => .pure ⟨fun text h => (Except.ok.inj h).symm, fun _ _ => rfl⟩)
        fun hfam => .throwSocket fun x => ⟨fun _ h => ?_, fun _ h => absurd h hfam⟩
      cases h
  exact key.log_runs hr htr

/-- Such a call returns. -/
theorem can_getHardwareAddress (hlen : interface.length < ifNameSize)
    (hfam : ifr.saFamily ∈ hardwareTypes) :
    Op.Can (.log (ReportsHardware ifr) fun _ => ([] : List Unit)) []
      (getHardwareAddress interface c : Op Unit Str) fun _ _ => True := by
  unfold getHardwareAddress getSetting
  refine .bind (.localIfreq hlen Ifreq.zero (Kernel.log_quiet trivial rfl) ?_)
  refine .withTempSocket (Kernel.log_quiet ⟨0, rfl⟩ rfl) (fun _ => Kernel.log_quiet trivial rfl) ?_
  refine .bind (.sys (.ok ifr) rfl (Kernel.log_quiet rfl rfl) ?_)
  dsimp only
  rw [if_pos hfam]
  exact .pure trivial

end Runs

/-- **A hardware address is printed in full exactly if no byte but the first is below 16.** -/
theorem hardware_address_full_iff {interface : Str} (hlen : interface.length < ifNameSize)
    {ifr : Ifreq} (hfam : ifr.saFamily ∈ hardwareTypes) (c : UInt8) :
    PrintsInFull interface ifr c ↔ ∀ i, 1 ≤ i → i ≤ 5 → 16 ≤ (ifr.saData i).toNat := by
  rw [← inFull_iff ifr c]
  constructor
  · intro h
    obtain ⟨tr, x, s', hr, htr, -⟩ := (can_getHardwareAddress hlen hfam).log_runs ⟨0, ()⟩
    obtain ⟨text, htext, hfull⟩ := h.layout _ tr _ s' hr htr
    rwa [(getHardwareAddress_runs hr htr).1 text htext] at hfull
  · intro h
    refine ⟨fun s tr r s' hr htr => ?_, ?_⟩
    · exact ⟨_, (getHardwareAddress_runs hr htr).2 hlen hfam, h⟩
    · intro s tr text s' hr htr ifr' c' s₁ tr₁ s₁' hr₁ htr₁ i hi
      have htext := (getHardwareAddress_runs hr htr).1 text rfl
      have htext' := (getHardwareAddress_runs hr₁ htr₁).1 text rfl
      rw [← htext] at h
      have h' : InFull ifr' c' text := by
        rw [htext', inFull_iff]
        apply le_of_printHardware_length
        rw [← htext', h.length]
      exact h.bytes_eq h' hi

/-- The address 01:22:33:44:55:66 of an Ethernet interface. -/
theorem hardware_address_full : PrintsInFull [101]
    ⟨[], [1, 0, 0x01, 0x22, 0x33, 0x44, 0x55, 0x66]⟩ 58 := by
  refine (hardware_address_full_iff (by decide) (by decide) 58).2 fun i hi hi' => ?_
  have hcase : i = 1 ∨ i = 2 ∨ i = 3 ∨ i = 4 ∨ i = 5 := by omega
  rcases hcase with rfl | rfl | rfl | rfl | rfl <;> decide

/-- 11:02:33:44:55:66 is printed as `11:2:33:44:55:66`. -/
theorem getHardwareAddress_drops_zero :
    ¬∀ (interface : Str) (ifr : Ifreq) (c : UInt8), interface.length < ifNameSize →
      ifr.saFamily ∈ hardwareTypes → PrintsInFull interface ifr c := by
  intro h
  obtain ⟨tr, x, s', hr, htr, -⟩ := (@can_getHardwareAddress [101]
    ⟨[], [1, 0, 0x11, 0x02, 0x33, 0x44, 0x55, 0x66]⟩ 58 (by decide) (by decide)).log_runs ⟨0, ()⟩
  obtain ⟨text, htext, hfull⟩ := (h [101] _ 58 (by decide) (by decide)).layout _ tr _ s' hr htr
  rw [(getHardwareAddress_runs hr htr).1 text htext, inFull_iff] at hfull
  exact absurd (hfull 1 (by decide) (by decide)) (by decide)

end NET
