import SimpleSocket.Verify.InterfaceCalls

/-!
# The list of interfaces

`SIOCGIFCONF` writes the entries that fit into a buffer for 32. The loop reads what was written and
nothing else, so the names it returns are those of the first 32 entries.
-/

namespace NET

open Op Interact SimpleSocket SocketUtils

/-- The names of the entries with an IPv4 address, in order. -/
def inetNames (entries : List Ifreq) : List Str :=
  (entries.filter fun ifr => ifr.saFamily = afInet).map fun ifr => cStr ifr.ifrName

/-- The kernel has written the entries that fit, and nothing else. -/
structure IfConf.Holds {max : ℕ} (conf : IfConf max) (entries : List Ifreq) : Prop where
  ifcLen : conf.ifcLen = (entries.take max).length * ifreqSize
  data : conf.data = (entries.take max).map some ++
    List.replicate (max - (entries.take max).length) none

/-- The temporary socket can be opened, and the kernel writes the entries that fit. -/
def ListsInterfaces (entries : List Ifreq) : Event → Prop
  | ⟨.sys _ (.socket ..), r⟩ => ∃ fd, r = .ok fd
  | ⟨.sys _ (.ioctlConf _ max), r⟩ => ∃ conf : IfConf max, r = .ok conf ∧ conf.Holds entries
  | _ => True

/-! ## The loop -/

/-- The loop ends behind the last entry whose bytes are counted. -/
theorem interfacesIn_eq (entries : List Ifreq) (rest : List (Option Ifreq)) :
    interfacesIn (entries.length * ifreqSize) (entries.map some ++ rest) =
      some (inetNames entries) := by
  induction entries with
  | nil =>
    rw [List.length_nil, Nat.zero_mul]
    cases rest <;> rfl
  | cons ifr entries ih =>
    have hpos : 0 < (ifr :: entries).length * ifreqSize := by
      rw [List.length_cons, Nat.succ_mul]
      unfold ifreqSize
      omega
    have hrest : (ifr :: entries).length * ifreqSize - ifreqSize = entries.length * ifreqSize := by
      rw [List.length_cons, Nat.succ_mul, Nat.add_sub_cancel]
    rw [List.map_cons, List.cons_append, interfacesIn, if_pos hpos, hrest, ih]
    by_cases hfam : ifr.saFamily = afInet
    · simp [inetNames, hfam]
    · simp [inetNames, hfam]

theorem IfConf.Holds.interfacesIn {entries : List Ifreq} {max : ℕ} {conf : IfConf max}
    (h : conf.Holds entries) :
    SocketUtils.interfacesIn conf.ifcLen conf.data = some (inetNames (entries.take max)) := by
  rw [h.ifcLen, h.data, interfacesIn_eq]

/-- Names are missing exactly if an entry behind the buffer has an IPv4 address. -/
theorem inetNames_take_iff (n : ℕ) (entries : List Ifreq) :
    inetNames (entries.take n) = inetNames entries ↔
      ∀ ifr ∈ entries.drop n, ifr.saFamily ≠ afInet := by
  have hsplit : inetNames entries = inetNames (entries.take n) ++ inetNames (entries.drop n) := by
    unfold inetNames
    rw [← List.map_append, ← List.filter_append, List.take_append_drop]
  rw [hsplit, List.self_eq_append_right, inetNames, List.map_eq_nil_iff, List.filter_eq_nil_iff]
  simp

/-! ## The function -/

section Runs

variable {entries : List Ifreq}

/-- The kernel can reply so to every list. -/
theorem exists_ifConf (entries : List Ifreq) (max : ℕ) :
    ∃ conf : IfConf max, conf.Holds entries := by
  have hle : (entries.take max).length ≤ max := List.length_take_le _ _
  refine ⟨⟨(entries.take max).map some ++ List.replicate (max - (entries.take max).length) none,
    (entries.take max).length * ifreqSize, ?_, fun i hi => ?_⟩, rfl, rfl⟩
  · rw [List.length_append, List.length_map, List.length_replicate]
    omega
  · have hlt : i < (entries.take max).length := Nat.lt_of_mul_lt_mul_right hi
    refine ⟨(entries.take max).get ⟨i, hlt⟩, ?_⟩
    rw [List.getElem?_append_left (by rwa [List.length_map]), List.getElem?_map,
      List.getElem?_eq_getElem hlt]
    rfl

theorem getNetworkInterfaces_runs {s s' : Proc Unit} {tr : List Event}
    {r : Except Exn (List Str)} (hr : Runs (getNetworkInterfaces s) tr (r, s'))
    (htr : ∀ e ∈ tr, ListsInterfaces entries e) :
    r = .ok (inetNames (entries.take maxInterfaces)) := by
  have hquiet : ∀ call,
      (View.log (ListsInterfaces entries) fun _ => ([] : List Unit)).Ignores call :=
    fun call => View.log_ignores fun _ => rfl
  have key : Op.Triple (View.log (ListsInterfaces entries) fun _ => ([] : List Unit)) []
      getNetworkInterfaces s.vars fun r _ _ =>
        r = .ok (inetNames (entries.take maxInterfaces)) := by
    unfold getNetworkInterfaces
    refine .withTempSocket (hquiet _) (fun _ => hquiet _) (fun k e k' hk hs => ?_)
      fun fd => .bind (.sysIgnored (hquiet _) fun k r k' hk hs => ?_)
    · obtain ⟨fd, hfd⟩ := (View.log_step hk hs).1
      cases hfd
    · obtain ⟨conf, rfl, hconf⟩ := (View.log_step hk hs).1
      exact .pure (congrArg Except.ok (Option.get_of_eq_some _ hconf.interfacesIn))
  exact key.log_runs hr htr

theorem can_getNetworkInterfaces (entries : List Ifreq) :
    Op.Can (.log (ListsInterfaces entries) fun _ => ([] : List Unit)) []
      (getNetworkInterfaces : Op Unit (List Str)) fun _ _ => True := by
  obtain ⟨conf, hconf⟩ := exists_ifConf entries maxInterfaces
  unfold getNetworkInterfaces
  refine .withTempSocket (Kernel.log_quiet ⟨0, rfl⟩ rfl) (fun _ => Kernel.log_quiet trivial rfl) ?_
  exact .bind (.sys (.ok conf) rfl (Kernel.log_quiet ⟨conf, rfl, hconf⟩ rfl) (.pure trivial))

end Runs

/-- **The IPv4 entries among the first 32 are listed.** The call returns, its loop has read no entry
but those that the kernel wrote, and the names are all that there are exactly if no later entry has
an IPv4 address. -/
theorem network_interfaces_listed (entries : List Ifreq) :
    (∃ (s s' : Proc Unit) (tr : List Event) (r : Except Exn (List Str)),
      Runs (getNetworkInterfaces s) tr (r, s') ∧ ∀ e ∈ tr, ListsInterfaces entries e) ∧
    ∀ (s s' : Proc Unit) (tr : List Event) (r : Except Exn (List Str)),
      Runs (getNetworkInterfaces s) tr (r, s') → (∀ e ∈ tr, ListsInterfaces entries e) →
      r = .ok (inetNames (entries.take maxInterfaces)) ∧
      (r = .ok (inetNames entries) ↔ ∀ ifr ∈ entries.drop maxInterfaces, ifr.saFamily ≠ afInet) ∧
      ∀ fd (conf : IfConf maxInterfaces),
        Event.sys .once (.ioctlConf fd maxInterfaces) (.ok conf) ∈ tr →
        interfacesIn conf.ifcLen conf.data = some (inetNames (entries.take maxInterfaces)) := by
  constructor
  · obtain ⟨tr, x, s', hr, htr, -⟩ := (can_getNetworkInterfaces entries).log_runs ⟨0, ()⟩
    exact ⟨_, s', tr, _, hr, htr⟩
  · intro s s' tr r hr htr
    have hret := getNetworkInterfaces_runs hr htr
    refine ⟨hret, ?_, fun fd conf he => ?_⟩
    · rw [hret, Except.ok.injEq, inetNames_take_iff]
    · obtain ⟨conf', heq, hconf⟩ := htr _ he
      obtain rfl := Except.ok.inj heq
      exact hconf.interfacesIn

/-- Of 33 interfaces with an IPv4 address one is missing. -/
theorem getNetworkInterfaces_misses_one :
    ¬∀ (entries : List Ifreq) (s s' : Proc Unit) (tr : List Event) (r : Except Exn (List Str)),
      Runs (getNetworkInterfaces s) tr (r, s') → (∀ e ∈ tr, ListsInterfaces entries e) →
      r = .ok (inetNames entries) := by
  intro h
  let entries : List Ifreq := List.replicate 33 ⟨[97, 0], [2, 0]⟩
  obtain ⟨tr, x, s', hr, htr, -⟩ := (can_getNetworkInterfaces entries).log_runs ⟨0, ()⟩
  have hall := (getNetworkInterfaces_runs hr htr).symm.trans (h entries _ s' tr _ hr htr)
  have hnone := (inetNames_take_iff maxInterfaces entries).1 (Except.ok.inj hall)
  have hlast : (⟨[97, 0], [2, 0]⟩ : Ifreq) ∈ entries.drop maxInterfaces := by
    simp [entries, maxInterfaces]
  exact hnone _ hlast rfl

end NET
