import SimpleSocket.Verify.CanFilters

/-!
# The lengths of the CAN options

The sources compute the length of a filter list from the size of a pointer. The receive filters are
pairs of words, so it is right where a pointer has 8 bytes; the error filter is one word, so it is
right where a pointer has 4. No ABI has both.
-/

namespace NET

open Op Interact SimpleSocket

/-- The two sizes of a pointer. -/
inductive Abi
  | ilp32
  | lp64
  deriving DecidableEq

def Abi.ptrSize : Abi → ℕ
  | .ilp32 => 4
  | .lp64 => 8

/-- What an open CAN socket does at an event: it accepts the options that are well formed, and no
others. -/
def optionStep (k : ℤ → List WordFilter) : Event → (ℤ → List WordFilter) → Prop
  | ⟨.sys _ (.setsockopt fd level optname optval), r⟩, k' =>
    if level = CANRawSocket.solCanRaw ∧ optname = 1 then
      if optval.length % canFilterSize = 0 ∧ optval.length ≤ canFilterSize * canRawFilterMax then
        r = .ok () ∧ k' = Function.update k fd (filtersOf optval)
      else failed r = true ∧ k' = k
    else (level = CANRawSocket.solCanRaw ∧ optname = 2 →
      (failed r = false ↔ optval.length = 4)) ∧ k' = k
  | _, k' => k' = k

def optionKernel : Kernel posix where
  State := ℤ → List WordFilter
  step := optionStep
  idle _ _ := False

/-- `setReceiveFilter` succeeds, and the kernel has the whole array. -/
def InstallsAll (abi : Abi) (filters : List CanFilter) : Prop :=
  ∀ (c : Invocation) (this this' : SimpleSocket) tr o (k k' : ℤ → List WordFilter),
    c.op = .canSetReceiveFilter abi.ptrSize filters filters.length →
    Runs (invoke c this) tr (o, this') → optionKernel.Accepts k tr k' →
    o.ret = .ok .unit ∧ k' this.mSocket = filters.map CanFilter.words

/-- `setErrorFilter` succeeds for an array of one element. -/
def AcceptsErrorFilter (abi : Abi) (f : CanFilter) : Prop :=
  ∀ (c : Invocation) (this this' : SimpleSocket) tr o (k k' : ℤ → List WordFilter),
    c.op = .canSetErrorFilter abi.ptrSize [f] 1 → Runs (invoke c this) tr (o, this') →
    optionKernel.Accepts k tr k' → o.ret = .ok .unit

section Options

variable {abi : Abi} {filters : List CanFilter} {k k' : ℤ → List WordFilter}

theorem option_single {e : Event} (h : optionKernel.Accepts k [e] k') : optionStep k e k' := by
  have hcons : ∃ k₁, optionStep k e k₁ ∧ optionKernel.Accepts k₁ [] k' :=
    (Kernel.Accepts.cons_iff fun _ _ => id).1 h
  obtain ⟨k₁, hs, hnil⟩ := hcons
  have hk : k' = k₁ := (Kernel.Accepts.nil_iff fun _ _ => id).1 hnil
  rwa [hk]

theorem optionStep_again {e : Event} (h : e.again = true) (hs : optionStep k e k') : k' = k := by
  obtain ⟨c, rfl⟩ := Event.eq_of_again h
  cases c with
  | setsockopt fd level optname optval =>
    dsimp only [optionStep] at hs
    split at hs
    · split at hs
      · cases hs.1
      · exact hs.2
    · exact hs.2
  | _ => exact hs

/-- The bytes that are handed over: for each filter as many as a pointer has. -/
theorem filterBytes_length (abi : Abi) (fs : List CanFilter) :
    (CANRawSocket.filterBytes abi.ptrSize fs fs.length).length = abi.ptrSize * fs.length := by
  unfold CANRawSocket.filterBytes
  rw [List.length_take, flatMap_bytes_length]
  apply Nat.min_eq_left
  apply Nat.mul_le_mul_right
  cases abi <;> decide

/-- The one step of a call, and how it ends. -/
theorem option_call {c : Invocation} {this this' : SimpleSocket} {tr : List Event} {o : Outcome}
    {level optname : ℤ} {optval : List UInt8} {failure : String}
    (hop : c.op.body = asUnit (setOption level optname optval failure))
    (hr : Runs (invoke c this) tr (o, this')) (hk : optionKernel.Accepts k tr k') :
    ∃ r : Except Errno Unit, optionStep k
      (Event.sys .once (.setsockopt this.mSocket level optname optval) r) k' ∧
      (failed r = false ↔ o.ret = .ok .unit) := by
  obtain ⟨r, hevs, hret⟩ := setOption_runs hop hr
  have hk' := hk.settled fun k e k' => optionStep_again
  rw [hevs] at hk'
  exact ⟨r, option_single hk', hret⟩

/-- An answer that the kernel can give ends a call. -/
theorem exists_option_call (op : Operation) {level optname : ℤ} {optval : List UInt8}
    {failure : String} (hop : op.body = asUnit (setOption level optname optval failure))
    (this : SimpleSocket) (r : Except Errno Unit) (hs : optionStep k
      (Event.sys .once (.setsockopt this.mSocket level optname optval) r) k') :
    ∃ c tr o this', c.op = op ∧ Runs (invoke c this) tr (o, this') ∧
      optionKernel.Accepts k tr k' ∧ (failed r = false ↔ o.ret = .ok .unit) := by
  let c : Invocation := ⟨op, ⟨[], [], 0, 0, 0⟩, 0⟩
  have hbody : ∃ x s', Runs (op.body (c.start this))
      [Event.sys .once (.setsockopt this.mSocket level optname optval) r] (x, s') ∧
      (failed r = false ↔ x = .ok .unit) := by
    rw [hop]
    cases r with
    | error e => exact ⟨_, _, .cons (.answer rfl) (.nil _), by simp⟩
    | ok u => exact ⟨_, _, .cons (.answer rfl) (.nil _), by simp⟩
  obtain ⟨x, s', hr, hx⟩ := hbody
  exact ⟨c, _, _, _, rfl, runs_invoke hr, .single hs, hx⟩

/-- Every installed filter has its eight bytes. -/
theorem filtersOf_length_le (bs : List UInt8) :
    canFilterSize * (filtersOf bs).length ≤ bs.length := by
  fun_induction filtersOf bs with
  | case1 a b c d e f g h rest ih =>
    simp only [List.length_cons, canFilterSize] at ih ⊢
    omega
  | case2 bs => simp

/-- On eight-byte pointers the kernel is handed the whole array. -/
theorem installsAll_lp64 (hmax : filters.length ≤ canRawFilterMax) :
    InstallsAll .lp64 filters := by
  intro c this this' tr o k k' hop hr hk
  have hlen := filterBytes_length .lp64 filters
  obtain ⟨r, hs, hret⟩ := option_call (congrArg Operation.body hop) hr hk
  have hwell : (CANRawSocket.filterBytes Abi.lp64.ptrSize filters filters.length).length %
      canFilterSize = 0 ∧ (CANRawSocket.filterBytes Abi.lp64.ptrSize filters
        filters.length).length ≤ canFilterSize * canRawFilterMax := by
    rw [hlen]
    exact ⟨Nat.mul_mod_right _ _, Nat.mul_le_mul_left _ hmax⟩
  dsimp only [optionStep] at hs
  rw [if_pos ⟨rfl, rfl⟩, if_pos hwell] at hs
  obtain ⟨rfl, hk'⟩ := hs
  refine ⟨hret.1 rfl, ?_⟩
  rw [hk', Function.update_self, ← filtersOf_bytes]
  exact congrArg filtersOf (filterBytes_eq filters)

/-- On four-byte pointers it is handed half of the array: what it installs is too short, or it
refuses. -/
theorem not_installsAll_ilp32 (hpos : 0 < filters.length) : ¬InstallsAll .ilp32 filters := by
  intro h
  have hlen : (CANRawSocket.filterBytes Abi.ilp32.ptrSize filters filters.length).length =
      4 * filters.length := filterBytes_length .ilp32 filters
  let bytes := CANRawSocket.filterBytes Abi.ilp32.ptrSize filters filters.length
  let k : ℤ → List WordFilter := fun _ => []
  by_cases hwell : bytes.length % canFilterSize = 0 ∧
      bytes.length ≤ canFilterSize * canRawFilterMax
  · have hs : optionStep k (Event.sys .once (.setsockopt 3 CANRawSocket.solCanRaw 1 bytes) (.ok ()))
        (Function.update k 3 (filtersOf bytes)) := by
      dsimp only [optionStep]
      rw [if_pos ⟨rfl, rfl⟩, if_pos hwell]
      exact ⟨rfl, rfl⟩
    obtain ⟨c, tr, o, this', hop, hr, hk, -⟩ := exists_option_call
      (.canSetReceiveFilter Abi.ilp32.ptrSize filters filters.length) rfl ⟨3, false⟩ _ hs
    have hall := congrArg List.length (h c _ _ tr o _ _ hop hr hk).2
    rw [Function.update_self, List.length_map] at hall
    have hle := filtersOf_length_le bytes
    rw [hall, hlen, canFilterSize] at hle
    omega
  · have hs : optionStep k (Event.sys .once (.setsockopt 3 CANRawSocket.solCanRaw 1 bytes)
        (.error 22)) k := by
      dsimp only [optionStep]
      rw [if_pos ⟨rfl, rfl⟩, if_neg hwell]
      exact ⟨rfl, rfl⟩
    obtain ⟨c, tr, o, this', hop, hr, hk, hret⟩ := exists_option_call
      (.canSetReceiveFilter Abi.ilp32.ptrSize filters filters.length) rfl ⟨3, false⟩ _ hs
    exact absurd (hret.2 (h c _ _ tr o _ _ hop hr hk).1) (by simp)

theorem installsAll_iff (hpos : 0 < filters.length) (hmax : filters.length ≤ canRawFilterMax) :
    InstallsAll abi filters ↔ abi = .lp64 := by
  cases abi with
  | lp64 => exact iff_of_true (installsAll_lp64 hmax) rfl
  | ilp32 => exact iff_of_false (not_installsAll_ilp32 hpos) (by decide)

/-- The error filter is handed as many bytes as a pointer has. -/
theorem acceptsErrorFilter_iff (f : CanFilter) : AcceptsErrorFilter abi f ↔ abi = .ilp32 := by
  have hlen : (CANRawSocket.filterBytes abi.ptrSize [f] 1).length = abi.ptrSize * 1 :=
    filterBytes_length abi [f]
  have hstep : ∀ (k k' : ℤ → List WordFilter) (fd : ℤ) (r : Except Errno Unit), optionStep k
      (Event.sys .once (.setsockopt fd CANRawSocket.solCanRaw 2
        (CANRawSocket.filterBytes abi.ptrSize [f] 1)) r) k' ↔
      (failed r = false ↔ abi = .ilp32) ∧ k' = k := by
    intro k k' fd r
    have hword : abi.ptrSize * 1 = 4 ↔ abi = .ilp32 := by cases abi <;> decide
    dsimp only [optionStep]
    rw [if_neg (by decide), hlen, hword]
    simp
  constructor
  · intro h
    by_contra hne
    obtain ⟨c, tr, o, this', hop, hr, hk, hret⟩ := exists_option_call
      (.canSetErrorFilter abi.ptrSize [f] 1) rfl ⟨3, false⟩ (.error 22)
      ((hstep (fun _ => []) _ 3 (.error 22)).2 ⟨iff_of_false (by simp) hne, rfl⟩)
    exact absurd (hret.2 (h c _ _ tr o _ _ hop hr hk)) (by simp)
  · intro habi c this this' tr o k k' hop hr hk
    obtain ⟨r, hs, hret⟩ := option_call (congrArg Operation.body hop) hr hk
    exact hret.1 (((hstep k k' _ r).1 hs).1.2 habi)

end Options

/-- **The two option calls are never both right.** `setReceiveFilter` installs the arrays it is
given exactly where a pointer has eight bytes, `setErrorFilter` succeeds exactly where it has four.
-/
theorem can_options_iff (abi : Abi) {filters : List CanFilter} (hpos : 0 < filters.length)
    (hmax : filters.length ≤ canRawFilterMax) (f : CanFilter) :
    (InstallsAll abi filters ↔ abi = .lp64) ∧ (AcceptsErrorFilter abi f ↔ abi = .ilp32) ∧
      ¬(InstallsAll abi filters ∧ AcceptsErrorFilter abi f) := by
  have hinstall : InstallsAll abi filters ↔ abi = .lp64 := installsAll_iff hpos hmax
  have haccept : AcceptsErrorFilter abi f ↔ abi = .ilp32 := acceptsErrorFilter_iff f
  refine ⟨hinstall, haccept, fun h => ?_⟩
  have hlp64 := hinstall.1 h.1
  rw [haccept.1 h.2] at hlp64
  cases hlp64

/-- One filter, on eight-byte pointers. -/
theorem can_options_lp64 : InstallsAll .lp64 [⟨⟨0x123, 0, 0, 0⟩, ⟨0x7ff, 0, 1, 1⟩⟩] ∧
    ¬AcceptsErrorFilter .lp64 ⟨⟨0x123, 0, 0, 0⟩, ⟨0x7ff, 0, 1, 1⟩⟩ := by
  have h := @can_options_iff .lp64 [⟨⟨0x123, 0, 0, 0⟩, ⟨0x7ff, 0, 1, 1⟩⟩] (by decide)
    (by decide) ⟨⟨0x123, 0, 0, 0⟩, ⟨0x7ff, 0, 1, 1⟩⟩
  have hinstall := h.1.2 rfl
  exact ⟨hinstall, fun haccept => h.2.2 ⟨hinstall, haccept⟩⟩

/-- On eight-byte pointers an error filter of one element is refused. -/
theorem setErrorFilter_refused : ¬∀ (abi : Abi) (filters : List CanFilter) (f : CanFilter),
    0 < filters.length → filters.length ≤ canRawFilterMax →
      InstallsAll abi filters ∧ AcceptsErrorFilter abi f := by
  intro h
  have haccept := (h .lp64 [⟨⟨0x123, 0, 0, 0⟩, ⟨0x7ff, 0, 1, 1⟩⟩]
    ⟨⟨0x123, 0, 0, 0⟩, ⟨0x7ff, 0, 1, 1⟩⟩ (by decide) (by decide)).2
  cases (acceptsErrorFilter_iff _).1 haccept

end NET
