import SimpleSocket.Verify.Spec

/-!
# CAN receive filters

The kernel compares words: a frame word `w` passes the filter `(id, mask)` when
`w & mask == id & mask`. The sources replace the word by bit fields and hand the kernel an array of
pairs of words. The list the kernel installs is the list of the caller (`filtersOf_bytes`), and a
word passes when the fields match (`word_and_eq_iff`).
-/

namespace NET

open Op Interact SimpleSocket

/-! ## Fields and words -/

/-- The frame's id agrees with the filter on every bit of the mask, field by field. -/
structure CanFilter.Matches (f : CanFilter) (frame : CanId) : Prop where
  value : ∀ i, f.mask.value.getLsbD i = true → frame.value.getLsbD i = f.id.value.getLsbD i
  rtrFlag : f.mask.rtrFlag = 1 → frame.rtrFlag = f.id.rtrFlag
  extFormat : f.mask.extFormat = 1 → frame.extFormat = f.id.extFormat

section Words

variable {v w : ℕ}

/-- Two words agree under a mask when they agree on each of its bits. -/
theorem and_eq_and_iff {x y m : BitVec w} :
    x &&& m = y &&& m ↔ ∀ i, m.getLsbD i = true → x.getLsbD i = y.getLsbD i := by
  constructor
  · intro h i hi
    have hbit := congrArg (fun z => BitVec.getLsbD z i) h
    simpa [hi] using hbit
  · intro h
    apply BitVec.eq_of_getLsbD_eq
    intro i _
    by_cases hi : m.getLsbD i = true
    · simp [hi, h i hi]
    · simp [hi]

theorem append_eq_append_iff {x x' : BitVec v} {y y' : BitVec w} :
    x ++ y = x' ++ y' ↔ x = x' ∧ y = y' := by
  constructor
  · intro h
    have hl := congrArg (fun z => BitVec.extractLsb' w v z) h
    have hr := congrArg (fun z => BitVec.extractLsb' 0 w z) h
    simp only [BitVec.extractLsb'_append_eq_left] at hl
    simp only [BitVec.extractLsb'_append_eq_right] at hr
    exact ⟨hl, hr⟩
  · intro h
    obtain ⟨rfl, rfl⟩ := h
    rfl

/-- A flag under a mask. -/
theorem flag_and_eq_iff {x y m : BitVec 1} : x &&& m = y &&& m ↔ (m = 1 → x = y) := by
  revert x y m
  decide

/-- The word test is the test of the fields, where the error flag is not asked for. -/
theorem word_and_eq_iff {f : CanFilter} {frame : CanId} (hid : f.id.errorFlag = 0)
    (hframe : frame.errorFlag = 0) :
    frame.word &&& f.mask.word = f.id.word &&& f.mask.word ↔ f.Matches frame := by
  unfold CanId.word
  rw [BitVec.and_append, BitVec.and_append, BitVec.and_append, BitVec.and_append,
    BitVec.and_append, BitVec.and_append, append_eq_append_iff, append_eq_append_iff,
    append_eq_append_iff, hid, hframe, flag_and_eq_iff, flag_and_eq_iff, and_eq_and_iff (w := 29)]
  constructor
  · intro h
    obtain ⟨⟨⟨hext, hrtr⟩, -⟩, hvalue⟩ := h
    exact ⟨hvalue, hrtr, hext⟩
  · intro h
    obtain ⟨hvalue, hrtr, hext⟩ := h
    exact ⟨⟨⟨hext, hrtr⟩, rfl⟩, hvalue⟩

end Words

/-! ## The kernel -/

/-- The two words of an installed filter. -/
abbrev WordFilter : Type := BitVec 32 × BitVec 32

def CanFilter.words (f : CanFilter) : WordFilter := (f.id.word, f.mask.word)

/-- `sizeof(struct can_filter)`. -/
def canFilterSize : ℕ := 8

/-- `CAN_RAW_FILTER_MAX`. -/
def canRawFilterMax : ℕ := 512

/-- The filters in the memory at `optval`. -/
def filtersOf : List UInt8 → List WordFilter
  | a :: b :: c :: d :: e :: f :: g :: h :: rest =>
    (word32 [a, b, c, d], word32 [e, f, g, h]) :: filtersOf rest
  | _ => []

/-- What the kernel makes of a filter with bit 29 set is not known. -/
def WordFilter.reserved (f : WordFilter) : Bool := f.1.getLsbD 29 || f.2.getLsbD 29

/-- The frame word passes one of the filters; `special` decides for the reserved ones. -/
def Passes (special : WordFilter → BitVec 32 → Prop) (fs : List WordFilter) (w : BitVec 32) :
    Prop :=
  ∃ f ∈ fs, if f.reserved then special f w else w &&& f.2 = f.1 &&& f.2

/-- What the kernel does at an event: it installs the filters of a socket, or refuses to. -/
def canStep (k : ℤ → List WordFilter) : Event → (ℤ → List WordFilter) → Prop
  | ⟨.sys _ (.setsockopt fd level optname optval), .ok _⟩, k' =>
    if level = CANRawSocket.solCanRaw ∧ optname = 1 then
      optval.length % canFilterSize = 0 ∧ optval.length ≤ canFilterSize * canRawFilterMax ∧
        k' = Function.update k fd (filtersOf optval)
    else k' = k
  | _, k' => k' = k

def canKernel : Kernel posix where
  State := ℤ → List WordFilter
  step := canStep
  idle _ _ := False

theorem canStep_install {k k' : ℤ → List WordFilter} {w : Retry} {fd : ℤ}
    {optval : List UInt8} :
    canStep k (Event.sys w (.setsockopt fd CANRawSocket.solCanRaw 1 optval) (.ok ())) k' ↔
      optval.length % canFilterSize = 0 ∧ optval.length ≤ canFilterSize * canRawFilterMax ∧
        k' = Function.update k fd (filtersOf optval) := by
  simp [canStep]

/-! ## `setReceiveFilter` -/

section Install

variable {filters : List CanFilter}

theorem bytes_length (f : CanFilter) : f.bytes.length = canFilterSize := by
  simp [CanFilter.bytes, canFilterSize]

theorem flatMap_bytes_length (fs : List CanFilter) :
    (fs.flatMap CanFilter.bytes).length = canFilterSize * fs.length := by
  induction fs with
  | nil => rfl
  | cons f fs ih =>
    rw [List.flatMap_cons, List.length_append, ih, bytes_length, List.length_cons, Nat.mul_succ,
      Nat.add_comm]

/-- With pointers of the size of a filter, the kernel is handed the whole list. -/
theorem filterBytes_eq (fs : List CanFilter) :
    CANRawSocket.filterBytes canFilterSize fs fs.length = fs.flatMap CanFilter.bytes := by
  unfold CANRawSocket.filterBytes
  rw [List.take_of_length_le (Nat.le_of_eq (flatMap_bytes_length fs))]

/-- The kernel reads the list back, in its order. -/
theorem filtersOf_bytes (fs : List CanFilter) :
    filtersOf (fs.flatMap CanFilter.bytes) = fs.map CanFilter.words := by
  induction fs with
  | nil => rfl
  | cons f fs ih =>
    have hwords : f.words = (word32 (le32 f.id.word), word32 (le32 f.mask.word)) := by
      have hid := word32_le32 f.id.word []
      have hmask := word32_le32 f.mask.word []
      rw [List.append_nil] at hid hmask
      rw [hid, hmask]
      rfl
    rw [List.map_cons, ← ih, hwords]
    rfl

/-- What `setReceiveFilter` leaves of the kernel's filters. -/
structure FilterInstalled (special : WordFilter → BitVec 32 → Prop) (fd : ℤ)
    (filters : List CanFilter) (k k' : ℤ → List WordFilter) (ret : Except Exn Value) : Prop where
  installed : ret = .ok .unit → k' = Function.update k fd (filters.map CanFilter.words)
  passes : ret = .ok .unit → ∀ frame : CanId, frame.errorFlag = 0 →
    (Passes special (k' fd) frame.word ↔ ∃ f ∈ filters, f.Matches frame)
  unchanged : ∀ x, ret = .error x → k' = k

theorem word_getLsbD_errorFlag (id : CanId) : id.word.getLsbD 29 = id.errorFlag.getLsbD 0 := by
  unfold CanId.word
  rw [BitVec.getLsbD_append, if_neg (by omega), BitVec.getLsbD_append, if_pos (by omega)]

/-- The words of a filter without error flags are not reserved. -/
theorem words_not_reserved {f : CanFilter} (hid : f.id.errorFlag = 0)
    (hmask : f.mask.errorFlag = 0) : f.words.reserved = false := by
  unfold WordFilter.reserved CanFilter.words
  rw [word_getLsbD_errorFlag, word_getLsbD_errorFlag, hid, hmask]
  rfl

theorem passes_words_iff {special : WordFilter → BitVec 32 → Prop} {filters : List CanFilter}
    (hflags : ∀ f ∈ filters, f.id.errorFlag = 0 ∧ f.mask.errorFlag = 0) {frame : CanId}
    (hframe : frame.errorFlag = 0) :
    Passes special (filters.map CanFilter.words) frame.word ↔ ∃ f ∈ filters, f.Matches frame := by
  have htest : ∀ f ∈ filters, (if f.words.reserved then special f.words frame.word
      else frame.word &&& f.words.2 = f.words.1 &&& f.words.2) ↔ f.Matches frame := by
    intro f hf
    obtain ⟨hid, hmask⟩ := hflags f hf
    rw [words_not_reserved hid hmask, if_neg Bool.false_ne_true]
    exact word_and_eq_iff hid hframe
  unfold Passes
  constructor
  · intro h
    obtain ⟨g, hg, h⟩ := h
    obtain ⟨f, hf, rfl⟩ := List.mem_map.1 hg
    exact ⟨f, hf, (htest f hf).1 h⟩
  · intro h
    obtain ⟨f, hf, h⟩ := h
    exact ⟨f.words, List.mem_map_of_mem hf, (htest f hf).2 h⟩

theorem can_nil {k k' : ℤ → List WordFilter} : canKernel.Accepts k [] k' ↔ k' = k :=
  Kernel.Accepts.nil_iff fun _ _ => id

theorem can_cons {k k' : ℤ → List WordFilter} {e : Event} {tr : List Event} :
    canKernel.Accepts k (e :: tr) k' ↔ ∃ k₁, canStep k e k₁ ∧ canKernel.Accepts k₁ tr k' :=
  Kernel.Accepts.cons_iff fun _ _ => id

/-- An operation that sets an option makes one call, which decides how it ends. -/
theorem setOption_runs {c : Invocation} {this this' : SimpleSocket} {tr : List Event}
    {o : Outcome} {level optname : ℤ} {optval : List UInt8} {failure : String}
    (hop : c.op.body = asUnit (setOption level optname optval failure))
    (h : Runs (invoke c this) tr (o, this')) : ∃ r : Except Errno Unit,
      settled tr = [Event.sys .once (.setsockopt this.mSocket level optname optval) r] ∧
      (failed r = false ↔ o.ret = .ok .unit) := by
  have key := invoke_wp (Q := fun as x _ => ∃ r : Except Errno Unit,
    as.map Prod.snd = [Event.sys .once (.setsockopt this.mSocket level optname optval) r] ∧
    (failed r = false ↔ x = .ok .unit)) h (by
      rw [hop]
      refine wp_asUnit.2 ((wp_setOption _ _ _ _).2 fun b r _ => ?_)
      cases r with
      | error e => exact ⟨.error e, rfl, iff_of_false (fun h => by cases h) fun h => by cases h⟩
      | ok u => exact ⟨.ok u, rfl, iff_of_true rfl rfl⟩)
  rwa [map_snd_answers] at key

theorem canStep_again {k k' : ℤ → List WordFilter} {e : Event} (h : e.again = true)
    (hs : canStep k e k') : k' = k := by
  obtain ⟨c, rfl⟩ := Event.eq_of_again h
  cases c <;> exact hs

end Install

/-- **CAN filters mean what their fields say.** A list of at most 512 filters can be installed, and
once it is, the kernel holds that list and passes the frames that match one of its filters. -/
theorem can_filters (special : WordFilter → BitVec 32 → Prop) {filters : List CanFilter}
    (hlen : filters.length ≤ canRawFilterMax)
    (hflags : ∀ f ∈ filters, f.id.errorFlag = 0 ∧ f.mask.errorFlag = 0) {c : Invocation}
    (hop : c.op = .canSetReceiveFilter canFilterSize filters filters.length) (this : SimpleSocket)
    (k : ℤ → List WordFilter) :
    (∃ tr o this' k', Runs (invoke c this) tr (o, this') ∧ canKernel.Accepts k tr k' ∧
      o.ret = .ok .unit) ∧
    ∀ tr o this' k', Runs (invoke c this) tr (o, this') → canKernel.Accepts k tr k' →
      FilterInstalled special this.mSocket filters k k' o.ret := by
  have hbytes := filterBytes_eq filters
  have hsize := flatMap_bytes_length filters
  constructor
  · obtain ⟨op, vars, err⟩ := c
    obtain rfl : op = .canSetReceiveFilter canFilterSize filters filters.length := hop
    have hstep : canStep k (Event.sys .once (.setsockopt this.mSocket CANRawSocket.solCanRaw 1
        (CANRawSocket.filterBytes canFilterSize filters filters.length)) (.ok ()))
        (Function.update k this.mSocket (filters.map CanFilter.words)) := by
      rw [canStep_install, hbytes, hsize, filtersOf_bytes]
      exact ⟨Nat.mul_mod_right _ _, Nat.mul_le_mul_left _ hlen, rfl⟩
    have hr : Runs (invoke ⟨.canSetReceiveFilter canFilterSize filters filters.length, vars, err⟩
        this) [Event.sys .once (.setsockopt this.mSocket CANRawSocket.solCanRaw 1
        (CANRawSocket.filterBytes canFilterSize filters filters.length)) (.ok ())]
        (⟨.ok .unit, vars⟩, this) := .cons (.answer rfl) (.nil _)
    exact ⟨_, _, _, _, hr, .single hstep, rfl⟩
  · intro tr o this' k' hr hk
    obtain ⟨r, hevs, hret⟩ := setOption_runs (congrArg Operation.body hop) hr
    have hk' := hk.settled fun k e k₁ => canStep_again
    rw [hevs, hbytes] at hk'
    obtain ⟨k₁, hs, hnil⟩ := can_cons.1 hk'
    obtain rfl := can_nil.1 hnil
    cases r with
    | error e =>
      have hthrown : o.ret ≠ .ok .unit := fun h => by cases hret.2 h
      exact ⟨fun h => absurd h hthrown, fun h => absurd h hthrown, fun x _ => hs⟩
    | ok u =>
      obtain ⟨-, -, hupd⟩ := canStep_install.1 hs
      rw [filtersOf_bytes] at hupd
      have hreturned : o.ret = .ok .unit := hret.1 rfl
      refine ⟨fun _ => hupd, fun _ frame hframe => ?_, fun x hx => ?_⟩
      · rw [hupd, Function.update_self]
        exact passes_words_iff hflags hframe
      · rw [hreturned] at hx
        cases hx

/-- The filter of the id 0x123 in standard format passes it, and not 0x124. -/
theorem can_filters_standard :
    ∃ k' : ℤ → List WordFilter, Passes (fun _ _ => False) (k' 3) (CanId.word ⟨0x123, 0, 0, 0⟩) ∧
      ¬Passes (fun _ _ => False) (k' 3) (CanId.word ⟨0x124, 0, 0, 0⟩) := by
  have hflags : ∀ f ∈ [CanFilter.mk ⟨0x123, 0, 0, 0⟩ ⟨0x7ff, 0, 1, 1⟩],
      f.id.errorFlag = 0 ∧ f.mask.errorFlag = 0 := by simp
  obtain ⟨⟨tr, o, this', k', hr, hk, hret⟩, hall⟩ :=
    can_filters (fun _ _ => False) (by decide) hflags (c := ⟨.canSetReceiveFilter canFilterSize
      [⟨⟨0x123, 0, 0, 0⟩, ⟨0x7ff, 0, 1, 1⟩⟩] 1, ⟨[], [], 0, 0, 0⟩, 0⟩) rfl ⟨3, false⟩ fun _ => []
  have h := (hall tr o this' k' hr hk).passes hret
  refine ⟨k', (h ⟨0x123, 0, 0, 0⟩ rfl).2 ?_, fun hpass => ?_⟩
  · exact ⟨_, List.mem_singleton.2 rfl, fun _ _ => rfl, fun _ => rfl, fun _ => rfl⟩
  · obtain ⟨f, hf, hmatch⟩ := (h ⟨0x124, 0, 0, 0⟩ rfl).1 hpass
    obtain rfl := List.mem_singleton.1 hf
    exact absurd (hmatch.value 0 (by decide)) (by decide)

end NET
