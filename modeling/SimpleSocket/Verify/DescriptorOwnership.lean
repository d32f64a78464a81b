import SimpleSocket.Net.World
import SimpleSocket.Verify.Descriptors

/-!
# Who owns which descriptor

Every statement keeps the descriptors of the library shared out among the live objects (`Alive`):
each is held by one of them. The constructors and `accept` obtain a descriptor for the object they
make (`Gains`), a copy or an assignment moves one, and only its holder closes it.
-/

namespace NET

open Op Interact SimpleSocket

variable {τ α : Type} {S F : Set ℕ} {v : τ}

theorem own_cast (n : ℕ) : own n = {n} := by
  ext m
  change (m : ℤ) = n ↔ m = n
  omega

theorem own_invalid : own (-1) = ∅ := own_neg (by decide)

/-! ## The methods -/

/-- What a method that makes an owner leaves: the new descriptor is the owner's, if there is one. -/
def Gains (S : Set ℕ) (v : τ) (fd : α → ℤ) (r : Except Exn α) (v' : τ) (l : Ledger) : Prop :=
  v' = v ∧ match r with
    | .ok x => l = ⟨S ∪ own (fd x), none⟩ ∧ ∀ n ∈ own (fd x), n ∉ S
    | .error _ => l = ⟨S, none⟩

theorem gains_invalid (fd : α → ℤ) {x : α} (h : own (fd x) = ∅) :
    Gains S v fd (.ok x) v ⟨S, none⟩ := by
  refine ⟨rfl, ?_, fun n hn => ?_⟩
  · rw [h, Set.union_empty]
  · rw [h] at hn
    exact hn.elim

theorem gains_fresh {fd : α → ℤ} {x : α} {n : ℕ} (h : fd x = n) (hn : n ∉ S) :
    Gains S v fd (.ok x) v ⟨insert n S, none⟩ := by
  refine ⟨rfl, ?_, fun m hm => ?_⟩
  · rw [h, own_cast, Set.union_singleton]
  · rw [h, own_cast] at hm
    rwa [hm]

theorem new_gains (domain type protocol : ℤ) :
    Op.Triple (table F) ⟨S, none⟩ (SimpleSocket.new domain type protocol) v
      (Gains S v mSocket) := by
  refine .bind (triple_acquire id (fun _ _ _ h => h) (fun _ _ _ h => h) (fun n hn => ?_)
    fun e => ?_)
  · exact .pure (gains_fresh rfl hn)
  · exact .throwSocket fun _ => ⟨rfl, rfl⟩

theorem socket_destroy {this : SimpleSocket} (h : own this.mSocket ⊆ S \ F) :
    Op.Triple (table F) ⟨S, none⟩ this.destroy v fun r v' l =>
      r = .ok () ∧ v' = v ∧ l = ⟨S \ own this.mSocket, none⟩ :=
  .bind (triple_close h fun _ => .pure ⟨rfl, rfl, rfl⟩)

/-- What a socket gained is given back by its destruction. -/
theorem union_own_diff {fd : ℤ} (h : ∀ n ∈ own fd, n ∉ S) : (S ∪ own fd) \ own fd = S := by
  ext n
  constructor
  · intro h
    obtain ⟨hS | hown, hno⟩ := h
    · exact hS
    · exact absurd hown hno
  · exact fun hS => ⟨Or.inl hS, fun hown => h n hown hS⟩

theorem class_new_gains (hF : F ⊆ S) (c : SocketClass) :
    Op.Triple (table F) ⟨S, none⟩ c.new v (Gains S v mSocket) := by
  cases c with
  | tcp => exact new_gains _ _ _
  | unixDatagram => exact new_gains _ _ _
  | canRaw => exact new_gains _ _ _
  | udp =>
    refine .bind ((new_gains _ _ _).mono ?_)
    rintro (e | this) v' l ⟨rfl, hl⟩
    · exact ⟨rfl, hl⟩
    · obtain ⟨rfl, hfresh⟩ := hl
      refine .bind (.bind (triple_sys (fun _ _ _ h => h) fun _ => .pure ?_))
      exact .pure ⟨rfl, rfl, hfresh⟩
  | sctp =>
    refine .bind ((new_gains _ _ _).mono ?_)
    rintro (e | this) v' l ⟨rfl, hl⟩
    · exact ⟨rfl, hl⟩
    · obtain ⟨rfl, hfresh⟩ := hl
      refine .bind (.onThrow (.bind (triple_sys (fun _ _ _ h => h) fun r => ?_)))
      cases r with
      | ok x => exact .pure (.pure ⟨rfl, rfl, hfresh⟩)
      | error e =>
        have hown : own this.mSocket ⊆ (S ∪ own this.mSocket) \ F :=
          fun n hn => ⟨Or.inr hn, fun hnF => hfresh n hn (hF hnF)⟩
        refine .throwSocket fun _ => (socket_destroy hown).mono ?_
        rintro - v'' l ⟨-, rfl, rfl⟩
        rw [union_own_diff hfresh]
        exact ⟨rfl, rfl⟩

theorem acceptWith_gains (this : SimpleSocket) (failure : String) :
    Op.Triple (table F) ⟨S, none⟩ (this.acceptWith failure) v (Gains S v SocketHandle.mSockfd) := by
  refine .bind (triple_acquire id (fun _ _ _ h => h) (fun _ _ _ h => h) (fun n hn => ?_)
    fun e => ?_)
  · exact .pure (gains_fresh rfl hn)
  · exact .throwSocket fun _ => ⟨rfl, rfl⟩

theorem timedAcceptWith_gains (this : SimpleSocket) (timeout : ℤ)
    (pollFailure acceptFailure : String) :
    Op.Triple (table F) ⟨S, none⟩ (this.timedAcceptWith timeout pollFailure acceptFailure) v
      (Gains S v SocketHandle.mSockfd) := by
  refine .bind (triple_sys (fun _ _ _ h => h) fun r => ?_)
  refine .ite (fun _ => .pure (gains_invalid _ own_invalid)) fun _ => .ite (fun _ => ?_) fun _ => ?_
  · exact .throwSocket fun _ => ⟨rfl, rfl⟩
  · exact acceptWith_gains this acceptFailure

theorem class_accept_gains (c : StreamClass) (this : SimpleSocket) :
    Op.Triple (table F) ⟨S, none⟩ (c.accept this) v (Gains S v SocketHandle.mSockfd) := by
  cases c <;> exact acceptWith_gains _ _

theorem class_timedAccept_gains (c : StreamClass) (this : SimpleSocket) (timeout : ℤ) :
    Op.Triple (table F) ⟨S, none⟩ (c.timedAccept this timeout) v
      (Gains S v SocketHandle.mSockfd) := by
  cases c <;> exact timedAcceptWith_gains _ _ _ _

/-- `reset` closes what the handle owned, unless it is reset to the same number. -/
theorem reset_closes (this : SocketHandle) (fd : ℤ) (h : own this.mSockfd ⊆ S \ F) :
    Op.Triple (table F) ⟨S, none⟩ (this.reset fd) v fun r v' l =>
      r = .ok ⟨fd⟩ ∧ v' = v ∧
        l = ⟨if fd = this.mSockfd then S else S \ own this.mSockfd, none⟩ := by
  refine .ite (fun hne => ?_) fun heq => ?_
  · rw [if_neg hne]
    exact .bind (triple_close h fun _ => .pure ⟨rfl, rfl, rfl⟩)
  · have heq : fd = this.mSockfd := Decidable.not_not.1 heq
    rw [if_pos heq]
    subst heq
    exact .pure ⟨rfl, rfl, rfl⟩

theorem handle_destroy {this : SocketHandle} (h : own this.mSockfd ⊆ S \ F) :
    Op.Triple (table F) ⟨S, none⟩ this.destroy v fun r v' l =>
      r = .ok () ∧ v' = v ∧ l = ⟨S \ own this.mSockfd, none⟩ := by
  refine .bind ((reset_closes this (-1) h).mono ?_)
  intro r v' l h
  obtain ⟨rfl, rfl, rfl⟩ := h
  refine .pure ⟨rfl, rfl, ?_⟩
  split
  · next heq => rw [← heq, own_invalid, Set.sdiff_empty]
  · rfl

/-- A socket takes the descriptor of a handle over; an invalid handle makes none. -/
theorem ofHandle_takes (handle : SocketHandle) :
    Op.Triple (table F) ⟨S, none⟩ (SimpleSocket.ofHandle handle) v fun r v' l =>
      v' = v ∧ l = ⟨S, none⟩ ∧ match r with
        | .ok this => this.mSocket = handle.mSockfd
        | .error _ => own handle.mSockfd = ∅ := by
  have hnone : own (SocketHandle.invalid.mSockfd) ⊆ S \ F := by
    rw [SocketHandle.invalid, own_invalid]
    exact Set.empty_subset _
  have hclean : S \ own SocketHandle.invalid.mSockfd = S := by
    rw [SocketHandle.invalid, own_invalid, Set.sdiff_empty]
  refine .finally' (.ite (fun hneg => .throwSocket fun e => ?_) fun hneg => .pure ?_)
  · apply (handle_destroy hnone).mono
    rintro - v' l ⟨-, rfl, rfl⟩
    rw [hclean]
    exact ⟨rfl, rfl, own_neg hneg⟩
  · apply (handle_destroy hnone).mono
    rintro - v' l ⟨-, rfl, rfl⟩
    rw [hclean]
    exact ⟨rfl, rfl, rfl⟩

theorem class_ofHandle_takes (c : StreamClass) (handle : SocketHandle) :
    Op.Triple (table F) ⟨S, none⟩ (c.ofHandle handle) v fun r v' l =>
      v' = v ∧ l = ⟨S, none⟩ ∧ match r with
        | .ok this => this.mSocket = handle.mSockfd
        | .error _ => own handle.mSockfd = ∅ := by
  cases c <;> exact ofHandle_takes handle

/-! ## The live objects -/

/-- What an object, if it is alive, owns. -/
def ownOf : Option Holder → Set ℕ
  | none => ∅
  | some x => own x.fd

/-- The live objects share the descriptors of the library out among them. -/
def Alive (w : World) (l : Ledger) : Prop :=
  Shares (fun i => ownOf (w i)) l.owned ∧ l.pending = none

theorem ownOf_update (w : World) (i : ℕ) (y : Option Holder) :
    (fun j => ownOf (Function.update w i y j)) =
      Function.update (fun j => ownOf (w j)) i (ownOf y) :=
  Function.comp_update ownOf w i y

theorem own_subset {w : World} {l : Ledger} (h : Alive w l) {i : ℕ} {x : Holder}
    (hi : w i = some x) : own x.fd ⊆ l.owned := by
  have := h.1.subset i
  rwa [hi] at this

theorem alive_drop {w : World} (h : Alive w ⟨S, none⟩) {i : ℕ} {x : Holder} (hi : w i = some x) :
    Alive (Function.update w i none) ⟨S \ own x.fd, none⟩ := by
  refine ⟨?_, rfl⟩
  rw [ownOf_update]
  have := h.1.drop i
  rwa [hi] at this

/-- A descriptor on its way: its last holder holds nothing any more, the ledger still has it. -/
theorem shares_without {w : World} (h : Alive w ⟨S, none⟩) {j : ℕ} {x : Holder} (hj : w j = some x)
    {y : Option Holder} (hy : ownOf y = ∅) :
    Shares (fun i => ownOf (Function.update w j y i)) (S \ own x.fd) := by
  rw [ownOf_update, hy]
  have := h.1.drop j
  rwa [hj] at this

/-- What making the object `i` leaves: it only needs to be put in its place. -/
def Gives (i : ℕ) (r : Except Exn Holder) (w : World) (l : Ledger) : Prop :=
  match r with
  | .ok x => w i = none ∧ ∃ S, Shares (fun j => ownOf (w j)) S ∧
      (∀ n ∈ own x.fd, n ∉ S) ∧ l = ⟨S ∪ own x.fd, none⟩
  | .error _ => Alive w l

theorem gives_gained {w : World} (h : Alive w ⟨S, none⟩) {i : ℕ} (hi : w i = none) {x : Holder}
    {l : Ledger} (hl : l = ⟨S ∪ own x.fd, none⟩ ∧ ∀ n ∈ own x.fd, n ∉ S) : Gives i (.ok x) w l :=
  ⟨hi, S, h.1, hl.2, hl.1⟩

theorem gives_moved {w : World} (h : Alive w ⟨S, none⟩) {i j : ℕ} (hi : w i = none) {x y : Holder}
    (hj : w j = some x) {z : Option Holder} (hz : ownOf z = ∅) (hfd : y.fd = x.fd) :
    Gives i (.ok y) (Function.update w j z) ⟨S, none⟩ := by
  have hij : i ≠ j := fun hij => by rw [hij, hj] at hi; cases hi
  refine ⟨?_, S \ own x.fd, shares_without h hj hz, fun n hn hS => ?_, ?_⟩
  · rw [Function.update_of_ne hij]
    exact hi
  · rw [hfd] at hn
    exact hS.2 hn
  · rw [hfd, Set.sdiff_union_of_subset (own_subset h hj)]

/-! ## The statements -/

/-- The object whose descriptor a statement may close. -/
def Statement.target : Statement → Option ℕ
  | .assign i _ | .assignRef i _ | .destroy i => some i
  | _ => none

/-- What the other objects own. -/
def Statement.kept (st : Statement) (w : World) : Set ℕ :=
  {n | ∃ i, st.target ≠ some i ∧ n ∈ ownOf (w i)}

section Statements

variable {l : Ledger} {w : World} {Q : Except Exn Unit → World → Ledger → Prop}

theorem kept_subset (h : Alive w l) (st : Statement) : st.kept w ⊆ l.owned := by
  intro n h
  obtain ⟨i, -, hn⟩ := h
  exact h.1.mem i n hn

theorem own_target (h : Alive w l) {st : Statement} (hF : F ⊆ st.kept w) {i : ℕ}
    (hst : st.target = some i) {x : Holder} (hi : w i = some x) : own x.fd ⊆ l.owned \ F := by
  refine fun n hn => ⟨own_subset h hi hn, fun hnF => ?_⟩
  obtain ⟨j, hj, hnj⟩ := hF hnF
  refine hj (hst.trans (congrArg some (h.1.unique i j n ?_ hnj)))
  rw [hi]
  exact hn

theorem create_triple {i : ℕ} {m : Op World Holder} (h : Alive w l)
    (hm : w i = none → Op.Triple (table F) l m w (Gives i)) :
    Op.Triple (table F) l (World.create i m) w fun _ => Alive := by
  refine .bindGet (.ite (fun hi => ?_) fun _ => .pure h)
  refine .bind ((hm (Option.isNone_iff_eq_none.1 hi)).mono ?_)
  rintro (e | x) w' l' hg
  · exact hg
  · obtain ⟨hi', S, hS, hfresh, rfl⟩ := hg
    refine .modify ⟨?_, rfl⟩
    rw [ownOf_update]
    exact hS.take (by rw [hi']; rfl) hfresh

theorem withHandle_triple {i : ℕ} {m : SocketHandle → Op World Unit} (hno : Q (.ok ()) w l)
    (h : ∀ x, w i = some (.handle x) → Op.Triple (table F) l (m x) w Q) :
    Op.Triple (table F) l (World.withHandle i m) w Q := by
  refine .bindGet ?_
  split
  · next x hx => exact h x hx
  · exact .pure hno

theorem withRef_triple {i : ℕ} {m : SocketHandleRef → Op World Unit} (hno : Q (.ok ()) w l)
    (h : ∀ x, w i = some (.ref x) → Op.Triple (table F) l (m x) w Q) :
    Op.Triple (table F) l (World.withRef i m) w Q := by
  refine .bindGet ?_
  split
  · next x hx => exact h x hx
  · exact .pure hno

theorem withSocket_triple {i : ℕ} {m : SimpleSocket → Op World Unit} (hno : Q (.ok ()) w l)
    (h : ∀ x, w i = some (.socket x) → Op.Triple (table F) l (m x) w Q) :
    Op.Triple (table F) l (World.withSocket i m) w Q := by
  refine .bindGet ?_
  split
  · next x hx => exact h x hx
  · exact .pure hno

theorem ownOf_invalid : ownOf (some (.handle ⟨-1⟩)) = ∅ := own_invalid

/-- A socket made of a handle that is passed by value, after `j` has given the handle away. -/
theorem ofHandle_gives (h : Alive w ⟨S, none⟩) {i j : ℕ} (hi : w i = none) {x : Holder}
    (hj : w j = some x) {z : Option Holder} (hz : ownOf z = ∅) (c : StreamClass) :
    Op.Triple (table F) ⟨S, none⟩ (do return Holder.socket (← c.ofHandle ⟨x.fd⟩) : Op World Holder)
      (Function.update w j z) (Gives i) := by
  refine .bind ((class_ofHandle_takes c ⟨x.fd⟩).mono ?_)
  rintro (e | this) w' l' ⟨rfl, rfl, hr⟩
  · have hS := shares_without h hj hz
    have hr : own x.fd = ∅ := hr
    rw [hr, Set.sdiff_empty] at hS
    exact ⟨hS, rfl⟩
  · exact .pure (gives_moved h hi hj hz hr)

/-- An assignment closes what the target owned and moves the other descriptor to it. -/
theorem alive_assign (h : Alive w ⟨S, none⟩) {i j : ℕ} (hij : i ≠ j) {x y : Holder}
    (hi : w i = some x) (hj : w j = some y) {z : Option Holder} (hz : ownOf z = ∅) {y' : Holder}
    (hfd : y'.fd = y.fd) :
    Alive (Function.update (Function.update w j z) i (some y'))
      ⟨if y.fd = x.fd then S else S \ own x.fd, none⟩ := by
  have hmove := h.1.move hij
  rw [hi, hj] at hmove
  have hown : (fun k => ownOf (Function.update (Function.update w j z) i (some y') k)) =
      Function.update (Function.update (fun k => ownOf (w k)) j ∅) i (own y.fd) := by
    rw [ownOf_update, ownOf_update, hz]
    change _ = Function.update _ i _
    rw [← hfd]
    rfl
  refine ⟨?_, rfl⟩
  rw [hown]
  split
  · next heq =>
    have hempty : own x.fd = ∅ := by
      refine Set.eq_empty_iff_forall_notMem.2 fun n hn => hij (h.1.unique i j n ?_ ?_)
      · rw [hi]
        exact hn
      · rw [hj]
        change n ∈ own y.fd
        rw [heq]
        exact hn
    rw [show ownOf (some x) = ∅ from hempty, Set.sdiff_empty] at hmove
    exact hmove
  · exact hmove

theorem Statement.run_triple (st : Statement) (h : Alive w l) (hF : F ⊆ st.kept w) :
    Op.Triple (table F) l st.run w fun _ => Alive := by
  obtain ⟨S, pending⟩ := l
  obtain rfl : pending = none := h.2
  have hown : F ⊆ S := hF.trans (kept_subset h st)
  cases st with
  | construct i c =>
    refine create_triple h fun hi => .bind ((class_new_gains hown c).mono ?_)
    rintro (e | this) w' l' ⟨rfl, hl⟩
    · exact hl ▸ h
    · exact .pure (gives_gained h hi hl)
  | accept i c socket =>
    refine withSocket_triple h fun this _ => create_triple h fun hi => ?_
    refine .bind ((class_accept_gains c this).mono ?_)
    rintro (e | x) w' l' ⟨rfl, hl⟩
    · exact hl ▸ h
    · exact .pure (gives_gained h hi hl)
  | timedAccept i c socket timeout =>
    refine withSocket_triple h fun this _ => create_triple h fun hi => ?_
    refine .bind ((class_timedAccept_gains c this timeout).mono ?_)
    rintro (e | x) w' l' ⟨rfl, hl⟩
    · exact hl ▸ h
    · exact .pure (gives_gained h hi hl)
  | invalidHandle i =>
    refine create_triple h fun hi => .pure (gives_gained h hi ?_)
    exact (gains_invalid (v := w) Holder.fd (x := .handle .invalid) own_invalid).2
  | copy i other =>
    refine withHandle_triple h fun x hx => create_triple h fun hi => ?_
    exact .bind (.bind (.modify (.pure (.pure (gives_moved h hi hx ownOf_invalid rfl)))))
  | toRef i this =>
    refine withHandle_triple h fun x hx => create_triple h fun hi => ?_
    exact .bind (.bind (.modify (.pure (.pure (gives_moved h hi hx ownOf_invalid rfl)))))
  | ofRef i ref =>
    refine withRef_triple h fun x hx => create_triple h fun hi => ?_
    exact .bind (.bind (.modify (.pure (.pure (gives_moved h hi hx rfl rfl)))))
  | assign i other =>
    refine withHandle_triple h fun x hx => .ite (fun _ => ?_) fun heq => ?_
    · have hnone : own (SocketHandle.mSockfd ⟨-1⟩) ⊆ S \ F := by
        rw [own_invalid]
        exact Set.empty_subset _
      refine .bind ((reset_closes (SocketHandle.mk (-1)) x.mSockfd hnone).mono ?_)
      intro r w' l' h
      obtain ⟨rfl, rfl, rfl⟩ := h
      refine .modify ?_
      rw [own_invalid, Set.sdiff_empty, ite_self]
      have hsame : Function.update w' i (some (.handle ⟨x.mSockfd⟩)) = w' := by
        rw [Function.update_eq_self_iff]
        exact hx.symm
      rwa [hsame]
    · apply withHandle_triple h
      intro y hy
      refine .bind (.bind ((reset_closes x y.mSockfd (own_target h hF rfl hx)).mono ?_))
      intro r w' l' h
      obtain ⟨rfl, rfl, rfl⟩ := h
      exact .pure (.bind (.modify (.modify (alive_assign h heq hx hy ownOf_invalid rfl))))
  | assignRef i ref =>
    refine withHandle_triple h fun x hx => withRef_triple h fun y hy => ?_
    have hne : i ≠ ref := fun heq => by
      rw [heq, hy] at hx
      cases hx
    refine .bind (.modify (.bind ((reset_closes x y.sockfd (own_target h hF rfl hx)).mono ?_)))
    intro r w' l' h
    obtain ⟨rfl, rfl, rfl⟩ := h
    exact .modify (alive_assign h hne hx hy rfl rfl)
  | ofHandle i c handle =>
    refine withHandle_triple h fun x hx => create_triple h fun hi => ?_
    exact .bind (.bind (.modify (.pure (ofHandle_gives h hi hx ownOf_invalid c))))
  | ofHandleRef i c ref =>
    refine withRef_triple h fun x hx => create_triple h fun hi => ?_
    exact .bind (.bind (.modify (.pure (ofHandle_gives h hi hx rfl c))))
  | destroy i =>
    refine .bindGet ?_
    split
    · next x hx =>
      refine .bind ((handle_destroy (own_target h hF rfl hx)).mono ?_)
      intro r w' l' h
      obtain ⟨rfl, rfl, rfl⟩ := h
      exact .modify (alive_drop h hx)
    · next x hx =>
      refine .bind ((socket_destroy (own_target h hF rfl hx)).mono ?_)
      intro r w' l' h
      obtain ⟨rfl, rfl, rfl⟩ := h
      exact .modify (alive_drop h hx)
    · exact .pure h

end Statements

/-! ## Programs -/

def Statement.exec (st : Statement) (s : Proc World) : Prog posix (Except Exn Unit × Proc World) :=
  st.run s

/-- A program: statements one after another, from no objects, while other code of the process opens
and closes descriptors of its own. -/
abbrev ProgramRun (others : ℕ → Bool) (err : Errno) :=
  Session Statement.exec descriptors ⟨err, World.empty⟩ (DescriptorTable.initial others)

/-- One statement of a program. -/
abbrev StatementEntry := Entry posix Statement (Proc World) (Except Exn Unit)

section Runs

variable {others : ℕ → Bool} {err : Errno} {es : List StatementEntry} {s : Proc World}
  {t t' : DescriptorTable}

theorem initial_matches (others : ℕ → Bool) :
    (DescriptorTable.initial others).Matches ⟨∅, none⟩ := by
  refine ⟨fun n => ?_, rfl, fun c hc => by cases hc⟩
  change (if others n then some .other else none) = some Owner.library ↔ False
  cases others n <;> simp

/-- In every state that a program reaches the descriptors are shared out among its objects. -/
theorem run_alive (h : ProgramRun others err es s t) :
    ∃ S, t.Matches ⟨S, none⟩ ∧ Alive s.vars ⟨S, none⟩ := by
  have hempty : Alive World.empty ⟨∅, none⟩ := ⟨.empty, rfl⟩
  obtain ⟨⟨S, pending⟩, ht, halive⟩ := Session.rel_of_triple (V := table ∅)
    (P := fun s l => Alive s.vars l)
    (fun st s l hs => st.run_triple hs (Set.empty_subset _) s.errno) h
    ⟨initial_matches others, Set.empty_subset _⟩ hempty
  obtain rfl : pending = none := halive.2
  exact ⟨S, ht.1, halive⟩

/-- The event is an interrupted `close`. -/
def Event.interruptsClose (e : Event) : Prop :=
  ∃ w fd, e = Event.sys w (.close fd) (.error Errno.eintr)

theorem descriptors_step {t t' : DescriptorTable} {e : Event} (h : descriptors.step t e t') :
    (∃ n hn, t' = t.acquire n hn) ∨
    (∃ w fd r, e = Event.sys w (.close fd) r ∧
      t' = t.close fd (Call.interrupted (.sys w (.close fd)) r)) ∨
    t' = t.called := by
  unfold descriptors at h
  simp only at h
  split at h
  · exact Or.inl ⟨_, h⟩
  · exact Or.inl ⟨_, h⟩
  · exact Or.inr (Or.inl ⟨_, _, _, rfl, h.2⟩)
  · exact Or.inr (Or.inr h)

/-- Where no `close` is interrupted, none is repeated. -/
theorem no_retry {tr : List Event} (ht : descriptors.Accepts t tr t')
    (hclose : ∀ e ∈ tr, ¬Event.interruptsClose e) (hnone : t.interrupted = none)
    (hcalls : ∀ c ∈ t.closes, c.retry = false) : ∀ c ∈ t'.closes, c.retry = false := by
  have key := ht.invariant
    (P := fun t : DescriptorTable => t.interrupted = none ∧ ∀ c ∈ t.closes, c.retry = false)
    ⟨hnone, hcalls⟩ (fun t e t' he hP hs => ?_) fun t t' hP hi => ?_
  · exact key.2
  · obtain ⟨n, hn, rfl⟩ | ⟨w, fd, r, rfl, rfl⟩ | rfl := descriptors_step hs
    · exact ⟨rfl, hP.2⟩
    · have hdone : Call.interrupted (.sys w (.close fd)) r = false := by
        refine Bool.eq_false_iff.2 fun hint => hclose _ he ⟨w, fd, ?_⟩
        cases r with
        | ok v => cases hint
        | error e => rw [show e = Errno.eintr from beq_iff_eq.1 hint]
      rw [hdone]
      refine ⟨rfl, fun c hc => ?_⟩
      rcases List.mem_append.1 hc with hc | hc
      · exact hP.2 c hc
      · obtain rfl := List.mem_singleton.1 hc
        simp [hP.1]
    · exact ⟨rfl, hP.2⟩
  · obtain ⟨n, hn, ⟨-, rfl⟩ | ⟨-, rfl⟩⟩ := hi
    · exact hP
    · exact hP

/-- **Descriptor ownership.** Every open descriptor of the library has one owner among the live
objects, which own nothing else; `close` is called for owned descriptors only, once for each that
was obtained; without objects nothing is open. -/
theorem descriptor_ownership (h : ProgramRun others err es s t)
    (hclose : ∀ entry ∈ es, ∀ e ∈ entry.events, ¬Event.interruptsClose e) :
    (∀ n, t.owner n = some .library → ∃! i, n ∈ ownOf (s.vars i)) ∧
      (∀ i n, n ∈ ownOf (s.vars i) → t.owner n = some .library) ∧
      (∀ c ∈ t.closes, c.found = some .library ∨ (c.fd < 0 ∧ c.found = none)) ∧
      (∀ n : ℕ, t.acquired.count n =
        (t.closes.map Close.fd).count (n : ℤ) + if t.owner n = some .library then 1 else 0) ∧
      ((∀ i, s.vars i = none) → ∀ n, t.owner n ≠ some .library) := by
  obtain ⟨S, ht, halive⟩ := run_alive h
  have hevents : ∀ e ∈ es.flatMap Entry.events, ¬Event.interruptsClose e := fun e he => by
    obtain ⟨entry, hentry, he⟩ := List.mem_flatMap.1 he
    exact hclose entry hentry e he
  have hfirst := no_retry h.accepts hevents rfl fun c hc => by cases hc
  have hcalls : ∀ c ∈ t.closes, c.found = some .library ∨ (c.fd < 0 ∧ c.found = none) := by
    intro c hc
    have hsound := ht.sound c hc
    rwa [Close.Sound, hfirst c hc] at hsound
  refine ⟨fun n hn => halive.1.existsUnique ((ht.owned n).1 hn),
    fun i n hn => (ht.owned n).2 (halive.1.mem i n hn), hcalls, fun n => ?_, fun hnone n hn => ?_⟩
  · rw [t.balance n, List.count, List.countP_map]
    refine congrArg (· + _) (List.countP_congr fun c hc => ?_)
    simp only [Close.releases, Function.comp_apply, decide_eq_true_eq, beq_iff_eq]
    refine and_iff_left_of_imp fun hfd => (hcalls c hc).resolve_right fun hneg => ?_
    omega
  · obtain ⟨i, hi⟩ := halive.1.held n ((ht.owned n).1 hn)
    rw [hnone i] at hi
    exact hi

/-! A program with one socket, whose descriptor is 3. -/

def oneSocket : World := Function.update World.empty 0 (some (.socket ⟨3, false⟩))

def oneOpen : DescriptorTable := (DescriptorTable.initial fun _ => false).acquire 3 rfl

theorem oneSocket_run : ∃ es, ProgramRun (fun _ => false) 0 es ⟨0, oneSocket⟩ oneOpen ∧
    (∀ entry ∈ es, ∀ e ∈ entry.events, ¬Event.interruptsClose e) ∧
      es.map Entry.op = [.construct 0 .tcp] := by
  have hr : Runs ((Statement.construct 0 .tcp).exec ⟨0, World.empty⟩)
      [Event.sys .once (.socket 2 1 6) (.ok (3 : ℕ))] (.ok (), ⟨0, oneSocket⟩) :=
    .cons (.answer rfl) (.nil _)
  have hk : descriptors.Accepts (DescriptorTable.initial fun _ => false)
      [Event.sys .once (.socket 2 1 6) (.ok (3 : ℕ))] oneOpen := .single ⟨rfl, rfl⟩
  refine ⟨_, .single _ hr hk, List.forall_mem_singleton.2 (List.forall_mem_singleton.2 ?_), rfl⟩
  rintro ⟨w, fd, h⟩
  cases h

/-- A connection is accepted and moved through a `SocketHandle_Ref`, and all objects are destroyed.
-/
theorem descriptor_ownership_destroyed : ∃ (es : List StatementEntry) (s : Proc World)
    (t : DescriptorTable), ProgramRun (fun _ => false) 0 es s t ∧
    es.map Entry.op = [.construct 0 .tcp, .accept 1 .tcp 0, .toRef 2 1, .ofRef 3 2, .destroy 3,
      .destroy 1, .destroy 0] ∧ t.acquired = [3, 4] ∧
      (∀ c ∈ t.closes, c.found = some .library ∨ (c.fd < 0 ∧ c.found = none)) ∧
      ∀ n, t.owner n ≠ some .library := by
  obtain ⟨es, hes, hclose, hops⟩ := oneSocket_run
  let accepted : World := Function.update oneSocket 1 (some (.handle ⟨4⟩))
  let passed : World :=
    Function.update (Function.update accepted 1 (some (.handle .invalid))) 2 (some (.ref ⟨4⟩))
  let moved : World := Function.update (Function.update passed 2 none) 3 (some (.handle ⟨4⟩))
  let released : World := Function.update (Function.update moved 3 none) 1 none
  let both : DescriptorTable := oneOpen.acquire 4 rfl
  have haccept : Runs ((Statement.accept 1 .tcp 0).exec ⟨0, oneSocket⟩)
      [Event.sys .once (.accept 3) (.ok (4 : ℕ))] (.ok (), ⟨0, accepted⟩) :=
    .cons (.answer rfl) (.nil _)
  have hpass : Runs ((Statement.toRef 2 1).exec ⟨0, accepted⟩) [] (.ok (), ⟨0, passed⟩) := .nil _
  have hmove : Runs ((Statement.ofRef 3 2).exec ⟨0, passed⟩) [] (.ok (), ⟨0, moved⟩) := .nil _
  have hfirst : Runs ((Statement.destroy 3).exec ⟨0, moved⟩)
      [Event.sys .tempFailureRetry (.close 4) (.ok ())]
      (.ok (), ⟨0, Function.update moved 3 none⟩) := .cons (.answer rfl) (.nil _)
  have hinvalid : Runs ((Statement.destroy 1).exec ⟨0, Function.update moved 3 none⟩) []
      (.ok (), ⟨0, released⟩) := .nil _
  have hlast : Runs ((Statement.destroy 0).exec ⟨0, released⟩)
      [Event.sys .tempFailureRetry (.close 3) (.ok ())]
      (.ok (), ⟨0, Function.update released 0 none⟩) := .cons (.answer rfl) (.nil _)
  have kaccept : descriptors.Accepts oneOpen [Event.sys .once (.accept 3) (.ok (4 : ℕ))] both :=
    .single ⟨rfl, rfl⟩
  have kfirst : descriptors.Accepts both [Event.sys .tempFailureRetry (.close 4) (.ok ())]
      (both.close 4 false) := .single ⟨fun h => absurd h (by decide), rfl⟩
  have klast : descriptors.Accepts (both.close 4 false)
      [Event.sys .tempFailureRetry (.close 3) (.ok ())] ((both.close 4 false).close 3 false) :=
    .single ⟨fun h => absurd h (by decide), rfl⟩
  have hrun := ((((((hes.snoc _ haccept kaccept).snoc _ hpass (.nil _)).snoc _ hmove
    (.nil _)).snoc _ hfirst kfirst).snoc _ hinvalid (.nil _)).snoc _ hlast klast)
  have hnone : ∀ i, Function.update released 0 none i = none := by
    intro i
    simp only [released, moved, passed, accepted, oneSocket, Function.update_apply, World.empty]
    split_ifs <;> rfl
  have hquiet (n : ℤ) :
      ¬Event.interruptsClose (Event.sys .tempFailureRetry (.close n) (.ok ())) := by
    rintro ⟨w, fd, h⟩
    cases h
  obtain ⟨-, -, hsound, -, hfree⟩ := descriptor_ownership hrun (by
    simp only [List.forall_mem_append, List.forall_mem_singleton]
    refine ⟨⟨⟨⟨⟨⟨hclose, ?_⟩, List.forall_mem_nil _⟩, List.forall_mem_nil _⟩, hquiet 4⟩,
      List.forall_mem_nil _⟩, hquiet 3⟩
    rintro ⟨w, fd, h⟩
    cases h)
  refine ⟨_, _, _, hrun, ?_, rfl, hsound, hfree hnone⟩
  simp [hops]

/-- A call of `close` that releases what its object owns, or nothing. -/
def Close.Harmless (c : Close) : Prop :=
  c.found = none ∨ (c.retry = false ∧ c.found = some .library)

/-- **Interrupted close.** At every moment of a statement, the objects it does not destroy or assign
to own what they owned; and all calls of `close` are harmless exactly when none repeats an
interrupted one after the other code has got its number. -/
theorem close_harmless_iff (h : ProgramRun others err es s t) {st : Statement} {tr : List Event}
    {q : Prog posix (Except Exn Unit × Proc World)} (hr : Trace (st.exec s) tr q)
    (ht : descriptors.Accepts t tr t') :
    (∀ i n, st.target ≠ some i → n ∈ ownOf (s.vars i) → t'.owner n = some .library) ∧
      ((∀ c ∈ t'.closes, c.Harmless) ↔
        ∀ c ∈ t'.closes, c.retry = true → c.found ≠ some .other) := by
  obtain ⟨S, hS, halive⟩ := run_alive h
  obtain ⟨⟨l, hl, hkept⟩, -⟩ := st.run_triple halive (le_refl (st.kept s.vars)) s.errno t tr q t'
    ⟨hS, kept_subset halive st⟩ hr ht
  refine ⟨fun i n hi hn => (hl.owned n).2 (hkept ⟨i, hi, hn⟩), forall₂_congr fun c hc => ?_⟩
  have hsound := hl.sound c hc
  unfold Close.Sound at hsound
  unfold Close.Harmless
  cases hretry : c.retry with
  | false =>
    rw [hretry] at hsound
    refine iff_of_true ?_ fun h => by cases h
    exact hsound.elim (fun hlib => Or.inr ⟨rfl, hlib⟩) fun hneg => Or.inl hneg.2
  | true =>
    rw [hretry] at hsound
    cases hfound : c.found with
    | none => simp
    | some o => cases o <;> simp_all

/-- The destruction of the socket is interrupted, and its number stays free. -/
theorem close_harmless_iff_free :
    (∃ c ∈ ((oneOpen.close 3 true).close 3 false).closes, c.retry = true) ∧
      ∀ c ∈ ((oneOpen.close 3 true).close 3 false).closes, c.Harmless := by
  refine ⟨by decide, ?_⟩
  obtain ⟨es, hes, -⟩ := oneSocket_run
  have hr : Runs ((Statement.destroy 0).exec ⟨0, oneSocket⟩)
      [Event.sys .tempFailureRetry (.close 3) (.error Errno.eintr),
        Event.sys .tempFailureRetry (.close 3) (.error Errno.ebadf)]
      (.ok (), ⟨Errno.ebadf, Function.update oneSocket 0 none⟩) :=
    .cons (.retry rfl) (.cons (.answer rfl) (.nil _))
  have hk : descriptors.Accepts oneOpen
      [Event.sys .tempFailureRetry (.close 3) (.error Errno.eintr),
        Event.sys .tempFailureRetry (.close 3) (.error Errno.ebadf)]
      ((oneOpen.close 3 true).close 3 false) :=
    .step ⟨fun h => absurd h (by decide), rfl⟩ (.single ⟨fun _ => rfl, rfl⟩)
  apply (close_harmless_iff hes hr hk).2.2
  decide

/-- The destruction of the socket is interrupted, the other code gets its number, and the repeated
call closes that descriptor. -/
theorem close_releases_other :
    ¬∀ (others : ℕ → Bool) (err : Errno) (es : List StatementEntry) (s : Proc World)
      (t t' : DescriptorTable) (st : Statement) (tr : List Event)
      (q : Prog posix (Except Exn Unit × Proc World)), ProgramRun others err es s t →
      Trace (st.exec s) tr q → descriptors.Accepts t tr t' → ∀ c ∈ t'.closes, c.Harmless := by
  intro h
  obtain ⟨es, hes, -⟩ := oneSocket_run
  have hr : Runs ((Statement.destroy 0).exec ⟨0, oneSocket⟩)
      [Event.sys .tempFailureRetry (.close 3) (.error Errno.eintr),
        Event.sys .tempFailureRetry (.close 3) (.ok ())]
      (.ok (), ⟨Errno.eintr, Function.update oneSocket 0 none⟩) :=
    .cons (.retry rfl) (.cons (.answer rfl) (.nil _))
  have hk : descriptors.Accepts oneOpen
      [Event.sys .tempFailureRetry (.close 3) (.error Errno.eintr),
        Event.sys .tempFailureRetry (.close 3) (.ok ())]
      (((oneOpen.close 3 true).setOther 3 true (by decide)).close 3 false) :=
    .step ⟨fun h => absurd h (by decide), rfl⟩ <|
      .idle ⟨3, by decide, Or.inl ⟨rfl, rfl⟩⟩ <| .single ⟨fun h => absurd h (by decide), rfl⟩
  have hlast := h _ _ _ _ _ _ _ _ _ hes hr hk ⟨3, some .other, true⟩ (by decide)
  rcases hlast with hlast | ⟨hlast, -⟩
  · cases hlast
  · cases hlast

end Runs

end NET
