import SimpleSocket.Net.SocketUtils
import SimpleSocket.Verify.Triple

/-!
# The parts of the interface functions

An interface function builds an `ifreq` and hands it to `ioctl` on a temporary socket. One rule for
each part, for every kernel in which the calls around the `ioctl` are not visible; `Op.Can` has the
same rules.
-/

namespace NET

open Op Interact SimpleSocket

/-- The struct that `assign_ifreq` leaves. -/
def Ifreq.assign (ifr : Ifreq) (interface : Str) : Ifreq :=
  { ifr.setSaFamily (BitVec.ofNat 16 afInet) with
    ifrName := overwrite ifr.ifrName (interface ++ [0]) }

/-- The kernel reads the name up to its first NUL, whatever lay in the struct. -/
theorem Ifreq.cStr_assign (ifr : Ifreq) (interface : Str) :
    cStr (ifr.assign interface).ifrName = cStr interface := by
  unfold Ifreq.assign overwrite
  rw [List.append_assoc]
  exact cStr_append_cons _ _

theorem Ifreq.saFamily_assign (ifr : Ifreq) (interface : Str) :
    (ifr.assign interface).saFamily = afInet := rfl

theorem Ifreq.assign_ifru_length {ifr : Ifreq} (h : ifr.ifrIfru.length = 24) (interface : Str) :
    (ifr.assign interface).ifrIfru.length = 24 := by
  rw [← h]
  apply overwrite_length
  rw [h]
  decide

section Triple

variable {K : Kernel posix} {A τ α : Type} {V : View K A} {a : A} {v : τ}

theorem Op.Triple.localIfreq {interface : Str} {Q : Except Exn Ifreq → τ → A → Prop}
    (hc : V.Ignores (.lib .uninitIfreq))
    (herr : ifNameSize ≤ interface.length → ∀ x, Q (.error x) v a)
    (hok : interface.length < ifNameSize → ∀ mem : Lib.Val .uninitIfreq,
      Q (.ok (mem.1.assign interface)) v a) :
    Op.Triple V a (SocketUtils.localIfreq interface) v Q := by
  unfold SocketUtils.localIfreq SocketUtils.assignIfreq
  refine .bind (.libIgnored hc fun k mem k' _ _ => .bind (.withLocal ?_))
  refine .ite (fun hlong => .throwSocket fun x => herr hlong x) fun hshort => .modify (.pure ?_)
  exact hok (Nat.lt_of_not_le hshort) mem

/-- The temporary socket is closed on both exits of the body. -/
theorem Op.Triple.withTempSocket {body : ℤ → Op τ α} {Q : Except Exn α → τ → A → Prop}
    (hsocket : V.Ignores (.sys .once (.socket pfInet sockDgram 0)))
    (hclose : ∀ fd, V.Ignores (.sys .tempFailureRetry (.close fd)))
    (herr : ∀ k e k', V.rel a k →
      K.step k (Event.sys .once (.socket pfInet sockDgram 0) (.error e)) k' →
      ∀ x, Q (.error x) v a)
    (hbody : ∀ fd, Op.Triple V a (body fd) v Q) :
    Op.Triple V a (SocketUtils.withTempSocket body) v Q := by
  unfold SocketUtils.withTempSocket SimpleSocket.new
  refine .bind (.bind (.sysIgnored hsocket fun k r k' hk hs => ?_))
  cases r with
  | error e => exact .throwSocket fun x => herr k e k' hk hs x
  | ok fd =>
    refine .pure (.finally' ((hbody fd).mono fun r v' a' hQ => ?_))
    unfold SimpleSocket.destroy
    exact .bind (.sysIgnored (hclose fd) fun _ _ _ _ _ => .pure hQ)

end Triple

section Can

variable {K : Kernel posix} {τ α : Type} {k : K.State}

/-- The local struct of a name that fits. -/
theorem localIfreq_eq {interface : Str} (h : interface.length < ifNameSize) :
    (SocketUtils.localIfreq interface : Op τ Ifreq) = (do
      let ifr ← lib .uninitIfreq
      return ifr.1.assign interface) := by
  unfold SocketUtils.localIfreq SocketUtils.assignIfreq
  rw [if_neg (Nat.not_le.2 h)]
  rfl

theorem Op.Can.localIfreq {interface : Str} {Q : Ifreq → K.State → Prop}
    (h : interface.length < ifNameSize) (mem : Lib.Val .uninitIfreq)
    (hs : K.step k (Event.lib .uninitIfreq mem) k) (hQ : Q (mem.1.assign interface) k) :
    Op.Can K k (SocketUtils.localIfreq interface : Op τ Ifreq) Q := by
  rw [localIfreq_eq h]
  exact .bind (.lib mem hs (.pure hQ))

theorem Op.Can.withTempSocket {body : ℤ → Op τ α} {Q : α → K.State → Prop}
    (hsocket : K.step k (Event.sys .once (.socket pfInet sockDgram 0) (.ok 0)) k)
    (hclose : ∀ k, K.step k (Event.sys .tempFailureRetry (.close 0) (.ok ())) k)
    (h : Op.Can K k (body 0) Q) : Op.Can K k (SocketUtils.withTempSocket body) Q := by
  refine .bind (.bind (.sys (.ok 0) rfl hsocket (.pure (.finally' (h.mono fun x k' hQ => ?_)))))
  exact .bind (.sys (.ok ()) rfl (hclose k') (.pure hQ))

end Can

end NET
