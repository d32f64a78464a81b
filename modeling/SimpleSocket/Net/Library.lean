import SimpleSocket.Net.Operation
import SimpleSocket.Net.SocketUtils
import SimpleSocket.Net.World

/-!
# Runs of the whole library

A run is made of statements on handles and sockets, operations of the sockets that are alive and
functions of `SocketUtils`. They share `errno`, which the rest of the program changes between them.
-/

namespace NET

open Interact

inductive LibraryCall
  | statement (st : Statement)
  | operation (i : ℕ) (op : Operation) (vars : Vars)
  | utility (u : Utility)
  -- the rest of the program leaves another `errno` behind
  | other (err : Errno)

/-- How a call ended. A call on an object that is not there is not one of a program. -/
inductive CallOutcome
  | statement (ret : Except Exn Unit)
  | operation (o : Outcome)
  | utility (ret : Except Exn Utility.Result)
  | none

/-- What a call throws. -/
def CallOutcome.thrown : CallOutcome → Option Exn
  | .statement (.error x) => some x
  | .operation ⟨.error x, _⟩ => some x
  | .utility (.error x) => some x
  | _ => Option.none

def LibraryCall.run : LibraryCall → Proc World → Prog posix (CallOutcome × Proc World)
  | .statement st, s => (st.run s).bind fun x => .ret (.statement x.1, x.2)
  | .operation i op vars, s =>
    match s.vars i with
    | some (.socket this) => (op.body ⟨s.errno, vars.frame this⟩).bind fun x =>
      .ret (.operation ⟨x.1, x.2.vars.vars⟩,
        ⟨x.2.errno, Function.update s.vars i (some (.socket x.2.vars.this))⟩)
    | _ => .ret (.none, s)
  | .utility u, s => (u.body s).bind fun x => .ret (.utility x.1, x.2)
  | .other err, s => .ret (.none, { s with errno := err })

section Runs

variable {s s' : Proc World} {tr : List Event} {o : CallOutcome}

theorem statement_runs {st : Statement} (h : Runs ((LibraryCall.statement st).run s) tr (o, s')) :
    ∃ r, Runs (st.run s) tr (r, s') ∧ o = .statement r := by
  obtain ⟨tr₁, tr₂, ⟨r, s₁⟩, rfl, h₁, h₂⟩ := Runs.bind_inv h
  obtain ⟨rfl, heq⟩ := Runs.ret_inv h₂
  obtain ⟨rfl, rfl⟩ := Prod.mk.inj heq
  exact ⟨r, by simpa using h₁, rfl⟩

theorem operation_runs {i : ℕ} {op : Operation} {vars : Vars}
    (h : Runs ((LibraryCall.operation i op vars).run s) tr (o, s')) :
    (tr = [] ∧ o = .none) ∨ ∃ this r p, Runs (op.body ⟨s.errno, vars.frame this⟩) tr (r, p) ∧
      o = .operation ⟨r, p.vars.vars⟩ := by
  dsimp only [LibraryCall.run] at h
  split at h
  · next this _ =>
    obtain ⟨tr₁, tr₂, ⟨r, p⟩, rfl, h₁, h₂⟩ := Runs.bind_inv h
    obtain ⟨rfl, heq⟩ := Runs.ret_inv h₂
    obtain ⟨rfl, -⟩ := Prod.mk.inj heq
    exact Or.inr ⟨this, r, p, by simpa using h₁, rfl⟩
  · obtain ⟨rfl, heq⟩ := Runs.ret_inv h
    exact Or.inl ⟨rfl, (Prod.mk.inj heq).1⟩

theorem utility_runs {u : Utility} (h : Runs ((LibraryCall.utility u).run s) tr (o, s')) :
    ∃ r, Runs (u.body s) tr (r, s') ∧ o = .utility r := by
  obtain ⟨tr₁, tr₂, ⟨r, s₁⟩, rfl, h₁, h₂⟩ := Runs.bind_inv h
  obtain ⟨rfl, heq⟩ := Runs.ret_inv h₂
  obtain ⟨rfl, rfl⟩ := Prod.mk.inj heq
  exact ⟨r, by simpa using h₁, rfl⟩

theorem other_runs {err : Errno} (h : Runs ((LibraryCall.other err).run s) tr (o, s')) :
    tr = [] ∧ o = .none := by
  obtain ⟨rfl, heq⟩ := Runs.ret_inv h
  exact ⟨rfl, (Prod.mk.inj heq).1⟩

end Runs

/-- One call of a run. -/
abbrev LibraryEntry : Type := Entry posix LibraryCall (Proc World) CallOutcome

end NET
