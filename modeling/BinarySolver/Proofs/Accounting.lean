/-
# BinarySolver.Proofs.Accounting -- what a run reports, and when it has failed

A run is a sequence of calls into one evaluation, each with its own solver.  A call
reports one diagnostic at most, at its operator (`Verdict.diagnostics`), whatever was
reported before it.  Announcing a diagnostic and collecting it keep in step, so the
flag of a run says at every point whether an error is among its diagnostics
(`run_consistent`).  `run_accounts` is the whole account.
-/
import BinarySolver.Proofs.Folding

namespace BinarySolver

set_option autoImplicit false

namespace Solver

/-! ## One ruling -/

/-- A shift reports its amount or nothing: folding it divides by nothing. -/
theorem diagnostics_shiftRule {o : Operation} (shift : o.op.isShift = true) :
    (shiftRule o).diagnostics =
      if isShiftAmount o.right then []
      else [.report .bitshiftMustUnsigned o.operator.span [o.right.type.signature] []] := by
  have quiet : (o.fold (.scalar .u64)).diagnostics = [] := by
    rcases o.diagnostics_fold (.scalar .u64) with quiet | ⟨div | rem, -⟩
    · exact quiet
    · rw [div] at shift
      cases shift
    · rw [rem] at shift
      cases shift
  unfold shiftRule
  split
  · exact quiet
  · simp only [Ruling.warn, quiet]

/-- A ruling reports one diagnostic at most, at the operator. -/
theorem Verdict.diagnostics {s : Solver} {o : Operation} {r : Ruling} (verdict : Verdict s o r) :
    r.diagnostics = [] ∨ ∃ d, r.diagnostics = [d] ∧ d.span = o.operator.span := by
  have folded : ∀ {p : Operation} (type : Descriptor), p.operator = o.operator →
      (p.fold type).diagnostics = [] ∨
        ∃ d, (p.fold type).diagnostics = [d] ∧ d.span = o.operator.span := by
    intro p type same
    rcases p.diagnostics_fold type with quiet | ⟨-, warned⟩
    · exact .inl quiet
    · exact .inr ⟨_, warned, congrArg Operator.span same⟩
  cases verdict with
  | refused => exact .inr ⟨_, rfl, rfl⟩
  | swapped => exact .inr ⟨_, rfl, rfl⟩
  | compared => exact .inl rfl
  | moved => exact .inl rfl
  | known => exact .inl rfl
  | truth recast => exact folded _ recast.operator_eq
  | joined => exact folded _ rfl
  | computed recast => exact folded _ recast.operator_eq
  | shifted shift =>
      rw [diagnostics_shiftRule shift]
      split
      · exact .inl rfl
      · exact .inr ⟨_, rfl, rfl⟩

end Solver

/-! ## Runs -/

/-- A call: what is solved, and by which solver. -/
structure Call where
  solver : Solver
  left : Value
  operator : Operator
  right : Value

namespace Call

/-- The evaluation after a call. -/
def solve (e : Evaluation) (c : Call) : Evaluation := (c.solver.solve c.left c.operator c.right e).2

/-- What a call reports. -/
def reports (c : Call) : List Diagnostic := (c.solve .empty).diagnostics

theorem reports_eq (c : Call) :
    c.reports = (c.solver.ruling c.left c.right c.operator).diagnostics := by
  rw [reports, solve, Solver.solve_diagnostics]
  rfl

/-- What a call reports does not depend on what was reported before. -/
theorem diagnostics_solve (e : Evaluation) (c : Call) :
    (c.solve e).diagnostics = e.diagnostics ++ c.reports := by
  rw [solve, Solver.solve_diagnostics, reports_eq]

theorem failed_solve (e : Evaluation) (c : Call) :
    (c.solve e).failed = (e.failed || c.reports.any Diagnostic.isError) := by
  rw [solve, Solver.solve_failed, reports_eq]

theorem reports_cases (c : Call) :
    c.reports = [] ∨ ∃ d, c.reports = [d] ∧ d.span = c.operator.span := by
  have verdict := Solver.settle_verdict c.solver
    (Solver.operation c.left c.operator c.right).settled
  have reported := verdict.diagnostics
  rw [Operation.operator_settled] at reported
  rw [reports_eq]
  exact reported

end Call

namespace Evaluation

/-- The evaluation after a sequence of calls into an empty one. -/
def run (calls : List Call) : Evaluation := calls.foldl Call.solve empty

theorem run_append_singleton (calls : List Call) (c : Call) :
    run (calls ++ [c]) = c.solve (run calls) := by
  rw [run, List.foldl_append, List.foldl_cons, List.foldl_nil, run]

/-- The flag says whether an error has been collected. -/
def Consistent (e : Evaluation) : Prop := e.failed = e.diagnostics.any Diagnostic.isError

theorem consistent_empty : empty.Consistent := rfl

/-- A call keeps the flag and the diagnostics in step. -/
theorem Consistent.solve {e : Evaluation} (consistent : e.Consistent) (c : Call) :
    (c.solve e).Consistent := by
  unfold Consistent at consistent ⊢
  rw [Call.failed_solve, Call.diagnostics_solve, List.any_append, consistent]

theorem consistent_foldl {e : Evaluation} (consistent : e.Consistent) (calls : List Call) :
    (calls.foldl Call.solve e).Consistent := by
  induction calls generalizing e with
  | nil => exact consistent
  | cons c calls ih => exact ih (consistent.solve c)

theorem run_consistent (calls : List Call) : (run calls).Consistent :=
  consistent_foldl consistent_empty calls

theorem diagnostics_foldl (e : Evaluation) (calls : List Call) :
    (calls.foldl Call.solve e).diagnostics = e.diagnostics ++ calls.flatMap Call.reports := by
  induction calls generalizing e with
  | nil => exact (List.append_nil _).symm
  | cons c calls ih =>
      rw [List.foldl_cons, ih, Call.diagnostics_solve, List.flatMap_cons, List.append_assoc]

theorem Consistent.failed_iff {e : Evaluation} (consistent : e.Consistent) :
    e.failed = true ↔ ∃ d ∈ e.diagnostics, d.severity = .error := by
  rw [consistent, List.any_eq_true]
  simp only [Diagnostic.isError, beq_iff_eq]

theorem Consistent.failed_iff_errorCount {e : Evaluation} (consistent : e.Consistent) :
    e.failed = true ↔ 0 < e.errorCount := by
  rw [consistent, errorCount, countErrors, List.countP_pos_iff, List.any_eq_true]

/-- **The account of a run**, at every point of it (`calls`) and for every call that
comes next.  The call leaves the diagnostics as they are and adds one at most, at its
operator; a run that has failed stays so; it has failed exactly when an error has been
reported, and its result is a failure exactly then; and either way the result holds
what the calls reported, in their order. -/
theorem run_accounts (calls : List Call) (c : Call) :
    (∃ new, (run (calls ++ [c])).diagnostics = (run calls).diagnostics ++ new ∧
        new.length ≤ 1 ∧ ∀ d ∈ new, d.span = c.operator.span) ∧
      ((run calls).failed = true → (run (calls ++ [c])).failed = true) ∧
      ((run calls).failed = true ↔ ∃ d ∈ (run calls).diagnostics, d.severity = .error) ∧
      ((run calls).failed = true ↔ 0 < (run calls).errorCount) ∧
      (run calls).result =
        (if 0 < (run calls).errorCount then .error ⟨calls.flatMap Call.reports⟩
          else .ok (calls.flatMap Call.reports)) := by
  have consistent := run_consistent calls
  have collected : (run calls).diagnostics = calls.flatMap Call.reports :=
    diagnostics_foldl empty calls
  refine ⟨⟨c.reports, ?_, ?_, ?_⟩, ?_, consistent.failed_iff, consistent.failed_iff_errorCount, ?_⟩
  · rw [run_append_singleton, Call.diagnostics_solve]
  · rcases c.reports_cases with none | ⟨d, one, -⟩
    · rw [none]
      exact Nat.zero_le 1
    · rw [one]
      exact Nat.le_refl 1
  · intro d member
    rcases c.reports_cases with none | ⟨d', one, span⟩
    · rw [none] at member
      cases member
    · rw [one, List.mem_singleton] at member
      rw [member, span]
  · intro failed
    rw [run_append_singleton, Call.failed_solve, failed, Bool.true_or]
  · rw [result, collected]
    by_cases failed : (run calls).failed = true
    · rw [if_pos failed, if_pos (consistent.failed_iff_errorCount.1 failed)]
    · rw [if_neg failed, if_neg (fun count => failed (consistent.failed_iff_errorCount.2 count))]

end Evaluation

end BinarySolver
