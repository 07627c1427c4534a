import DataCommand.Dialect.Window

/-!
Cutting a query to a window. It fails at the first bound that does not fit an argument; if there is
none, all bounds become arguments, behind those of the query.
-/

namespace DataCommand.Dialect

theorem mapM_boundValue : ∀ bounds : List Nat,
    bounds.mapM boundValue =
      match bounds.find? fun n : Nat => !Number.fitsWord n with
      | some n => .error (.invalid (.outOfRange n))
      | none => .ok (bounds.map fun n : Nat => .int n)
  | [] => rfl
  | n :: rest => by
    rw [List.mapM_cons, List.find?_cons, mapM_boundValue rest, boundValue]
    cases Number.fitsWord n with
    | false => rfl
    | true => cases rest.find? fun n : Nat => !Number.fitsWord n <;> rfl

section Windowed
variable (d : Dialect) (q : Statement) (start limit : UInt64)

theorem windowed_eq :
    d.windowed q start limit =
      let cut := window d.windowForm q.text start limit
      match cut.2.find? fun n : Nat => !Number.fitsWord n with
      | some n => .error (.invalid (.outOfRange n))
      | none => .ok ⟨cut.1, q.args ++ cut.2.map fun n : Nat => .int n⟩ := by
  simp only [windowed, mapM_boundValue]
  cases (window d.windowForm q.text start limit).2.find? fun n : Nat => !Number.fitsWord n <;> rfl

variable {d q start limit}

/-- A window that could be cut binds all its bounds. -/
theorem windowed_eq_ok {s : Statement} (h : d.windowed q start limit = .ok s) :
    s = ⟨(window d.windowForm q.text start limit).1,
      q.args ++ (window d.windowForm q.text start limit).2.map fun n => .int n⟩ := by
  simp only [windowed_eq] at h
  split at h
  · cases h
  · exact (Except.ok.inj h).symm

end Windowed

end DataCommand.Dialect
