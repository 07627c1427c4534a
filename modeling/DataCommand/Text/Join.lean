/-!
Joining texts with a separator between neighbours: the layout of column lists, filter sequences and
object entries.
-/

namespace DataCommand.Text

/-- The texts in order, with `separator` between each two neighbours. -/
def join (separator : String) : List String → String
  | [] => ""
  | [s] => s
  | s :: t :: rest => s ++ separator ++ join separator (t :: rest)

/-- The first of several texts stands in front of a separator. -/
theorem join_cons {separator text : String} {texts : List String} (htexts : texts ≠ []) :
    join separator (text :: texts) = text ++ separator ++ join separator texts := by
  cases texts with
  | nil => exact absurd rfl htexts
  | cons other texts => rfl

theorem join_append {separator : String} {texts others : List String} (htexts : texts ≠ [])
    (hothers : others ≠ []) :
    join separator (texts ++ others) =
      join separator texts ++ separator ++ join separator others := by
  induction texts with
  | nil => exact absurd rfl htexts
  | cons text texts ih =>
    cases texts with
    | nil => exact join_cons hothers
    | cons next texts =>
      have hnext : next :: texts ≠ [] := List.cons_ne_nil next texts
      rw [List.cons_append, join_cons (by simp), ih hnext, join_cons hnext]
      simp only [String.append_assoc]

/-- Lists that are joined one by one are joined at once, if each of them has something in it. -/
theorem join_flatMap {α : Type} (separator : String) {f : α → List String} :
    ∀ {xs : List α}, (∀ x ∈ xs, f x ≠ []) →
      join separator (xs.flatMap f) = join separator (xs.map fun x => join separator (f x))
  | [], _ => rfl
  | [x], _ => by simp [join]
  | x :: y :: xs, h => by
    obtain ⟨hx, hrest⟩ := List.forall_mem_cons.1 h
    have hy : (y :: xs).flatMap f ≠ [] := by
      rw [List.flatMap_cons]
      exact List.append_ne_nil_of_left_ne_nil (hrest y (by simp)) _
    rw [List.flatMap_cons, join_append hx hy, join_flatMap separator hrest]
    rfl

/-- `n` copies of a character. -/
def replicate (n : Nat) (c : Char) : String := String.ofList (List.replicate n c)

/-- The text, preceded by as many zeros as it lacks to be `width` characters long. -/
def padZeros (width : Nat) (s : String) : String := replicate (width - s.length) '0' ++ s

end DataCommand.Text
