import DataCommand.Proofs.Placeholder.Mark
import DataCommand.Proofs.Statement

/-!
Statements woven from their operands. An operand is what supplies bound values, with the text that
it writes for them. A statement is woven from operands if these stand in it in order, each with as
many marks as it has values, and all text between them is free of marks. Then mark and value number
`i` of the statement come from one and the same operand.
-/

namespace DataCommand

open Text

/-- The statement consists of the operands in order and of text without marks around them. -/
inductive Woven : List Statement → Statement → Prop where
  | plain {text : String} (htext : marks text = 0) : Woven [] (.plain text)
  | operand {gap : String} {p : Statement} {ops : List Statement} {rest : Statement}
      (hgap : marks gap = 0) (hp : marks p.text = p.args.length) (hrest : Woven ops rest) :
      Woven (p :: ops) (.plain gap ++ p ++ rest)

namespace Woven
variable {xs ys : List Statement} {s t : Statement}

/-- Text without marks may come in front. -/
theorem plain_append {gap : String} (hgap : marks gap = 0) (h : Woven xs s) :
    Woven xs (.plain gap ++ s) := by
  cases h with
  | @plain text htext =>
    have hsum : Statement.plain gap ++ .plain text = .plain (gap ++ text) := rfl
    exact hsum ▸ .plain (by simp [hgap, htext])
  | @operand gap' p ops rest hgap' hp hrest =>
    have hsum : Statement.plain gap ++ (.plain gap' ++ p ++ rest) =
        .plain (gap ++ gap') ++ p ++ rest :=
      Statement.ext (by simp [String.append_assoc]) (by simp)
    exact hsum ▸ .operand (by simp [hgap, hgap']) hp hrest

theorem append (hs : Woven xs s) (ht : Woven ys t) : Woven (xs ++ ys) (s ++ t) := by
  induction hs with
  | plain htext => exact ht.plain_append htext
  | operand hgap hp hrest ih =>
    rw [List.cons_append, Statement.append_assoc]
    exact .operand hgap hp ih

/-- Text without marks may come behind. -/
theorem append_plain {gap : String} (h : Woven xs s) (hgap : marks gap = 0) :
    Woven xs (s ++ .plain gap) := by simpa using h.append (.plain hgap)

/-- Text without marks in front of a text and its values. -/
theorem prepend {text gap : String} {args : Arguments} (h : Woven xs ⟨text, args⟩)
    (hgap : marks gap = 0) : Woven xs ⟨gap ++ text, args⟩ := h.plain_append hgap

/-- Text without marks behind a text and its values. -/
theorem extend {text gap : String} {args : Arguments} (h : Woven xs ⟨text, args⟩)
    (hgap : marks gap = 0) : Woven xs ⟨text ++ gap, args⟩ := by
  have h := h.append_plain hgap
  have hsum : Statement.mk text args ++ .plain gap = ⟨text ++ gap, args⟩ :=
    Statement.ext rfl (by simp)
  rwa [hsum] at h

theorem single {p : Statement} (hp : marks p.text = p.args.length) : Woven [p] p := by
  have h : Woven [p] (.plain "" ++ p ++ .plain "") := .operand rfl hp (.plain rfl)
  have hsum : Statement.plain "" ++ p ++ .plain "" = p := Statement.ext (by simp) (by simp)
  rwa [hsum] at h

/-- An operand for one value. -/
theorem bound {text : String} (htext : marks text = 1) (v : Value) :
    Woven [.bound text v] (.bound text v) := single htext

/-- Parts with a separator between neighbours are woven from the operands of all parts. -/
theorem join {α : Type} {separator : String} (hsep : marks separator = 0)
    {ops : α → List Statement} {part : α → Statement} :
    ∀ items : List α, (∀ a ∈ items, Woven (ops a) (part a)) →
      Woven (items.flatMap ops) (.join separator (items.map part))
  | [], _ => .plain rfl
  | [a], h => by simpa [Statement.join_singleton] using h a (by simp)
  | a :: b :: rest, h => by
    have htail := join hsep (b :: rest) fun c hc => h c (by simp_all)
    rw [List.flatMap_cons, List.map_cons, List.map_cons, Statement.join_cons_cons]
    exact (h a (by simp)).append (htail.plain_append hsep)

/-- The values of the statement are those of the operands, in order. -/
theorem args_eq (h : Woven xs s) : s.args = xs.flatMap Statement.args := by
  induction h with
  | plain => rfl
  | operand _ _ _ ih => simp [ih]

/-- A woven statement has one mark for each value. -/
theorem marks_eq (h : Woven xs s) : marks s.text = s.args.length := by
  induction h with
  | plain htext => exact htext
  | operand hgap hp _ ih => simp [hgap, hp, ih]

/-- An operand divides the statement into what is woven from the operands before it, itself, and
what is woven from the operands after it. -/
theorem split : ∀ {xs : List Statement} {p : Statement} {ys : List Statement} {s : Statement},
    Woven (xs ++ p :: ys) s →
      ∃ head tail, s = head ++ p ++ tail ∧ Woven xs head ∧ Woven ys tail ∧
        marks p.text = p.args.length
  | [], _, _, _, .operand hgap hp hrest => ⟨_, _, rfl, .plain hgap, hrest, hp⟩
  | _ :: _, _, _, _, .operand hgap hx hrest => by
    obtain ⟨head, tail, rfl, hhead, htail, hp⟩ := split hrest
    exact ⟨_, tail, by simp [Statement.append_assoc], .operand hgap hx hhead, htail, hp⟩

end Woven

/-- The mark of each number and the value of the same number belong to one operand: as many marks as
values stand in front of that operand, and it has as many marks as values itself. -/
def Statement.InOrder (ops : List Statement) (s : Statement) : Prop :=
  s.args = ops.flatMap args ∧ marks s.text = s.args.length ∧
    ∀ before p after, ops = before ++ p :: after →
      ∃ head tail, s = head ++ p ++ tail ∧ head.args = before.flatMap args ∧
        marks head.text = head.args.length ∧ marks p.text = p.args.length

theorem Woven.inOrder {ops : List Statement} {s : Statement} (h : Woven ops s) : s.InOrder ops := by
  refine ⟨h.args_eq, h.marks_eq, ?_⟩
  rintro before p after rfl
  obtain ⟨head, tail, rfl, hhead, -, hp⟩ := h.split
  exact ⟨head, tail, rfl, hhead.args_eq, hhead.marks_eq, hp⟩

end DataCommand
