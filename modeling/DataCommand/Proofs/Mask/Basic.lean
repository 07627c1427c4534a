import DataCommand.Builder.Script
import DataCommand.Proofs.Statement

/-!
Masks over values. Two scripts are alike if they differ in nothing but the values that their calls
carry; then their masked forms are the same. A masked value is a null, except where a null is
written out in so many words: there it stays visible whether the value is a null.
-/

namespace DataCommand

/-- As many nulls as there are values. -/
def nulls (vs : List Value) : List Value := vs.map fun _ => .null

@[simp]
theorem nulls_append (vs ws : List Value) : nulls (vs ++ ws) = nulls vs ++ nulls ws := by
  simp [nulls]

@[simp]
theorem nulls_nulls (vs : List Value) : nulls (nulls vs) = nulls vs := by simp [nulls]

theorem nulls_eq_iff (vs ws : List Value) : nulls vs = nulls ws ↔ vs.length = ws.length := by
  simp [nulls, List.map_const', List.replicate_inj]

/-- The value of an assignment behind a mask. Without an expression around it, a null can be told
from other values. -/
def Value.masked (term : Option String) (v : Value) : Value :=
  if term.isNone && !v.isNull then .bool false else .null

theorem Value.isNull_masked (v : Value) : (v.masked none).isNull = v.isNull := by
  unfold masked
  cases v.isNull <;> rfl

namespace Statement

/-- The statement with its values masked. -/
def masked (s : Statement) : Statement := ⟨s.text, nulls s.args⟩

@[simp]
theorem masked_append (s t : Statement) : (s ++ t).masked = s.masked ++ t.masked :=
  ext rfl (by simp [masked])

@[simp]
theorem masked_after (earlier : Arguments) (s : Statement) :
    (s.after earlier).masked = s.masked.after (nulls earlier) := ext rfl (by simp [masked])

theorem masked_join (separator : String) (parts : List Statement) :
    (join separator parts).masked = join separator (parts.map masked) :=
  ext (by simp [masked, join, Function.comp_def])
    (by simp [masked, join, nulls, List.map_flatMap, List.flatMap_map])

/-- What is left of a statement behind its mask is its text and the number of its values. -/
theorem masked_eq_iff (s t : Statement) :
    s.masked = t.masked ↔ (s.text, s.args.length) = (t.text, t.args.length) := by
  simp [masked, nulls_eq_iff]

end Statement

/-- The test with its values masked. -/
def Test.masked : Test → Test
  | .compare comparison operand term wildcards =>
    .compare comparison (operand.map fun _ => .null) term wildcards
  | .within negated _ _ lowTerm highTerm => .within negated .null .null lowTerm highTerm
  | .oneOf negated values term => .oneOf negated (nulls values) term

def Condition.masked (c : Condition) : Condition := { c with test := c.test.masked }

theorem Condition.check_masked (c : Condition) : c.masked.check = c.check := by
  obtain ⟨column, term, test⟩ := c
  cases test with
  | compare comparison operand valueTerm wildcards => cases operand <;> rfl
  | within => rfl
  | oneOf negated values valueTerm => cases values <;> rfl

namespace Assignment

/-- The assignment with its value masked; `written` says whether nulls are written out. -/
def masked (written : Bool) (a : Assignment) : Assignment :=
  { a with value := if written then a.value.masked a.term else .null }

theorem push_masked (written : Bool) (column : String) (value : Value) (term : Option String)
    (assigned : List Assignment) :
    push column (if written then value.masked (Text.unlessBlank term) else .null) term
        (assigned.map (masked written)) =
      (push column value term assigned).map (masked written) := by
  simp [push, masked]

theorem pushNew_masked (written : Bool) (column : String) (value : Value) (term : Option String)
    (row : List Assignment) :
    pushNew column (if written then value.masked (Text.unlessBlank term) else .null) term
        (row.map (masked written)) =
      (pushNew column value term row).map (List.map (masked written)) := by
  have hany : (row.map (masked written)).any (fun a => a.column == column) =
      row.any fun a => a.column == column := by simp [List.any_map, masked, Function.comp_def]
  unfold pushNew
  rw [hany, push_masked]
  split <;> rfl

end Assignment

/-- The call with its values masked; `rows` says whether a row writes its nulls out. -/
def Call.masked (rows : Bool) : Call → Call
  | .condition connective c => .condition connective c.masked
  | .verbatim connective text args => .verbatim connective text (nulls args)
  | .projectText text args => .projectText text (nulls args)
  | .assign column value term => .assign column (value.masked (Text.unlessBlank term)) term
  | .supply column value term =>
    .supply column (if rows then value.masked (Text.unlessBlank term) else .null) term
  | c => c

/-- Two tests that differ in nothing but values, and have as many of them. -/
inductive Test.Alike : Test → Test → Prop where
  | compare (comparison : Comparison) {v w : Option Value} (term : Option String)
      (wildcards : Wildcards) (h : v.isSome = w.isSome) :
      Alike (.compare comparison v term wildcards) (.compare comparison w term wildcards)
  | within (negated : Bool) (low high low' high' : Value) (lowTerm highTerm : Option String) :
      Alike (.within negated low high lowTerm highTerm)
        (.within negated low' high' lowTerm highTerm)
  | oneOf (negated : Bool) {vs ws : List Value} (term : Option String) (h : vs.length = ws.length) :
      Alike (.oneOf negated vs term) (.oneOf negated ws term)

/-- Two calls that differ in nothing but values, and have as many of them. Where a null would be
written out, either both values are null or neither is. -/
inductive Call.Alike (rows : Bool) : Call → Call → Prop where
  | same (c : Call) : Alike rows c c
  | condition (connective : Connective) (column : String) (term : Option String) {t u : Test}
      (h : t.Alike u) :
      Alike rows (.condition connective ⟨column, term, t⟩) (.condition connective ⟨column, term, u⟩)
  | verbatim (connective : Connective) (text : String) {vs ws : List Value}
      (h : vs.length = ws.length) :
      Alike rows (.verbatim connective text vs) (.verbatim connective text ws)
  | projectText (text : String) {vs ws : List Value} (h : vs.length = ws.length) :
      Alike rows (.projectText text vs) (.projectText text ws)
  | assign (column : String) {v w : Value} (term : Option String)
      (h : Text.unlessBlank term = none → v.isNull = w.isNull) :
      Alike rows (.assign column v term) (.assign column w term)
  | supply (column : String) {v w : Value} (term : Option String)
      (h : rows = true → Text.unlessBlank term = none → v.isNull = w.isNull) :
      Alike rows (.supply column v term) (.supply column w term)

theorem Value.masked_congr {v w : Value} {term : Option String}
    (h : term = none → v.isNull = w.isNull) : v.masked term = w.masked term := by
  cases term with
  | none => simp [masked, h rfl]
  | some t => rfl

theorem Test.Alike.masked_eq {t u : Test} (h : t.Alike u) : t.masked = u.masked := by
  cases h with
  | @compare comparison v w term wildcards h =>
    cases v <;> cases w <;> simp_all [masked]
  | within => rfl
  | oneOf negated term h => simp [masked, (nulls_eq_iff _ _).2 h]

/-- Calls that are alike are the same behind their masks. -/
theorem Call.Alike.masked_eq {rows : Bool} {c e : Call} (h : c.Alike rows e) :
    c.masked rows = e.masked rows := by
  cases h with
  | same => rfl
  | condition connective column term h => simp [masked, Condition.masked, h.masked_eq]
  | verbatim connective text h => simp [masked, (nulls_eq_iff _ _).2 h]
  | projectText text h => simp [masked, (nulls_eq_iff _ _).2 h]
  | assign column term h => simp [masked, Value.masked_congr h]
  | supply column term h =>
    cases rows with
    | false => rfl
    | true => simp [masked, Value.masked_congr (h rfl)]

mutual

/-- Two steps that differ in nothing but the values of their calls. -/
inductive Step.Alike (rows : Bool) : Step → Step → Prop where
  | call {c e : Call} (h : c.Alike rows e) : Alike rows (.call c) (.call e)
  | render (request : Request) (d : Dialect) (quote : Bool) :
      Alike rows (.render request d quote) (.render request d quote)
  | ask (q : Query) : Alike rows (.ask q) (.ask q)
  | refused (e : CommandError) : Alike rows (.refused e) (.refused e)
  | group (connective : Connective) {body body' : List Step} (goOn : Bool)
      (verdict : Except CommandError Unit) (h : AllAlike rows body body') :
      Alike rows (.group connective body goOn verdict) (.group connective body' goOn verdict)

/-- Two scripts that differ in nothing but the values of their calls. -/
inductive Step.AllAlike (rows : Bool) : List Step → List Step → Prop where
  | nil : AllAlike rows [] []
  | cons {s t : Step} {steps steps' : List Step} (head : Step.Alike rows s t)
      (tail : AllAlike rows steps steps') : AllAlike rows (s :: steps) (t :: steps')

end

namespace Reply

mutual

/-- The reply with its values masked: a statement keeps its text and the number of its values. -/
def masked : Reply → Reply
  | .statement s => .statement s.masked
  | .values vs => .values (nulls vs)
  | .group result inner => .group result (maskedAll inner)
  | r => r

def maskedAll : List Reply → List Reply
  | [] => []
  | r :: rest => masked r :: maskedAll rest

end

theorem error?_masked (r : Reply) : r.masked.error? = r.error? := by
  cases r with
  | group result inner => cases result <;> rfl
  | _ => rfl

theorem findSome?_maskedAll (replies : List Reply) :
    (maskedAll replies).findSome? error? = replies.findSome? error? := by
  induction replies with
  | nil => rfl
  | cons r rest ih => simp [maskedAll, List.findSome?_cons, error?_masked, ih]

end Reply

end DataCommand
