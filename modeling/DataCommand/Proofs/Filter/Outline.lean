import DataCommand.Builder.Script
import DataCommand.Proofs.Filter.Frame

/-!
The outline of a relational filter. A caller thinks of conditions as a tree: conditions side by
side, and groups that hold conditions in turn. The filter has no tree, it is one flat list, so this
module says which list a tree stands for (`Restriction.flattenAll`) and which tree a script has
built, judged by the replies alone (`Outline.observe`): what was refused is not in it, a group that
failed takes everything in it along, and a group in which nothing was accepted is left out.
-/

namespace DataCommand

/-- An accepted condition in its place, or an accepted group of them. -/
inductive Restriction where
  | condition (connective : Connective) (c : Condition)
  | verbatim (connective : Connective) (text : String) (args : List Value)
  | group (connective : Connective) (members : List Restriction)

namespace Restriction

/-- The words in front of an element: its connective, unless it is the first of its level, and its
negation. -/
def introduction (first : Bool) (connective : Connective) : List Fragment :=
  (if first then [] else [.word connective.keyword]) ++
    if connective.negated then [.word "NOT"] else []

mutual

/-- The fragments of one element of a level. -/
def flatten (first : Bool) : Restriction → List Fragment
  | .condition connective c => introduction first connective ++ [c.fragment]
  | .verbatim connective text args => introduction first connective ++ [.verbatim text args]
  | .group connective members =>
    introduction first connective ++ .openParen :: (flattenAll true members ++ [.closeParen])

/-- The fragments of the elements of a level, of which the first one may be the first at all. -/
def flattenAll (first : Bool) : List Restriction → List Fragment
  | [] => []
  | r :: rest => flatten first r ++ flattenAll false rest

end

mutual

/-- What a step has added to its level, by the reply to it. -/
def accepted : Step → Reply → List Restriction
  | .call (.condition connective c), .done => [.condition connective c]
  | .call (.verbatim connective text args), .done => [.verbatim connective text args]
  | .group connective body _ _, .group (.ok ()) inner =>
    match acceptedAll body inner with
    | [] => []
    | members => [.group connective members]
  | _, _ => []

/-- What several steps have added to their level. -/
def acceptedAll : List Step → List Reply → List Restriction
  | s :: steps, r :: replies => accepted s r ++ acceptedAll steps replies
  | _, _ => []

end

/-- A group is one element if it was kept, and else nothing. -/
theorem accepted_group (k : Connective) (body : List Step) (goOn : Bool)
    (verdict result : Except CommandError Unit) (replies : List Reply) :
    accepted (.group k body goOn verdict) (.group result replies) =
      if result.isOk && !(acceptedAll body replies).isEmpty then
        [.group k (acceptedAll body replies)]
      else [] := by
  cases result with
  | error e => simp [accepted, Except.isOk, Except.toBool]
  | ok => cases h : acceptedAll body replies <;> simp [accepted, h, Except.isOk, Except.toBool]

theorem flattenAll_append (first : Bool) (xs ys : List Restriction) :
    flattenAll first (xs ++ ys) = flattenAll first xs ++ flattenAll (first && xs.isEmpty) ys := by
  cases xs with
  | nil => simp [flattenAll]
  | cons x xs =>
    have tail : ∀ zs : List Restriction,
        flattenAll false (zs ++ ys) = flattenAll false zs ++ flattenAll false ys := by
      intro zs
      induction zs with
      | nil => rfl
      | cons z zs ih => simp [flattenAll, ih]
    simp [flattenAll, tail]

theorem flattenAll_concat (first : Bool) (xs : List Restriction) (r : Restriction) :
    flattenAll first (xs ++ [r]) = flattenAll first xs ++ flatten (first && xs.isEmpty) r := by
  simp [flattenAll_append, flattenAll]

/-- The words `a OR NOT ( b )`. -/
example (a b : Condition) :
    flattenAll true
      [.condition {} a, .group { alternative := true, negated := true } [.condition {} b]] =
      [a.fragment, .word "OR", .word "NOT", .openParen, b.fragment, .closeParen] := rfl

end Restriction

/-- What a script has built into the filter of a command. -/
structure Outline where
  conditions : List Restriction := []
  groupKeys : List Fragment := []
  sortKeys : List Fragment := []

namespace Outline

/-- A list of keys behind its keyword, if there is a key. -/
def keyClause (keyword : String) (keys : List Fragment) : List Fragment :=
  if keys.isEmpty then [] else [.word keyword, .commaSeparated keys]

/-- The conditions, flat. -/
def conditionFragments (o : Outline) : List Fragment := Restriction.flattenAll true o.conditions

/-- The filter that an outline stands for: conditions, grouping keys, sort keys. -/
def fragments (o : Outline) : List Fragment :=
  o.conditionFragments ++ keyClause "GROUP BY" o.groupKeys ++ keyClause "ORDER BY" o.sortKeys

/-- The filter as it follows a statement. Only conditions bring the keyword. -/
def clause (s : Style) (o : Outline) : Statement :=
  if o.fragments.isEmpty then .plain ""
  else
    .plain (if o.conditions.isEmpty then " " else " WHERE ") ++
      (Fragment.blankSeparated o.fragments).write s

/-- The outline after one more step of a script, by the reply to it. -/
def record (o : Outline) : Step → Reply → Outline
  | .call .clear, _ => {}
  | .call (.groupBy column term), .done =>
    { o with groupKeys := o.groupKeys ++ [.groupKey column (Text.unlessBlank term)] }
  | .call (.sortBy column term order nulls), .done =>
    { o with sortKeys := o.sortKeys ++ [.sortKey column (Text.unlessBlank term) order nulls] }
  | s, r => { o with conditions := o.conditions ++ Restriction.accepted s r }

/-- The outline after the steps of a script that have got their replies. -/
def observe (o : Outline) : List Step → List Reply → Outline
  | s :: steps, r :: replies => (o.record s r).observe steps replies
  | _, _ => o

end Outline

mutual

/-- The step is no key and no reset, and neither comes in a group of it. -/
def Step.keyless : Step → Bool
  | .call (.groupBy _ _) | .call (.sortBy _ _ _ _) | .call .clear => false
  | .group _ body _ _ => Step.allKeyless body
  | _ => true

def Step.allKeyless : List Step → Bool
  | [] => true
  | s :: rest => s.keyless && Step.allKeyless rest

end

/-- The step is no group with a key or a reset in it. -/
def Step.groupsKeyless : Step → Bool
  | .group _ body _ _ => Step.allKeyless body
  | _ => true

end DataCommand
