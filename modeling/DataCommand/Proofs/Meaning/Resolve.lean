import DataCommand.Document
import DataCommand.Fragment
import DataCommand.Proofs.Mask.Document

/-!
Placeholders resolved from arguments. What a command is rendered to has placeholders in it and its
arguments beside it; whoever executes it puts the arguments in, one after the other, from left to
right. This gives back what was rendered, unless a value was written as a pattern.
-/

namespace DataCommand

namespace Document
variable {β : Type}

mutual

/-- The document with the arguments in its holes, and those that are left. -/
def resolve : Document β → Arguments → Document Value × Arguments
  | .hole _, args => (.hole (args.headD .null), args.tail)
  | .term text _, args => (.term text (args.headD .null), args.tail)
  | .null, args => (.null, args)
  | .int n, args => (.int n, args)
  | .str s, args => (.str s, args)
  | .object entries, args =>
    let resolved := resolveEntries entries args
    (.object resolved.1, resolved.2)
  | .array items, args =>
    let resolved := resolveItems items args
    (.array resolved.1, resolved.2)

/-- The entries with the arguments in their holes. -/
def resolveEntries :
    List (String × Document β) → Arguments → List (String × Document Value) × Arguments
  | [], args => ([], args)
  | (key, d) :: rest, args =>
    let head := resolve d args
    let tail := resolveEntries rest head.2
    ((key, head.1) :: tail.1, tail.2)

/-- The items with the arguments in their holes. -/
def resolveItems : List (Document β) → Arguments → List (Document Value) × Arguments
  | [], args => ([], args)
  | d :: rest, args =>
    let head := resolve d args
    let tail := resolveItems rest head.2
    (head.1 :: tail.1, tail.2)

end

mutual

/-- A document comes back from its labels. -/
theorem resolve_labels : (d : Document Value) → (rest : Arguments) →
    d.resolve (d.labels ++ rest) = (d, rest)
  | .hole _, _ | .term _ _, _ | .null, _ | .int _, _ | .str _, _ => rfl
  | .object entries, rest => by rw [resolve, labels, resolve_labelsOfEntries]
  | .array items, rest => by rw [resolve, labels, resolve_labelsOfItems]

theorem resolve_labelsOfEntries : (entries : List (String × Document Value)) →
    (rest : Arguments) → resolveEntries entries (labelsOfEntries entries ++ rest) = (entries, rest)
  | [], _ => rfl
  | (key, d) :: entries, rest => by
    rw [resolveEntries, labelsOfEntries, List.append_assoc, resolve_labels,
      resolve_labelsOfEntries]

theorem resolve_labelsOfItems : (items : List (Document Value)) → (rest : Arguments) →
    resolveItems items (labelsOfItems items ++ rest) = (items, rest)
  | [], _ => rfl
  | d :: items, rest => by
    rw [resolveItems, labelsOfItems, List.append_assoc, resolve_labels, resolve_labelsOfItems]

end

mutual

/-- What was in the holes before has no part in what is resolved. -/
theorem resolve_bare : (d : Document β) → (args : Arguments) → d.bare.resolve args = d.resolve args
  | .hole _, _ | .term _ _, _ | .null, _ | .int _, _ | .str _, _ => rfl
  | .object entries, args => by rw [bare, resolve, resolve, resolve_bareEntries]
  | .array items, args => by rw [bare, resolve, resolve, resolve_bareItems]

theorem resolve_bareEntries : (entries : List (String × Document β)) → (args : Arguments) →
    resolveEntries (bareEntries entries) args = resolveEntries entries args
  | [], _ => rfl
  | (key, d) :: rest, args => by
    rw [bareEntries, resolveEntries, resolveEntries, resolve_bare d, resolve_bareEntries rest]

theorem resolve_bareItems : (items : List (Document β)) → (args : Arguments) →
    resolveItems (bareItems items) args = resolveItems items args
  | [], _ => rfl
  | d :: rest, args => by
    rw [bareItems, resolveItems, resolveItems, resolve_bare d, resolve_bareItems rest]

end

/-- A document is what its own labels resolve it to. -/
theorem resolve_own (d : Document Value) : (d.resolve d.labels).1 = d := by
  have h := d.resolve_labels []
  rw [List.append_nil] at h
  rw [h]

end Document

namespace Fragment

mutual

/-- The fragment with the arguments in its placeholders, and those that are left. -/
def resolve : Fragment → Arguments → Fragment × Arguments
  | .bound _ term, args => (.bound (args.headD .null) term, args.tail)
  | .pattern _ wildcards term, args => (.pattern (args.headD .null) wildcards term, args.tail)
  | .verbatim text held, args => (.verbatim text (args.take held.length), args.drop held.length)
  | .assignment name v term, args =>
    if v.isNull && term.isNone then (.assignment name v term, args)
    else (.assignment name (args.headD .null) term, args.tail)
  | .joined separator items, args =>
    let resolved := resolveAll items args
    (.joined separator resolved.1, resolved.2)
  | f, args => (f, args)

/-- The fragments with the arguments in their placeholders. -/
def resolveAll : List Fragment → Arguments → List Fragment × Arguments
  | [], args => ([], args)
  | f :: rest, args =>
    let head := resolve f args
    let tail := resolveAll rest head.2
    (head.1 :: tail.1, tail.2)

end

mutual

/-- There is no operand of LIKE, so what is bound is what was given. -/
def patternless : Fragment → Bool
  | .pattern _ _ _ => false
  | .joined _ items => allPatternless items
  | _ => true

def allPatternless : List Fragment → Bool
  | [] => true
  | f :: rest => f.patternless && allPatternless rest

end

theorem allPatternless_eq_all (fs : List Fragment) : allPatternless fs = fs.all patternless := by
  induction fs with
  | nil => rfl
  | cons f fs ih => rw [allPatternless, ih, List.all_cons]

mutual

/-- A fragment comes back from the arguments that it is written with. -/
theorem resolve_write (s : Style) : (f : Fragment) → f.patternless = true →
    (rest : Arguments) → f.resolve ((f.write s).args ++ rest) = (f, rest)
  | .word _, _, _ | .openParen, _, _ | .closeParen, _, _ => rfl
  | .column _ _, _, _ | .target _, _, _ => rfl
  | .groupKey _ _, _, _ | .sortKey _ _ _ _, _, _ => rfl
  | .bound _ _, _, _ => rfl
  | .pattern _ _ _, h, _ => by simp [patternless] at h
  | .projection _ term, _, _ => by cases term <;> simp [resolve, write]
  | .verbatim text args, _, rest => by
    simp only [resolve, write, List.take_left, List.drop_left]
  | .assignment name v term, _, rest => by
    simp only [resolve, write]
    split <;> rfl
  | .joined separator items, h, rest => by
    have ih := resolve_writeAll s items h rest
    simp only [resolve, write, Statement.join, ih]

/-- Fragments come back from the arguments that they are written with. -/
theorem resolve_writeAll (s : Style) : (fs : List Fragment) → allPatternless fs = true →
    (rest : Arguments) →
    resolveAll fs ((writeAll s fs).flatMap Statement.args ++ rest) = (fs, rest)
  | [], _, _ => rfl
  | f :: fs, h, rest => by
    obtain ⟨hf, hfs⟩ := Bool.and_eq_true_iff.1 h
    rw [resolveAll, writeAll, List.flatMap_cons, List.append_assoc, resolve_write s f hf,
      resolve_writeAll s fs hfs]

end

/-- Fragments are what they are resolved to by the arguments that they are written with. -/
theorem resolveAll_own (s : Style) {fs : List Fragment} (h : allPatternless fs = true) :
    (resolveAll fs ((writeAll s fs).flatMap Statement.args)).1 = fs := by
  have hwritten := resolve_writeAll s fs h []
  rw [List.append_nil] at hwritten
  rw [hwritten]

end Fragment

end DataCommand
