import DataCommand.Proofs.Placeholder.Fragment
import DataCommand.Proofs.Spelling

/-!
Documents and their operands. A document is written as a statement that is woven from its holes, in
any spelling that brings no marks of its own.
-/

namespace DataCommand

open Text

namespace Document

mutual

/-- The holes of a document, each with the text that stands in it. -/
def operands : Document Value → List Statement
  | .hole v => [.bound "?" v]
  | .term text v => [.bound text v]
  | .object entries => operandsOfEntries entries
  | .array items => operandsOfItems items
  | .null | .int _ | .str _ => []

def operandsOfEntries : List (String × Document Value) → List Statement
  | [] => []
  | (_, d) :: rest => operands d ++ operandsOfEntries rest

def operandsOfItems : List (Document Value) → List Statement
  | [] => []
  | d :: rest => operands d ++ operandsOfItems rest

end

mutual

/-- Keys and texts have no marks, and an expression in a hole has one. -/
def Templated : Document Value → Prop
  | .term text _ => marks text = 1
  | .str text => marks text = 0
  | .object entries => EntriesTemplated entries
  | .array items => ItemsTemplated items
  | .hole _ | .null | .int _ => True

def EntriesTemplated : List (String × Document Value) → Prop
  | [] => True
  | (key, d) :: rest => marks key = 0 ∧ Templated d ∧ EntriesTemplated rest

def ItemsTemplated : List (Document Value) → Prop
  | [] => True
  | d :: rest => Templated d ∧ ItemsTemplated rest

end

@[simp]
theorem operands_object (entries : List (String × Document Value)) :
    (object entries).operands = entries.flatMap fun e => e.2.operands := by
  rw [operands]
  induction entries with
  | nil => rfl
  | cons e rest ih => simp [operandsOfEntries, ih]

@[simp]
theorem operands_array (items : List (Document Value)) :
    (array items).operands = items.flatMap operands := by
  rw [operands]
  induction items with
  | nil => rfl
  | cons d rest ih => simp [operandsOfItems, ih]

@[simp]
theorem operands_entry (key : String) (d : Document Value) :
    (entry key d).operands = d.operands := by simp [entry]

@[simp]
theorem operands_null : Document.null.operands = [] := rfl

@[simp]
theorem operands_str (text : String) : (Document.str text).operands = [] := rfl

@[simp]
theorem operands_int (n : Int) : (Document.int n).operands = [] := rfl

@[simp]
theorem operands_bind (v : Value) (term : Option String) :
    (bind v term).operands = [.bound (term.getD "?") v] := by cases term <;> rfl

@[simp]
theorem templated_object (entries : List (String × Document Value)) :
    (object entries).Templated ↔ ∀ e ∈ entries, marks e.1 = 0 ∧ e.2.Templated := by
  rw [Templated]
  induction entries with
  | nil => simp [EntriesTemplated]
  | cons e rest ih => simp [EntriesTemplated, ih, and_assoc]

@[simp]
theorem templated_array (items : List (Document Value)) :
    (array items).Templated ↔ ∀ d ∈ items, d.Templated := by
  rw [Templated]
  induction items with
  | nil => simp [ItemsTemplated]
  | cons d rest ih => simp [ItemsTemplated, ih]

@[simp]
theorem templated_entry (key : String) (d : Document Value) :
    (entry key d).Templated ↔ marks key = 0 ∧ d.Templated := by simp [entry]

@[simp]
theorem templated_null : Document.null.Templated := trivial

@[simp]
theorem templated_str (text : String) : (Document.str text).Templated ↔ marks text = 0 := Iff.rfl

@[simp]
theorem templated_int (n : Int) : (Document.int n).Templated := trivial

theorem templated_bind (v : Value) {term : Option String} (h : IsTemplate term) :
    (bind v term).Templated := by
  cases term with
  | none => trivial
  | some text => exact h text rfl

end Document

/-- A spelling that brings no marks of its own. -/
structure Spelling.Unmarked (s : Spelling) : Prop where
  separator : marks s.separator = 0
  colon : marks s.colon = 0
  key : ∀ key, marks key = 0 → marks (s.key key) = 0

namespace Document

theorem unmarked_inShell : inShell.Unmarked where
  separator := rfl
  colon := rfl
  key key hkey := by
    show marks (shellKey key) = 0
    unfold shellKey
    split <;> simp [hkey]

theorem unmarked_inJson : inJson.Unmarked where
  separator := rfl
  colon := rfl
  key key hkey := by simp [inJson, hkey]

mutual

/-- A document is written as a statement woven from its holes. -/
theorem woven {s : Spelling} (hs : s.Unmarked) : (d : Document Value) → d.Templated →
    Woven d.operands (d.inSpelling s)
  | .hole v, _ => .bound rfl v
  | .term text v, ht => .bound ht v
  | .null, _ => .plain (show marks "null" = 0 from rfl)
  | .int n, _ => .plain (marks_toString_int n)
  | .str text, ht => .plain (by simpa [Templated, spelled] using ht)
  | .object entries, ht => by
    have hentries := woven_entries hs entries ht
    rw [inSpelling_object, operands_object]
    refine ((Woven.join hs.separator entries fun e he => ?_).plain_append rfl).append_plain rfl
    obtain ⟨hkey, hwoven⟩ := hentries e he
    exact hwoven.plain_append (by simp [hs.key e.1 hkey, hs.colon])
  | .array items, ht => by
    rw [inSpelling_array, operands_array]
    have h := Woven.join hs.separator items (woven_items hs items ht)
    exact (h.plain_append rfl).append_plain rfl

theorem woven_entries {s : Spelling} (hs : s.Unmarked) :
    (entries : List (String × Document Value)) → EntriesTemplated entries →
    ∀ e ∈ entries, marks e.1 = 0 ∧ Woven e.2.operands (e.2.inSpelling s)
  | [], _ => by simp
  | (_, d) :: rest, ⟨hkey, hd, hrest⟩ =>
    List.forall_mem_cons.2 ⟨⟨hkey, woven hs d hd⟩, woven_entries hs rest hrest⟩

theorem woven_items {s : Spelling} (hs : s.Unmarked) : (items : List (Document Value)) →
    ItemsTemplated items → ∀ d ∈ items, Woven d.operands (d.inSpelling s)
  | [], _ => by simp
  | d :: rest, ⟨hd, hrest⟩ => List.forall_mem_cons.2 ⟨woven hs d hd, woven_items hs rest hrest⟩

end

end Document

end DataCommand
