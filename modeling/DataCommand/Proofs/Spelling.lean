import DataCommand.Document
import DataCommand.Proofs.Statement

/-!
The two ways to write a document differ in three places only: the separator, what stands behind a
key, and the key itself. So they are one function of a spelling, and what is proved for every
spelling holds for the shell and for compact JSON.
-/

namespace DataCommand

/-- A way to write documents. -/
structure Spelling where
  separator : String
  colon : String
  key : String → String

namespace Document
variable {β : Type}

mutual

/-- A document in some spelling. -/
def spelled (s : Spelling) : Document β → String
  | .hole _ => "?"
  | .term text _ => text
  | .null => "null"
  | .int n => toString n
  | .str text => Text.jsonQuoted text
  | .object entries => "\x7b" ++ Text.join s.separator (spelledEntries s entries) ++ "\x7d"
  | .array items => "[" ++ Text.join s.separator (spelledItems s items) ++ "]"

def spelledEntries (s : Spelling) : List (String × Document β) → List String
  | [] => []
  | (key, d) :: rest => (s.key key ++ s.colon ++ spelled s d) :: spelledEntries s rest

def spelledItems (s : Spelling) : List (Document β) → List String
  | [] => []
  | d :: rest => spelled s d :: spelledItems s rest

end

/-- The spelling of a shell. -/
def inShell : Spelling := ⟨", ", ": ", shellKey⟩

/-- The spelling of compact JSON. -/
def inJson : Spelling := ⟨",", ":", Text.jsonQuoted⟩

mutual

theorem shell_eq_spelled : ∀ d : Document β, d.shell = d.spelled inShell
  | .hole _ | .term _ _ | .null | .int _ | .str _ => rfl
  | .object entries => by simp only [shell, spelled, shellEntries_eq_spelled entries]; rfl
  | .array items => by simp only [shell, spelled, shellItems_eq_spelled items]; rfl

theorem shellEntries_eq_spelled : ∀ entries : List (String × Document β),
    shellEntries entries = spelledEntries inShell entries
  | [] => rfl
  | (key, d) :: rest => by
    simp only [shellEntries, spelledEntries, shell_eq_spelled d, shellEntries_eq_spelled rest]; rfl

theorem shellItems_eq_spelled : ∀ items : List (Document β),
    shellItems items = spelledItems inShell items
  | [] => rfl
  | d :: rest => by
    simp only [shellItems, spelledItems, shell_eq_spelled d, shellItems_eq_spelled rest]

end

mutual

theorem json_eq_spelled : ∀ d : Document β, d.json = d.spelled inJson
  | .hole _ | .term _ _ | .null | .int _ | .str _ => rfl
  | .object entries => by simp only [json, spelled, jsonEntries_eq_spelled entries]; rfl
  | .array items => by simp only [json, spelled, jsonItems_eq_spelled items]; rfl

theorem jsonEntries_eq_spelled : ∀ entries : List (String × Document β),
    jsonEntries entries = spelledEntries inJson entries
  | [] => rfl
  | (key, d) :: rest => by
    simp only [jsonEntries, spelledEntries, json_eq_spelled d, jsonEntries_eq_spelled rest]; rfl

theorem jsonItems_eq_spelled : ∀ items : List (Document β),
    jsonItems items = spelledItems inJson items
  | [] => rfl
  | d :: rest => by
    simp only [jsonItems, spelledItems, json_eq_spelled d, jsonItems_eq_spelled rest]

end

theorem spelledEntries_eq_map (s : Spelling) (entries : List (String × Document β)) :
    spelledEntries s entries = entries.map fun e => s.key e.1 ++ s.colon ++ e.2.spelled s := by
  induction entries with
  | nil => rfl
  | cons e rest ih => simp [spelledEntries, ih]

theorem spelledItems_eq_map (s : Spelling) (items : List (Document β)) :
    spelledItems s items = items.map (spelled s) := by
  induction items with
  | nil => rfl
  | cons d rest ih => simp [spelledItems, ih]

theorem labelsOfEntries_eq_flatMap (entries : List (String × Document β)) :
    labelsOfEntries entries = entries.flatMap fun e => e.2.labels := by
  induction entries with
  | nil => rfl
  | cons e rest ih => simp [labelsOfEntries, ih]

theorem labelsOfItems_eq_flatMap (items : List (Document β)) :
    labelsOfItems items = items.flatMap labels := by
  induction items with
  | nil => rfl
  | cons d rest ih => simp [labelsOfItems, ih]

/-- A document with the values of its holes. -/
def inSpelling (s : Spelling) (d : Document Value) : Statement := ⟨d.spelled s, d.labels⟩

theorem inSpelling_object (s : Spelling) (entries : List (String × Document Value)) :
    (object entries).inSpelling s =
      .plain "\x7b" ++
        .join s.separator
          (entries.map fun e => .plain (s.key e.1 ++ s.colon) ++ e.2.inSpelling s) ++
        .plain "\x7d" :=
  Statement.ext
    (by simp [inSpelling, spelled, spelledEntries_eq_map, Statement.join, Function.comp_def])
    (by simp [inSpelling, labels, labelsOfEntries_eq_flatMap, Statement.join, List.flatMap_map])

theorem inSpelling_array (s : Spelling) (items : List (Document Value)) :
    (array items).inSpelling s =
      .plain "[" ++ .join s.separator (items.map (inSpelling s)) ++ .plain "]" :=
  Statement.ext
    (by simp [inSpelling, spelled, spelledItems_eq_map, Statement.join, Function.comp_def])
    (by simp [inSpelling, labels, labelsOfItems_eq_flatMap, Statement.join, List.flatMap_map])

end Document

end DataCommand
