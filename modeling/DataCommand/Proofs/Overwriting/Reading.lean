import DataCommand.Proofs.Identifier
import DataCommand.Proofs.Overwriting
import DataCommand.Text.Split

/-!
Overwriting inserts read back. What follows the insert itself is taken apart again into the columns
by which a row is found, the columns that are overwritten, each with the column its value comes
from, and the columns that a MERGE inserts. Names between quotes can hold anything; without quotes
they have to be words.
-/

namespace DataCommand

/-- What the words behind an insert say. -/
structure ConflictClause where
  /-- The columns by which a row is found, each with the column of the incoming row it is compared
  to, if they are named. -/
  found : Option (List (String × String)) := none
  /-- The columns that are overwritten, each with the column its new value comes from. -/
  assigned : List (String × String)
  /-- The columns of a new row, each with the column its value comes from, if they are named
  here. -/
  inserted : Option (List (String × String)) := none
  deriving DecidableEq

namespace ConflictClause

/-! ### The reader -/

/-- What follows a word that a text begins with. -/
def after? (word : String) (cs : List Char) : Option (List Char) := word.toList.isPrefixOf? cs

/-- The characters of a word. -/
def isWordChar (c : Char) : Bool := c.isAlphanum || c == '_'

/-- Reads items with a separator between each two neighbours. -/
def readList {α : Type} (item : List Char → Option (α × List Char)) (separator : String)
    (cs : List Char) : Option (List α × List Char) :=
  match item cs with
  | none => none
  | some (x, rest) =>
    match after? separator rest with
    | none => some ([x], rest)
    | some more =>
      if more.length < cs.length then
        (readList item separator more).map fun r => (x :: r.1, r.2)
      else none
termination_by cs.length

section Reader
variable (d : Dialect)

/-- Reads a name between quotes, or a word. -/
def readName (cs : List Char) : Option (String × List Char) :=
  if cs.head? = some d.leftQuote then
    (readDelimited d.leftQuote d.rightQuote cs).map fun r => (String.ofList r.1, r.2)
  else if cs.takeWhile isWordChar = [] then none
  else some (String.ofList (cs.takeWhile isWordChar), cs.dropWhile isWordChar)

/-- Reads a name behind a word. -/
def readSource (before : String) (cs : List Char) : Option (String × List Char) :=
  (after? before cs).bind (readName d)

/-- Reads two names with words around them. -/
def readPair (before between behind : String) (cs : List Char) :
    Option ((String × String) × List Char) := do
  let (target, cs) ← readSource d before cs
  let (source, cs) ← readSource d between cs
  let cs ← after? behind cs
  return ((target, source), cs)

/-- Reads two lists of the same length side by side. -/
def readParallel (between before : String) (cs : List Char) :
    Option (List (String × String) × List Char) := do
  let (targets, cs) ← readList (readName d) ", " cs
  let cs ← after? between cs
  let (sources, cs) ← readList (readSource d before) ", " cs
  let cs ← after? ")" cs
  if targets.length = sources.length then return (targets.zip sources, cs) else none

/-- Reads what is overwritten, behind the words for it; where they are missing it is nothing. -/
def readUpdate (words between behind : String) (cs : List Char) :
    Option (List (String × String) × List Char) :=
  match after? words cs with
  | none => some ([], cs)
  | some cs => readList (readPair d "" between behind) ", " cs

/-- Reads what is overwritten in one of the three forms behind ON CONFLICT. -/
def readDoUpdate (cs : List Char) : Option (List (String × String) × List Char) :=
  match after? " DO NOTHING" cs with
  | some cs => some ([], cs)
  | none => do
    let cs ← after? " DO UPDATE SET " cs
    -- A bracket does not begin a name, so lists in brackets are never taken for a pair.
    match readPair d "" " = EXCLUDED." "" cs with
    | some (p, cs) => some ([p], cs)
    | none => (after? "(" cs).bind (readParallel d ") = (" "EXCLUDED.")

/-- What was read, if that was all. -/
def atEnd {α : Type} : α × List Char → Option α
  | (x, []) => some x
  | (_, _ :: _) => none

/-- Reads what follows an insert in the form of the dialect. -/
def read (cs : List Char) : Option ConflictClause :=
  match d.conflictForm with
  | .none => none
  | .duplicateKey => do
    let assigned ←
      (readUpdate d " ON DUPLICATE KEY UPDATE " " = VALUES(" ")" cs).bind atEnd
    return { assigned }
  | .onConflict => do
    let cs ← after? " ON CONFLICT (" cs
    let (key, cs) ← readList (readName d) ", " cs
    let cs ← after? ")" cs
    let assigned ← (readDoUpdate d cs).bind atEnd
    return { found := some (key.map fun k => (k, k)), assigned }
  | .merge => do
    let cs ← after? " ON (" cs
    let (found, cs) ← readList (readPair d "TMP." " = SRC." "") " AND " cs
    let cs ← after? ")" cs
    let (assigned, cs) ← readUpdate d " WHEN MATCHED THEN UPDATE SET " " = SRC." "" cs
    let cs ← after? " WHEN NOT MATCHED THEN INSERT (" cs
    let inserted ← (readParallel d ") VALUES (" "SRC." cs).bind atEnd
    return { found := some found, assigned, inserted := some inserted }

end Reader

/-! ### Names -/

@[simp]
theorem after?_append (word : String) (rest : List Char) :
    after? word (word.toList ++ rest) = some rest :=
  List.isPrefixOf?_eq_some_iff_append_eq.2 rfl

/-- The characters that follow names. -/
def nameEnds : List Char := [' ', ',', ')']

/-- The text does not go on with a name. -/
def EndsName (cs : List Char) : Prop := ∀ c ∈ cs.head?, c ∈ nameEnds

/-- A name that stands in front of the word ends there. -/
def endsNames (word : String) : Bool := word.toList.head?.any (· ∈ nameEnds)

theorem endsName_nil : EndsName [] := by simp [EndsName]

theorem endsName_append {word : String} (hword : endsNames word = true) (rest : List Char) :
    EndsName (word.toList ++ rest) := by
  unfold endsNames at hword
  intro c hc
  cases h : word.toList with
  | nil => simp [h] at hword
  | cons first tail => simp_all

theorem endsName_behind {tail : List Char} (htail : EndsName tail) :
    EndsName ("".toList ++ tail) := by
  simpa using htail

/-- The quotes of a dialect are told from words and from what stands around names. -/
structure Readable (d : Dialect) : Prop where
  delimited : d.naming = .delimited
  left : isWordChar d.leftQuote = false
  right : d.rightQuote ∉ nameEnds
  opening : d.leftQuote ≠ '('

theorem Readable.of_sql {backend : Backend} (hsql : backend.family = .sql) :
    Readable backend.dialect := by
  cases backend with
  | standard | mysql | postgres | oracle => exact ⟨rfl, by decide, by decide, by decide⟩
  | mongo | elastic6 | elastic7 => cases hsql

/-- A name that is read back: any name between quotes, and words. -/
def Legible (quote : Bool) (name : String) : Prop :=
  quote = true ∨ name ≠ "" ∧ name.toList.all isWordChar = true

section Name
variable {d : Dialect} {quote : Bool} {name : String} {rest : List Char}

theorem readName_delimit (hright : rest.head? ≠ some d.rightQuote) :
    readName d ((delimit d.leftQuote d.rightQuote name).toList ++ rest) = some (name, rest) := by
  have hhead : ((delimit d.leftQuote d.rightQuote name).toList ++ rest).head? =
      some d.leftQuote := by
    simp [delimit]
  rw [readName, if_pos hhead, readDelimited_delimit d.leftQuote name hright]
  simp

theorem readName_word (hd : Readable d) (hsome : name ≠ "")
    (hword : ∀ c ∈ name.toList, isWordChar c = true) (hrest : EndsName rest) :
    readName d (name.toList ++ rest) = some (name, rest) := by
  have hends : nameEnds.all (isWordChar · = false) = true := by decide
  obtain ⟨htake, hdrop⟩ := Text.span_append hword fun c hc => by
    simpa using List.all_eq_true.1 hends c (hrest c hc)
  have hnil : name.toList ≠ [] := by simpa using hsome
  have hhead : (name.toList ++ rest).head? ≠ some d.leftQuote := by
    obtain ⟨first, tail, hcons⟩ := List.exists_cons_of_ne_nil hnil
    have hfirst := hword first (by simp [hcons])
    intro hquote
    rw [hcons, List.cons_append, List.head?_cons, Option.some.injEq] at hquote
    rw [hquote, hd.left] at hfirst
    cases hfirst
  rw [readName, if_neg hhead, htake, hdrop, if_neg hnil, String.ofList_toList]

theorem readName_identifier (hd : Readable d) (hname : Legible quote name)
    (hrest : EndsName rest) :
    readName d ((d.identifier quote name).toList ++ rest) = some (name, rest) := by
  by_cases hquoted : (quote || d.reserves name) = true
  · have hright : rest.head? ≠ some d.rightQuote := fun h => hd.right (hrest _ h)
    rw [Dialect.identifier, hd.delimited]
    simp only [hquoted, if_true]
    exact readName_delimit hright
  · obtain ⟨hplain, -⟩ : quote = false ∧ _ := by simpa using hquoted
    obtain ⟨hsome, hword⟩ := hname.resolve_left (by simp [hplain])
    rw [Dialect.identifier, hd.delimited]
    simp only [hquoted]
    exact readName_word hd hsome (List.all_eq_true.1 hword) hrest

theorem readSource_identifier (hd : Readable d) (before : String) (hname : Legible quote name)
    (hrest : EndsName rest) :
    readSource d before (before.toList ++ ((d.identifier quote name).toList ++ rest)) =
      some (name, rest) := by
  rw [readSource, after?_append, Option.bind_some, readName_identifier hd hname hrest]

end Name

/-! ### Lists of names -/

section Lists
variable {α : Type} {item : List Char → Option (α × List Char)} {print : α → String}
  {rest : List Char}

theorem readList_single {separator : String} {x : α} {cs : List Char}
    (hitem : item cs = some (x, rest)) (hstop : after? separator rest = none) :
    readList item separator cs = some ([x], rest) := by
  rw [readList, hitem]
  simp only [hstop]

theorem readList_cons {separator : String} {x : α} {text : List Char} (hsome : separator ≠ "")
    (hitem : item (text ++ (separator.toList ++ rest)) = some (x, separator.toList ++ rest)) :
    readList item separator (text ++ (separator.toList ++ rest)) =
      (readList item separator rest).map fun r => (x :: r.1, r.2) := by
  have hlength : rest.length < (text ++ (separator.toList ++ rest)).length := by
    have hpos : 0 < separator.toList.length := List.length_pos_iff.2 (by simpa using hsome)
    simp only [List.length_append]
    omega
  rw [readList, hitem]
  simp only [after?_append, hlength, if_true]

/-- Items that are joined by a separator are read one by one, if each of them ends where the
separator or the rest begins. -/
theorem readList_join (separator : String) (hseparator : endsNames separator = true)
    (hrest : EndsName rest) (hstop : after? separator rest = none) {xs : List α} (hxs : xs ≠ [])
    (hitem : ∀ x ∈ xs, ∀ tail, EndsName tail →
      item ((print x).toList ++ tail) = some (x, tail)) :
    readList item separator ((Text.join separator (xs.map print)).toList ++ rest) =
      some (xs, rest) := by
  have hsome : separator ≠ "" := by
    rintro rfl
    cases hseparator
  induction xs with
  | nil => exact absurd rfl hxs
  | cons x xs ih =>
    obtain ⟨hx, hmore⟩ := List.forall_mem_cons.1 hitem
    -- The last item ends at the rest, and every other one at the separator behind it.
    by_cases hend : xs = []
    · rw [hend]
      exact readList_single (hx rest hrest) hstop
    · have hfirst := hx _ (endsName_append hseparator
        ((Text.join separator (xs.map print)).toList ++ rest))
      have hmap : xs.map print ≠ [] := by simpa using hend
      rw [List.map_cons, Text.join_cons hmap, String.toList_append, String.toList_append,
        List.append_assoc, List.append_assoc, readList_cons hsome hfirst, ih hend hmore]
      rfl

end Lists

section Pairs
variable {d : Dialect} {quote : Bool} {rest : List Char}

theorem readPair_pairText (hd : Readable d) (before between behind : String)
    (hbetween : endsNames between = true) (hrest : EndsName (behind.toList ++ rest))
    {p : String × String} (htarget : Legible quote p.1) (hsource : Legible quote p.2) :
    readPair d before between behind
        ((Overwriting.pairText d quote before between behind p).toList ++ rest) =
      some (p, rest) := by
  simp only [Overwriting.pairText, String.toList_append, List.append_assoc, readPair]
  rw [readSource_identifier hd before htarget (endsName_append hbetween _)]
  simp only [Option.bind_eq_bind, Option.bind_some]
  rw [readSource_identifier hd between hsource hrest]
  simp

theorem readList_identifiers (hd : Readable d) {names : List String} (hsome : names ≠ [])
    (hnames : ∀ n ∈ names, Legible quote n) (hrest : EndsName rest)
    (hstop : after? ", " rest = none) :
    readList (readName d) ", " ((d.identifiers quote names).toList ++ rest) =
      some (names, rest) :=
  readList_join ", " (by decide) hrest hstop hsome fun n hn _ htail =>
    readName_identifier hd (hnames n hn) htail

variable {pairs : List (String × String)}

theorem readList_pairText (hd : Readable d) (before between behind separator : String)
    (hbetween : endsNames between = true)
    (hbehind : ∀ {tail}, EndsName tail → EndsName (behind.toList ++ tail))
    (hseparator : endsNames separator = true) (hsome : pairs ≠ [])
    (hpairs : ∀ p ∈ pairs, Legible quote p.1 ∧ Legible quote p.2) (hrest : EndsName rest)
    (hstop : after? separator rest = none) :
    readList (readPair d before between behind) separator
        ((Text.join separator
          (pairs.map (Overwriting.pairText d quote before between behind))).toList ++ rest) =
      some (pairs, rest) :=
  readList_join separator hseparator hrest hstop hsome fun p hp _ htail =>
    have ⟨htarget, hsource⟩ := hpairs p hp
    readPair_pairText hd before between behind hbetween (hbehind htail) htarget hsource

theorem readParallel_parallelText (hd : Readable d) (between before : String)
    (hbetween : endsNames between = true)
    (hstop : ∀ tail, after? ", " (between.toList ++ tail) = none) (hsome : pairs ≠ [])
    (hpairs : ∀ p ∈ pairs, Legible quote p.1 ∧ Legible quote p.2) (rest : List Char) :
    readParallel d between before
        ((Overwriting.parallelText d quote between before pairs).toList ++ rest) =
      some (pairs, rest) := by
  have htargets : ∀ n ∈ pairs.map Prod.fst, Legible quote n :=
    List.forall_mem_map.2 fun p hp => (hpairs p hp).1
  have hsources : ∀ n ∈ pairs.map Prod.snd, ∀ tail, EndsName tail →
      readSource d before ((before ++ d.identifier quote n).toList ++ tail) = some (n, tail) := by
    intro n hn tail htail
    obtain ⟨p, hp, rfl⟩ := List.mem_map.1 hn
    rw [String.toList_append, List.append_assoc]
    exact readSource_identifier hd before (hpairs p hp).2 htail
  have hclosing : EndsName (")".toList ++ rest) := endsName_append (by decide) rest
  have hread := readList_join ", " (by decide) hclosing rfl (by simpa using hsome)
    hsources
  simp only [List.map_map, Function.comp_def] at hread
  have hzip : (pairs.map Prod.fst).zip (pairs.map Prod.snd) = pairs := by
    rw [List.zip_map']
    exact List.map_id pairs
  simp only [readParallel, Overwriting.parallelText, String.toList_append, List.append_assoc]
  rw [readList_identifiers hd (by simpa using hsome) htargets (endsName_append hbetween _)
    (hstop _)]
  simp only [Option.bind_eq_bind, Option.bind_some, after?_append, hread]
  simp only [List.length_map, if_true, hzip]
  rfl

theorem readUpdate_updateText (hd : Readable d) (words between behind : String)
    (hbetween : endsNames between = true)
    (hbehind : ∀ {tail}, EndsName tail → EndsName (behind.toList ++ tail))
    (hpairs : ∀ p ∈ pairs, Legible quote p.1 ∧ Legible quote p.2) (hrest : EndsName rest)
    (hstop : after? ", " rest = none) (hwords : after? words rest = none) :
    readUpdate d words between behind
        ((Overwriting.updateText d quote words between behind pairs).toList ++ rest) =
      some (pairs, rest) := by
  cases pairs with
  | nil => simp [readUpdate, Overwriting.updateText, hwords]
  | cons p pairs =>
    rw [readUpdate, Overwriting.updateText, String.toList_append, List.append_assoc, after?_append]
    · exact readList_pairText hd "" between behind ", " hbetween hbehind (by decide)
        (List.cons_ne_nil p pairs) hpairs hrest hstop
    · simp

theorem readPair_bracket (hd : Readable d) (between behind : String) (cs : List Char) :
    readPair d "" between behind ("(".toList ++ cs) = none := by
  have hname : readName d ("(".toList ++ cs) = none := by
    have hopening : ("(".toList ++ cs).head? ≠ some d.leftQuote := by
      simpa using hd.opening.symm
    rw [readName, if_neg hopening]
    rfl
  have hsource : readSource d "" ("(".toList ++ cs) = none := hname
  rw [readPair, hsource]
  rfl

theorem readDoUpdate_doUpdateText (hd : Readable d)
    (hpairs : ∀ p ∈ pairs, Legible quote p.1 ∧ Legible quote p.2) :
    readDoUpdate d (Overwriting.doUpdateText d quote pairs).toList = some (pairs, []) := by
  have hnothing (cs : List Char) :
      after? " DO NOTHING" (" DO UPDATE SET ".toList ++ cs) = none := rfl
  unfold Overwriting.doUpdateText
  match pairs with
  | [] => simp [readDoUpdate, after?, List.isPrefixOf?]
  | [p] =>
    obtain ⟨htarget, hsource⟩ := hpairs p (List.mem_singleton_self p)
    have hpair := readPair_pairText hd "" " = EXCLUDED." "" (by decide)
      (endsName_behind endsName_nil) htarget hsource
    rw [List.append_nil] at hpair
    simp only [String.toList_append, readDoUpdate, hnothing, after?_append, Option.bind_eq_bind,
      Option.bind_some, hpair]
  | p :: q :: pairs =>
    have hsplit : " DO UPDATE SET (".toList = " DO UPDATE SET ".toList ++ "(".toList := by decide
    have hparallel := readParallel_parallelText hd ") = (" "EXCLUDED." (by decide) (fun _ => rfl)
      (List.cons_ne_nil p (q :: pairs)) hpairs []
    rw [List.append_nil] at hparallel
    simp only [String.toList_append, hsplit, List.append_assoc, readDoUpdate, hnothing,
      after?_append, Option.bind_eq_bind, Option.bind_some, readPair_bracket hd, hparallel]

end Pairs

/-! ### The whole clause -/

section Clause
variable {d : Dialect} {quote : Bool} {o : Overwriting}

/-- All names of an overwriting insert are legible. -/
structure AllLegible (quote : Bool) (o : Overwriting) : Prop where
  columns : ∀ c ∈ o.columns, Legible quote c
  key : ∀ k ∈ o.key, Legible quote k
  assigned : ∀ p ∈ o.assigned, Legible quote p.1 ∧ Legible quote p.2

theorem read_duplicateKey (hd : Readable d) (hform : d.conflictForm = .duplicateKey)
    (ho : AllLegible quote o) :
    read d (o.conflict d quote).toList = some { assigned := o.assigned } := by
  have hbehind (tail : List Char) : EndsName (")".toList ++ tail) := endsName_append (by decide) _
  have hupdate := readUpdate_updateText hd " ON DUPLICATE KEY UPDATE " " = VALUES(" ")"
    (by decide) (fun _ => hbehind _) ho.assigned endsName_nil rfl rfl
  rw [List.append_nil] at hupdate
  simp only [read, hform, Overwriting.conflict, hupdate]
  rfl

theorem forall_mem_doubled {names : List String} (hnames : ∀ n ∈ names, Legible quote n) :
    ∀ p ∈ names.map fun n => (n, n), Legible quote p.1 ∧ Legible quote p.2 :=
  List.forall_mem_map.2 fun n hn => ⟨hnames n hn, hnames n hn⟩

theorem read_merge (hd : Readable d) (hform : d.conflictForm = .merge) (hkey : o.key ≠ [])
    (hcolumns : o.columns ≠ []) (ho : AllLegible quote o) :
    read d (o.conflict d quote).toList =
      some
        { found := some (o.key.map fun k => (k, k))
          assigned := o.assigned
          inserted := some (o.columns.map fun c => (c, c)) } := by
  have hinserted := readParallel_parallelText hd ") VALUES (" "SRC." (by decide)
    (fun _ => rfl) (by simpa using hcolumns) (forall_mem_doubled ho.columns) []
  rw [List.append_nil] at hinserted
  simp only [read, hform, Overwriting.conflict, String.toList_append, List.append_assoc,
    Option.bind_eq_bind, after?_append, Option.bind_some]
  rw [readList_pairText hd "TMP." " = SRC." "" " AND " (by decide) endsName_behind (by decide)
    (by simpa using hkey) (forall_mem_doubled ho.key) (endsName_append (by decide) _) rfl]
  simp only [after?_append, Option.bind_some]
  rw [readUpdate_updateText hd " WHEN MATCHED THEN UPDATE SET " " = SRC." "" (by decide)
    endsName_behind ho.assigned (endsName_append (by decide) _) rfl rfl]
  simp only [after?_append, Option.bind_some, hinserted]
  rfl

theorem read_onConflict (hd : Readable d) (hform : d.conflictForm = .onConflict)
    (hkey : o.key ≠ []) (ho : AllLegible quote o) :
    read d (o.conflict d quote).toList =
      some { found := some (o.key.map fun k => (k, k)), assigned := o.assigned } := by
  simp only [read, hform, Overwriting.conflict, String.toList_append, List.append_assoc,
    Option.bind_eq_bind, after?_append, Option.bind_some]
  rw [readList_identifiers hd hkey ho.key (endsName_append (by decide) _) rfl]
  simp only [after?_append, Option.bind_some, readDoUpdate_doUpdateText hd ho.assigned]
  rfl

/-- The insert of a row is legible if its key and its columns are. -/
theorem allLegible_ofRow {primaryKey columns terms : List String}
    (hkey : ∀ k ∈ primaryKey, Legible quote k) (hcolumns : ∀ c ∈ columns, Legible quote c) :
    AllLegible quote (.ofRow primaryKey columns terms) where
  columns := hcolumns
  key := hkey
  assigned := forall_mem_doubled fun _ hc => hcolumns _ (Overwriting.mem_outsideKey.1 hc).1

end Clause

end ConflictClause

/-- An overwriting insert inserts the whole row, and of a stored row it overwrites exactly the
columns outside the key, each once, in order and with its own new value. That is what the statement
of every backend that takes such inserts says: it is the insert with the words for those columns
behind it, and as long as the names are legible they are read back from it, together with the key by
which a row is found and, in a MERGE, the columns of a new row. -/
theorem overwriting_inserts_write_outside_key (primaryKey terms : List String)
    {columns : List String} (hcolumns : columns.Nodup) (hsome : columns ≠ []) :
    let o := Overwriting.ofRow primaryKey columns terms
    o.WritesOutsideKey primaryKey columns terms ∧
    ∀ (backend : Backend) (quote : Bool) (table : String),
      let d := backend.dialect
      d.canOverwrite primaryKey = true →
      d.overwritingInsert quote table primaryKey columns terms =
          o.insertion d quote table ++ o.conflict d quote ∧
        ((∀ n ∈ primaryKey ++ columns, ConflictClause.Legible quote n) →
          ConflictClause.read d (o.conflict d quote).toList =
            some
              { found := if backend = .mysql then none else some (primaryKey.map fun k => (k, k))
                assigned := o.assigned
                inserted :=
                  if backend = .oracle then some (columns.map fun c => (c, c)) else none }) := by
  intro o
  refine ⟨Overwriting.writesOutsideKey_ofRow hcolumns, ?_⟩
  intro backend quote table d hcan
  have hkeyed (h : (!primaryKey.isEmpty) = true) : primaryKey ≠ [] := by simpa using h
  have hlegible (hnames : ∀ n ∈ primaryKey ++ columns, ConflictClause.Legible quote n) :
      ConflictClause.AllLegible quote o :=
    ConflictClause.allLegible_ofRow (fun k hk => hnames k (List.mem_append_left _ hk))
      fun c hc => hnames c (List.mem_append_right _ hc)
  cases backend with
  | mysql =>
    refine ⟨Overwriting.overwritingInsert_eq quote table _ _ _ (by decide), fun hnames => ?_⟩
    exact ConflictClause.read_duplicateKey (.of_sql rfl) rfl (hlegible hnames)
  | postgres =>
    refine ⟨Overwriting.overwritingInsert_eq quote table _ _ _ (by decide), fun hnames => ?_⟩
    exact ConflictClause.read_onConflict (.of_sql rfl) rfl (hkeyed hcan) (hlegible hnames)
  | oracle =>
    refine ⟨Overwriting.overwritingInsert_eq quote table _ _ _ (by decide), fun hnames => ?_⟩
    exact ConflictClause.read_merge (.of_sql rfl) rfl (hkeyed hcan) hsome (hlegible hnames)
  | standard | mongo | elastic6 | elastic7 => cases hcan

/-- Of four columns two are the key, in an order of its own, and two are overwritten. -/
theorem overwriting_inserts_write_outside_key_wideKey :
    ["a", "k", "b", "l"].Nodup ∧ ["a", "k", "b", "l"] ≠ [] ∧
      Dialect.postgres.canOverwrite ["l", "k"] = true ∧
      (∀ n ∈ ["l", "k", "a", "k", "b", "l"], ConflictClause.Legible false n) ∧
      (Overwriting.ofRow ["l", "k"] ["a", "k", "b", "l"] ["?", "?", "?", "?"]).assigned =
        [("a", "a"), ("b", "b")] ∧
      Dialect.postgres.overwritingInsert false "t" ["l", "k"] ["a", "k", "b", "l"]
          ["?", "?", "?", "?"] =
        "INSERT INTO t (a, k, b, l) VALUES (?, ?, ?, ?)" ++
          " ON CONFLICT (l, k) DO UPDATE SET (a, b) = (EXCLUDED.a, EXCLUDED.b)" ∧
      ConflictClause.read .postgres
          " ON CONFLICT (l, k) DO UPDATE SET (a, b) = (EXCLUDED.a, EXCLUDED.b)".toList =
        some { found := some [("l", "l"), ("k", "k")], assigned := [("a", "a"), ("b", "b")] } := by
  have hlegible : ∀ n ∈ ["l", "k", "a", "k", "b", "l"], ConflictClause.Legible false n := by
    intro n hn
    refine .inr ?_
    revert n
    decide
  have hnodup : ["a", "k", "b", "l"].Nodup := by decide
  have hsome : ["a", "k", "b", "l"] ≠ [] := by decide
  have hwrites := overwriting_inserts_write_outside_key ["l", "k"] ["?", "?", "?", "?"] hnodup hsome
  obtain ⟨hinsert, hread⟩ := hwrites.2 .postgres false "t" rfl
  refine ⟨hnodup, hsome, rfl, hlegible, by decide, hinsert.trans ?_, ?_⟩
  · decide +kernel
  · exact hread hlegible

end DataCommand
