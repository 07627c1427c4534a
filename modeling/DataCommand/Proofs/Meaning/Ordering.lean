import DataCommand.Proofs.Projection

/-!
The order of rows that ORDER BY asks for. A server compares two rows key by key, and the first key
that tells them apart decides. A dialect without syntax for the place of nulls writes two keys where
others write one: first whether the key is null, and then the key. The two keys compare all rows as
the one key does, wherever the server would have put its nulls.
-/

namespace DataCommand

universe u

/-! ### Sort keys as they are written -/

/-- What a sort key is about. -/
inductive KeySource where
  /-- An expression in the words of the caller. -/
  | expression (text : String)
  /-- A column, or the projection that bears its name. -/
  | name (column : String)

def KeySource.text (s : Style) : KeySource → String
  | .expression text => text
  | .name column => s.identifier column

/-- A sort key as a server reads it. -/
inductive OrderingKey where
  /-- Whether something is null: false first, or true first if it is descending. -/
  | nullness (source : KeySource) (descending : Bool)
  /-- The values, with the place of nulls if one is told. -/
  | value (source : KeySource) (order : SortOrder) (nulls : NullsPlace)

def OrderingKey.text (s : Style) : OrderingKey → String
  | .nullness source descending =>
    source.text s ++ " IS NULL" ++ if descending then " DESC" else " ASC"
  | .value source order nulls =>
    source.text s ++ (order.keyword.map (" " ++ ·)).getD "" ++
      (nulls.keyword.map (" " ++ ·)).getD ""

/-- An item of ORDER BY. -/
structure SortItem where
  column : String
  term : Option String := none
  order : SortOrder := .default
  nulls : NullsPlace

namespace SortItem

def fragment (i : SortItem) : Fragment := .sortKey i.column i.term i.order i.nulls

/-- What an item is sorted by in some style. -/
def source (s : Style) (i : SortItem) : KeySource :=
  match i.term, s.projected i.column with
  | some t, _ => .expression t
  | none, some t => if s.dialect.ordersByAlias then .name i.column else .expression t
  | none, none => .name i.column

/-- The one key of an item where the place of its nulls can be told. -/
def nativeKey (s : Style) (i : SortItem) : OrderingKey := .value (i.source s) i.order i.nulls

/-- The two keys of an item, about the same, where it cannot. -/
def steeredKeys (s : Style) (i : SortItem) : List OrderingKey :=
  [.nullness (i.source s) (i.nulls == .first), .value (i.source s) i.order .default]

end SortItem

section Written
variable {s : Style}

theorem Style.key_eq_text (s : Style) (i : SortItem) :
    s.key s.dialect.ordersByAlias i.column i.term = (i.source s).text s := by
  unfold Style.key SortItem.source
  cases i.term with
  | some t => rfl
  | none =>
    cases s.projected i.column with
    | none => rfl
    | some t => cases s.dialect.ordersByAlias <;> rfl

theorem SortItem.write_native (hs : s.dialect.ordersNulls = true) (i : SortItem) :
    i.fragment.write s =
      .plain (Text.join ", " ([i.nativeKey s].map (OrderingKey.text s))) := by
  rw [fragment, Fragment.write, Style.sortKey_eq, Style.key_eq_text]
  simp only [Dialect.sortKeyText, hs, if_true, nativeKey, OrderingKey.text, List.map_singleton,
    Text.join]

theorem SortItem.write_steered (hs : s.dialect.ordersNulls = false)
    (hfallback : s.dialect.nullsFallback = .sortKey) {i : SortItem} (hi : i.nulls ≠ .default) :
    i.fragment.write s =
      .plain (Text.join ", " ((i.steeredKeys s).map (OrderingKey.text s))) := by
  rw [fragment, Fragment.write, Style.sortKey_eq, Style.key_eq_text]
  congr 1
  have hnone : (NullsPlace.default.keyword.map (" " ++ ·)).getD "" = "" := rfl
  cases hnulls : i.nulls with
  | default => exact absurd hnulls hi
  | first | last =>
    simp [Dialect.sortKeyText, hs, Dialect.nullsKey, hfallback, steeredKeys, hnulls,
      OrderingKey.text, hnone, Text.join, String.append_assoc]

/-- A list of items is written as the keys of its items, in order. -/
theorem SortItem.write_list (keys : SortItem → List OrderingKey) {items : List SortItem}
    (hsome : ∀ i ∈ items, keys i ≠ [])
    (h : ∀ i ∈ items,
      i.fragment.write s = .plain (Text.join ", " ((keys i).map (OrderingKey.text s)))) :
    (Fragment.commaSeparated (items.map fragment)).write s =
      .plain (Text.join ", " ((items.flatMap keys).map (OrderingKey.text s))) := by
  have hparts : (items.map fragment).map (Fragment.write s) =
      (items.map fun i => Text.join ", " ((keys i).map (OrderingKey.text s))).map
        Statement.plain := by
    rw [List.map_map, List.map_map]
    exact List.map_congr_left h
  rw [Fragment.commaSeparated, Fragment.write, Fragment.writeAll_eq_map, hparts,
    Statement.join_plain, List.map_flatMap, Text.join_flatMap ", " (by simpa using hsome)]

end Written

/-! ### Comparing rows -/

/-- A row as ORDER BY sees it: what its columns hold, and what the expressions of the caller come to
in it. -/
structure SortedRow (α : Type u) where
  column : String → Option α
  expression : String → Option α

/-- What a row holds for a sort key. The name of a projection stands for its expression. -/
def SortedRow.value {α : Type u} (terms : List (String × Option String)) (row : SortedRow α) :
    KeySource → Option α
  | .expression text => row.expression text
  | .name column =>
    match (terms.lookup column).join with
    | some text => row.expression text
    | none => row.column column

section Compare
variable {α : Type u} [Ord α]

/-- The order of two values, with nulls in front or at the end. -/
def compareNullable (descending nullsFirst : Bool) : Option α → Option α → Ordering
  | none, none => .eq
  | none, some _ => if nullsFirst then .lt else .gt
  | some _, none => if nullsFirst then .gt else .lt
  | some a, some b => if descending then compare b a else compare a b

/-- Nulls come first: where it is told, and else where the server is used to put them first. -/
def NullsPlace.isFirst (usual : SortOrder → Bool) (order : SortOrder) : NullsPlace → Bool
  | .first => true
  | .last => false
  | .default => usual order

/-- The order of two rows by one key; `usual` tells whether the server puts nulls first in some
direction unless it is told where. -/
def OrderingKey.compare (usual : SortOrder → Bool) (row row' : KeySource → Option α) :
    OrderingKey → Ordering
  | .nullness source descending =>
    if descending then Ord.compare (row' source).isNone (row source).isNone
    else Ord.compare (row source).isNone (row' source).isNone
  | .value source order nulls =>
    compareNullable (order == .desc) (nulls.isFirst usual order) (row source) (row' source)

/-- The order of two rows by several keys: the first key that tells them apart decides. -/
def compareRows (usual : SortOrder → Bool) (keys : List OrderingKey)
    (row row' : KeySource → Option α) : Ordering :=
  keys.foldr (fun key rest => (key.compare usual row row').then rest) .eq

variable {usual usual' : SortOrder → Bool} {row row' : KeySource → Option α}

theorem compareRows_append (keys others : List OrderingKey) :
    compareRows usual (keys ++ others) row row' =
      (compareRows usual keys row row').then (compareRows usual others row row') := by
  induction keys with
  | nil => rfl
  | cons key keys ih =>
    simp only [compareRows, List.cons_append, List.foldr_cons] at ih ⊢
    rw [ih, Ordering.then_assoc]

/-- Which of two values is null decides before the values do, and where both are null or neither is,
the place of nulls does not matter. -/
theorem compare_nullness_then (descending : Bool) {nullsFirst : Bool} (usually : Bool)
    (a b : Option α) :
    (if nullsFirst then compare b.isNone a.isNone else compare a.isNone b.isNone).then
        (compareNullable descending usually a b) =
      compareNullable descending nullsFirst a b := by
  cases a <;> cases b <;> cases nullsFirst <;> rfl

omit [Ord α] in
/-- An item holds the same in a row whichever dialect it is written for: where the name of its
projection may be used, the name stands for what is written elsewhere. -/
theorem SortedRow.value_source (row : SortedRow α) (i : SortItem) {s s' : Style}
    (hterms : s.terms = s'.terms) :
    row.value s.terms (i.source s) = row.value s'.terms (i.source s') := by
  have hvalue : ∀ s : Style, row.value s.terms (i.source s) =
      match i.term, (s.terms.lookup i.column).join with
      | some t, _ => row.expression t
      | none, some t => row.expression t
      | none, none => row.column i.column := by
    intro s
    unfold SortItem.source Style.projected
    cases i.term with
    | some t => rfl
    | none =>
      cases h : (s.terms.lookup i.column).join with
      | none => simp only [value, h]
      | some t => cases s.dialect.ordersByAlias <;> simp [value, h]
  rw [hvalue s, hvalue s', hterms]

/-- The two keys of an item compare rows as the one key does. -/
theorem compareRows_steeredKeys {i : SortItem} (hi : i.nulls ≠ .default) {s s' : Style}
    (hrow : row (i.source s) = row (i.source s')) (hrow' : row' (i.source s) = row' (i.source s')) :
    compareRows usual (i.steeredKeys s) row row' =
      (i.nativeKey s').compare usual' row row' := by
  have hfirst : i.nulls.isFirst usual' i.order = (i.nulls == .first) := by
    cases hnulls : i.nulls with
    | default => exact absurd hnulls hi
    | first | last => rfl
  have hone : ∀ o : Ordering, o.then .eq = o := by
    intro o
    cases o <;> rfl
  simp only [compareRows, SortItem.steeredKeys, SortItem.nativeKey, List.foldr_cons,
    List.foldr_nil, OrderingKey.compare, hone, hfirst, hrow, hrow']
  exact compare_nullness_then _ _ _ _

/-- Item by item, the steered keys compare rows as the native keys do. -/
theorem compareRows_steered {items : List SortItem} (hitems : ∀ i ∈ items, i.nulls ≠ .default)
    {s s' : Style} (hrow : ∀ i ∈ items, row (i.source s) = row (i.source s'))
    (hrow' : ∀ i ∈ items, row' (i.source s) = row' (i.source s')) :
    compareRows usual (items.flatMap (SortItem.steeredKeys s)) row row' =
      compareRows usual' (items.map (SortItem.nativeKey s')) row row' := by
  induction items with
  | nil => rfl
  | cons i rest ih =>
    simp only [List.forall_mem_cons] at hitems hrow hrow'
    have hhead : compareRows usual (i.steeredKeys s) row row' =
        (i.nativeKey s').compare usual' row row' :=
      compareRows_steeredKeys hitems.1 hrow.1 hrow'.1
    rw [List.flatMap_cons, compareRows_append, ih hitems.2 hrow.2 hrow'.2, hhead]
    rfl

end Compare

/-- Two keys for each item, about the same thing, order rows like one key that tells the place of
its nulls. The two ORDER BYs may be for any two dialects, one without syntax for the place and one
with it, and the servers may put nulls anywhere when they are not told. -/
theorem steered_nulls_sort_like_native {d native : Dialect} (hd : d.ordersNulls = false)
    (hfallback : d.nullsFallback = .sortKey) (hnative : native.ordersNulls = true)
    (quote quote' : Bool) (terms : List (String × Option String)) {items : List SortItem}
    (hitems : ∀ i ∈ items, i.nulls ≠ .default) :
    let s : Style := { dialect := d, quote, terms }
    let s' : Style := { dialect := native, quote := quote', terms }
    let list := Fragment.commaSeparated (items.map SortItem.fragment)
    let keys := items.flatMap (SortItem.steeredKeys s)
    let keys' := items.map (SortItem.nativeKey s')
    list.write s = .plain (Text.join ", " (keys.map (OrderingKey.text s))) ∧
      list.write s' = .plain (Text.join ", " (keys'.map (OrderingKey.text s'))) ∧
      ∀ {α : Type u} [Ord α] (usual usual' : SortOrder → Bool) (row row' : SortedRow α),
        compareRows usual keys (row.value terms) (row'.value terms) =
          compareRows usual' keys' (row.value terms) (row'.value terms) := by
  intro s s' list keys keys'
  refine ⟨?_, ?_, fun usual usual' row row' => ?_⟩
  · exact SortItem.write_list _ (by simp [SortItem.steeredKeys])
      fun i hi => SortItem.write_steered hd hfallback (hitems i hi)
  · have hlist : list.write s' = _ := SortItem.write_list (fun i => [i.nativeKey s']) (by simp)
      fun i _ => SortItem.write_native hnative i
    rwa [← List.map_eq_flatMap] at hlist
  · exact compareRows_steered hitems (fun i _ => row.value_source i rfl)
      fun i _ => row'.value_source i rfl

/-- A projected expression with its nulls first, and a reserved word with its nulls last. -/
def rankedItems : List SortItem := [
  { column := "rank", order := .desc, nulls := .first },
  { column := "key", nulls := .last }]

/-- Where the ranks are alike the keys decide, and a key that is null comes last. -/
theorem steered_nulls_sort_like_native_rankedItems :
    let terms := [("rank", some "max(r)")]
    let list := Fragment.commaSeparated (rankedItems.map SortItem.fragment)
    let s : Style := { dialect := .mysql, quote := false, terms }
    let s' : Style := { dialect := .postgres, quote := false, terms }
    let row : SortedRow Nat := ⟨fun c => if c = "key" then some 1 else none, fun _ => some 7⟩
    let row' : SortedRow Nat := ⟨fun _ => none, fun _ => some 7⟩
    (∀ i ∈ rankedItems, i.nulls ≠ .default) ∧
      list.write s = .plain
        "rank IS NULL DESC, rank DESC, \x60key\x60 IS NULL ASC, \x60key\x60" ∧
      list.write s' = .plain "rank DESC NULLS FIRST, \x22key\x22 NULLS LAST" ∧
      compareRows (fun order => order != .desc) (rankedItems.flatMap (SortItem.steeredKeys s))
          (row.value terms) (row'.value terms) = .lt ∧
      compareRows (fun order => order == .desc) (rankedItems.map (SortItem.nativeKey s'))
          (row.value terms) (row'.value terms) = .lt := by
  intro terms list s s' row row'
  have hitems : ∀ i ∈ rankedItems, i.nulls ≠ .default := by simp [rankedItems]
  obtain ⟨hsteered, hnative, horder⟩ := steered_nulls_sort_like_native
    (d := .mysql) rfl rfl (show Dialect.postgres.ordersNulls = true from rfl) false false terms
    hitems
  have hlt : compareRows (fun order => order == .desc) (rankedItems.map (SortItem.nativeKey s'))
      (row.value terms) (row'.value terms) = .lt := by decide +kernel
  refine ⟨hitems, hsteered.trans (congrArg Statement.plain (by decide +kernel)),
    hnative.trans (congrArg Statement.plain (by decide +kernel)), ?_, hlt⟩
  exact (horder _ (fun order => order == .desc) row row').trans hlt

end DataCommand
