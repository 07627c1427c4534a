import DataCommand.Dialect.Builtin
import DataCommand.Proofs.Agreement.Families
import DataCommand.Proofs.Rendering

/-!
Weakened inserts. An insert that is asked to do something about conflicts may come out as a plain
one. A warning is logged where the dialect says beforehand that it has no form for the conflict;
what is written is decided later, by the form itself or by a family that knows no forms at all.
-/

namespace DataCommand

/-! ### Forms beside the plain insert -/

/-- Texts differ if the words in front of them do, in a letter that both have. -/
theorem Text.append_ne_append {w w' : String} (n : Nat) (x y : String)
    (hn : n < w.toList.length) (hn' : n < w'.toList.length)
    (h : w.toList[n]? ≠ w'.toList[n]?) : w ++ x ≠ w' ++ y := by
  intro heq
  have hletter : (w ++ x).toList[n]? = (w' ++ y).toList[n]? := by rw [heq]
  rw [String.toList_append, String.toList_append, List.getElem?_append_left hn,
    List.getElem?_append_left hn'] at hletter
  exact h hletter

namespace Dialect
variable (d : Dialect) (quote : Bool) (table : String) (primaryKey columns terms : List String)

/-- A merge does not begin like an insert. -/
theorem mergeSource_append_ne_plainInsert (branches : String) :
    d.mergeSource quote table primaryKey columns terms ++ branches ≠
      d.plainInsert quote table columns terms := by
  unfold mergeSource plainInsert
  simp only [String.append_assoc]
  exact Text.append_ne_append 0 _ _ (by decide) (by decide) (by decide)

/-- A dialect that can skip has words for it. -/
theorem skippingInsert_ne_plainInsert (h : d.canSkip primaryKey = true) :
    d.skippingInsert quote table primaryKey columns terms ≠
      d.plainInsert quote table columns terms := by
  unfold skippingInsert
  cases hform : d.conflictForm with
  | none => simp [canSkip, hform] at h
  | duplicateKey =>
    simp only [plainInsert, String.append_assoc]
    -- the first letters in which the two differ are those of IGNORE and INTO
    exact Text.append_ne_append 8 _ _ (by decide) (by decide) (by decide)
  | onConflict =>
    intro heq
    exact absurd (String.append_eq_left_iff.1 heq) (by decide)
  | merge => exact d.mergeSource_append_ne_plainInsert quote table primaryKey columns terms _

theorem onDuplicateKey_eq_empty_iff :
    d.onDuplicateKey quote columns = "" ↔ columns = [] := by
  unfold onDuplicateKey
  cases columns with
  | nil => simp
  | cons => simp

theorem onConflict_ne_empty : d.onConflict quote primaryKey columns ≠ "" := by
  unfold onConflict
  simp

/-- A dialect that can overwrite has words for it, or for there being nothing to overwrite. Only
`ON DUPLICATE KEY UPDATE` is left out then. -/
theorem overwritingInsert_eq_plainInsert_iff (h : d.canOverwrite primaryKey = true) :
    d.overwritingInsert quote table primaryKey columns terms =
        d.plainInsert quote table columns terms ↔
      d.conflictForm = .duplicateKey ∧ outsideKey primaryKey columns = [] := by
  unfold overwritingInsert
  cases hform : d.conflictForm with
  | none => simp [canOverwrite, hform] at h
  | duplicateKey => simp [onDuplicateKey_eq_empty_iff]
  | onConflict => simp [onConflict_ne_empty]
  | merge =>
    simp only [String.append_assoc, reduceCtorEq, false_and, iff_false]
    exact d.mergeSource_append_ne_plainInsert quote table primaryKey columns terms _

/-- A form for conflicts writes the plain insert only if every column belongs to the key, and there
are no words for that. -/
theorem insertText_eq_plainInsert_iff {asked : OnConflict} (hasked : asked ≠ .plain)
    (h : d.resolves primaryKey asked = true) :
    d.insertText quote table primaryKey columns terms asked =
        d.plainInsert quote table columns terms ↔
      d.conflictForm = .duplicateKey ∧ asked = .overwrite ∧ ∀ c ∈ columns, c ∈ primaryKey := by
  cases asked with
  | plain => exact absurd rfl hasked
  | skip => simpa [insertText] using d.skippingInsert_ne_plainInsert _ _ _ _ _ h
  | overwrite =>
    simp [insertText, d.overwritingInsert_eq_plainInsert_iff _ _ _ _ _ h, outsideKey]

end Dialect

/-! ### Warnings -/

/-- The event says that an insert became a plain one. -/
def Event.isWeakened : Event → Bool
  | .weakened _ _ _ => true
  | _ => false

/-- How often some events say that an insert became a plain one. -/
def warnings (events : List Event) : Nat := events.countP Event.isWeakened

/-- An insert `s` that was asked for a way to meet conflicts, beside the plain insert `p` of the
same command. -/
structure BesidePlain (s p : Statement) (events : List Event) (silent : Prop) : Prop where
  args : s.args = p.args
  atMostOnce : warnings events ≤ 1
  /-- A warning tells that the plain insert was written. -/
  warned : ¬silent → (s.text = p.text ↔ warnings events = 1)
  /-- The plain insert was written without a warning. -/
  unwarned : silent → s.text = p.text ∧ warnings events = 0

/-- The warning depends on the dialect, whatever the family makes of a form for conflicts. -/
theorem BesidePlain.of_weaken {d : Dialect} {primaryKey : List String} {asked : OnConflict}
    (part : OnConflict → Statement) (earlier : Arguments) {o : Operation} {logged : Statement}
    {silent : Prop} (hargs : ∀ onConflict, (part onConflict).args = (part .plain).args)
    (hsilent : silent ↔
      d.resolves primaryKey asked = true ∧ (part asked).text = (part .plain).text) :
    BesidePlain ((part (asked.weaken d primaryKey).1).after earlier) ((part .plain).after earlier)
      ((asked.weaken d primaryKey).2 ++ [.rendered o d.name logged]) silent := by
  cases hresolves : d.resolves primaryKey asked <;>
    constructor <;>
      simp [OnConflict.weaken, hresolves, hsilent, hargs, Statement.after, warnings,
        List.countP_cons, Event.isWeakened]

section Families
variable {d : Dialect} {quote : Bool} {primaryKey : List String} {asked : OnConflict}

/-- A command with a row is inserted, in the way that is left of the one asked for. -/
theorem SqlCommand.render_insert {b : SqlCommand} (hrow : b.row ≠ []) (asked : OnConflict) :
    b.render (.insert primaryKey asked) d quote =
      completed .insert d b (asked.weaken d primaryKey).2
        (b.insertText d quote primaryKey (asked.weaken d primaryKey).1) := by
  simp [render, permit, Request.permit, Request.allowsUnfiltered, hrow]

/-- A relational insert is a plain one in silence only if all its columns belong to the key, in a
dialect that has no words for that. -/
theorem SqlCommand.besidePlain (hasked : asked ≠ .plain) {b : SqlCommand} (hrow : b.row ≠ []) :
    ∃ s p, (b.render (.insert primaryKey asked) d quote).result = .ok s ∧
      (b.render (.insert primaryKey .plain) d quote).result = .ok p ∧
      BesidePlain s p (b.render (.insert primaryKey asked) d quote).events
        (d.conflictForm = .duplicateKey ∧ asked = .overwrite ∧
          ∀ a ∈ b.row, a.column ∈ primaryKey) := by
  rw [render_insert hrow asked, render_insert hrow .plain]
  refine ⟨_, _, rfl, rfl,
    BesidePlain.of_weaken (b.insertText d quote primaryKey) b.args (fun _ => rfl) ⟨?_, ?_⟩⟩
  · rintro ⟨hform, rfl, hcolumns⟩
    have hresolves : d.resolves primaryKey .overwrite = true := by
      simp [Dialect.resolves, Dialect.canOverwrite, hform]
    refine ⟨hresolves, (d.insertText_eq_plainInsert_iff _ _ _ _ _ hasked hresolves).2 ?_⟩
    exact ⟨hform, rfl, List.forall_mem_map.2 hcolumns⟩
  · rintro ⟨hresolves, htext⟩
    have h := (d.insertText_eq_plainInsert_iff _ _ _ _ _ hasked hresolves).1 htext
    exact ⟨h.1, h.2.1, List.forall_mem_map.1 h.2.2⟩

/-- A document insert is always a plain one, and in silence wherever the dialect has a form for the
conflicts of relational inserts. -/
theorem DocumentCommand.besidePlain {b : DocumentCommand} (hrow : b.row ≠ []) :
    ∃ s p, (b.render (.insert primaryKey asked) d quote).result = .ok s ∧
      (b.render (.insert primaryKey .plain) d quote).result = .ok p ∧
      BesidePlain s p (b.render (.insert primaryKey asked) d quote).events
        (d.resolves primaryKey asked = true) := by
  have hrender : ∀ onConflict, b.render (.insert primaryKey onConflict) d quote =
      completed .insert d b (onConflict.weaken d primaryKey).2 (b.insertText d quote) := by
    intro onConflict
    simp [render, permit, Request.permit, Request.allowsUnfiltered, hrow, Request.operation,
      Request.warnings]
  rw [hrender asked, hrender .plain]
  exact ⟨_, _, rfl, rfl,
    BesidePlain.of_weaken (fun _ => b.insertText d quote) b.args (fun _ => rfl) (by simp)⟩

/-- A search server has no forms for conflicts either. Where the target is no index, there is no
insert and no warning. -/
theorem SearchCommand.besidePlain {b : SearchCommand} (hrow : b.content.row ≠ []) :
    (b.content.target.index.isOk = true →
      ∃ s p, (b.render (.insert primaryKey asked) d quote).result = .ok s ∧
        (b.render (.insert primaryKey .plain) d quote).result = .ok p ∧
        BesidePlain s p (b.render (.insert primaryKey asked) d quote).events
          (d.resolves primaryKey asked = true)) ∧
      ∀ e, b.content.target.index = .error e →
        ∀ onConflict, b.render (.insert primaryKey onConflict) d quote = ⟨.error e, b, []⟩ := by
  have hpermit : ∀ onConflict,
      b.content.permit (.insert primaryKey onConflict) = .ok () := by
    intro onConflict
    simp [DocumentCommand.permit, Request.permit, Request.allowsUnfiltered, hrow]
  refine ⟨fun hindex => ?_, fun e hindex onConflict => ?_⟩
  · obtain ⟨e, he⟩ := Target.exists_endpoint hindex b.layout .insert
    have hendpoint : b.endpoint .insert = .ok e := he
    let document := Assignment.object b.content.row
    simp only [render, hpermit, hendpoint, Request.operation, Request.warnings, body]
    exact ⟨_, _, rfl, rfl, BesidePlain.of_weaken
      (fun _ => ⟨e.text ++ " " ++ document.json, document.labels⟩) b.content.args (fun _ => rfl)
      (by simp)⟩
  · have hendpoint : b.endpoint .insert = .error e := by
      simp [endpoint, Target.endpoint, hindex, Except.map]
    simp only [render, hpermit, hendpoint, Request.operation]

end Families

/-- An insert that is asked for a way to meet conflicts binds the values of the plain insert, and is
written like it exactly when one warning says so. It is weakened in silence in two cases: if
`ON DUPLICATE KEY UPDATE` has no column to overwrite, and if a family without forms for conflicts is
rendered for a dialect that has one. -/
theorem plain_inserts_warned_unless_silent (d : Dialect) (quote : Bool) (primaryKey : List String)
    {asked : OnConflict} (hasked : asked ≠ .plain) :
    (∀ b : SqlCommand, b.row ≠ [] →
      ∃ s p, (b.render (.insert primaryKey asked) d quote).result = .ok s ∧
        (b.render (.insert primaryKey .plain) d quote).result = .ok p ∧
        BesidePlain s p (b.render (.insert primaryKey asked) d quote).events
          (d.conflictForm = .duplicateKey ∧ asked = .overwrite ∧
            ∀ a ∈ b.row, a.column ∈ primaryKey)) ∧
    (∀ b : DocumentCommand, b.row ≠ [] →
      ∃ s p, (b.render (.insert primaryKey asked) d quote).result = .ok s ∧
        (b.render (.insert primaryKey .plain) d quote).result = .ok p ∧
        BesidePlain s p (b.render (.insert primaryKey asked) d quote).events
          (d.resolves primaryKey asked = true)) ∧
    ∀ b : SearchCommand, b.content.row ≠ [] →
      (b.content.target.index.isOk = true →
        ∃ s p, (b.render (.insert primaryKey asked) d quote).result = .ok s ∧
          (b.render (.insert primaryKey .plain) d quote).result = .ok p ∧
          BesidePlain s p (b.render (.insert primaryKey asked) d quote).events
            (d.resolves primaryKey asked = true)) ∧
        ∀ e, b.content.target.index = .error e →
          ∀ onConflict, b.render (.insert primaryKey onConflict) d quote = ⟨.error e, b, []⟩ :=
  ⟨fun _ => SqlCommand.besidePlain hasked, fun _ => DocumentCommand.besidePlain,
    fun _ => SearchCommand.besidePlain⟩

/-- A row with no column but the key. -/
def keyOnly : SqlCommand :=
  { target := { table := "t" }, row := [⟨"id", .int 1, none⟩] }

/-- An overwriting insert of a key alone is a plain insert in one dialect, without a warning, and
one that does nothing on a conflict in another. -/
theorem plain_inserts_warned_unless_silent_keyOnly :
    let insert (d : Dialect) (asked : OnConflict) := keyOnly.render (.insert ["id"] asked) d false
    let text (r : Rendered SqlCommand) := r.result.toOption.map (·.text)
    text (insert .mysql .overwrite) = text (insert .mysql .plain) ∧
      warnings (insert .mysql .overwrite).events = 0 ∧
      text (insert .postgres .overwrite) ≠ text (insert .postgres .plain) ∧
      warnings (insert .postgres .overwrite).events = 0 := by
  intro insert text
  have hasked : OnConflict.overwrite ≠ .plain := by simp
  obtain ⟨s, p, hs, hp, h⟩ := (plain_inserts_warned_unless_silent .mysql false ["id"] hasked).1
    keyOnly (by simp [keyOnly])
  obtain ⟨s', p', hs', hp', h'⟩ :=
    (plain_inserts_warned_unless_silent .postgres false ["id"] hasked).1 keyOnly
      (by simp [keyOnly])
  have hsilent := h.unwarned ⟨rfl, rfl, by simp [keyOnly]⟩
  have hwarned := h'.warned (by simp [Dialect.postgres])
  have hnone : warnings (insert .postgres .overwrite).events = 0 := by rfl
  refine ⟨?_, hsilent.2, fun htext => ?_, hnone⟩
  · simp only [text, insert, hs, hp, Except.toOption, Option.map_some, hsilent.1]
  · simp only [text, insert, hs', hp', Except.toOption, Option.map_some, Option.some.injEq] at htext
    have hone : warnings (insert .postgres .overwrite).events = 1 := hwarned.1 htext
    omega

end DataCommand
