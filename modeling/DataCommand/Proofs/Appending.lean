import DataCommand.Dialect.Builtin
import DataCommand.Proofs.Rendering

/-!
Rendering only appends. What a request is written as does not depend on the values that were bound
before it: its own values come behind those, and nothing else of the command changes. So a command
can be rendered again, and in one dialect after another, and all there is to clear in between are
the values.
-/

namespace DataCommand

/-- A family in which the bound values of a command can be exchanged for others, and in which a
statement puts its values behind them, whatever they are. -/
class Appending (σ : Type) [Builder σ] where
  /-- The command with other bound values. -/
  withArgs : Arguments → σ → σ
  args_withArgs : ∀ (args : Arguments) (b : σ), Builder.args (withArgs args b) = args
  withArgs_args : ∀ b : σ, withArgs (Builder.args b) b = b
  withArgs_withArgs : ∀ (later earlier : Arguments) (b : σ),
    withArgs later (withArgs earlier b) = withArgs later b
  call_clearArgs : ∀ b : σ, Builder.call .clearArgs b = (.ok (), withArgs [] b)
  /-- One and the same part comes behind any values. -/
  result : ∀ (request : Request) (d : Dialect) (quote : Bool) (b : σ),
    ∃ part : Except CommandError Statement, ∀ args,
      (Builder.render request d quote (withArgs args b)).result = part.map (Statement.after args)
  after : ∀ (request : Request) (d : Dialect) (quote : Bool) (b : σ),
    (Builder.render request d quote b).after =
      match (Builder.render request d quote b).result with
      | .ok s => withArgs s.args b
      | .error _ => b

instance : Appending SqlCommand where
  withArgs args b := { b with args }
  args_withArgs _ _ := rfl
  withArgs_args _ := rfl
  withArgs_withArgs _ _ _ := rfl
  call_clearArgs _ := rfl
  result request d quote b := by
    refine ⟨(b.permit request).map fun _ => b.part request d quote, fun args => ?_⟩
    have hpart : ({ b with args } : SqlCommand).part request d quote = b.part request d quote := by
      cases request <;> rfl
    have hpermit : ({ b with args } : SqlCommand).permit request = b.permit request := rfl
    show (({ b with args } : SqlCommand).render request d quote).result = _
    rw [SqlCommand.render_result, hpart, hpermit]
    cases b.permit request <;> rfl
  after := SqlCommand.after_render

instance : Appending DocumentCommand where
  withArgs args b := { b with args }
  args_withArgs _ _ := rfl
  withArgs_args _ := rfl
  withArgs_withArgs _ _ _ := rfl
  call_clearArgs _ := rfl
  result request d quote b := by
    refine ⟨(b.permit request).map fun _ => b.part request d quote, fun args => ?_⟩
    have hpart : ({ b with args } : DocumentCommand).part request d quote =
        b.part request d quote := by
      cases request <;> rfl
    have hpermit : ({ b with args } : DocumentCommand).permit request = b.permit request := rfl
    show (({ b with args } : DocumentCommand).render request d quote).result = _
    rw [DocumentCommand.render_result, hpart, hpermit]
    cases b.permit request <;> rfl
  after := DocumentCommand.after_render

instance : Appending SearchCommand where
  withArgs args b := { b with content := { b.content with args } }
  args_withArgs _ _ := rfl
  withArgs_args _ := rfl
  withArgs_withArgs _ _ _ := rfl
  call_clearArgs _ := rfl
  result request d quote b := by
    refine ⟨(b.content.permit request).bind fun _ =>
      (b.endpoint request.operation).map fun e => b.part request d e, fun args => ?_⟩
    have hpart : ∀ e, ({ b with content := { b.content with args } } : SearchCommand).part request d
        e = b.part request d e := by
      intro e
      cases request <;> rfl
    have hpermit : ({ b.content with args } : DocumentCommand).permit request =
        b.content.permit request := rfl
    have hendpoint : ({ b with content := { b.content with args } } : SearchCommand).endpoint
        request.operation = b.endpoint request.operation := rfl
    show (({ b with content := { b.content with args } } : SearchCommand).render request d
      quote).result = _
    rw [SearchCommand.render_result, hpermit, hendpoint]
    simp only [hpart]
    cases b.content.permit request with
    | error e => rfl
    | ok => cases b.endpoint request.operation <;> rfl
  after := SearchCommand.after_render

section Appended
variable {σ : Type} [Builder σ] [Appending σ]

/-- What a request that is answered with a statement has made of a command: the values `added` have
come behind those bound before. -/
structure Appended (request : Request) (d : Dialect) (quote : Bool) (b : σ) (s : Statement)
    (added : Arguments) : Prop where
  args : s.args = Builder.args b ++ added
  /-- Nothing but the bound values has changed, and they are those of the statement. -/
  after : (Builder.render request d quote b).after = Appending.withArgs s.args b
  /-- Without earlier values it is the same text with the same values. -/
  afresh : (Builder.render request d quote (Builder.call .clearArgs b).2).result =
    .ok ⟨s.text, added⟩
  /-- A second time it is the same text, with the values twice. -/
  again : (Builder.render request d quote (Builder.render request d quote b).after).result =
    .ok ⟨s.text, Builder.args b ++ added ++ added⟩
  /-- Once the values are cleared, the request makes no difference to any other one. -/
  later : ∀ (request' : Request) (d' : Dialect) (quote' : Bool),
    Builder.render request' d' quote'
        (Builder.call .clearArgs (Builder.render request d quote b).after).2 =
      Builder.render request' d' quote' (Builder.call .clearArgs b).2

/-- A request that is answered has its own values, which come behind those bound before. -/
theorem exists_appended {request : Request} {d : Dialect} {quote : Bool} {b : σ} {s : Statement}
    (h : (Builder.render request d quote b).result = .ok s) :
    ∃ added, Appended request d quote b s added := by
  obtain ⟨part, hpart⟩ := Appending.result request d quote b
  have hresult : part.map (Statement.after (Builder.args b)) = .ok s := by
    rw [← hpart, Appending.withArgs_args, h]
  obtain ⟨own, rfl, rfl⟩ := Except.eq_of_map_eq_ok hresult
  have hafter : (Builder.render request d quote b).after =
      Appending.withArgs (Builder.args b ++ own.args) b := by
    rw [Appending.after, h]
    rfl
  have hcleared : (Builder.call .clearArgs (Builder.render request d quote b).after).2 =
      (Builder.call .clearArgs b).2 := by
    rw [hafter, Appending.call_clearArgs, Appending.call_clearArgs, Appending.withArgs_withArgs]
  refine ⟨own.args, rfl, hafter, ?_, ?_, fun _ _ _ => by rw [hcleared]⟩
  · rw [Appending.call_clearArgs, hpart]
    rfl
  · rw [hafter, hpart]
    rfl

end Appended

/-- In every family, whatever a command is rendered for, its values come behind those bound before,
and neither they nor the text depend on those; nothing else of the command changes. -/
theorem rendering_only_appends (request : Request) (d : Dialect) (quote : Bool) (s : Statement) :
    (∀ b : SqlCommand, (b.render request d quote).result = .ok s →
      ∃ added, Appended request d quote b s added) ∧
    (∀ b : DocumentCommand, (b.render request d quote).result = .ok s →
      ∃ added, Appended request d quote b s added) ∧
    (∀ b : SearchCommand, (b.render request d quote).result = .ok s →
      ∃ added, Appended request d quote b s added) :=
  ⟨fun _ => exists_appended, fun _ => exists_appended, fun _ => exists_appended⟩

/-- A command with a pattern, with values that an earlier statement has left bound. -/
def renderedBefore : SqlCommand :=
  { target := { table := "t" }
    filter := [(Condition.mk "a" none (.operand .like (.text "x"))).fragment]
    hasConditions := true
    args := [.int 7] }

theorem rendering_only_appends_renderedBefore :
    let s : Statement := ⟨"DELETE FROM t WHERE a LIKE '%' || ? || '%'", [.int 7, .text "x"]⟩
    (renderedBefore.render (.delete false) .standard false).result = .ok s ∧
      ∃ added, Appended (.delete false) .standard false renderedBefore s added := by
  intro s
  have h : (renderedBefore.render (.delete false) .standard false).result = .ok s := by rfl
  exact ⟨h, (rendering_only_appends (.delete false) .standard false s).1 renderedBefore h⟩

end DataCommand
