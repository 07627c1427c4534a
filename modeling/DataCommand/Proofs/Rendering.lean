import DataCommand.Proofs.Spelling
import DataCommand.SearchCommand.Basic
import DataCommand.SqlCommand.Render

/-!
What a request is answered with. In every family a command that may answer a request is written as
one part, which comes behind the values that were bound earlier.
-/

namespace DataCommand

/-- What is answered after a check has been answered only if the check was passed. -/
theorem Except.eq_of_map_eq_ok {ε α β : Type} {x : Except ε α} {f : α → β} {y : β}
    (h : x.map f = .ok y) : ∃ a, x = .ok a ∧ y = f a := by
  cases x with
  | error e => exact absurd h (by simp [Except.map])
  | ok a => exact ⟨a, rfl, (Except.ok.inj h).symm⟩

/-- What comes of two stages has come through the first one. -/
theorem Except.exists_of_bind_eq_ok {ε α β : Type} {x : Except ε α} {f : α → Except ε β} {y : β}
    (h : x >>= f = .ok y) : ∃ a, x = .ok a ∧ f a = .ok y := by
  cases x with
  | error e => cases h
  | ok a => exact ⟨a, rfl, h⟩

namespace SqlCommand

/-- What a command is written as, without what was bound earlier. -/
def part (request : Request) (d : Dialect) (quote : Bool) (b : SqlCommand) : Statement :=
  match request with
  | .select => b.selectText d quote
  | .update _ => b.updateText d quote
  | .delete _ => b.deleteText d quote
  | .insert primaryKey asked => b.insertText d quote primaryKey (asked.weaken d primaryKey).1

theorem render_result (request : Request) (d : Dialect) (quote : Bool) (b : SqlCommand) :
    (b.render request d quote).result =
      (b.permit request).map fun _ => (b.part request d quote).after b.args := by
  unfold render
  cases b.permit request with
  | error e => rfl
  | ok => cases request <;> rfl

/-- Rendering changes nothing but the bound values: afterwards they are those of the statement. -/
theorem after_render (request : Request) (d : Dialect) (quote : Bool) (b : SqlCommand) :
    (b.render request d quote).after =
      match (b.render request d quote).result with
      | .ok s => { b with args := s.args }
      | .error _ => b := by
  unfold render
  cases b.permit request with
  | error e => rfl
  | ok => cases request <;> rfl

end SqlCommand

namespace DocumentCommand

/-- What a command is written as, without what was bound earlier. -/
def part (request : Request) (d : Dialect) (quote : Bool) (b : DocumentCommand) : Statement :=
  match request with
  | .select => b.selectText d quote
  | .update _ => b.updateText d quote
  | .delete _ => b.deleteText d quote
  | .insert _ _ => b.insertText d quote

theorem render_result (request : Request) (d : Dialect) (quote : Bool) (b : DocumentCommand) :
    (b.render request d quote).result =
      (b.permit request).map fun _ => (b.part request d quote).after b.args := by
  unfold render
  cases b.permit request <;> rfl

theorem after_render (request : Request) (d : Dialect) (quote : Bool) (b : DocumentCommand) :
    (b.render request d quote).after =
      match (b.render request d quote).result with
      | .ok s => { b with args := s.args }
      | .error _ => b := by
  unfold render
  cases b.permit request <;> rfl

/-- Rendering changes nothing but the bound values. -/
theorem render_after (request : Request) (d : Dialect) (quote : Bool) (b : DocumentCommand) :
    ∃ args, (b.render request d quote).after = { b with args } := by
  rw [after_render]
  split
  · exact ⟨_, rfl⟩
  · exact ⟨b.args, rfl⟩

end DocumentCommand

namespace SearchCommand

/-- What a command is written as behind an endpoint, without what was bound earlier. -/
def part (request : Request) (d : Dialect) (b : SearchCommand) (e : Endpoint) : Statement :=
  .plain (e.text ++ " ") ++ (body d b.content request).inSpelling Document.inJson

theorem text_part (request : Request) (d : Dialect) (b : SearchCommand) (e : Endpoint) :
    (b.part request d e).text = e.text ++ " " ++ (body d b.content request).json := by
  simp [part, Document.inSpelling, Document.json_eq_spelled]

theorem args_part (request : Request) (d : Dialect) (b : SearchCommand) (e : Endpoint) :
    (b.part request d e).args = (body d b.content request).labels := by
  simp [part, Document.inSpelling]

theorem render_result (request : Request) (d : Dialect) (quote : Bool) (b : SearchCommand) :
    (b.render request d quote).result =
      (b.content.permit request).bind fun _ =>
        (b.endpoint request.operation).map fun e => (b.part request d e).after b.content.args := by
  unfold render
  cases b.content.permit request with
  | error e => rfl
  | ok =>
    cases b.endpoint request.operation with
    | error e => rfl
    | ok e =>
      refine congrArg Except.ok (Statement.ext ?_ ?_)
      · simp [text_part]
      · simp [args_part]

/-- A request is answered with a statement exactly if the command may answer it and the target names
an index. -/
theorem render_eq_ok_iff {request : Request} {d : Dialect} {quote : Bool} {b : SearchCommand}
    {s : Statement} :
    (b.render request d quote).result = .ok s ↔
      b.content.permit request = .ok () ∧
        ∃ e, b.endpoint request.operation = .ok e ∧
          s = (b.part request d e).after b.content.args := by
  rw [render_result]
  constructor
  · intro h
    obtain ⟨⟨⟩, hpermit, h⟩ := Except.exists_of_bind_eq_ok h
    exact ⟨hpermit, Except.eq_of_map_eq_ok h⟩
  · rintro ⟨hpermit, e, he, rfl⟩
    rw [hpermit, he]
    rfl

theorem exists_render_eq_ok_iff {request : Request} {d : Dialect} {quote : Bool}
    {b : SearchCommand} :
    (∃ s, (b.render request d quote).result = .ok s) ↔
      b.content.permit request = .ok () ∧ ∃ e, b.endpoint request.operation = .ok e := by
  constructor
  · rintro ⟨s, hs⟩
    obtain ⟨hpermit, e, he, -⟩ := render_eq_ok_iff.1 hs
    exact ⟨hpermit, e, he⟩
  · rintro ⟨hpermit, e, he⟩
    exact ⟨_, render_eq_ok_iff.2 ⟨hpermit, e, he, rfl⟩⟩

theorem after_render (request : Request) (d : Dialect) (quote : Bool) (b : SearchCommand) :
    (b.render request d quote).after =
      match (b.render request d quote).result with
      | .ok s => { b with content := { b.content with args := s.args } }
      | .error _ => b := by
  unfold render
  cases b.content.permit request with
  | error e => rfl
  | ok => cases b.endpoint request.operation <;> rfl

/-- Rendering changes nothing but the bound values. -/
theorem render_after (request : Request) (d : Dialect) (quote : Bool) (b : SearchCommand) :
    ∃ args, (b.render request d quote).after = { b with content := { b.content with args } } := by
  rw [after_render]
  split
  · exact ⟨_, rfl⟩
  · exact ⟨b.content.args, rfl⟩

end SearchCommand

end DataCommand
