import DataCommand.Proofs.Mask.Basic

/-!
Runs behind a mask. If all that a family of commands does can be done behind a mask, then scripts
that are alike are answered alike, and lead to commands that are answered alike, whatever is asked
of them next.
-/

namespace DataCommand

/-- Answers with one image are the same error, or values with one image. -/
theorem Except.cases_of_map_eq {ε α β : Type} {x y : Except ε α} {f : α → β}
    (h : x.map f = y.map f) :
    (∃ e, x = .error e ∧ y = .error e) ∨ ∃ a a', x = .ok a ∧ y = .ok a' ∧ f a = f a' := by
  cases x with
  | error e =>
    cases y with
    | error e' =>
      obtain rfl : e = e' := Except.error.inj h
      exact .inl ⟨e, rfl, rfl⟩
    | ok a' => exact absurd h (by simp [Except.map])
  | ok a =>
    cases y with
    | error e' => exact absurd h (by simp [Except.map])
    | ok a' => exact .inr ⟨a, a', rfl, rfl, Except.ok.inj h⟩

/-- A mask over the commands of a family. What they do is the same behind the mask as in front of
it, up to the values in answers. -/
structure Masking (σ : Type) [Builder σ] where
  /-- A row writes its nulls out. -/
  rows : Bool
  hide : σ → σ
  call : ∀ (c : Call) (b : σ), Builder.call (c.masked rows) (hide b) =
    ((Builder.call c b).1, hide (Builder.call c b).2)
  openGroup : ∀ (k : Connective) (b : σ), Builder.openGroup k (hide b) =
    (Builder.openGroup k b).map fun opening => (opening.1, hide opening.2)
  closeGroup : ∀ (mark : GroupMark) (verdict : Except CommandError Unit) (b : σ),
    Builder.closeGroup mark verdict (hide b) =
      ((Builder.closeGroup mark verdict b).1, hide (Builder.closeGroup mark verdict b).2)
  answer : ∀ (q : Query) (b : σ), (q.answer (hide b)).masked = (q.answer b).masked
  result : ∀ (request : Request) (d : Dialect) (quote : Bool) (b : σ),
    (Builder.render request d quote (hide b)).result.map Statement.masked =
      (Builder.render request d quote b).result.map Statement.masked
  /-- The command with other bound values. -/
  withArgs : Arguments → σ → σ
  hide_withArgs : ∀ (args : Arguments) (b : σ),
    hide (withArgs args b) = withArgs (nulls args) (hide b)
  after : ∀ (request : Request) (d : Dialect) (quote : Bool) (b : σ),
    (Builder.render request d quote b).after =
      match (Builder.render request d quote b).result with
      | .ok s => withArgs s.args b
      | .error _ => b

namespace Masking
variable {σ : Type} [Builder σ] (M : Masking σ)

/-- What came of two runs cannot be told apart behind the mask. -/
structure Same {ρ : Type} (mask : ρ → ρ) (r r' : Run σ ρ) : Prop where
  reply : mask r.reply = mask r'.reply
  after : M.hide r.after = M.hide r'.after

variable {b b' : σ} (h : M.hide b = M.hide b')
include h

theorem call_same {c e : Call} (hc : c.Alike M.rows e) :
    (Builder.call c b).1 = (Builder.call e b').1 ∧
      M.hide (Builder.call c b).2 = M.hide (Builder.call e b').2 := by
  have hcall : ((Builder.call c b).1, M.hide (Builder.call c b).2) =
      ((Builder.call e b').1, M.hide (Builder.call e b').2) := by
    rw [← M.call c b, ← M.call e b', hc.masked_eq, h]
  simpa using hcall

theorem result_same (request : Request) (d : Dialect) (quote : Bool) :
    (Builder.render request d quote b).result.map Statement.masked =
      (Builder.render request d quote b').result.map Statement.masked := by
  rw [← M.result request d quote b, ← M.result request d quote b', h]

theorem after_same (request : Request) (d : Dialect) (quote : Bool) :
    M.hide (Builder.render request d quote b).after =
      M.hide (Builder.render request d quote b').after := by
  rw [M.after request d quote b, M.after request d quote b']
  obtain ⟨e, hb, hb'⟩ | ⟨s, s', hb, hb', hs⟩ :=
    Except.cases_of_map_eq (M.result_same h request d quote)
  · rw [hb, hb']
    exact h
  · have hargs : nulls s.args = nulls s'.args := congrArg Statement.args hs
    rw [hb, hb']
    simp only [M.hide_withArgs, hargs, h]

theorem answer_same (q : Query) : (q.answer b).masked = (q.answer b').masked := by
  rw [← M.answer q b, ← M.answer q b', h]

/-- Groups are opened alike, or refused alike. -/
theorem openGroup_same (k : Connective) :
    (∃ e, Builder.openGroup k b = .error e ∧ Builder.openGroup k b' = .error e) ∨
      ∃ mark opened opened', Builder.openGroup k b = .ok (mark, opened) ∧
        Builder.openGroup k b' = .ok (mark, opened') ∧ M.hide opened = M.hide opened' := by
  have hopen : (Builder.openGroup k b).map (fun opening => (opening.1, M.hide opening.2)) =
      (Builder.openGroup k b').map fun opening => (opening.1, M.hide opening.2) := by
    rw [← M.openGroup k b, ← M.openGroup k b', h]
  obtain hrefused | ⟨⟨mark, opened⟩, ⟨mark', opened'⟩, hb, hb', hsame⟩ :=
    Except.cases_of_map_eq hopen
  · exact .inl hrefused
  · obtain ⟨rfl, hhide⟩ := Prod.mk.inj hsame
    exact .inr ⟨mark, opened, opened', hb, hb', hhide⟩

theorem closeGroup_same (mark : GroupMark) (verdict : Except CommandError Unit) :
    (Builder.closeGroup mark verdict b).1 = (Builder.closeGroup mark verdict b').1 ∧
      M.hide (Builder.closeGroup mark verdict b).2 =
        M.hide (Builder.closeGroup mark verdict b').2 := by
  have hb := M.closeGroup mark verdict b
  have hb' := M.closeGroup mark verdict b'
  rw [h, hb'] at hb
  simpa [eq_comm] using hb

omit h

theorem masked_ofStatement {x y : Except CommandError Statement}
    (h : x.map Statement.masked = y.map Statement.masked) :
    (Reply.ofStatement x).masked = (Reply.ofStatement y).masked := by
  obtain ⟨e, rfl, rfl⟩ | ⟨s, s', rfl, rfl, hs⟩ := Except.cases_of_map_eq h
  · rfl
  · exact congrArg Reply.statement hs

/-- Groups whose replies are the same behind the mask are judged alike. -/
theorem verdictOn_same (goOn : Bool) (verdict : Except CommandError Unit) {rs rs' : List Reply}
    (h : Reply.maskedAll rs = Reply.maskedAll rs') :
    verdictOn goOn verdict rs = verdictOn goOn verdict rs' := by
  have herror := congrArg (List.findSome? Reply.error?) h
  rw [Reply.findSome?_maskedAll, Reply.findSome?_maskedAll] at herror
  simp only [verdictOn, herror]

mutual

/-- Steps that are alike do alike to commands that are alike. -/
theorem run_same : ∀ {s t : Step}, s.Alike M.rows t → ∀ {b b' : σ}, M.hide b = M.hide b' →
    M.Same Reply.masked (s.run b) (t.run b')
  | _, _, .call hc, b, b', h => by
    obtain ⟨hresult, hafter⟩ := M.call_same h hc
    exact ⟨congrArg (Reply.masked ∘ Reply.ofResult) hresult, hafter⟩
  | _, _, .render request d quote, b, b', h =>
    ⟨masked_ofStatement (M.result_same h request d quote), M.after_same h request d quote⟩
  | _, _, .ask q, b, b', h => ⟨M.answer_same h q, h⟩
  | _, _, .refused e, b, b', h => ⟨rfl, h⟩
  | _, _, .group k goOn verdict hbody, b, b', h => by
    obtain ⟨e, hb, hb'⟩ | ⟨mark, opened, opened', hb, hb', hopened⟩ := M.openGroup_same h k
    · simp only [Step.run, hb, hb']
      exact ⟨rfl, h⟩
    · obtain ⟨hinner, hafter⟩ := runAll_same goOn hbody hopened
      have hverdict := verdictOn_same goOn verdict hinner
      obtain ⟨hresult, hclosed⟩ := M.closeGroup_same hafter mark
        (verdictOn goOn verdict (Step.runAll goOn _ opened).reply)
      simp only [Step.run, hb, hb', ← hverdict]
      exact ⟨by simp only [Reply.masked, hresult, hinner], hclosed⟩

theorem runAll_same (goOn : Bool) : ∀ {steps steps' : List Step},
    Step.AllAlike M.rows steps steps' → ∀ {b b' : σ}, M.hide b = M.hide b' →
    M.Same Reply.maskedAll (Step.runAll goOn steps b) (Step.runAll goOn steps' b')
  | _, _, .nil, b, b', h => ⟨rfl, h⟩
  | _, _, .cons hhead htail, b, b', h => by
    obtain ⟨hreply, hafter⟩ := run_same hhead h
    obtain ⟨htail, hend⟩ := runAll_same goOn htail hafter
    have herror := congrArg Reply.error? hreply
    rw [Reply.error?_masked, Reply.error?_masked] at herror
    simp only [Step.runAll, herror]
    split
    · exact ⟨by simp only [Reply.maskedAll, hreply], hafter⟩
    · exact ⟨by simp only [Reply.maskedAll, hreply, htail], hend⟩

end

end Masking

end DataCommand
