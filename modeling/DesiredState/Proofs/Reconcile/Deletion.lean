import DesiredState.Proofs.Reconcile.Requests

/-!
# What a deletion does

A deletion makes at most one call, the one that its action needs.  If it is cancelled before that, it
has done nothing.

Contents:

* `remove`, `halt` — the calls of a deletion.
* `delete` — from the call of the action to the deletion.
* `delete_held` — deleting a known resource under policy `Delete`.
* `Token.Answers` — no answer is lost.
* `Run.Whole`, `delete_whole` — a deletion is done as if nothing cancelled it, or not at all.
-/

namespace DesiredState

variable {k : Kind}

namespace Run.Ensures

variable {settings : RunSettings} {clock : Instant} {s t : Spec k} {w : Simulator k}

/-- Removing what is not there succeeds as well. -/
theorem remove {post : Except Failure Unit → Spec k → Simulator k → Prop} {snapshot : Option String}
    (refused : ∀ f w', Broken w w.hosted w.serial w' → post (.error f) s w')
    (made : ∀ w', Made w (w.hosted.erase t.identifier) w.serial w' → post (.ok ()) s w') :
    Run.Ensures (Engine.call .delete ((settings.engine clock k).gateway.delete t snapshot)) s w
      post := by
  let w' : Simulator k :=
    { w.noted (.delete t.identifier snapshot) with hosted := w.hosted.erase t.identifier }
  simp only [Engine.call, RunSettings.engine, Simulator.gateway]
  exact entered (c := .delete t.identifier snapshot) refused
    ⟨(), w', rfl, made w' ⟨.of_eq rfl, rfl, rfl⟩⟩

/-- Stopping what is there, for kinds that can be stopped. -/
theorem halt {post : Except Failure Unit → Spec k → Simulator k → Prop} {h h' : HostedOf k}
    (found : w.hosted.get? t.identifier = some h) (stopped : Hosted.stop h = some h')
    (refused : ∀ f w', Broken w w.hosted w.serial w' → post (.error f) s w')
    (made : ∀ w', Made w (w.hosted.insert t.identifier h') w.serial w' → post (.ok ()) s w') :
    Run.Ensures (Engine.call .stop ((settings.engine clock k).gateway.stop t)) s w post := by
  let w' : Simulator k :=
    { w.noted (.stop t.identifier) with hosted := w.hosted.insert t.identifier h' }
  simp only [Engine.call, RunSettings.engine, Simulator.gateway]
  refine entered (c := .stop t.identifier) refused
    ⟨(), w', ?_, made w' ⟨.of_eq rfl, rfl, rfl⟩⟩
  have found' : (w.noted (.stop t.identifier)).hosted.get? t.identifier = some h := found
  simp only [Simulator.modifyHosted, found', stopped]
  rfl

/-- The action follows from policy and specification, and the deletion is the call that it needs. -/
theorem delete {post : Except Failure DeleteAction → Spec k → Simulator k → Prop}
    {policy : DeletionPolicy} (allowed : s.effectivePolicy = .ok policy)
    (performed :
      let action := DeleteAction.resolve policy ((settings.engine clock k).deletionContext s)
      ((settings.engine clock k).perform s action).Ensures s w fun
        | .ok _, s', w' => post (.ok action) s' w'
        | .error f, s', w' => post (.error f) s' w') :
    ((settings.engine clock k).delete).Ensures s w post := by
  unfold Engine.delete
  refine bind (spec ?_)
  simp only [allowed]
  refine bind (performed.mono ?_)
  rintro (f | _) s' w' holds
  · exact holds
  · exact pure holds

/-- Under policy `Delete` a known identifier is removed from the host, if it is a key there. -/
theorem delete_held (allowed : s.effectivePolicy = .ok .delete) (known : s.identifier ≠ "")
    (quiet : ∀ op, w.faults op = none) :
    ((settings.engine clock k).delete).Ensures s w fun answer s' w' =>
      answer = .ok .delete ∧ s' = s ∧ w'.hosted = w.hosted.erase s.identifier := by
  have action : DeleteAction.resolve .delete ((settings.engine clock k).deletionContext s) =
      .delete := by
    simp [DeleteAction.resolve, Engine.deletionContext, known]
  refine delete allowed ?_
  rw [action]
  refine remove (fun f w' broken => broken.struck.absurd_of_quiet quiet) fun w' made => ?_
  exact ⟨rfl, rfl, made.hosted⟩

end Run.Ensures

/-! ## Deletions that are cancelled -/

namespace Token

/-- Every call that is made returns. -/
def Answers (t : Token) : Prop := ∀ op, t.trigger ≠ .onCall op .after

theorem answers_live : live.Answers := fun _ => nofun

theorem answers_lasting (n : Nat) : (lasting n).Answers := fun _ => nofun

/-- The next call is refused or returns, and so are those that follow it. -/
theorem Answers.next_cases {t : Token} (answers : t.Answers) (op : Operation) :
    ((t.next op).1 = .refused ∨ (t.next op).1 = .returns) ∧ (t.next op).2.Answers := by
  obtain ⟨cancelled, trigger⟩ := t
  cases cancelled with
  | true => exact ⟨.inl rfl, answers⟩
  | false =>
    cases trigger with
    | never => exact ⟨.inr rfl, answers⟩
    | afterCalls n =>
      cases n with
      | zero => exact ⟨.inl rfl, fun _ => nofun⟩
      | succ n => exact ⟨.inr rfl, answers_lasting n⟩
    | onCall op' timing =>
      by_cases same : op' = op
      · cases timing with
        | ready => simp [next, same, fateAt, stopped, Answers]
        | before => simp [next, same, fateAt, stopped, Answers]
        | after => exact absurd rfl (answers op')
      · simpa [next, same] using answers

end Token

/-- Under a token a run ends as it does when nothing cancels it, or nothing of it is done. -/
def Run.Whole {σ α : Type} (run : Run k σ α) (s : Spec k) (w : σ) (token : Token) : Prop :=
  (∃ token', token'.Answers ∧ run.run ⟨s, w, token⟩ =
      ((run.run ⟨s, w, .live⟩).1, { (run.run ⟨s, w, .live⟩).2 with token := token' })) ∨
    ∃ op token', run.run ⟨s, w, token⟩ = (.error (.cancelled k.label op), ⟨s, w, token'⟩)

namespace Run.Whole

variable {σ α : Type} {s : Spec k} {w : σ} {token : Token}

theorem pure (a : α) (answers : token.Answers) : Run.Whole (Pure.pure a) s w token :=
  .inl ⟨token, answers, rfl⟩

theorem throw (f : Failure) (answers : token.Answers) :
    Run.Whole (α := α) (MonadExcept.throw f) s w token :=
  .inl ⟨token, answers, rfl⟩

theorem call (op : Operation) (request : Request σ α) (answers : token.Answers) :
    Run.Whole (Engine.call op request) s w token := by
  obtain ⟨fate, answers'⟩ := answers.next_cases op
  unfold Whole
  rw [Engine.call, run_callKeeping_token, run_callKeeping]
  generalize token.next op = next at fate answers'
  obtain ⟨fate', token'⟩ := next
  rcases fate with refused | returns
  · cases refused
    exact .inr ⟨op, token', rfl⟩
  · cases returns
    exact .inl ⟨token', answers', rfl⟩

theorem spec {rest : Spec k → Run k σ α} (whole : (rest s).Whole s w token) :
    Run.Whole (Engine.spec >>= rest) s w token := whole

/-- What is made of the answer is no call. -/
theorem map {β : Type} {run : Run k σ β} (whole : run.Whole s w token) (f : β → α) :
    Run.Whole (run >>= fun b => Pure.pure (f b)) s w token := by
  unfold Whole at whole ⊢
  simp only [run_bind]
  rcases whole with ⟨token', answers, ran⟩ | ⟨op, token', ran⟩
  · refine .inl ⟨token', answers, ?_⟩
    rw [ran]
    rcases run.run ⟨s, w, .live⟩ with ⟨f | b, y⟩ <;> rfl
  · refine .inr ⟨op, token', ?_⟩
    rw [ran]

end Run.Whole

theorem Engine.delete_whole {σ : Type} (e : Engine k σ) (s : Spec k) (w : σ) {token : Token}
    (answers : token.Answers) : e.delete.Whole s w token := by
  have perform (action : DeleteAction) : (e.perform s action).Whole s w token := by
    cases action with
    | skip reason => exact .pure () answers
    | delete => exact .call _ _ answers
    | snapshotThenDelete id => exact .call _ _ answers
    | stop => exact .call _ _ answers
  unfold delete
  refine .spec ?_
  cases s.effectivePolicy with
  | error v => exact .throw _ answers
  | ok policy => exact (perform _).map fun _ => _

end DesiredState
