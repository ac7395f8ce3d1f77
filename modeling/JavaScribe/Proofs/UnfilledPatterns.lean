import JavaScribe.Proofs.CallSteps
import JavaScribe.Proofs.StepFaults
import JavaScribe.Proofs.TakenTexts

/-!
# Patterns that cannot be filled

Statements and documentation comments are filled before their first piece of text, so where a
pattern and its arguments do not fit together nothing is done at all. A comment on a line of its own
is indented first: if its pattern cannot be filled, the indentation has been written and is all that
has (`unfilled_pattern_written_iff`). This does not show where no scope is open.
-/
namespace JavaScribe

/-- Whether a fault says that a pattern and its arguments do not fit together. -/
def Fault.isUnfilled : Fault → Bool
  | format _ | notFillable _ => true
  | _ => false

/-- The calls that fill a pattern with arguments. -/
def Call.filling (pattern : Value) (arguments : List Value) : List Call :=
  [.statement pattern arguments, .javadoc pattern arguments, .comment pattern arguments]

namespace Scribe
variable {σ : Type}

lemma indentation_eq_empty_iff {unit : String} {n : ℕ} :
    indentation unit n = "" ↔ n = 0 ∨ unit = "" := by
  induction n with
  | zero => simp [indentation]
  | succ n ih =>
    have hs : indentation unit (n + 1) = unit ++ indentation unit n := by
      simp [indentation, List.replicate_succ]
    simp [hs, String.append_eq_empty_iff, ih]
    tauto

lemma Fails.eq_fail {w : Scribe σ} {x : Step} {fault : Fault} (h : Fails w x fault)
    (hx : x.checks = false) (hu : fault.isUnfilled = true) : x = .fail fault := by
  cases h with
  | given => rfl
  | unshown hv => rcases hv with rfl | ⟨rfl, -⟩ | rfl <;> simp [Step.checks] at hx
  | _ => simp [Fault.isUnfilled] at hu

variable [Sink σ] {fault : Fault} {pattern : Value} {arguments : List Value}

lemma fail_mem_of_unfilled {w : Scribe σ} {steps : List Step}
    (hc : ∀ x ∈ steps, x.checks = false) (hf : (w.run steps).fault = some fault)
    (hu : fault.isUnfilled = true) : .fail fault ∈ steps := by
  obtain ⟨v, x, hx, hv⟩ := exists_fails_of_run hf
  exact hv.eq_fail (hc x hx) hu ▸ hx

/-- A statement is in its place before its pattern is looked at, and nothing is written before. -/
lemma perform_unfilled_statement {w : Scribe σ}
    (hf : (w.perform (.statement pattern arguments)).fault = some fault)
    (hu : fault.isUnfilled = true) :
    w.perform (.statement pattern arguments) = w.failing fault := by
  have hc : Argument.filledText pattern arguments = .error fault := by
    have hs : ∀ x ∈ Call.statementSteps pattern arguments, x = .fail fault →
        Argument.filledText pattern arguments = .error fault :=
      Call.forall_statementSteps (by simp [Call.statementPlace]) (by simp) (by simp) (by simp)
        (by simp) fun f he hx => Step.fail.inj hx ▸ he
    have hchecks : ∀ x ∈ Call.statementSteps pattern arguments, x.checks = false :=
      Call.forall_statementSteps rfl (fun _ => rfl) (fun _ _ _ _ => rfl) rfl rfl fun _ _ => rfl
    exact hs _ (fail_mem_of_unfilled hchecks hf hu) rfl
  have ht : w.scopes.top ∈ Scope.statementScopes.map some := by
    by_contra ht
    rw [perform_misplaced rfl ht] at hf
    obtain rfl := Option.some.inj hf
    simp [Fault.isUnfilled] at hu
  simp [perform, Call.steps, Call.statementSteps, Call.statementPlace, hc, Step.after, run, step,
    Scopes.require_ok.mpr ht, done, failing]

lemma perform_unfilled_javadoc {w : Scribe σ}
    (hf : (w.perform (.javadoc pattern arguments)).fault = some fault)
    (hu : fault.isUnfilled = true) : w.perform (.javadoc pattern arguments) = w.failing fault := by
  have hc : Argument.filledText pattern arguments = .error fault := by
    have hs : ∀ x ∈ Call.javadocSteps pattern arguments, x = .fail fault →
        Argument.filledText pattern arguments = .error fault :=
      Call.forall_javadocSteps (by simp) (by simp) (by simp) (by simp) (by simp)
        fun f he hx => Step.fail.inj hx ▸ he
    have hchecks : ∀ x ∈ Call.javadocSteps pattern arguments, x.checks = false :=
      Call.forall_javadocSteps rfl rfl rfl rfl (fun _ _ _ _ => rfl) fun _ _ => rfl
    exact hs _ (fail_mem_of_unfilled hchecks hf hu) rfl
  simp [perform, Call.steps, Call.javadocSteps, hc, Step.after, run, step, failing]

omit [Sink σ] in
/-- A comment that is to fail has its indentation in front and nothing else. -/
lemma commentSteps_of_fail (h : .fail fault ∈ Call.commentSteps pattern arguments) :
    Call.commentSteps pattern arguments = [.indent 0, .fail fault] := by
  unfold Call.commentSteps at h ⊢
  cases hv : Argument.filled pattern arguments with
  | error f => simpa [hv, Step.after, eq_comm] using h
  | ok v =>
    cases ht : v.asText with
    | error e => simpa [hv, ht, Step.after, Step.spell, Except.mapError, eq_comm] using h
    | ok text => simp [hv, ht, Step.after, Step.spell, Except.mapError] at h

/-- The indentation of a comment is on the page before its pattern is looked at. -/
lemma perform_unfilled_comment {w : Scribe (Watched σ)}
    (hf : (w.perform (.comment pattern arguments)).fault = some fault)
    (hu : fault.isUnfilled = true) :
    (w.perform (.comment pattern arguments)).scribe.setting = w.setting ∧
      (w.perform (.comment pattern arguments)).scribe.sink.taken =
        w.sink.taken ++ indentation w.unit w.depth := by
  have hchecks : ∀ x ∈ Call.commentSteps pattern arguments, x.checks = false :=
    Call.forall_commentSteps rfl (fun _ _ _ _ => rfl) (fun _ _ _ => rfl) fun _ _ => rfl
  have hp : w.perform (.comment pattern arguments) = w.run [.indent 0, .fail fault] :=
    congrArg w.run (commentSteps_of_fail (fail_mem_of_unfilled hchecks hf hu))
  have hi : w.step (.indent 0) = w.put (indentation w.unit w.depth) := rfl
  rw [hp, run_cons, hi] at hf ⊢
  obtain ⟨hset, ⟨hn, ht⟩ | ⟨hn, -⟩⟩ := w.put_taken (indentation w.unit w.depth)
  · have hr : ∀ v : Scribe (Watched σ), v.run [.fail fault] = v.failing fault := fun _ => rfl
    simp [hn, hr, failing, hset, ht]
  · rw [if_neg (by simpa using hn)] at hf
    obtain ⟨refusal, rfl⟩ := put_fault hf
    simp [Fault.isUnfilled] at hu

/-- Where a pattern and its arguments do not fit together, a statement and a documentation comment
leave the scribe as it was, with its sink. A comment leaves all that the scribe keeps as it was, but
has written its indentation, so something is on the page exactly if a scope is open and the unit of
indentation is not empty. -/
theorem unfilled_pattern_written_iff {w : Scribe (Watched σ)} {c : Call}
    (hc : c ∈ Call.filling pattern arguments) (hf : (w.perform c).fault = some fault)
    (hu : fault.isUnfilled = true) :
    (c ≠ .comment pattern arguments → w.perform c = w.failing fault) ∧
      (c = .comment pattern arguments → (w.perform c).scribe.setting = w.setting ∧
        (w.perform c).scribe.sink.taken = w.sink.taken ++ indentation w.unit w.depth) ∧
      ((w.perform c).scribe.sink.taken ≠ w.sink.taken ↔
        c = .comment pattern arguments ∧ 0 < w.depth ∧ w.unit ≠ "") := by
  have hother : w.perform c = w.failing fault → c ≠ .comment pattern arguments →
      ((w.perform c).scribe.sink.taken ≠ w.sink.taken ↔
        c = .comment pattern arguments ∧ 0 < w.depth ∧ w.unit ≠ "") := by
    intro hp hne
    simp [hp, hne, failing]
  simp only [Call.filling, List.mem_cons, List.not_mem_nil, or_false] at hc
  rcases hc with rfl | rfl | rfl
  · have hp := perform_unfilled_statement hf hu
    exact ⟨fun _ => hp, by simp, hother hp (by simp)⟩
  · have hp := perform_unfilled_javadoc hf hu
    exact ⟨fun _ => hp, by simp, hother hp (by simp)⟩
  · obtain ⟨hset, ht⟩ := perform_unfilled_comment hf hu
    refine ⟨by simp, fun _ => ⟨hset, ht⟩, ?_⟩
    rw [ht]
    simp [indentation_eq_empty_iff, Nat.pos_iff_ne_zero]

/-- A type on a page under watch. -/
def typeOnWatched : Scribe (Watched Page) :=
  (blank (watch {}) "  " true).moveAll [.call (.package ""), .call (.openType "Foo" "class")]

/-- A comment with one argument for two places leaves its indentation behind. -/
theorem unfilled_comment_indented :
    let c : Call := .comment "%s %s" [.int 1]
    (typeOnWatched.perform c).fault = some (.format .missingArgument) ∧
      (typeOnWatched.perform c).scribe.sink.taken = typeOnWatched.sink.taken ++ "  " ∧
      (typeOnWatched.perform c).scribe.sink.taken ≠ typeOnWatched.sink.taken := by
  intro c
  have hf : (typeOnWatched.perform c).fault = some (.format .missingArgument) := by decide +kernel
  have hu : typeOnWatched.unit = "  " := by decide +kernel
  have hd : typeOnWatched.depth = 1 := by decide +kernel
  have hi : indentation "  " 1 = "  " := by decide +kernel
  have hc : c ∈ Call.filling "%s %s" [.int 1] := by simp [Call.filling, c]
  obtain ⟨-, hcomment, hiff⟩ := unfilled_pattern_written_iff hc hf rfl
  refine ⟨hf, ?_, hiff.mpr ⟨rfl, by simp [hd], by simp [hu]⟩⟩
  rw [(hcomment rfl).2, hu, hd, hi]

/-- That nothing is written for a pattern that cannot be filled does not hold of a comment. -/
theorem not_unfilled_pattern_writes_nothing :
    ¬ ∀ (σ : Type) [Sink σ] (w : Scribe (Watched σ)) (c : Call) (pattern : Value)
      (arguments : List Value) (fault : Fault), w.Reached → arguments ≠ [] →
        c ∈ Call.filling pattern arguments → (w.perform c).fault = some fault →
          fault.isUnfilled = true →
            (w.perform c).scribe.sink.taken = w.sink.taken ∧
              (w.perform c).scribe.setting = w.setting := by
  intro h
  have hs := (h Page typeOnWatched (.comment "%s %s" [.int 1]) "%s %s" [.int 1]
    (.format .missingArgument) ⟨_, _, _, _, rfl⟩ (by simp) (by simp [Call.filling])
    (by decide +kernel) rfl).1
  exact absurd hs (by decide +kernel)

end Scribe
end JavaScribe
