import JavaScribe.Proofs.Exits

/-!
# Steps that offer no text

A step that offers no text goes by what the scribe keeps of names and scopes and by nothing else:
two scribes that keep the same come to the same (`agree_step`). It leaves what the sink has taken as
it is. The unit of indentation and the choice to shorten are left as they are by every step.
-/
namespace JavaScribe.Scribe
variable {σ τ : Type} [Sink σ] [Sink τ] {w : Scribe σ} {v : Scribe τ} {x : Step}

/-- Two scribes that keep the same names and scopes, wherever they write and however. -/
structure Agree (w : Scribe σ) (v : Scribe τ) : Prop where
  naming : w.naming = v.naming
  scopes : w.scopes = v.scopes
  types : w.types = v.types
  closed : w.closed = v.closed

theorem agree_step (h : Agree w v) (hx : x.writes = false) :
    (w.step x).fault = (v.step x).fault ∧ Agree (w.step x).scribe (v.step x).scribe := by
  cases x with
  | write | indent | writeType => simp [Step.writes] at hx
  | require operation allowed =>
    simp only [step, h.scopes]
    split <;> exact ⟨rfl, h⟩
  | enter scope => exact ⟨rfl, { h with scopes := by simp [step, done, note, h.scopes] }⟩
  | leave operation expected =>
    simp only [step, h.scopes]
    split
    · exact ⟨rfl, { h with scopes := rfl }⟩
    · exact ⟨rfl, h⟩
  | pushName name => exact ⟨rfl, { h with types := by simp [step, done, h.types] }⟩
  | popName =>
    simp only [step, h.types]
    split
    · exact ⟨rfl, { h with types := rfl }⟩
    · exact ⟨rfl, h⟩
  | display type =>
    simp only [step, h.naming]
    split
    · exact ⟨rfl, { h with }⟩
    · exact ⟨rfl, h⟩
  | register name =>
    simp only [step, h.naming]
    split
    · exact ⟨rfl, { h with naming := rfl }⟩
    · exact ⟨rfl, h⟩
  | requireNoPackage requested =>
    simp only [step, h.naming]
    split <;> exact ⟨rfl, h⟩
  | setPackage name => exact ⟨rfl, { h with naming := by simp [step, done, note, h.naming] }⟩
  | fail fault => exact ⟨rfl, h⟩
  | close =>
    simp only [step, h.closed]
    split
    · exact ⟨rfl, h⟩
    · exact ⟨rfl, { h with closed := rfl }⟩

lemma sink_step_silent (hx : x.writes = false) :
    (w.step x).scribe.sink =
      if x = .close ∧ w.closed = false then Sink.close w.sink else w.sink := by
  cases x with
  | write | indent | writeType => simp [Step.writes] at hx
  | close => cases hc : w.closed <;> simp [step, hc, done, note]
  | enter | pushName | setPackage | fail => rfl
  | _ =>
    simp only [step]
    split <;> simp [done, failing, note, remarked]

lemma taken_step_silent {w : Scribe (Watched σ)} (hx : x.writes = false) :
    (w.step x).scribe.sink.taken = w.sink.taken := by
  rw [sink_step_silent hx]
  split <;> rfl

/-! ## What no step changes -/

lemma step_unit (w : Scribe σ) (x : Step) : (w.step x).scribe.unit = w.unit := by
  have hf := fares_step w x
  unfold Fares at hf
  split at hf
  · exact hf.unit
  · exact congrArg Setting.unit hf.setting

lemma step_shortens (w : Scribe σ) (x : Step) : (w.step x).scribe.shortens = w.shortens := by
  cases hx : x.writes with
  | true =>
    obtain ⟨sink, events, -, h⟩ := scribe_of_writes (w := w) hx
    rw [h]
  | false =>
    cases x with
    | write | indent | writeType => simp [Step.writes] at hx
    | enter | pushName | setPackage | fail => rfl
    | _ =>
      simp only [step]
      split <;> rfl

end JavaScribe.Scribe
