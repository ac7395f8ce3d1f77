import JavaScribe.Proofs.Exits

/-!
# What a watched sink takes

What a watched sink has taken only grows (`taken_run`). Steps that only write put the front part of
their text on it, and all of it unless one is refused (`run_writing`). As long as the sink is
willing, which is to say that it has refused nothing, no text is lost.
-/
namespace JavaScribe.Scribe
variable {σ : Type} [Sink σ] {w : Scribe (Watched σ)} {x : Step} {steps : List Step}

lemma put_taken (text : String) :
    (w.put text).scribe.setting = w.setting ∧
      ((w.put text).fault = none ∧ (w.put text).scribe.sink.taken = w.sink.taken ++ text ∨
        (w.put text).fault ≠ none ∧ (w.put text).scribe.sink.taken = w.sink.taken) := by
  unfold put
  rcases hs : Sink.write w.sink text with ⟨_ | refusal, s⟩
  · exact ⟨rfl, Or.inl ⟨rfl, (Watched.taken_of_write hs).1⟩⟩
  · have hn : (Sink.write w.sink.sink text).1 = some refusal := congrArg Prod.fst hs
    obtain rfl : (Sink.write w.sink text).2 = s := congrArg Prod.snd hs
    refine ⟨rfl, Or.inr ⟨by simp [failing], ?_⟩⟩
    simp [failing, Sink.write, hn]

/-- A step that has a piece of text writes it and does nothing else but for the log. -/
lemma step_of_piece? {text : String} (h : w.piece? x = some text) :
    ∃ log, w.step x = ({ w with log }).put text := by
  cases x with
  | write | indent =>
    obtain rfl := Option.some.inj h
    exact ⟨w.log, rfl⟩
  | writeType type =>
    by_cases hs : w.shortens = true
    · cases hd : w.naming.display type with
      | error fault => simp [piece?, Setting.typeText?, setting, hs, hd, Except.toOption] at h
      | ok short =>
        obtain rfl : short = text := by
          simpa [piece?, Setting.typeText?, setting, hs, hd, Except.toOption] using h
        exact ⟨(w.remarked type).log, by simp [step, hs, hd, remarked]⟩
    · cases type with
      | text t =>
        obtain rfl : t = text := by simpa [piece?, Setting.typeText?, setting, hs] using h
        have he : w.step (.writeType (.text t)) = w.put t := by simp [step, hs, offer]
        exact ⟨w.log, he⟩
      | _ => simp [piece?, Setting.typeText?, setting, hs] at h
  | _ => simp [piece?] at h

lemma Failed.taken {w' : Scribe (Watched σ)} {fault : Fault} (h : Failed w x fault w')
    (hp : w.piece? x = none) : w'.sink.taken = w.sink.taken := by
  rcases h.cause with ⟨text, _, ht, -⟩ | ⟨-, hs | ⟨v, hs⟩⟩
  · simp [hp] at ht
  · exact congrArg Watched.taken hs
  · exact (congrArg Watched.taken hs).trans rfl

/-- A step that writes has its piece taken, or it fails and nothing is. -/
lemma step_writing (hx : x.writes = true) :
    (w.step x).scribe.setting = w.setting ∧
      ((w.step x).fault = none ∧
          (∃ text, w.piece? x = some text ∧ (w.step x).scribe.sink.taken = w.sink.taken ++ text) ∨
        (w.step x).fault ≠ none ∧ (w.step x).scribe.sink.taken = w.sink.taken) := by
  cases hp : w.piece? x with
  | some text =>
    obtain ⟨log, hs⟩ := step_of_piece? hp
    rw [hs]
    obtain ⟨hset, ⟨hf, ht⟩ | hf⟩ := ({ w with log }).put_taken text
    · exact ⟨hset, Or.inl ⟨hf, text, rfl, ht⟩⟩
    · exact ⟨hset, Or.inr hf⟩
  | none =>
    have hf := fares_step w x
    unfold Fares at hf
    split at hf
    · exact absurd (hf.silent hp).1 (by simp [hx])
    · rename_i fault hfault
      exact ⟨hf.setting, Or.inr ⟨by simp [hfault], hf.taken hp⟩⟩

lemma taken_step (w : Scribe (Watched σ)) (x : Step) :
    ∃ more, (w.step x).scribe.sink.taken = w.sink.taken ++ more := by
  have hsame : ∀ s : Watched σ, s.taken = w.sink.taken → ∃ more, s.taken = w.sink.taken ++ more :=
    fun s hs => ⟨"", by simp [hs]⟩
  by_cases hx : x.writes = true
  · rcases (step_writing (w := w) hx).2 with ⟨-, text, -, ht⟩ | ⟨-, ht⟩
    · exact ⟨text, ht⟩
    · exact hsame _ ht
  · have hp : w.piece? x = none :=
      Option.eq_none_iff_forall_ne_some.mpr fun text h => hx (writes_of_piece? h)
    have hf := fares_step w x
    unfold Fares at hf
    split at hf
    · rcases (hf.silent hp).2 with hs | hs <;> exact hsame _ ((congrArg Watched.taken hs).trans rfl)
    · exact hsame _ (hf.taken hp)

theorem taken_run (w : Scribe (Watched σ)) (steps : List Step) :
    ∃ more, (w.run steps).scribe.sink.taken = w.sink.taken ++ more := by
  refine run_invariant
    (P := fun v : Scribe (Watched σ) => ∃ more, v.sink.taken = w.sink.taken ++ more)
    (fun v x ⟨more, hv⟩ => ?_) ⟨"", by simp⟩ steps
  obtain ⟨more', hx⟩ := taken_step v x
  exact ⟨more ++ more', by rw [hx, hv, String.append_assoc]⟩

omit [Sink σ] in
lemma step?_of_writes (hx : x.writes = true) :
    w.setting.step? x = (w.piece? x).map fun text => (text, w.setting) := by
  cases x <;> first | rfl | simp [Step.writes] at hx

/-- Steps that only write leave all else as it was. Their text is taken as a whole if none fails,
and a front part of it otherwise. -/
theorem run_writing (hx : ∀ x ∈ steps, x.writes = true) :
    (w.run steps).scribe.setting = w.setting ∧
      ((w.run steps).fault = none ∧
          (∃ text, w.setting.run? steps = some (text, w.setting) ∧
            (w.run steps).scribe.sink.taken = w.sink.taken ++ text) ∨
        (w.run steps).fault ≠ none ∧
          ∃ front, (w.run steps).scribe.sink.taken = w.sink.taken ++ front ∧
            ∀ text s, w.setting.run? steps = some (text, s) → front.toList <+: text.toList) := by
  induction steps generalizing w with
  | nil => exact ⟨rfl, Or.inl ⟨rfl, "", rfl, by simp [run, done]⟩⟩
  | cons x rest ih =>
    rw [List.forall_mem_cons] at hx
    obtain ⟨hset, ⟨hf, first, hp, ht⟩ | ⟨hf, ht⟩⟩ := step_writing (w := w) hx.1
    · have hs : w.setting.step? x = some (first, w.setting) := by simp [step?_of_writes hx.1, hp]
      have hr : w.run (x :: rest) = (w.step x).scribe.run rest := by simp [run_cons, hf]
      obtain ⟨hset', hrest⟩ := ih (w := (w.step x).scribe) hx.2
      rw [hset, ht] at hrest
      rw [hr]
      refine ⟨hset'.trans hset, ?_⟩
      rcases hrest with ⟨hn, second, hr₂, ht₂⟩ | ⟨hn, front, ht₂, hpre⟩
      · exact Or.inl ⟨hn, first ++ second, by simp [Setting.run?, hs, hr₂],
          by rw [ht₂, String.append_assoc]⟩
      · refine Or.inr ⟨hn, first ++ front, by rw [ht₂, String.append_assoc], fun text s h => ?_⟩
        obtain ⟨_, _, second, hs', hr₂, rfl⟩ := Setting.run?_split h
        obtain ⟨rfl, rfl⟩ := Prod.mk.inj (Option.some.inj (hs.symm.trans hs'))
        simpa using (List.prefix_append_right_inj first.toList).mpr (hpre _ _ hr₂)
    · have hr : w.run (x :: rest) = w.step x := by simp [run_cons, hf]
      rw [hr]
      exact ⟨hset, Or.inr ⟨hf, "", by simp [ht], by simp⟩⟩

/-! ## Willing sinks -/

/-- The sink has refused nothing so far. -/
def Willing (w : Scribe (Watched σ)) : Prop := w.sink.refused = false

lemma Willing.of_run {steps : List Step} (h : (w.run steps).scribe.Willing) : w.Willing := by
  by_contra hw
  have hr : (w.run steps).scribe.sink.refused = true :=
    run_invariant refused_step (by simpa [Willing] using hw) steps
  simp [Willing, hr] at h

lemma Willing.of_run_cons {rest : List Step} (h : (w.run (x :: rest)).scribe.Willing) :
    (w.step x).scribe.Willing := by
  rw [run_cons] at h
  split at h
  · exact h.of_run
  · exact h

lemma put_willing {text : String} (h : (w.put text).scribe.Willing) :
    ∃ s, w.put text = ⟨none, { w with sink := s }⟩ ∧ s.taken = w.sink.taken ++ text := by
  unfold put at h ⊢
  rcases hs : Sink.write w.sink text with ⟨_ | refusal, s⟩
  · exact ⟨s, rfl, (Watched.taken_of_write hs).1⟩
  · simp [hs, Willing, failing, Watched.refused_of_write hs] at h

lemma Willing.of_moveAll {moves : List Move} (h : (w.moveAll moves).Willing) : w.Willing := by
  by_contra hw
  have hr : (w.moveAll moves).sink.refused = true := by
    refine moveAll_invariant (P := fun w : Scribe (Watched σ) => w.sink.refused = true)
      (by simpa [Willing] using hw) fun w m _ h => ?_
    cases m with
    | call c => exact refused_perform w c h
    | setUnit | setShortens => exact h
  simp [Willing, hr] at h

end JavaScribe.Scribe
