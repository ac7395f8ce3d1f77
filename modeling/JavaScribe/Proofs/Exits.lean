import JavaScribe.Proofs.RegisteredImports
import JavaScribe.Proofs.Runs
import JavaScribe.Proofs.Writing

/-!
# The exits of a list of steps

Steps come to an end in one of four ways: all are carried out, the sink refuses a text, a value
that is to be written has no text, or a step fails for another reason. An account follows some part
of a scribe from step to step. `Leads` says of an account that each of the exits leaves the part as
it should be, and `Leads.run` carries this over to the scribe, whatever its sink does. The first
account is that of the nesting.
-/
namespace JavaScribe

/-- The sink has just refused a text. -/
def Sink.HasRefused {σ : Type} [Sink σ] (refusal : Refusal) (s : σ) : Prop :=
  ∃ before text, Sink.write before text = (some refusal, s)

inductive Exit where
  | done
  /-- The sink has refused a text. -/
  | refused
  /-- A value that was to be written has no text. -/
  | unshown
  | failed
  deriving DecidableEq, Repr

def Reply.Exits {σ : Type} [Sink σ] (r : Reply σ) : Exit → Prop
  | .done => r.fault = none
  | .refused => ∃ refusal, r.fault = some (.sink refusal) ∧ Sink.HasRefused refusal r.scribe.sink
  | .unshown => r.fault = some (.format .integerTooLong)
  | .failed => r.fault ≠ none

lemma Reply.Exits.eq_done {σ : Type} [Sink σ] {r : Reply σ} {e : Exit} (h : r.Exits e)
    (hf : r.fault = none) : e = .done := by
  cases e with
  | done => rfl
  | refused =>
    obtain ⟨refusal, hs, -⟩ := h
    exact absurd (hf.symm.trans hs) (by simp)
  | unshown => exact absurd (hf.symm.trans h) (by simp)
  | failed => exact absurd hf h

lemma Reply.Exits.refused_of_watched {σ : Type} [Sink σ] {r : Reply (Watched σ)}
    (h : r.Exits .refused) : r.scribe.sink.refused = true := by
  obtain ⟨refusal, -, before, text, hw⟩ := h
  exact Watched.refused_of_write hw

/-- No call of a run fails because a value that it was to write has no text. -/
def Scribe.AllShown {σ : Type} [Sink σ] (w : Scribe σ) (moves : List Move) : Prop :=
  ∀ r ∈ w.replies moves, ¬ r.Exits .unshown

instance {σ : Type} [Sink σ] (w : Scribe σ) (moves : List Move) : Decidable (w.AllShown moves) :=
  inferInstanceAs
    (Decidable (∀ r ∈ w.replies moves, ¬ r.fault = some (.format .integerTooLong)))

/-- Whether a step offers a text to the sink. -/
def Step.writes : Step → Bool
  | .write _ | .indent _ | .writeType _ => true
  | _ => false

/-- Whether a step can fail on what the account of the nesting does not see. -/
def Step.checks : Step → Bool
  | .writeType _ | .display _ | .register _ | .requireNoPackage _ => true
  | _ => false

/-- The exit to which a step comes that fails of itself. -/
def Step.exit : Step → Exit
  | .fail (.format .integerTooLong) => .unshown
  | _ => .failed

/-- The nesting after a step; none when the step fails for the nesting or for its argument. -/
def Nesting.next (n : Nesting) : Step → Option Nesting
  | .require _ allowed => if n.scopes.top ∈ allowed then some n else none
  | .enter scope => some { n with scopes := scope :: n.scopes }
  | .leave _ expected =>
    match n.scopes with
    | [] => none
    | scope :: rest => if scope ∈ expected then some { n with scopes := rest } else none
  | .pushName name => some { n with types := name :: n.types }
  | .popName =>
    match n.types with
    | [] => none
    | _ :: rest => some { n with types := rest }
  | .writeType (.text _) => some n
  | .writeType _ => none
  | .fail _ => none
  | _ => some n

namespace Scribe
variable {σ : Type} {w w' : Scribe σ} {x : Step} {fault : Fault}

/-- The text that a step offers to the sink. -/
def piece? (w : Scribe σ) : Step → Option String
  | .write text => some text
  | .indent deeper => some (w.setting.indentation deeper)
  | .writeType type => w.setting.typeText? type
  | _ => none

lemma writes_of_piece? {text : String} (h : w.piece? x = some text) : x.writes = true := by
  cases x <;> first | rfl | simp [piece?] at h

variable [Sink σ]

/-- A step that offers a text to the sink changes nothing else, but for noting down what there is to
remark on a type. -/
lemma scribe_of_writes (hx : x.writes = true) :
    ∃ sink events, (∀ e ∈ events, ∃ type, e ∈ w.naming.remarks type) ∧
      (w.step x).scribe = { w with sink, log := w.log ++ events } := by
  have hput : ∀ text, ∃ sink events, (∀ e ∈ events, ∃ type, e ∈ w.naming.remarks type) ∧
      (w.put text).scribe = { w with sink, log := w.log ++ events } :=
    fun text => ⟨_, [], by simp, by rw [put_scribe, List.append_nil]⟩
  cases x with
  | write text => exact hput text
  | indent deeper => exact hput _
  | writeType type =>
    simp only [step]
    split
    · split
      · exact ⟨_, w.naming.remarks type, fun e he => ⟨type, he⟩, by rw [put_scribe]; rfl⟩
      · exact ⟨w.sink, [], by simp, by simp [failing]⟩
    · cases type with
      | text t => exact hput t
      | _ => exact ⟨_, [], by simp, by rw [List.append_nil]; rfl⟩
  | _ => simp [Step.writes] at hx

/-- What a step has done that has not failed. -/
structure Done (w : Scribe σ) (x : Step) (w' : Scribe σ) : Prop where
  nesting : w.nesting.next x = some w'.nesting
  unit : w'.unit = w.unit
  registered : w.naming.imports.Registered → w'.naming.imports.Registered
  taken : ∀ text, w.piece? x = some text → Sink.write w.sink text = (none, w'.sink)
  silent : w.piece? x = none →
    x.writes = false ∧ (w'.sink = w.sink ∨ w'.sink = Sink.close w.sink)

/-- What a step has done that has failed. -/
structure Failed (w : Scribe σ) (x : Step) (fault : Fault) (w' : Scribe σ) : Prop where
  setting : w'.setting = w.setting
  cause :
    (∃ text refusal, w.piece? x = some text ∧ fault = .sink refusal ∧
      Sink.write w.sink text = (some refusal, w'.sink)) ∨
    ((x.checks = true ∨ w.nesting.next x = none) ∧
      (w'.sink = w.sink ∨ ∃ v, w'.sink = (Sink.refuse w.sink v).2))

/-- What a step has done, by its reply. -/
def Fares (w : Scribe σ) (x : Step) (r : Reply σ) : Prop :=
  match r.fault with
  | none => Done w x r.scribe
  | some fault => Failed w x fault r.scribe

lemma fares_done (w' : Scribe σ) (he : w.step x = w'.done) (hx : x.writes = false)
    (hn : w.nesting.next x = some w'.nesting) (hu : w'.unit = w.unit)
    (hr : w.naming.imports.Registered → w'.naming.imports.Registered)
    (hs : w'.sink = w.sink ∨ w'.sink = Sink.close w.sink) : Fares w x (w.step x) := by
  rw [he]
  exact ⟨hn, hu, hr, fun _ hp => by simp [writes_of_piece? hp] at hx, fun _ => ⟨hx, hs⟩⟩

/-- A step that only looks at the scribe and finds it in order. -/
lemma fares_same (he : w.step x = w.done) (hx : x.writes = false)
    (hn : w.nesting.next x = some w.nesting) : Fares w x (w.step x) :=
  fares_done w he hx hn rfl id (Or.inl rfl)

lemma fares_failing (hx : x.checks = true ∨ w.nesting.next x = none) :
    Fares w x (w.failing fault) :=
  ⟨rfl, Or.inr ⟨hx, Or.inl rfl⟩⟩

/-- A text that a step offers is all that it does, but for the log. -/
lemma fares_put {text : String} (log : List Event) (hx : w.piece? x = some text)
    (hn : w.nesting.next x = some w.nesting) : Fares w x (put { w with log } text) := by
  unfold put
  rcases hs : Sink.write w.sink text with ⟨_ | refusal, sink⟩
  · refine ⟨hn, rfl, id, fun t ht => ?_, by simp [hx]⟩
    obtain rfl : text = t := by simpa [hx] using ht
    exact hs
  · exact ⟨rfl, Or.inl ⟨text, refusal, hx, rfl, hs⟩⟩

lemma fares_offer {type : Value} (hs : w.shortens = false) :
    Fares w (.writeType type) (w.offer type) := by
  cases type with
  | text t =>
    have hp : w.piece? (.writeType (.text t)) = some t := by
      simp [piece?, Setting.typeText?, setting, hs]
    exact fares_put w.log hp rfl
  | _ => exact ⟨rfl, Or.inr ⟨Or.inl rfl, Or.inr ⟨_, rfl⟩⟩⟩

lemma display_eq_ok {n : Naming} {type : Value} {short : String}
    (h : n.display type = .ok short) : ∃ text, type = .text text := by
  cases hp : n.package with
  | none => simp [Naming.display, hp] at h
  | some package =>
    cases type with
    | text text => exact ⟨text, rfl⟩
    | _ => simp [Naming.display, hp] at h

lemma fares_shortened {type : Value} (hs : w.shortens = true) {short : String}
    (hd : w.naming.display type = .ok short) :
    Fares w (.writeType type) ((w.remarked type).put short) := by
  obtain ⟨text, rfl⟩ := display_eq_ok hd
  have hp : w.piece? (.writeType (.text text)) = some short := by
    simp [piece?, Setting.typeText?, setting, hs, hd, Except.toOption]
  exact fares_put (w.log ++ w.naming.remarks (.text text)) hp rfl

theorem fares_step (w : Scribe σ) (x : Step) : Fares w x (w.step x) := by
  cases x with
  | write text => exact fares_put w.log rfl rfl
  | indent deeper => exact fares_put w.log rfl rfl
  | enter | pushName | setPackage => exact fares_done _ rfl rfl rfl rfl id (Or.inl rfl)
  | fail fault => exact fares_failing (Or.inr rfl)
  | writeType type =>
    cases hs : w.shortens with
    | true =>
      cases hd : w.naming.display type with
      | ok short => simpa [step, hs, hd] using fares_shortened hs hd
      | error fault => simpa [step, hs, hd] using fares_failing (Or.inl rfl)
    | false => simpa [step, hs] using fares_offer hs
  | require operation allowed =>
    by_cases ht : w.scopes.top ∈ allowed
    · have hn : w.nesting.next (.require operation allowed) = some w.nesting := by
        simp [Nesting.next, nesting, ht]
      exact fares_same (by simp [step, Scopes.require, ht]) rfl hn
    · have hn : w.nesting.next (.require operation allowed) = none := by
        simp [Nesting.next, nesting, ht]
      simpa [step, Scopes.require, ht] using fares_failing (Or.inr hn)
  | leave operation expected =>
    cases hs : w.scopes with
    | nil =>
      have hn : w.nesting.next (.leave operation expected) = none := by
        simp [Nesting.next, nesting, hs]
      simpa [step, Scopes.leave, hs] using fares_failing (Or.inr hn)
    | cons scope rest =>
      by_cases ht : scope ∈ expected
      · have hn : w.nesting.next (.leave operation expected) = some ⟨rest, w.types⟩ := by
          simp [Nesting.next, nesting, hs, ht]
        have he : w.step (.leave operation expected) =
            done ({ w with scopes := rest }.note (.left scope rest.length)) := by
          simp [step, Scopes.leave, hs, ht]
        exact fares_done _ he rfl hn rfl id (Or.inl rfl)
      · have hn : w.nesting.next (.leave operation expected) = none := by
          simp [Nesting.next, nesting, hs, ht]
        simpa [step, Scopes.leave, hs, ht] using fares_failing (Or.inr hn)
  | popName =>
    cases ht : w.types with
    | nil =>
      have hn : w.nesting.next .popName = none := by simp [Nesting.next, nesting, ht]
      simpa [step, OpenTypes.close, ht] using fares_failing (Or.inr hn)
    | cons name rest =>
      have hn : w.nesting.next .popName = some ⟨w.scopes, rest⟩ := by
        simp [Nesting.next, nesting, ht]
      have he : w.step .popName = done { w with types := rest } := by
        simp [step, OpenTypes.close, ht]
      exact fares_done _ he rfl hn rfl id (Or.inl rfl)
  | display type =>
    cases hd : w.naming.display type with
    | ok short =>
      have he : w.step (.display type) = done (w.remarked type) := by simp [step, hd]
      exact fares_done _ he rfl rfl rfl id (Or.inl rfl)
    | error fault => simpa [step, hd] using fares_failing (Or.inl rfl)
  | register name =>
    cases ha : w.naming.imports.add name with
    | ok added =>
      have he : w.step (.register name) = done
          ({ w with naming := { w.naming with imports := added.2 } }.note
            (.imported name added.1)) := by
        simp [step, ha]
      exact fares_done _ he rfl rfl rfl (fun h => h.add ha) (Or.inl rfl)
    | error fault => simpa [step, ha] using fares_failing (Or.inl rfl)
  | requireNoPackage requested =>
    cases hp : w.naming.package with
    | none => exact fares_same (by simp [step, hp]) rfl rfl
    | some package => simpa [step, hp] using fares_failing (Or.inl rfl)
  | close =>
    cases hc : w.closed with
    | true => exact fares_same (by simp [step, hc]) rfl rfl
    | false =>
      have he : w.step .close =
          done ({ w with sink := Sink.close w.sink, closed := true }.note .closed) := by
        simp [step, hc]
      exact fares_done _ he rfl rfl rfl id (Or.inr rfl)

/-- A step that fails of itself has come to its exit. -/
lemma exits_of_step (h : w.step x = ⟨some fault, w'⟩) :
    (⟨some fault, w'⟩ : Reply σ).Exits x.exit := by
  unfold Step.exit
  split
  · exact congrArg Reply.fault h.symm
  · simp [Reply.Exits]

/-- A refusal is never forgotten. -/
lemma refused_step (w : Scribe (Watched σ)) (x : Step) (h : w.sink.refused = true) :
    (w.step x).scribe.sink.refused = true := by
  have hf := fares_step w x
  unfold Fares at hf
  split at hf
  · cases hp : w.piece? x with
    | some text => rw [(Watched.taken_of_write (hf.taken text hp)).2, h]
    | none => rcases (hf.silent hp).2 with hs | hs <;> rw [hs] <;> exact h
  · rcases hf.cause with ⟨text, refusal, -, -, hw⟩ | ⟨-, hs | ⟨v, hs⟩⟩
    · exact Watched.refused_of_write hw
    · exact hs ▸ h
    · exact hs ▸ h

lemma refused_perform (w : Scribe (Watched σ)) (c : Call) (h : w.sink.refused = true) :
    (w.perform c).scribe.sink.refused = true :=
  run_invariant refused_step h _

/-- While the sink has refused nothing, no call has ended by a refusal. -/
lemma exits_of_not_refused {w : Scribe (Watched σ)} {c : Call}
    (h : (w.perform c).scribe.sink.refused = false) :
    w.sink.refused = false ∧ ¬ (w.perform c).Exits .refused := by
  constructor
  · by_contra hw
    simp [refused_perform w c (by simpa using hw)] at h
  · intro he
    simp [he.refused_of_watched] at h

end Scribe

/-- An account of a part of scribes: what a step makes of the part is `next`, none when the step
cannot be carried out for what the part is. -/
structure Account (σ : Type) [Sink σ] {α : Type} (next : α → Step → Option α) where
  holds : Scribe σ → α → Prop
  done : ∀ {w w' : Scribe σ} {a : α} {x : Step},
    holds w a → Scribe.Done w x w' → ∃ b, next a x = some b ∧ holds w' b
  failed : ∀ {w w' : Scribe σ} {a : α} {x : Step} {fault : Fault},
    holds w a → Scribe.Failed w x fault w' → holds w' a
  stuck : ∀ {w : Scribe σ} {a : α} {x : Step},
    holds w a → w.nesting.next x = none → next a x = none

/-- From `a` on, the steps come to each exit only where the exit may leave the part. -/
def Leads {α : Type} (next : α → Step → Option α) (post : Exit → α → Prop) : α → List Step → Prop
  | a, [] => post .done a
  | a, x :: rest =>
    (x.writes = true → post .refused a) ∧ (x.checks = true → post .failed a) ∧
      match next a x with
      | none => post x.exit a
      | some b => Leads next post b rest

/-- Every exit but the last may leave the part as it is. -/
structure Early {α : Type} (post : Exit → α → Prop) (a : α) : Prop where
  refused : post .refused a
  unshown : post .unshown a
  failed : post .failed a

/-- A step that leaves the part as it is, if it does not fail. -/
def Quiet {α : Type} (next : α → Step → Option α) (a : α) (x : Step) : Prop :=
  ∀ b, next a x = some b → b = a

section
variable {α : Type} {next : α → Step → Option α} {post : Exit → α → Prop} {a : α} {x : Step}
  {xs rest : List Step}

lemma Early.exit (h : Early post a) (x : Step) : post x.exit a := by
  unfold Step.exit
  split
  · exact h.unshown
  · exact h.failed

@[simp] lemma leads_nil : Leads next post a [] ↔ post .done a := Iff.rfl

lemma Leads.cons (hr : x.writes = true → post .refused a) (hc : x.checks = true → post .failed a)
    (hn : next a x = none → post x.exit a) (h : ∀ b, next a x = some b → Leads next post b rest) :
    Leads next post a (x :: rest) := by
  refine ⟨hr, hc, ?_⟩
  cases hx : next a x with
  | none => exact hn hx
  | some b => exact h b hx

lemma Leads.step (he : Early post a) (h : ∀ b, next a x = some b → Leads next post b rest) :
    Leads next post a (x :: rest) :=
  Leads.cons (fun _ => he.refused) (fun _ => he.failed) (fun _ => he.exit x) h

/-- A step that fails whatever the part is. -/
lemma Leads.fail {fault : Fault} (hn : next a (.fail fault) = none)
    (hp : post (Step.fail fault).exit a) : Leads next post a (.fail fault :: rest) :=
  Leads.cons (by simp [Step.writes]) (by simp [Step.checks]) (fun _ => hp) (by simp [hn])

/-- Quiet steps in front come to no other exits than those of the part as it is. -/
lemma Leads.quiet (hq : ∀ x ∈ xs, Quiet next a x) (he : Early post a)
    (h : Leads next post a rest) : Leads next post a (xs ++ rest) := by
  induction xs with
  | nil => exact h
  | cons x xs ih =>
    refine Leads.step he fun b hb => ?_
    obtain rfl : b = a := hq x (by simp) b hb
    exact ih fun y hy => hq y (by simp [hy])

lemma Leads.only_quiet (hq : ∀ x ∈ xs, Quiet next a x) (he : Early post a) (hd : post .done a) :
    Leads next post a xs := by
  have h := Leads.quiet hq he (leads_nil.mpr hd)
  simpa using h

/-- An argument is found in order, or the call fails for it. -/
lemma Leads.after {β : Type} {checked : Except Fault β} {steps : β → List Step}
    (hn : ∀ fault, next a (.fail fault) = none) (he : Early post a)
    (h : ∀ b, checked = .ok b → Leads next post a (steps b)) :
    Leads next post a (Step.after checked steps) := by
  cases checked with
  | ok b => exact h b rfl
  | error fault => exact Leads.fail (hn fault) (he.exit _)

variable {σ : Type} [Sink σ]

/-- Whatever its sink does, a scribe comes to one of the exits, with the part as the exit leaves
it. -/
theorem Leads.run (A : Account σ next) {w : Scribe σ} {steps : List Step} (hw : A.holds w a)
    (h : Leads next post a steps) :
    ∃ e b, (w.run steps).Exits e ∧ A.holds (w.run steps).scribe b ∧ post e b := by
  induction steps generalizing w a with
  | nil => exact ⟨.done, a, rfl, hw, h⟩
  | cons x rest ih =>
    obtain ⟨hr, hc, hn⟩ := h
    have hs := Scribe.fares_step w x
    rcases hx : w.step x with ⟨_ | fault, w'⟩
    · rw [hx] at hs
      obtain ⟨b, hb, hw'⟩ := A.done hw hs
      rw [hb] at hn
      simpa [Scribe.run, hx] using ih hw' hn
    · rw [hx] at hs
      have hw' := A.failed hw hs
      have he : w.run (x :: rest) = ⟨some fault, w'⟩ := by simp [Scribe.run, hx]
      rw [he]
      rcases hs.cause with ⟨text, refusal, hp, rfl, ht⟩ | ⟨hp | hp, -⟩
      · exact ⟨.refused, a, ⟨refusal, rfl, w.sink, text, ht⟩, hw',
          hr (Scribe.writes_of_piece? hp)⟩
      · exact ⟨.failed, a, by simp [Reply.Exits], hw', hc hp⟩
      · rw [A.stuck hw hp] at hn
        exact ⟨x.exit, a, Scribe.exits_of_step hx, hw', hn⟩

end

/-- The account of what is open. -/
def Account.nesting (σ : Type) [Sink σ] : Account σ Nesting.next where
  holds w n := w.nesting = n
  done := by
    rintro w w' _ x rfl h
    exact ⟨_, h.nesting, rfl⟩
  failed := by
    rintro w w' _ x fault rfl h
    have hs := h.setting
    exact congrArg₂ Nesting.mk (congrArg Setting.scopes hs) (congrArg Setting.types hs)
  stuck := by
    rintro w _ x rfl h
    exact h

end JavaScribe
