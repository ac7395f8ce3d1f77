import JavaScribe.Proofs.SilentSteps
import JavaScribe.Proofs.TakenTexts

/-!
# The unit of indentation

A scribe does nothing with its unit of indentation but repeat it. What a run writes is a draft with
the unit put in, and the draft, of texts and of numbers of units, is the same for every unit
(`taken_moveAll`, `draftAll_eq`). So a unit can be told from a page: where the unit is a character
that the page has nowhere else, putting another unit in its place gives the page that is written
with the other unit (`replies_respaced`).
-/
namespace JavaScribe

/-! ## Drafts -/

/-- A piece of a page: a given text, or so many units of indentation. -/
inductive Mark where
  | text (t : String)
  | units (n : ℕ)
  deriving DecidableEq, Repr

def Mark.ink (unit : String) : Mark → String
  | text t => t
  | units n => Scribe.indentation unit n

/-- The text of a draft, with the unit put in. -/
def ink (unit : String) (draft : List Mark) : String := String.join (draft.map (Mark.ink unit))

/-- Whether a move leaves the unit of indentation as it is. -/
def Move.KeepsUnit : Move → Prop
  | .setUnit _ => False
  | _ => True

/-- A text with another text in the place of a character. -/
def respaced (c : Char) (unit text : String) : String :=
  String.ofList (text.toList.flatMap fun d => if d = c then unit.toList else [d])

lemma ink_append (unit : String) (a b : List Mark) :
    ink unit (a ++ b) = ink unit a ++ ink unit b := by
  simp [ink]

lemma respaced_append (c : Char) (unit a b : String) :
    respaced c unit (a ++ b) = respaced c unit a ++ respaced c unit b := by
  simp [respaced]

lemma respaced_of_not_mem {c : Char} {text : String} (h : c ∉ text.toList) (unit : String) :
    respaced c unit text = text := by
  have hd : ∀ d ∈ text.toList, (if d = c then unit.toList else [d]) = [d] := by
    intro d hd
    rw [if_neg]
    rintro rfl
    exact h hd
  simp [respaced, List.flatMap_congr hd]

lemma respaced_indentation (c : Char) (unit : String) (n : ℕ) :
    respaced c unit (Scribe.indentation (String.singleton c) n) = Scribe.indentation unit n := by
  induction n with
  | zero => simp [Scribe.indentation, respaced]
  | succ n ih =>
    have hs : ∀ u, Scribe.indentation u (n + 1) = u ++ Scribe.indentation u n := fun u => by
      simp [Scribe.indentation, List.replicate_succ]
    have hc : respaced c unit (String.singleton c) = unit := by simp [respaced]
    rw [hs, respaced_append, ih, hc, ← hs]

lemma respaced_ink {c : Char} {draft : List Mark} (h : c ∉ (ink "" draft).toList) (unit : String) :
    respaced c unit (ink (String.singleton c) draft) = ink unit draft := by
  induction draft with
  | nil => simp [ink, respaced]
  | cons m draft ih =>
    have hcons : ∀ u, ink u (m :: draft) = m.ink u ++ ink u draft := fun u => by simp [ink]
    rw [hcons, String.toList_append, List.mem_append, not_or] at h
    rw [hcons, hcons, respaced_append, ih h.2]
    congr 1
    cases m with
    | text t => exact respaced_of_not_mem h.1 unit
    | units n => exact respaced_indentation c unit n

/-! ## What sinks say of values that are no texts -/

/-- A relation of sinks that goes on whatever texts the two take, and under which they say the same
of a value that is no text. -/
structure Sink.Keeps {σ : Type} [Sink σ] (R : σ → σ → Prop) : Prop where
  write : ∀ {s s' : σ} (text text' : String), R s s' → (Sink.write s text).1 = none →
    (Sink.write s' text').1 = none → R (Sink.write s text).2 (Sink.write s' text').2
  refuse : ∀ {s s' : σ} (v : Value), R s s' →
    (Sink.refuse s v).1 = (Sink.refuse s' v).1 ∧ R (Sink.refuse s v).2 (Sink.refuse s' v).2
  close : ∀ {s s' : σ}, R s s' → R (Sink.close s) (Sink.close s')

/-- What the sink says of a value that is no text does not depend on the texts that it has taken. -/
def Sink.Impartial {σ : Type} [Sink σ] (s : σ) : Prop := ∃ R : σ → σ → Prop, Sink.Keeps R ∧ R s s

lemma Page.impartial (p : Page) : Sink.Impartial p := by
  refine ⟨fun p q => { p with text := q.text } = q, ⟨?_, ?_, ?_⟩, rfl⟩
  · intro p q text text' hpq hp hq
    have taken : ∀ (p : Page) text, (Sink.write p text).1 = none →
        (Sink.write p text).2 = { p with text := p.text ++ text } := by
      intro p text h
      cases hr : p.refusal? text with
      | none => rw [write_of_refusal?_eq_none hr]
      | some r => simp [write_of_refusal?_eq_some hr] at h
    rw [taken p text hp, taken q text' hq, ← hpq]
  · intro p q v hpq
    rw [← hpq]
    exact ⟨rfl, rfl⟩
  · intro p q hpq
    rw [← hpq]
    simp only [Sink.close]
    split <;> rfl

namespace Scribe
variable {σ : Type} [Sink σ] {R : σ → σ → Prop} {w v : Scribe (Watched σ)} {x : Step}

/-! ## The draft of a run -/

/-- What a step puts on the page, before the unit is known. -/
def mark? (w : Scribe σ) : Step → Option Mark
  | .write text => some (.text text)
  | .indent deeper => some (.units (w.depth + deeper))
  | .writeType type => (w.setting.typeText? type).map .text
  | _ => none

def draft (w : Scribe σ) : List Step → List Mark
  | [] => []
  | x :: rest =>
    (w.mark? x).toList ++ if (w.step x).fault.isNone then (w.step x).scribe.draft rest else []

/-- What a run of moves puts on the page, before the unit is known. -/
def draftAll (w : Scribe σ) : List Move → List Mark
  | [] => []
  | m :: ms =>
    (match m with
      | .call c => w.draft (c.steps w.nesting)
      | _ => []) ++ (w.move m).scribe.draftAll ms

omit [Sink σ] in
lemma piece?_eq (w : Scribe σ) (x : Step) : w.piece? x = (w.mark? x).map (Mark.ink w.unit) := by
  cases x with
  | writeType type => simp [piece?, mark?, Function.comp_def, Mark.ink]
  | _ => rfl

lemma unit_run (w : Scribe σ) (steps : List Step) : (w.run steps).scribe.unit = w.unit :=
  run_invariant (P := fun v : Scribe σ => v.unit = w.unit)
    (fun v x hv => (step_unit v x).trans hv) rfl steps

lemma unit_move (w : Scribe σ) {m : Move} (hm : m.KeepsUnit) :
    (w.move m).scribe.unit = w.unit := by
  cases m with
  | setUnit unit => exact absurd hm (by simp [Move.KeepsUnit])
  | setShortens shortens => rfl
  | call c => exact unit_run w _

lemma taken_step_ink (h : (w.step x).scribe.Willing) :
    (w.step x).scribe.sink.taken = w.sink.taken ++ ink w.unit (w.mark? x).toList := by
  have hf := fares_step w x
  cases hm : w.mark? x with
  | some m =>
    have hp : w.piece? x = some (m.ink w.unit) := by rw [piece?_eq, hm, Option.map_some]
    obtain ⟨log, hs⟩ := step_of_piece? hp
    rw [hs] at h ⊢
    obtain ⟨s, hput, ht⟩ := put_willing h
    rw [hput]
    simpa [ink] using ht
  | none =>
    have hp : w.piece? x = none := by rw [piece?_eq, hm, Option.map_none]
    have ht : (w.step x).scribe.sink.taken = w.sink.taken := by
      unfold Fares at hf
      split at hf
      · rcases (hf.silent hp).2 with hs | hs <;> exact (congrArg Watched.taken hs).trans rfl
      · exact hf.taken hp
    simpa [ink] using ht

lemma taken_run_ink {steps : List Step} (h : (w.run steps).scribe.Willing) :
    (w.run steps).scribe.sink.taken = w.sink.taken ++ ink w.unit (w.draft steps) := by
  induction steps generalizing w with
  | nil => simp [run, done, draft, ink]
  | cons x rest ih =>
    have hx := taken_step_ink h.of_run_cons
    rw [run_cons] at h ⊢
    rw [draft]
    split
    · rename_i hn
      rw [if_pos hn] at h
      have ht := ih h
      rw [step_unit] at ht
      rw [ht, hx, ink_append, String.append_assoc]
    · simpa using hx

/-- A run writes its draft with the unit put in. -/
theorem taken_moveAll {moves : List Move} (hm : ∀ m ∈ moves, m.KeepsUnit)
    (h : (w.moveAll moves).Willing) :
    (w.moveAll moves).sink.taken = w.sink.taken ++ ink w.unit (w.draftAll moves) := by
  induction moves generalizing w with
  | nil => simp [draftAll, ink]
  | cons m moves ih =>
    rw [List.forall_mem_cons] at hm
    rw [moveAll_cons] at h ⊢
    have hrest := ih hm.2 h
    rw [unit_move w hm.1] at hrest
    cases m with
    | setUnit unit => exact absurd hm.1 (by simp [Move.KeepsUnit])
    | setShortens shortens => simpa [draftAll, move, done] using hrest
    | call c =>
      have hc : (w.move (.call c)).scribe.sink.taken =
          w.sink.taken ++ ink w.unit (w.draft (c.steps w.nesting)) :=
        taken_run_ink h.of_moveAll
      rw [hrest, draftAll, hc, ink_append, String.append_assoc]

/-! ## Two runs in step -/

/-- Two scribes that differ in their unit, in what they have written and in what they have noted
down, and in nothing else. -/
structure InStep (R : σ → σ → Prop) (w v : Scribe (Watched σ)) : Prop extends Agree w v where
  shortens : w.shortens = v.shortens
  sinks : R w.sink.sink v.sink.sink

omit [Sink σ] in
/-- The events that have been noted down do not matter. -/
lemma InStep.logs (h : InStep R w v) (log log' : List Event) :
    InStep R { w with log } { v with log := log' } :=
  { h with }

lemma write_of_willing {text : String} (h : (w.put text).scribe.Willing) :
    (w.put text).fault = none ∧ (Sink.write w.sink.sink text).1 = none := by
  obtain ⟨s, hp, -⟩ := put_willing h
  refine ⟨by rw [hp], ?_⟩
  rw [Willing, put_scribe] at h
  have hn : (w.sink.refused || (Sink.write w.sink.sink text).1.isSome) = false := h
  simpa using (Bool.or_eq_false_iff.mp hn).2

/-- Texts that are offered to both are taken by both. -/
lemma inStep_put (hR : Sink.Keeps R) (h : InStep R w v) {a b : String}
    (hw : (w.put a).scribe.Willing) (hv : (v.put b).scribe.Willing) :
    (w.put a).fault = (v.put b).fault ∧ InStep R (w.put a).scribe (v.put b).scribe := by
  obtain ⟨hwf, hwn⟩ := write_of_willing hw
  obtain ⟨hvf, hvn⟩ := write_of_willing hv
  refine ⟨hwf.trans hvf.symm, ?_⟩
  rw [put_scribe, put_scribe]
  exact { h with sinks := hR.write a b h.sinks hwn hvn }

omit [Sink σ] in
lemma mark?_eq (h : InStep R w v) (x : Step) : w.mark? x = v.mark? x := by
  cases x with
  | indent deeper => simp [mark?, depth, h.scopes]
  | writeType type =>
    have ht : w.setting.typeText? type = v.setting.typeText? type := by
      simp [Setting.typeText?, setting, h.shortens, h.naming]
    simp [mark?, ht]
  | _ => rfl

/-- A type that cannot be written is refused to both for the same reason. -/
lemma inStep_refused (hR : Sink.Keeps R) (h : InStep R w v) {type : Value}
    (ht : w.mark? (.writeType type) = none) :
    (w.step (.writeType type)).fault = (v.step (.writeType type)).fault ∧
      InStep R (w.step (.writeType type)).scribe (v.step (.writeType type)).scribe := by
  cases hs : w.shortens with
  | true =>
    have hvs : v.shortens = true := h.shortens ▸ hs
    cases hd : w.naming.display type with
    | ok short => simp [mark?, Setting.typeText?, setting, hs, hd, Except.toOption] at ht
    | error fault =>
      have hvd : v.naming.display type = .error fault := h.naming ▸ hd
      simpa [step, hs, hvs, hd, hvd, failing] using h
  | false =>
    have hvs : v.shortens = false := h.shortens ▸ hs
    have hn : ∀ t, type ≠ .text t := by
      rintro t rfl
      simp [mark?, Setting.typeText?, setting, hs] at ht
    have ho : ∀ u : Scribe (Watched σ), u.shortens = false → u.step (.writeType type) =
        failing { u with sink := (Sink.refuse u.sink type).2 }
          (.sink (Sink.refuse u.sink type).1) := by
      intro u hu
      cases type with
      | text t => exact absurd rfl (hn t)
      | _ => simp [step, hu, offer]
    obtain ⟨hf, hsink⟩ := hR.refuse type h.sinks
    rw [ho w hs, ho v hvs]
    exact ⟨congrArg (fun r => some (Fault.sink r)) hf, { h with sinks := hsink }⟩

theorem inStep_step (hR : Sink.Keeps R) (h : InStep R w v) (x : Step)
    (hw : (w.step x).scribe.Willing) (hv : (v.step x).scribe.Willing) :
    (w.step x).fault = (v.step x).fault ∧ InStep R (w.step x).scribe (v.step x).scribe := by
  cases hx : x.writes with
  | true =>
    cases hm : w.mark? x with
    | some m =>
      have hp : w.piece? x = some (m.ink w.unit) := by rw [piece?_eq, hm, Option.map_some]
      have hq : v.piece? x = some (m.ink v.unit) := by
        rw [piece?_eq, ← mark?_eq h, hm, Option.map_some]
      obtain ⟨log, hs⟩ := step_of_piece? hp
      obtain ⟨log', hs'⟩ := step_of_piece? hq
      rw [hs] at hw ⊢
      rw [hs'] at hv ⊢
      exact inStep_put hR (h.logs log log') hw hv
    | none =>
      cases x with
      | writeType type => exact inStep_refused hR h hm
      | write | indent => simp [mark?] at hm
      | _ => simp [Step.writes] at hx
  | false =>
    obtain ⟨hf, ha⟩ := agree_step h.toAgree hx
    have hsw := congrArg Watched.sink (sink_step_silent (w := w) hx)
    have hsv := congrArg Watched.sink (sink_step_silent (w := v) hx)
    refine ⟨hf, { ha with shortens := ?_, sinks := ?_ }⟩
    · rw [step_shortens, step_shortens, h.shortens]
    · rw [hsw, hsv, ← h.closed]
      split
      · exact hR.close h.sinks
      · exact h.sinks

/-- Both come to the same end, and put the same draft on the page. -/
theorem inStep_run (hR : Sink.Keeps R) (h : InStep R w v) {steps : List Step}
    (hw : (w.run steps).scribe.Willing) (hv : (v.run steps).scribe.Willing) :
    ((w.run steps).fault = (v.run steps).fault ∧
      InStep R (w.run steps).scribe (v.run steps).scribe) ∧ w.draft steps = v.draft steps := by
  induction steps generalizing w v with
  | nil => exact ⟨⟨rfl, h⟩, rfl⟩
  | cons x rest ih =>
    obtain ⟨hf, hx⟩ := inStep_step hR h x hw.of_run_cons hv.of_run_cons
    rw [run_cons] at hw hv ⊢
    rw [run_cons, draft, draft, mark?_eq h]
    cases hs : (w.step x).fault with
    | none =>
      simp only [hs, hf.symm.trans hs, Option.isNone_none, if_true] at hw hv ⊢
      obtain ⟨hrest, hd⟩ := ih hx hw hv
      exact ⟨hrest, by rw [hd]⟩
    | some fault =>
      simp only [hs, hf.symm.trans hs, Option.isNone_some, Bool.false_eq_true, if_false]
      exact ⟨⟨trivial, hx⟩, trivial⟩

/-- Every move that keeps the unit does the same to both. -/
lemma inStep_move (hR : Sink.Keeps R) (h : InStep R w v) {m : Move} (hm : m.KeepsUnit)
    (hw : (w.move m).scribe.Willing) (hv : (v.move m).scribe.Willing) :
    (w.move m).fault = (v.move m).fault ∧ InStep R (w.move m).scribe (v.move m).scribe ∧
      w.draftAll [m] = v.draftAll [m] := by
  cases m with
  | setUnit unit => exact absurd hm (by simp [Move.KeepsUnit])
  | setShortens shortens => exact ⟨rfl, { h with shortens := rfl }, rfl⟩
  | call c =>
    have hn : v.nesting = w.nesting := congrArg₂ Nesting.mk h.scopes.symm h.types.symm
    have he : v.move (.call c) = v.run (c.steps w.nesting) := by
      rw [← hn]
      rfl
    rw [he] at hv ⊢
    obtain ⟨⟨hf, hs⟩, hd⟩ := inStep_run hR h hw hv
    exact ⟨hf, hs, by simp [draftAll, hn, hd]⟩

lemma draftAll_cons (w : Scribe (Watched σ)) (m : Move) (ms : List Move) :
    w.draftAll (m :: ms) = w.draftAll [m] ++ (w.move m).scribe.draftAll ms := by
  simp [draftAll]

/-- The draft of a run does not depend on the unit. -/
theorem draftAll_eq (hR : Sink.Keeps R) (h : InStep R w v) {moves : List Move}
    (hm : ∀ m ∈ moves, m.KeepsUnit) (hw : (w.moveAll moves).Willing)
    (hv : (v.moveAll moves).Willing) : w.draftAll moves = v.draftAll moves := by
  induction moves generalizing w v with
  | nil => rfl
  | cons m moves ih =>
    rw [List.forall_mem_cons] at hm
    rw [moveAll_cons] at hw hv
    obtain ⟨-, hs, hd⟩ := inStep_move hR h hm.1 hw.of_moveAll hv.of_moveAll
    rw [draftAll_cons, draftAll_cons v, hd, ih hs hm.2 hw hv]

end Scribe

/-- Two replies with the same outcome, of scribes with the same names and scopes, where the one has
written what the other has with a unit in the place of a character. -/
structure Reply.Respaced {σ : Type} (c : Char) (unit : String) (r s : Reply (Watched σ)) :
    Prop where
  fault : s.fault = r.fault
  scopes : s.scribe.scopes = r.scribe.scopes
  types : s.scribe.types = r.scribe.types
  naming : s.scribe.naming = r.scribe.naming
  taken : s.scribe.sink.taken = respaced c unit r.scribe.sink.taken

namespace Scribe
variable {σ : Type} [Sink σ] {R : σ → σ → Prop}

/-- A run whose draft does not have the character, against the same run in step. -/
theorem respaced_replies (hR : Sink.Keeps R) {c : Char} {w v : Scribe (Watched σ)}
    (h : InStep R w v) (hc : w.unit = String.singleton c)
    (ht : v.sink.taken = respaced c v.unit w.sink.taken) {moves : List Move}
    (hm : ∀ m ∈ moves, m.KeepsUnit) (hd : c ∉ (ink "" (w.draftAll moves)).toList)
    (hw : (w.moveAll moves).Willing) (hv : (v.moveAll moves).Willing) :
    List.Forall₂ (Reply.Respaced c v.unit) (w.replies moves) (v.replies moves) := by
  induction moves generalizing w v with
  | nil => exact .nil
  | cons m moves ih =>
    rw [List.forall_mem_cons] at hm
    rw [moveAll_cons] at hw hv
    rw [draftAll_cons, ink_append, String.toList_append, List.mem_append, not_or] at hd
    obtain ⟨hf, hs, hdraft⟩ := inStep_move hR h hm.1 hw.of_moveAll hv.of_moveAll
    have hone : ∀ m' ∈ [m], m'.KeepsUnit := by simpa using hm.1
    have hwt : (w.move m).scribe.sink.taken = w.sink.taken ++ ink w.unit (w.draftAll [m]) :=
      taken_moveAll hone hw.of_moveAll
    have hvt : (v.move m).scribe.sink.taken = v.sink.taken ++ ink v.unit (v.draftAll [m]) :=
      taken_moveAll hone hv.of_moveAll
    have htaken : (v.move m).scribe.sink.taken =
        respaced c v.unit (w.move m).scribe.sink.taken := by
      rw [hvt, hwt, hc, respaced_append, respaced_ink hd.1, ← ht, hdraft]
    have hwu := unit_move w hm.1
    have hvu := unit_move v hm.1
    refine .cons ⟨hf.symm, hs.scopes.symm, hs.types.symm, hs.naming.symm, htaken⟩ ?_
    rw [← hvu] at htaken ⊢
    exact ih hs (hwu.trans hc) htaken hm.2 hd.2 hw hv

/-- A scribe with another unit, and with its sink from now on under watch. -/
def watchedWith (w : Scribe σ) (unit : String) : Scribe (Watched σ) :=
  { w with sink := watch w.sink, unit }

/-- A run that leaves the unit alone, on a sink that takes every text, does the same with every
unit: the same faults, scopes, types, imports and package after each move. Where the unit is a
character that is not on the page of the same run without any indentation, putting another unit in
its place gives what is written with the other unit. -/
theorem replies_respaced {w : Scribe σ} (hs : Sink.Impartial w.sink) {moves : List Move}
    (hm : ∀ m ∈ moves, m.KeepsUnit) {c : Char} {unit : String}
    (hw : ∀ u ∈ ["", String.singleton c, unit], ((w.watchedWith u).moveAll moves).Willing)
    (hc : c ∉ ((w.watchedWith "").moveAll moves).sink.taken.toList) :
    List.Forall₂ (Reply.Respaced c unit) ((w.watchedWith (String.singleton c)).replies moves)
      ((w.watchedWith unit).replies moves) := by
  obtain ⟨R, hR, hsink⟩ := hs
  have hin : ∀ u u', InStep R (w.watchedWith u) (w.watchedWith u') := fun u u' =>
    { naming := rfl, scopes := rfl, types := rfl, closed := rfl, shortens := rfl, sinks := hsink }
  have hempty := hw "" (by simp)
  have hchar := hw (String.singleton c) (by simp)
  have hunit := hw unit (by simp)
  have hd := draftAll_eq hR (hin "" (String.singleton c)) hm hempty hchar
  have ht := taken_moveAll hm hempty
  rw [ht, hd, String.toList_append, List.mem_append, not_or] at hc
  have hstart : (w.watchedWith unit).sink.taken =
      respaced c unit (w.watchedWith (String.singleton c)).sink.taken := by
    simp [watchedWith, watch, respaced]
  exact respaced_replies hR (hin _ unit) rfl hstart hm hc.2 hchar hunit

/-- Every way in which a call indents, a call that is out of place, and a type that is no text. -/
def indentedMoves : List Move :=
  [.call (.package ""), .call (.openType "Foo" "class" .none .none "Bar"),
    .call <| Call.annotation "A" (.list ["x", "y"]), .call (.openMethod "void" "go"),
    .call (.statement "go(a,\nb)"), .call .closeType, .call .closeMethod, .setShortens false,
    .call (.field (.int 1) "n"), .call .closeType]

theorem tab_in_place_of_hash :
    let start : Scribe Page := blank {} "  " true
    List.Forall₂ (Reply.Respaced '#' "\t")
        ((start.watchedWith (String.singleton '#')).replies indentedMoves)
        ((start.watchedWith "\t").replies indentedMoves) ∧
      ((start.watchedWith "\t").moveAll indentedMoves).sink.taken =
        "class Foo\n    implements Bar \x7b\n\t@A(\x7b\n\t\tx,\n\t\ty\n\t\x7d)\n" ++
          "\tvoid go() \x7b\n\t\tgo(a,\n\t\t\t\tb);\n\t\x7d\n\t\x7d\n" := by
  intro start
  have hm : ∀ m ∈ indentedMoves, m.KeepsUnit := by simp [indentedMoves, Move.KeepsUnit]
  have hw : ∀ u ∈ ["", String.singleton '#', "\t"],
      ((start.watchedWith u).moveAll indentedMoves).sink.refused = false := by decide +kernel
  have hc : '#' ∉ ((start.watchedWith "").moveAll indentedMoves).sink.taken.toList := by
    decide +kernel
  exact ⟨replies_respaced (Page.impartial _) hm hw hc, by decide +kernel⟩

end Scribe
end JavaScribe
