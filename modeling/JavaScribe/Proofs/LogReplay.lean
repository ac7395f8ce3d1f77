import JavaScribe.Proofs.NamingRuns

/-!
# What the log tells

Every change of what a scribe keeps is noted down as it is made, and only then (`noted_step`). So
the messages of a run tell what the scribe keeps: those of the scopes, read back and replayed from
nothing, lead to the open scopes, those of the imports are the import table line by line, and that
of the package is there once if there is a package (`log_tells_state`).
-/
namespace JavaScribe

/-! ## Messages read back -/

lemma Scope.ofLabel?_label (s : Scope) : Scope.ofLabel? s.label = some s := by
  cases s <;> rfl

namespace Event

/-- A label and a depth in parentheses. -/
def labelAndDepth? (cs : List Char) : Option (Scope × ℕ) := do
  let scope ← Scope.ofLabel? (String.ofList (cs.takeWhile (· ≠ '(')).dropLast)
  let depth ← "(depth ".toList.isPrefixOf? (cs.dropWhile (· ≠ '('))
  let depth ← (String.ofList (depth.takeWhile (· ≠ ')'))).toNat?
  return (scope, depth)

/-- The event of the scopes that has this message. -/
def ofScopeMessage? (text : String) : Option Event :=
  let read : Option Event :=
    match "push ".toList.isPrefixOf? text.toList, "pop ".toList.isPrefixOf? text.toList with
    | some rest, _ => (labelAndDepth? rest).map fun r => entered r.1 r.2
    | none, some rest => (labelAndDepth? rest).map fun r => left r.1 r.2
    | none, none => none
  read.filter (·.message = text)

lemma labelAndDepth?_written (s : Scope) (depth : ℕ) :
    labelAndDepth? (s.label ++ " (depth " ++ toString depth ++ ")").toList = some (s, depth) := by
  let digits := Nat.toDigits 10 depth
  have hlabel : ∀ c ∈ s.label.toList ++ [' '], decide (c ≠ '(') = true := by
    cases s <;> simp [Scope.label]
  have hdigits : ∀ c ∈ digits, decide (c ≠ ')') = true := by
    intro c hc
    have hd := Nat.isDigit_of_mem_toDigits (by decide) (by decide) hc
    rw [decide_eq_true_eq]
    rintro rfl
    exact absurd hd (by decide)
  have hcs : (s.label ++ " (depth " ++ toString depth ++ ")").toList =
      (s.label.toList ++ [' ']) ++ ("(depth ".toList ++ (digits ++ [')'])) := by
    simp [digits]
  have htake : ((s.label.toList ++ [' ']) ++ ("(depth ".toList ++ (digits ++ [')']))).takeWhile
      (· ≠ '(') = s.label.toList ++ [' '] := by
    rw [List.takeWhile_append_of_pos hlabel]
    simp
  have hdrop : ((s.label.toList ++ [' ']) ++ ("(depth ".toList ++ (digits ++ [')']))).dropWhile
      (· ≠ '(') = "(depth ".toList ++ (digits ++ [')']) := by
    rw [List.dropWhile_append_of_pos hlabel]
    simp
  have hdepth : "(depth ".toList.isPrefixOf? ("(depth ".toList ++ (digits ++ [')'])) =
      some (digits ++ [')']) := List.isPrefixOf?_eq_some_iff_append_eq.mpr rfl
  have hread : (String.ofList ((digits ++ [')']).takeWhile (· ≠ ')'))).toNat? = some depth := by
    rw [List.takeWhile_append_of_pos hdigits, ← Nat.toNat?_repr depth,
      Nat.repr_eq_ofList_toDigits]
    simp [digits]
  have hscope : Scope.ofLabel? (String.ofList (s.label.toList ++ [' ']).dropLast) = some s := by
    rw [List.dropLast_concat, String.ofList_toList, Scope.ofLabel?_label]
  rw [hcs]
  simp only [labelAndDepth?, htake, hdrop, hdepth, hread, hscope, Option.bind_eq_bind,
    Option.bind_some, Option.pure_def]

lemma ofScopeMessage?_entered (s : Scope) (depth : ℕ) :
    ofScopeMessage? (entered s depth).message = some (entered s depth) := by
  have hm : (entered s depth).message.toList =
      "push ".toList ++ (s.label ++ " (depth " ++ toString depth ++ ")").toList := by
    simp [message]
  have hp := List.isPrefixOf?_eq_some_iff_append_eq.mpr hm.symm
  simp only [ofScopeMessage?, hp, labelAndDepth?_written, Option.map_some, Option.filter_some,
    decide_true, if_true]

lemma ofScopeMessage?_left (s : Scope) (depth : ℕ) :
    ofScopeMessage? (left s depth).message = some (left s depth) := by
  have hm : (left s depth).message.toList =
      "pop ".toList ++ (s.label ++ " (depth " ++ toString depth ++ ")").toList := by
    simp [message]
  have hp := List.isPrefixOf?_eq_some_iff_append_eq.mpr hm.symm
  have hn : "push ".toList.isPrefixOf? (left s depth).message.toList = none := by
    rw [hm]
    simp [List.isPrefixOf?]
  simp only [ofScopeMessage?, hn, hp, labelAndDepth?_written, Option.map_some,
    Option.filter_some, decide_true, if_true]

/-- The messages of a logger. -/
def messages (logger : String) (events : List Event) : List String :=
  (events.filter (·.logger = logger)).map message

lemma messages_append (logger : String) (before later : List Event) :
    messages logger (before ++ later) = messages logger before ++ messages logger later := by
  simp [messages]

/-- The messages that tell of a package. -/
def packageMessages (events : List Event) : List String :=
  (messages "javawriter.writer.writer" events).filter fun m =>
    "Package set to ".toList.isPrefixOf m.toList

lemma packageMessages_append (before later : List Event) :
    packageMessages (before ++ later) = packageMessages before ++ packageMessages later := by
  simp [packageMessages, messages_append]

lemma packageMessages_packageSet (name : Value) :
    packageMessages [packageSet name] = ["Package set to " ++ name.quoted] := by
  have hp : "Package set to ".toList.isPrefixOf ("Package set to " ++ name.quoted).toList := by
    rw [List.isPrefixOf_iff_prefix, String.toList_append]
    exact List.prefix_append _ _
  simp only [packageMessages, messages, logger, message, decide_true, List.filter_cons_of_pos,
    List.filter_nil, List.map_cons, List.map_nil, hp]

/-- Whether an event tells of the scopes, the imports or the package. -/
def tells : Event → Bool
  | ambiguous _ _ => false
  | closed => false
  | _ => true

/-- What tells of nothing is heard by no one who listens for the scopes, the imports or the
package. -/
lemma unheard {events : List Event} (h : ∀ e ∈ events, e.tells = false) :
    messages "javawriter.scopes" events = [] ∧ messages "javawriter.imports" events = [] ∧
      packageMessages events = [] := by
  induction events with
  | nil => exact ⟨rfl, rfl, rfl⟩
  | cons e events ih =>
    obtain ⟨hs, hi, hp⟩ := ih fun e' he => h e' (by simp [he])
    have ht : messages "javawriter.scopes" [e] = [] ∧ messages "javawriter.imports" [e] = [] ∧
        packageMessages [e] = [] := by
      have he := h e (by simp)
      cases e with
      | ambiguous | closed => simp [packageMessages, messages, logger, message]
      | _ => simp [tells] at he
    have hc : e :: events = [e] ++ events := rfl
    rw [hc, messages_append, messages_append, packageMessages_append, hs, hi, hp, ht.1, ht.2.1,
      ht.2.2]
    exact ⟨rfl, rfl, rfl⟩

end Event

/-! ## Scopes replayed -/

namespace Scopes

/-- The scopes after an event. It must tell how many are open then, and of the innermost scope if
one has been left. -/
def replay? (s : Scopes) : Event → Option Scopes
  | .entered scope depth => if depth = s.length + 1 then some (scope :: s) else none
  | .left scope depth =>
    match s with
    | [] => none
    | top :: rest => if scope = top ∧ depth = rest.length then some rest else none
  | _ => none

/-- The scopes after some messages, each of which must be one of the logger of scopes and in
order. -/
def replayAll? (s : Scopes) (messages : List String) : Option Scopes :=
  messages.foldlM (fun s m => (Event.ofScopeMessage? m).bind s.replay?) s

lemma replayAll?_append (s : Scopes) (before later : List String) :
    s.replayAll? (before ++ later) = (s.replayAll? before).bind (·.replayAll? later) :=
  List.foldlM_append

lemma replayAll?_entered (s : Scopes) (scope : Scope) :
    s.replayAll? [(Event.entered scope (s.length + 1)).message] = some (scope :: s) := by
  simp [replayAll?, Event.ofScopeMessage?_entered, replay?]

lemma replayAll?_left (s : Scopes) (scope : Scope) :
    replayAll? (scope :: s) [(Event.left scope s.length).message] = some s := by
  simp [replayAll?, Event.ofScopeMessage?_left, replay?]

lemma leave_eq_ok {s rest : Scopes} {operation : String} {expected : List (Option Scope)}
    {scope : Scope} (h : s.leave operation expected = .ok (scope, rest)) : s = scope :: rest := by
  cases s with
  | nil => simp [leave] at h
  | cons top s =>
    by_cases ht : some top ∈ expected
    · simp only [leave, ht, if_true, Except.ok.injEq, Prod.mk.injEq] at h
      rw [h.1, h.2]
    · simp [leave, ht] at h

end Scopes

namespace Scribe
variable {σ : Type} [Sink σ] {w : Scribe σ} {x : Step}

/-! ## What a step notes down -/

/-- What is kept before and after a step, with the events that the step notes down. -/
inductive Noted (w : Scribe σ) (x : Step) (w' : Scribe σ) : List Event → Prop
  | entered (scope : Scope) (hs : w'.scopes = scope :: w.scopes) (hn : w'.naming = w.naming) :
    Noted w x w' [.entered scope (w.scopes.length + 1)]
  | left (scope : Scope) (hs : w.scopes = scope :: w'.scopes) (hn : w'.naming = w.naming) :
    Noted w x w' [.left scope w'.scopes.length]
  | imported (name short : String) (hs : w'.scopes = w.scopes)
    (hi : w'.naming.imports.entries = w.naming.imports.entries ++ [(name, short)])
    (hp : w'.naming.package = w.naming.package) :
    Noted w x w' [.imported name short]
  | packageSet (name : Value) (hx : x = .setPackage name) (hs : w'.scopes = w.scopes)
    (hi : w'.naming.imports = w.naming.imports)
    (hp : w'.naming.package = some (packagePrefix name)) :
    Noted w x w' [.packageSet name]
  | other (events : List Event) (he : ∀ e ∈ events, e.tells = false) (hs : w'.scopes = w.scopes)
    (hn : w'.naming = w.naming) :
    Noted w x w' events

lemma remarks_tell_nothing (n : Naming) (type : Value) :
    ∀ e ∈ n.remarks type, e.tells = false := by
  intro e he
  unfold Naming.remarks at he
  split at he
  · obtain ⟨piece, -, hp⟩ := List.mem_filterMap.mp he
    cases piece with
    | other c => simp [Naming.pieceEvent?] at hp
    | name cs =>
      simp only [Naming.pieceEvent?, Resolution.event?] at hp
      split at hp
      · cases hp
        rfl
      · simp at hp
  · simp at he

theorem noted_step (w : Scribe σ) (x : Step) :
    ∃ events, Noted w x (w.step x).scribe events ∧ (w.step x).scribe.log = w.log ++ events := by
  have hsame : Noted w x w [] := .other [] (by simp) rfl rfl
  cases hx : x.writes with
  | true =>
    obtain ⟨sink, events, he, h⟩ := scribe_of_writes (w := w) hx
    have ht : ∀ e ∈ events, e.tells = false := fun e hm =>
      (he e hm).elim fun type hr => remarks_tell_nothing w.naming type e hr
    rw [h]
    exact ⟨events, .other events ht rfl rfl, rfl⟩
  | false =>
    cases x with
    | write | indent | writeType => simp [Step.writes] at hx
    | enter scope => exact ⟨_, .entered scope rfl rfl, rfl⟩
    | setPackage name => exact ⟨_, .packageSet name rfl rfl rfl rfl, rfl⟩
    | pushName | fail => exact ⟨[], .other [] (by simp) rfl rfl, by simp [step, done, failing]⟩
    | display type =>
      simp only [step]
      split
      · exact ⟨_, .other _ (remarks_tell_nothing w.naming type) rfl rfl, rfl⟩
      · exact ⟨[], hsame, by simp [failing]⟩
    | leave operation expected =>
      simp only [step]
      split
      · rename_i scope scopes hl
        exact ⟨_, .left scope (Scopes.leave_eq_ok hl) rfl, rfl⟩
      · exact ⟨[], hsame, by simp [failing]⟩
    | register name =>
      simp only [step]
      split
      · rename_i ha
        exact ⟨_, .imported name _ rfl (Imports.entries_add ha) rfl, rfl⟩
      · exact ⟨[], hsame, by simp [failing]⟩
    | close =>
      simp only [step]
      split
      · exact ⟨[], hsame, by simp [done]⟩
      · exact ⟨[.closed], .other _ (by simp [Event.tells]) rfl rfl, rfl⟩
    | require | requireNoPackage | popName =>
      simp only [step]
      split <;> exact ⟨[], .other [] (by simp) rfl rfl, by simp [done, failing]⟩

/-- The messages of the scopes and of the imports tell what is kept of them. -/
structure Told (w : Scribe σ) : Prop where
  scopes : Scopes.replayAll? [] (Event.messages "javawriter.scopes" w.log) = some w.scopes
  imports : Event.messages "javawriter.imports" w.log =
    w.naming.imports.entries.map fun entry => "Imported " ++ entry.1 ++ " as " ++ entry.2

theorem told_step (w : Scribe σ) (x : Step) (h : w.Told) : (w.step x).scribe.Told := by
  obtain ⟨events, hn, hl⟩ := noted_step w x
  have hscopes := Scopes.replayAll?_append [] (Event.messages "javawriter.scopes" w.log)
    (Event.messages "javawriter.scopes" events)
  rw [← Event.messages_append, ← hl, h.scopes, Option.bind_some] at hscopes
  have himports := Event.messages_append "javawriter.imports" w.log events
  rw [← hl, h.imports] at himports
  cases hn with
  | entered scope hs hn =>
    constructor
    · rw [hscopes, hs]
      exact Scopes.replayAll?_entered w.scopes scope
    · rw [himports, hn]
      simp [Event.messages, Event.logger]
  | left scope hs hn =>
    constructor
    · rw [hscopes, hs]
      exact Scopes.replayAll?_left _ scope
    · rw [himports, hn]
      simp [Event.messages, Event.logger]
  | imported name short hs hi hp =>
    constructor
    · rw [hscopes, hs]
      simp [Event.messages, Event.logger, Scopes.replayAll?]
    · rw [himports, hi]
      simp [Event.messages, Event.logger, Event.message]
  | packageSet name hx hs hi hp =>
    constructor
    · rw [hscopes, hs]
      simp [Event.messages, Event.logger, Scopes.replayAll?]
    · rw [himports, hi]
      simp [Event.messages, Event.logger]
  | other _ he hs hn =>
    obtain ⟨hes, hei, -⟩ := Event.unheard he
    constructor
    · rw [hscopes, hs, hes]
      rfl
    · rw [himports, hn, hei, List.append_nil]

/-- The log only grows. -/
lemma log_step (w : Scribe σ) (x : Step) : w.log <+: (w.step x).scribe.log := by
  obtain ⟨events, -, hl⟩ := noted_step w x
  exact ⟨events, hl.symm⟩

/-- A step other than the setting of a package notes nothing down of one. -/
lemma packageMessages_step (hx : ∀ name, x ≠ .setPackage name) :
    Event.packageMessages (w.step x).scribe.log = Event.packageMessages w.log := by
  obtain ⟨events, hn, hl⟩ := noted_step w x
  rw [hl, Event.packageMessages_append]
  cases hn with
  | packageSet name he => exact absurd he (hx name)
  | other _ he => rw [(Event.unheard he).2.2, List.append_nil]
  | entered | left | imported =>
    simp [Event.packageMessages, Event.messages, Event.logger]

/-! ## What a run notes down -/

lemma log_perform (w : Scribe σ) (c : Call) : w.log <+: (w.perform c).scribe.log :=
  run_invariant (P := fun v : Scribe σ => w.log <+: v.log)
    (fun v x hv => hv.trans (log_step v x)) (List.prefix_refl _) _

theorem log_moveAll (w : Scribe σ) (moves : List Move) : w.log <+: (w.moveAll moves).log := by
  refine moveAll_invariant (P := fun v : Scribe σ => w.log <+: v.log) (List.prefix_refl _)
    fun v m _ hv => ?_
  cases m with
  | setUnit | setShortens => exact hv
  | call c => exact hv.trans (log_perform v c)

theorem told_moveAll (h : w.Told) (moves : List Move) : (w.moveAll moves).Told := by
  refine moveAll_invariant h fun v m _ hv => ?_
  cases m with
  | setUnit | setShortens => exact ⟨hv.scopes, hv.imports⟩
  | call c => exact run_invariant told_step hv _

/-- Steps that set no package leave it as it is and note nothing down of it. -/
lemma package_run {steps : List Step} (h : ∀ name, .setPackage name ∉ steps) :
    (w.run steps).scribe.naming.package = w.naming.package ∧
      Event.packageMessages (w.run steps).scribe.log = Event.packageMessages w.log := by
  refine run_kept (P := fun v : Scribe σ => v.naming.package = w.naming.package ∧
    Event.packageMessages v.log = Event.packageMessages w.log) ⟨rfl, rfl⟩ fun v x hx hv => ?_
  have hp : ∀ name, x ≠ .setPackage name := by
    rintro name rfl
    exact h name hx
  exact ⟨(package_step hp).trans hv.1, (packageMessages_step hp).trans hv.2⟩

/-- A call that names a package and comes to its end sets it and says so. Otherwise it does
neither. -/
lemma package_perform_package (name : Value) (h : w.naming.package = none) :
    let r := w.perform (.package name)
    if r.fault = none then
      r.scribe.naming.package = some (packagePrefix name) ∧
        Event.packageMessages r.scribe.log =
          Event.packageMessages w.log ++ ["Package set to " ++ name.quoted]
    else r.scribe.naming.package = none ∧
      Event.packageMessages r.scribe.log = Event.packageMessages w.log := by
  have hhead : ∀ other, .setPackage other ∉ Call.packageHead name := by
    intro other hm
    exact Call.forall_packageHead (p := fun x => x ≠ .setPackage other) (by simp) (by simp)
      (by simp) (by simp) _ hm rfl
  have hk := package_run (w := w) hhead
  simp only [perform, Call.steps, Call.packageSteps, run_append]
  cases hf : (w.run (Call.packageHead name)).fault with
  | some fault => simp [hf, hk, h]
  | none =>
    have hm : Event.packageMessages
          ((w.run (Call.packageHead name)).scribe.step (.setPackage name)).scribe.log =
        Event.packageMessages w.log ++ ["Package set to " ++ name.quoted] := by
      rw [← hk.2, ← Event.packageMessages_packageSet, ← Event.packageMessages_append]
      rfl
    exact ⟨rfl, hm⟩

/-- A run has named a package with a call that has come to its end. -/
def NamesPackage (start : Scribe σ) (moves : List Move) (name : Value) : Prop :=
  ∃ before later, moves = before ++ .call (.package name) :: later ∧
    ((start.moveAll before).perform (.package name)).fault = none

lemma NamesPackage.append {start : Scribe σ} {moves : List Move}
    (h : start.NamesPackage moves name) (m : Move) : start.NamesPackage (moves ++ [m]) name := by
  obtain ⟨before, later, rfl, hf⟩ := h
  exact ⟨before, later ++ [m], by simp, hf⟩

/-- A move that names no package leaves it as it is and notes nothing down of it. -/
lemma package_unnamed {m : Move} (hm : ∀ name, m ≠ .call (.package name)) :
    (w.move m).scribe.naming.package = w.naming.package ∧
      Event.packageMessages (w.move m).scribe.log = Event.packageMessages w.log := by
  cases m with
  | setUnit | setShortens => exact ⟨rfl, rfl⟩
  | call c =>
    refine package_run fun name hx => ?_
    have hc : ∀ name, c ≠ .package name := by
      rintro name rfl
      exact hm name rfl
    exact hc name (c.admits_steps w.nesting _ hx)

/-- The package that a scribe keeps, as the run up to it and the log tell of it. -/
def PackageTold (start : Scribe σ) (moves : List Move) (w : Scribe σ) : Prop :=
  match w.naming.package with
  | none => Event.packageMessages w.log = []
  | some package => ∃ name, start.NamesPackage moves name ∧ package = packagePrefix name ∧
      Event.packageMessages w.log = ["Package set to " ++ name.quoted]

lemma packageTold_none (start : Scribe σ) (moves : List Move) (h : w.naming.package = none) :
    PackageTold start moves w ↔ Event.packageMessages w.log = [] := by
  simp [PackageTold, h]

lemma packageTold_some (start : Scribe σ) (moves : List Move) {package : String}
    (h : w.naming.package = some package) :
    PackageTold start moves w ↔ ∃ name, start.NamesPackage moves name ∧
      package = packagePrefix name ∧
      Event.packageMessages w.log = ["Package set to " ++ name.quoted] := by
  simp [PackageTold, h]

/-- What is told of a package stays told while nothing is changed of it. -/
lemma PackageTold.append {start v : Scribe σ} {moves : List Move}
    (h : PackageTold start moves w) (m : Move) (hp : v.naming.package = w.naming.package)
    (hl : Event.packageMessages v.log = Event.packageMessages w.log) :
    PackageTold start (moves ++ [m]) v := by
  cases hw : w.naming.package with
  | none =>
    rw [packageTold_none _ _ hw] at h
    rw [packageTold_none _ _ (hp.trans hw), hl, h]
  | some package =>
    rw [packageTold_some _ _ hw] at h
    rw [packageTold_some _ _ (hp.trans hw), hl]
    obtain ⟨name, hn, he⟩ := h
    exact ⟨name, hn.append m, he⟩

theorem packageTold_moveAll (start : Scribe σ) (hp : start.naming.package = none)
    (hl : Event.packageMessages start.log = []) (moves : List Move) :
    PackageTold start moves (start.moveAll moves) := by
  induction moves using List.reverseRecOn with
  | nil => exact (packageTold_none _ _ hp).mpr hl
  | append_singleton moves m ih =>
    rw [moveAll_append, moveAll_cons, moveAll_nil]
    by_cases hm : ∃ name, m = .call (.package name)
    swap
    · have hk := package_unnamed (w := start.moveAll moves) fun name he => hm ⟨name, he⟩
      exact ih.append m hk.1 hk.2
    · obtain ⟨name, rfl⟩ := hm
      cases hw : (start.moveAll moves).naming.package with
      | some package =>
        have hr := perform_packageTwice hw name
        simp only [move, hr]
        exact ih.append _ rfl rfl
      | none =>
        have hk := package_perform_package name hw
        have ht := (packageTold_none _ _ hw).mp ih
        dsimp only at hk
        split at hk
        · rename_i hf
          refine (packageTold_some _ _ hk.1).mpr ⟨name, ⟨moves, [], rfl, hf⟩, rfl, ?_⟩
          rw [hk.2, ht, List.nil_append]
        · exact ih.append _ (hk.1.trans hw.symm) hk.2

/-- The log of a run tells what its scribe keeps: at every time the messages of the scopes replay to
the open scopes, those of the imports are the import table, and there is one of the package if it is
set, with the name that it was set to. -/
theorem log_tells_state (sink : σ) (unit : String) (shortens : Bool) (moves : List Move) :
    let start := blank sink unit shortens
    let w := start.moveAll moves
    (∀ n, let v := start.moveAll (moves.take n)
      v.log <+: w.log ∧
        Scopes.replayAll? [] (Event.messages "javawriter.scopes" v.log) = some v.scopes) ∧
    (Event.messages "javawriter.imports" w.log =
      w.naming.imports.entries.map fun entry => "Imported " ++ entry.1 ++ " as " ++ entry.2) ∧
    PackageTold start moves w := by
  intro start w
  have htold : ∀ before, (start.moveAll before).Told := told_moveAll ⟨rfl, rfl⟩
  refine ⟨fun n => ⟨?_, (htold _).scopes⟩, (htold moves).imports,
    packageTold_moveAll start rfl rfl moves⟩
  have hw : w = (start.moveAll (moves.take n)).moveAll (moves.drop n) := by
    rw [← moveAll_append, List.take_append_drop]
  exact hw ▸ log_moveAll _ (moves.drop n)

end Scribe
end JavaScribe
