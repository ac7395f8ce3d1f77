import JavaScribe.Proofs.LoggerTree

/-!
# Messages on their way

Loggers are set up, asked for and given messages in any order. After the last setup that has not
failed, a message comes to the console and to the file as one line each, if its level is high
enough, and to neither otherwise (`messages_delivered`). A decision that a logger keeps is the one
that it would make anew (`Kept`), whatever has been asked for in between. All this holds for the
names that do not lead astray, and for no others.
-/
namespace JavaScribe.Logging

inductive Request where
  | setup (setting environment : Option String) (toFile : Bool)
  | get (name : String)
  | log (name : String) (level : ℕ) (message : String)
  deriving DecidableEq, Repr

/-- The level that a setup comes to. -/
def chosenLevel (setting environment : Option String) : Except Fault ℕ :=
  parseLevel ((setting.or environment).getD "WARNING")

/-- The level and the choice of a file that a setup comes to, if it does not fail. -/
def Request.sets? : Request → Option (ℕ × Bool)
  | setup setting environment toFile =>
    (chosenLevel setting environment).toOption.map (·, toFile)
  | _ => none

structure Answer where
  fault : Option Fault
  output : Output
  registry : Registry
  deriving DecidableEq, Repr

namespace Registry

def answer (r : Registry) : Request → Answer
  | .setup setting environment toFile =>
    match r.setup setting environment toFile with
    | .ok registry => ⟨none, {}, registry⟩
    | .error fault => ⟨some fault, {}, r⟩
  | .get name => ⟨none, {}, (r.get name).2⟩
  | .log name level message => ⟨none, (r.log name level message).1, (r.log name level message).2⟩

/-- The registry after requests that are made one after the other, whether or not they fail. -/
def answerAll (r : Registry) (requests : List Request) : Registry :=
  requests.foldl (fun r q => (r.answer q).registry) r

/-- What a setup decides of the package logger. -/
def config (r : Registry) : ℕ × List Handler × Bool := (r.level, r.handlers, r.propagate)

end Registry

/-- What the last setup that has not failed has come to. -/
def lastSetup? (requests : List Request) : Option (ℕ × Bool) :=
  (requests.filterMap Request.sets?).getLast?

def handlersOf (level : ℕ) (toFile : Bool) : List Handler :=
  ⟨.console, level⟩ :: if toFile then [⟨.file, level⟩] else []

/-- The lowest level that passes when this one has been set. -/
def lowest (level : ℕ) : ℕ := if level = 0 then rootLevel else level

/-- One line on the console and, if there is a file, one line in it, or nothing. -/
def delivered (level : ℕ) (toFile : Bool) (full : String) (v : ℕ) (message : String) : Output :=
  let line := formatted full v message
  if lowest level ≤ v then { console := line, file := if toFile then line else "" } else {}

namespace Registry
variable {r : Registry} {q : Request} {name full : String} {level v : ℕ} {toFile : Bool}

/-! ## What a setup decides -/

lemma setup_ok {setting environment : Option String}
    (h : chosenLevel setting environment = .ok level) :
    r.setup setting environment toFile = .ok
      { r.add packageName with
        level, handlers := handlersOf level toFile, propagate := false, decisions := [] } := by
  rw [chosenLevel] at h
  rw [setup, h]
  rfl

lemma setup_error {setting environment : Option String} {fault : Fault}
    (h : chosenLevel setting environment = .error fault) :
    r.setup setting environment toFile = .error fault := by
  rw [chosenLevel] at h
  rw [setup, h]
  rfl

lemma config_add (r : Registry) (full : String) : (r.add full).config = r.config := by
  unfold add
  split <;> rfl

lemma decisions_add (r : Registry) (full : String) : (r.add full).decisions = r.decisions := by
  unfold add
  split <;> rfl

lemma mem_loggers_add (h : name ∈ r.loggers) (full : String) : name ∈ (r.add full).loggers := by
  unfold add
  split
  · exact h
  · simp [h]

lemma self_mem_loggers_add (r : Registry) (full : String) : full ∈ (r.add full).loggers := by
  unfold add
  split
  · rename_i hc
    exact List.contains_iff_mem.mp hc
  · simp

lemma add_of_mem (h : full ∈ r.loggers) : r.add full = r :=
  if_pos (List.contains_iff_mem.mpr h)

lemma config_admits (r : Registry) (full : String) (v : ℕ) :
    (r.admits full v).2.config = r.config := by
  unfold admits
  split <;> rfl

theorem config_answer (r : Registry) (q : Request) : (r.answer q).registry.config =
    match q.sets? with
    | some (level, toFile) => (level, handlersOf level toFile, false)
    | none => r.config := by
  cases q with
  | get name => exact config_add r _
  | log name v message => exact (config_admits _ _ v).trans (config_add r _)
  | setup setting environment toFile =>
    cases h : chosenLevel setting environment with
    | ok level => simp [answer, setup_ok h, Request.sets?, h, Except.toOption, config]
    | error fault => simp [answer, setup_error h, Request.sets?, h, Except.toOption]

theorem config_answerAll {requests : List Request}
    (h : lastSetup? requests = some (level, toFile)) :
    (r.answerAll requests).config = (level, handlersOf level toFile, false) := by
  induction requests using List.reverseRecOn with
  | nil => simp [lastSetup?] at h
  | append_singleton requests q ih =>
    rw [answerAll, List.foldl_append, List.foldl_cons, List.foldl_nil, config_answer]
    cases hq : q.sets? with
    | some c =>
      obtain rfl : c = (level, toFile) := by simpa [lastSetup?, hq] using h
      rfl
    | none =>
      have hl : lastSetup? requests = some (level, toFile) := by simpa [lastSetup?, hq] using h
      exact ih hl

/-! ## Decisions that are kept -/

/-- There is the package logger, and what has been decided for a logger below it is what would be
decided anew. -/
structure Kept (r : Registry) : Prop where
  package : packageName ∈ r.loggers
  decided : ∀ d ∈ r.decisions, ∀ name, d.logger = loggerName name → ¬ Stray d.logger →
    d.passes = decide (lowest r.level ≤ d.level)

lemma kept_blank : Kept {} where
  package := by decide
  decided := by simp

lemma threshold_of_not_stray (h : packageName ∈ r.loggers) (hs : ¬ Stray (loggerName name)) :
    r.threshold (loggerName name) = lowest r.level := by
  rw [threshold, reaches_of_not_stray h hs, lowest]
  by_cases hl : r.level = 0 <;> simp [hl]

lemma Kept.add (h : r.Kept) (full : String) : (r.add full).Kept where
  package := mem_loggers_add h.package full
  decided := by
    rw [decisions_add]
    have hl : (r.add full).level = r.level := congrArg Prod.fst (config_add r full)
    exact hl ▸ h.decided

lemma Kept.admits (h : r.Kept) (hs : ¬ Stray (loggerName name)) (v : ℕ) :
    (r.admits (loggerName name) v).1 = decide (lowest r.level ≤ v) := by
  unfold Registry.admits
  split
  · rename_i d hd
    obtain ⟨hl, hv⟩ : d.logger = loggerName name ∧ d.level = v := by
      simpa using List.find?_some hd
    have hp := h.decided d (List.mem_of_find?_eq_some hd) name hl (hl ▸ hs)
    rw [hp, hv]
  · rw [threshold_of_not_stray h.package hs]

lemma Kept.after_admits (h : r.Kept) (name : String) (v : ℕ) :
    (r.admits (loggerName name) v).2.Kept := by
  unfold Registry.admits
  split
  · exact h
  · refine ⟨h.package, fun d hd other hl hs => ?_⟩
    rcases List.mem_cons.mp hd with rfl | hd
    · rw [threshold_of_not_stray h.package hs]
    · exact h.decided d hd other hl hs

theorem kept_answer (h : r.Kept) (q : Request) : (r.answer q).registry.Kept := by
  cases q with
  | get name => exact h.add _
  | log name v message => exact (h.add _).after_admits name v
  | setup setting environment toFile =>
    cases hc : chosenLevel setting environment with
    | ok level =>
      rw [answer, setup_ok hc]
      exact ⟨(h.add packageName).package, by simp⟩
    | error fault =>
      rw [answer, setup_error hc]
      exact h

theorem kept_answerAll (h : r.Kept) (requests : List Request) : (r.answerAll requests).Kept := by
  induction requests generalizing r with
  | nil => exact h
  | cons q requests ih => exact ih (kept_answer h q)

/-! ## One message -/

lemma emit_handlersOf (hr : r.reaches full = true) (hh : r.handlers = handlersOf level toFile)
    (hv : level ≤ v) (message : String) :
    r.emit full v message = { console := formatted full v message
                              file := if toFile then formatted full v message else "" } := by
  have hf : r.handlersFor full = handlersOf level toFile := by rw [handlersFor, if_pos hr, hh]
  rw [emit, hf]
  cases toFile <;> simp [handlersOf, hv, Output.add]

theorem Kept.log (h : r.Kept) (hc : r.config = (level, handlersOf level toFile, false))
    (hs : ¬ Stray (loggerName name)) (v : ℕ) (message : String) :
    (r.log name v message).1 = delivered level toFile (loggerName name) v message := by
  have hadd := h.add (loggerName name)
  have hconfig : (r.add (loggerName name)).config = (level, handlersOf level toFile, false) :=
    (config_add r _).trans hc
  have hlevel : (r.add (loggerName name)).level = level := congrArg Prod.fst hconfig
  have hpasses := hadd.admits hs v
  have hafter := hadd.after_admits name v
  have hhandlers : ((r.add (loggerName name)).admits (loggerName name) v).2.handlers =
      handlersOf level toFile :=
    congrArg (·.2.1) ((config_admits _ _ v).trans hconfig)
  rw [hlevel] at hpasses
  simp only [Registry.log, Registry.get, hpasses, decide_eq_true_eq, delivered]
  split
  · rename_i hv
    have hle : level ≤ v := by
      unfold lowest at hv
      split at hv <;> omega
    exact emit_handlersOf (reaches_of_not_stray hafter.package hs) hhandlers hle message
  · rfl

/-! ## Messages that go astray -/

lemma strays_add_strayest : Strays (({} : Registry).add strayest) where
  strayest := by decide
  others := by decide

lemma strays_add (h : Strays r) (hf : full ∈ ({} : Registry).loggers ∨ Stray full) :
    Strays (r.add full) where
  strayest := mem_loggers_add h.strayest full
  others := by
    intro name hn
    unfold add at hn
    split at hn
    · exact h.others name hn
    · rcases List.mem_append.mp hn with hn | hn
      · exact h.others name hn
      · rwa [List.mem_singleton.mp hn]

/-- A message that meets no handler goes to the console as it is. -/
lemma log_of_strays (h : Strays r) (hd : r.decisions = []) (hs : Stray (loggerName name))
    (message : String) : (r.log name warning message).1 = { console := message ++ "\n" } := by
  have hadd := strays_add h (Or.inr hs)
  have ht : (r.add (loggerName name)).threshold (loggerName name) = warning := by
    rw [threshold, hadd.not_reaches hs]
    rfl
  have hp : (r.add (loggerName name)).admits (loggerName name) warning =
      (true, { r.add (loggerName name) with decisions := [⟨loggerName name, warning, true⟩] }) := by
    simp [admits, decisions_add, hd, ht]
  have hf : ({ r.add (loggerName name) with
      decisions := [⟨loggerName name, warning, true⟩] } : Registry).handlersFor (loggerName name) =
        [] := by
    have hr : Strays { r.add (loggerName name) with
      decisions := [⟨loggerName name, warning, true⟩] } := ⟨hadd.strayest, hadd.others⟩
    rw [handlersFor, hr.not_reaches hs]
    rfl
  simp only [log, get, hp, if_true, emit, hf, le_refl]

lemma strays_setup (h : Strays r) (hq : q.sets? = some (level, toFile)) :
    Strays (r.answer q).registry ∧ (r.answer q).registry.decisions = [] := by
  cases q with
  | get name => simp [Request.sets?] at hq
  | log name v message => simp [Request.sets?] at hq
  | setup setting environment toFile =>
    cases hc : chosenLevel setting environment with
    | error fault => simp [Request.sets?, hc, Except.toOption] at hq
    | ok level =>
      have hadd : Strays (r.add packageName) := strays_add h (Or.inl (by decide))
      rw [answer, setup_ok hc]
      exact ⟨⟨hadd.strayest, hadd.others⟩, rfl⟩

lemma delivered_ne (level : ℕ) (toFile : Bool) (full : String) (v : ℕ) :
    ({ console := "\n" } : Output) ≠ delivered level toFile full v "" := by
  intro h
  have hc : "\n" = (delivered level toFile full v "").console := congrArg Output.console h
  rw [delivered] at hc
  split at hc
  · have hl := congrArg (·.toList.length) hc
    simp [formatted] at hl
    omega
  · exact absurd hc (by decide)

/-- After any setup there can be loggers among which the messages of a stray name are lost. -/
lemma exists_lost {requests : List Request} (h : lastSetup? requests = some (level, toFile))
    (hs : Stray (loggerName name)) :
    ∃ other v message, lastSetup? other = some (level, toFile) ∧
      ((({} : Registry).answerAll other).log name v message).1 ≠
        delivered level toFile (loggerName name) v message := by
  obtain ⟨q, -, hq⟩ := List.mem_filterMap.mp (List.mem_of_getLast? h)
  have hlast : lastSetup? [.get ".", q] = some (level, toFile) := by
    have hg : (Request.get ".").sets? = none := rfl
    simp [lastSetup?, hg, hq]
  obtain ⟨hr, hd⟩ := strays_setup strays_add_strayest hq
  refine ⟨[.get ".", q], warning, "", hlast, ?_⟩
  have hlog := log_of_strays hr hd hs ""
  exact hlog ▸ delivered_ne level toFile (loggerName name) warning

/-! ## All messages -/

lemma answer_of_fault {fault : Fault} (h : (r.answer q).fault = some fault) :
    (r.answer q).registry = r := by
  cases q with
  | get name => simp [answer] at h
  | log name v message => simp [answer] at h
  | setup setting environment toFile =>
    cases hc : chosenLevel setting environment with
    | ok level => simp [answer, setup_ok hc] at h
    | error fault => rw [answer, setup_error hc]

lemma get_again (r : Registry) (name : String) :
    (r.get name).2.get (r.get name).1 = r.get name := by
  simp only [get, loggerName_loggerName, add_of_mem (self_mem_loggers_add r _)]

/-- After requests of any kind the package logger is as the last setup has left it that has not
failed. Messages to any name are delivered by that setup, one line to each handler or nothing at
all, but for the stray names; and for each of those there are requests after which a message is
lost. What fails changes nothing, and only a setup that does not fail changes the level, the
handlers and whether messages go on to the root. A logger is the package logger or below it by its
name, and the same logger answers to its full name. -/
theorem messages_delivered {requests : List Request}
    (h : lastSetup? requests = some (level, toFile)) :
    let r := ({} : Registry).answerAll requests
    (r.level = level ∧ r.handlers = handlersOf level toFile ∧ r.propagate = false) ∧
    (∀ name, ¬ Stray (loggerName name) → ∀ v message,
      (r.log name v message).1 = delivered level toFile (loggerName name) v message) ∧
    (∀ name, Stray (loggerName name) → ∃ other v message,
      lastSetup? other = some (level, toFile) ∧
        ((({} : Registry).answerAll other).log name v message).1 ≠
          delivered level toFile (loggerName name) v message) ∧
    (∀ (s : Registry) q, (q.sets? = none → (s.answer q).registry.config = s.config) ∧
      ∀ fault, (s.answer q).fault = some fault → (s.answer q).registry = s) ∧
    ∀ name, (loggerName name = packageName ∨
        (packageName ++ ".").toList <+: (loggerName name).toList) ∧
      ∀ s : Registry, (s.get name).1 = loggerName name ∧
        (s.get name).2.get (s.get name).1 = s.get name := by
  intro r
  have hc : r.config = (level, handlersOf level toFile, false) := config_answerAll h
  refine ⟨⟨congrArg Prod.fst hc, congrArg (·.2.1) hc, congrArg (·.2.2) hc⟩,
    fun name hs v message => (kept_answerAll kept_blank requests).log hc hs v message,
    fun name hs => exists_lost h hs,
    fun s q => ⟨fun hq => by rw [config_answer, hq], fun fault => answer_of_fault⟩,
    fun name => ⟨(loggerName_cases name).imp id fun ⟨t, ht⟩ => ⟨t, ht.symm⟩,
      fun s => ⟨rfl, get_again s name⟩⟩⟩

/-- A debug setup without a file, then one of warnings with one, and one that fails. -/
def setupsAndMessages : List Request :=
  [.setup (some "Debug") none false, .log "a" 10 "m", .setup none none true,
    .setup (some "basic_format") none false, .log "a" 10 "n"]

theorem warning_in_both :
    let r := ({} : Registry).answerAll setupsAndMessages
    r.handlers = [⟨.console, 30⟩, ⟨.file, 30⟩] ∧
      (r.log "a.b" 40 "x").1 =
        { console := "javawriter.a.b - ERROR - x\n", file := "javawriter.a.b - ERROR - x\n" } ∧
      (r.log "a.b" 20 "x").1 = {} := by
  have hl : lastSetup? setupsAndMessages = some (30, true) := by decide +kernel
  have hm := messages_delivered hl
  have hs : ¬ Stray (loggerName "a.b") := by decide +kernel
  refine ⟨hm.1.2.1, ?_, ?_⟩
  · rw [hm.2.1 "a.b" hs 40 "x"]
    decide +kernel
  · rw [hm.2.1 "a.b" hs 20 "x"]
    decide +kernel

theorem not_every_name_delivered : ¬ ∀ requests level toFile,
    lastSetup? requests = some (level, toFile) → ∀ name v message,
      ((({} : Registry).answerAll requests).log name v message).1 =
        delivered level toFile (loggerName name) v message := by
  intro h
  have hl : lastSetup? [.setup (some "INFO") none true] = some (20, true) := by decide +kernel
  have hx := h [.setup (some "INFO") none true] 20 true hl ".x" 40 "m"
  exact absurd hx (by decide +kernel)

end Registry
end JavaScribe.Logging
