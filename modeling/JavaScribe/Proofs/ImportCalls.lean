import JavaScribe.Proofs.ArgumentFaults
import JavaScribe.Proofs.ImportNames
import JavaScribe.Proofs.TakenTexts

/-!
# Import calls, whole or broken off

An import call takes its names in order, each once. It registers a name and then writes its line, so
a name that is malformed or is there already leaves nothing behind, while one whose line the sink
refuses stays in the table. Either way the call ends there, and the names before it have been
registered and written. All this depends on which names are given, and not on how
(`import_call`).
-/
namespace JavaScribe

def importLine (keyword name : String) : String := keyword ++ " " ++ name ++ ";\n"

/-- What an import call is given. -/
def Call.importArguments : Call → List Value
  | imports names | staticImports names => names
  | _ => []

/-- Names with the short names under which they are imported. -/
def shortened (names : List String) : List (String × String) :=
  names.filterMap fun n => (Name.short? n).map fun short => (n, short)

lemma map_fst_shortened {names : List String} (hs : ∀ n ∈ names, Name.short? n ≠ none) :
    (shortened names).map Prod.fst = names := by
  induction names with
  | nil => rfl
  | cons n names ih =>
    rw [List.forall_mem_cons] at hs
    obtain ⟨short, hn⟩ := Option.ne_none_iff_exists'.mp hs.1
    have ih := ih hs.2
    unfold shortened at ih ⊢
    simp [hn, ih]

namespace Scribe
variable {σ : Type} [Sink σ]

/-- The scribe with names imported one after the other: their lines have been offered to the sink,
and the table and the log have grown. -/
def imported (w : Scribe σ) (keyword : String) (names : List String) : Scribe σ :=
  { w with
    sink := Sink.writeAll w.sink (names.map (importLine keyword))
    naming := { w.naming with imports := ⟨w.naming.imports.entries ++ shortened names⟩ }
    log := w.log ++ (shortened names).map fun e => .imported e.1 e.2 }

/-- The answer of the sink to the line of a name that is imported after others. -/
def answer (w : Scribe σ) (keyword : String) (before : List String) (n : String) :
    Option Refusal :=
  (Sink.write (w.imported keyword before).sink (importLine keyword n)).1

/-- A name can be registered and its line is taken, when the names before it have been imported. -/
def Passes (w : Scribe σ) (keyword : String) (before : List String) (n : String) : Prop :=
  Name.short? n ≠ none ∧ n ∉ w.naming.imports.names ∧ w.answer keyword before n = none

/-- Each of some names passes when those in front of it have been imported. -/
def AllPass (w : Scribe σ) (keyword : String) (names : List String) : Prop :=
  ∀ before n, before ++ [n] <+: names → w.Passes keyword before n

/-- How an import call ends when the names that are `done` have passed: all have, or the first that
is left is at fault. The names that have been `tried` are in the table. -/
inductive ImportEnds (w : Scribe σ) (keyword : String) (done : List String) :
    (rest tried : List String) → Option Fault → Prop
  | whole : ImportEnds w keyword done [] done none
  | malformed {n : String} {later : List String} (hs : Name.short? n = none) :
      ImportEnds w keyword done (n :: later) done (some (.notQualified n))
  | duplicate {n : String} {later : List String} (hs : Name.short? n ≠ none)
      (hn : n ∈ w.naming.imports.names) :
      ImportEnds w keyword done (n :: later) done (some (.importedTwice n))
  | refused {n : String} {later : List String} {refusal : Refusal} (hs : Name.short? n ≠ none)
      (hn : n ∉ w.naming.imports.names) (hr : w.answer keyword done n = some refusal) :
      ImportEnds w keyword done (n :: later) (done ++ [n]) (some (.sink refusal))

section
variable {w : Scribe σ} {keyword n : String} {names before done rest tried : List String}
  {fault : Option Fault}

@[simp] lemma imported_nil : w.imported keyword [] = w := by
  simp [imported, shortened, Sink.writeAll]

lemma names_imported (hs : ∀ n ∈ names, Name.short? n ≠ none) :
    (w.imported keyword names).naming.imports.names = w.naming.imports.names ++ names := by
  simp [imported, Imports.names, map_fst_shortened hs]

lemma imported_concat {short : String} (hs : Name.short? n = some short) :
    w.imported keyword (before ++ [n]) =
      { w.imported keyword before with
        sink := (Sink.write (w.imported keyword before).sink (importLine keyword n)).2
        naming := { (w.imported keyword before).naming with
          imports := ⟨(w.imported keyword before).naming.imports.entries ++ [(n, short)]⟩ }
        log := (w.imported keyword before).log ++ [.imported n short] } := by
  simp [imported, shortened, hs, Sink.writeAll]

lemma sink_imported_concat : (w.imported keyword (before ++ [n])).sink =
    (Sink.write (w.imported keyword before).sink (importLine keyword n)).2 := by
  simp [imported, Sink.writeAll]

lemma AllPass.nil : w.AllPass keyword [] := by simp [AllPass]

lemma AllPass.concat (h : w.AllPass keyword before) (hn : w.Passes keyword before n) :
    w.AllPass keyword (before ++ [n]) := by
  intro front m hp
  rcases List.prefix_concat_iff.mp hp with he | hp
  · obtain ⟨rfl, hm⟩ := List.append_inj' he rfl
    obtain rfl := List.singleton_inj.mp hm
    exact hn
  · exact h front m hp

lemma AllPass.init (h : w.AllPass keyword (before ++ [n])) : w.AllPass keyword before :=
  fun front m hp => h front m (hp.trans (List.prefix_append _ _))

lemma AllPass.short? (h : w.AllPass keyword names) : ∀ n ∈ names, Name.short? n ≠ none := by
  intro n hm
  obtain ⟨front, later, rfl⟩ := List.append_of_mem hm
  exact (h front n ⟨later, by simp⟩).1

lemma ImportEnds.short? (h : w.ImportEnds keyword done rest tried fault)
    (hp : w.AllPass keyword done) : ∀ n ∈ tried, Name.short? n ≠ none := by
  cases h with
  | whole | malformed | duplicate => exact hp.short?
  | refused hs => exact List.forall_mem_append.mpr ⟨hp.short?, List.forall_mem_singleton.mpr hs⟩

lemma run_importLine {short : String} (hs : Name.short? n = some short)
    (hn : n ∉ (w.imported keyword before).naming.imports.names) (rest : List Step) :
    (w.imported keyword before).run (.register n :: .write (importLine keyword n) :: rest) =
      match w.answer keyword before n with
      | none => (w.imported keyword (before ++ [n])).run rest
      | some refusal => (w.imported keyword (before ++ [n])).failing (.sink refusal) := by
  have ha := Imports.add_eq_ok_iff.mpr ⟨hs, hn, rfl⟩
  rw [imported_concat hs, answer]
  rcases hw : Sink.write (w.imported keyword before).sink (importLine keyword n) with
    ⟨_ | refusal, s⟩
  · simp [run, step, ha, done, note, put, hw]
  · simp [run, step, ha, done, note, put, hw, failing]

/-- The names from some point on, when those before it have passed. -/
lemma run_importLines_from (hd : (before ++ names).Nodup) (hb : w.AllPass keyword before) :
    let r := (w.imported keyword before).run
      (names.flatMap fun n => [.register n, .write (importLine keyword n)])
    ∃ done rest tried, before ++ names = done ++ rest ∧ w.AllPass keyword done ∧
      w.ImportEnds keyword done rest tried r.fault ∧ r.scribe = w.imported keyword tried := by
  induction names generalizing before with
  | nil => exact ⟨before, [], before, rfl, hb, .whole, rfl⟩
  | cons n names ih =>
    have hnames : (w.imported keyword before).naming.imports.names =
        w.naming.imports.names ++ before := names_imported hb.short?
    -- Of the names in the table by now, those that the call itself has put there are not `n`.
    have hnew : n ∉ before := fun hm => List.disjoint_of_nodup_append hd hm (by simp)
    simp only [List.flatMap_cons, List.cons_append, List.nil_append]
    cases hs : Name.short? n with
    | none =>
      have ha : (w.imported keyword before).naming.imports.add n = .error (.notQualified n) := by
        simp [Imports.add, hs]
      simp only [run, step, ha, failing]
      exact ⟨before, n :: names, before, rfl, hb, .malformed hs, rfl⟩
    | some short =>
      have hs' : Name.short? n ≠ none := by simp [hs]
      by_cases hn : n ∈ w.naming.imports.names
      · have ha : (w.imported keyword before).naming.imports.add n = .error (.importedTwice n) := by
          simp [Imports.add, Imports.contains, hs, hnames, hn]
        simp only [run, step, ha, failing]
        exact ⟨before, n :: names, before, rfl, hb, .duplicate hs' hn, rfl⟩
      · rw [run_importLine hs (by simp [hnames, hn, hnew])]
        cases hr : w.answer keyword before n with
        | some refusal =>
          exact ⟨before, n :: names, before ++ [n], rfl, hb, .refused hs' hn hr, rfl⟩
        | none => simpa using ih (by simpa using hd) (hb.concat ⟨hs', hn, hr⟩)

/-- Distinct names are registered and written up to the first that cannot be. -/
theorem run_importLines (w : Scribe σ) (keyword : String) (hd : names.Nodup) :
    let r := w.run (names.flatMap fun n => [.register n, .write (importLine keyword n)])
    ∃ done rest tried, names = done ++ rest ∧ w.AllPass keyword done ∧
      w.ImportEnds keyword done rest tried r.fault ∧ r.scribe = w.imported keyword tried := by
  have hnil : ([] ++ names).Nodup := hd
  simpa using run_importLines_from (w := w) hnil (.nil : w.AllPass keyword [])

end

section
variable {w : Scribe (Watched σ)} {keyword : String} {names done rest tried : List String}
  {fault : Option Fault}

/-- The lines of names that pass are taken, one after the other. -/
lemma AllPass.taken (h : w.AllPass keyword names) : (w.imported keyword names).sink.taken =
    w.sink.taken ++ String.join (names.map (importLine keyword)) := by
  induction names using List.reverseRecOn with
  | nil => simp
  | append_singleton names n ih =>
    have hw : Sink.write (w.imported keyword names).sink (importLine keyword n) =
        (none, (w.imported keyword (names ++ [n])).sink) :=
      Prod.ext (h names n List.prefix_rfl).2.2 sink_imported_concat.symm
    rw [(Watched.taken_of_write hw).1, ih h.init]
    simp [String.append_assoc]

/-- A name that has been tried has passed, unless the sink has refused its line. -/
lemma ImportEnds.tried_eq (h : w.ImportEnds keyword done rest tried fault)
    (hw : (w.imported keyword tried).Willing) : tried = done := by
  cases h with
  | whole | malformed | duplicate => rfl
  | refused _ _ hr =>
    have hs := Watched.refused_of_write (Prod.ext hr sink_imported_concat.symm)
    simp [Willing, hs] at hw

end

/-! ## Import calls -/

section
variable {w : Scribe σ} {keyword : String} {names : List String} {c : Call}

lemma perform_import (hk : c.importKeyword? = some keyword) :
    w.perform c = w.run (Call.importSteps keyword c.importArguments) := by
  cases c with
  | imports | staticImports =>
    obtain rfl := Option.some.inj hk
    rfl
  | _ => simp [Call.importKeyword?] at hk

lemma perform_import_of_ok (hk : c.importKeyword? = some keyword)
    (hn : Argument.imports c.importArguments = .ok names) :
    w.perform c = w.run (names.flatMap fun n => [.register n, .write (importLine keyword n)]) := by
  rw [perform_import hk, Call.importSteps, hn]
  rfl

/-- The names of an import call are taken in order by code points, each once. Those in front of the
first that is malformed, is in the table or has its line refused are registered and written. That
one is registered only if it is its line that is refused. Another call with the same names does
just the same. -/
theorem import_call (hk : c.importKeyword? = some keyword)
    (hn : Argument.Flattens c.importArguments names) :
    (∃ done rest tried, (done ++ rest).Pairwise (· < ·) ∧ (∀ n, n ∈ done ++ rest ↔ n ∈ names) ∧
      w.AllPass keyword done ∧ w.ImportEnds keyword done rest tried (w.perform c).fault ∧
      (w.perform c).scribe = w.imported keyword tried ∧
      (w.perform c).scribe.naming.imports.names = w.naming.imports.names ++ tried) ∧
    ∀ (d : Call) (others : List String), d.importKeyword? = some keyword →
      Argument.Flattens d.importArguments others → (∀ n, n ∈ others ↔ n ∈ names) →
      w.perform d = w.perform c := by
  have hsorted := Argument.pairwise_sortNames names
  have hok := Argument.imports_eq_ok_iff.mpr ⟨names, hn, rfl⟩
  rw [perform_import_of_ok hk hok]
  constructor
  · obtain ⟨done, rest, tried, he, hp, hends, hscribe⟩ :=
      w.run_importLines keyword (hsorted.imp fun h => h.ne)
    refine ⟨done, rest, tried, he ▸ hsorted, fun n => ?_, hp, hends, hscribe, ?_⟩
    · rw [← he, Argument.mem_sortNames]
    · rw [hscribe, names_imported (hends.short? hp)]
  · intro d others hdk hdn hm
    have hs : Argument.sortNames others = Argument.sortNames names :=
      Argument.sortNames_eq hsorted fun n => Argument.mem_sortNames.trans (hm n).symm
    exact perform_import_of_ok hdk (Argument.imports_eq_ok_iff.mpr ⟨others, hdn, hs⟩)

end

/-- A scribe that has imported `b.B`. -/
def importing : Scribe Page := { sink := {}, naming := ⟨⟨[("b.B", "B")]⟩, none⟩ }

theorem imports_broken_off :
    let w := importing
    let c := Call.imports [.list ["c.C", "a.A"], "b.B", "a.A"]
    (w.perform c).fault = some (.importedTwice "b.B") ∧
      (w.perform c).scribe = w.imported "import" ["a.A"] ∧
      (w.perform c).scribe.sink.text = "import a.A;\n" ∧
      w.perform (.imports ["c.C", .tuple ["b.B", "a.A"]]) = w.perform c := by
  intro w c
  have hn : Argument.Flattens c.importArguments ["c.C", "a.A", "b.B", "a.A"] :=
    ⟨[["c.C", "a.A"], ["b.B"], ["a.A"]],
      .cons (.items (by simp) rfl) (.cons (.name _) (.cons (.name _) .nil)), rfl⟩
  have hd : Argument.Flattens (Call.imports ["c.C", .tuple ["b.B", "a.A"]]).importArguments
      ["c.C", "b.B", "a.A"] :=
    ⟨[["c.C"], ["b.B", "a.A"]], .cons (.name _) (.cons (.items (by simp) rfl) .nil), rfl⟩
  obtain ⟨⟨done, rest, tried, -, -, -, -, hscribe, hnames⟩, hsame⟩ := import_call (w := w) rfl hn
  have ht : (w.perform c).scribe.naming.imports.names = ["b.B", "a.A"] := by decide +kernel
  obtain rfl : tried = ["a.A"] := by
    rw [ht] at hnames
    exact ((List.append_right_inj ["b.B"]).mp hnames).symm
  have hm : ∀ n, n ∈ ["c.C", "b.B", "a.A"] ↔ n ∈ ["c.C", "a.A", "b.B", "a.A"] := fun n => by
    simp only [List.mem_cons, List.not_mem_nil]
    tauto
  exact ⟨by decide +kernel, hscribe, by decide +kernel, hsame _ _ rfl hd hm⟩

end Scribe
end JavaScribe
