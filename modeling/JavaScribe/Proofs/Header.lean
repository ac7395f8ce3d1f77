import JavaScribe.Proofs.Expansion
import JavaScribe.Proofs.ImportCalls
import JavaScribe.Proofs.NamingRuns

/-!
# The header of a page

What stands at the head of a page says what names are shortened by. On a sink that takes every text,
the lines of all import calls of a run are one for each entry of the import table, in order and each
with the keyword of the call that has registered it, also where calls break off in the middle. The
package is declared once, if it has a name (`header_agrees`).
-/
namespace JavaScribe

/-! ## What a run writes and registers -/

namespace Move

/-- The keyword of the lines that a move writes if it imports. -/
def importKeyword? : Move → Option String
  | call c => c.importKeyword?
  | _ => none

def isImport (m : Move) : Bool := m.importKeyword?.isSome

def isPackage : Move → Bool
  | call (.package _) => true
  | _ => false

lemma exists_of_isPackage {m : Move} (hm : m.isPackage = true) :
    ∃ name, m = .call (.package name) := by
  cases m with
  | setUnit | setShortens => simp [isPackage] at hm
  | call c =>
    cases c with
    | package name => exact ⟨name, rfl⟩
    | _ => simp [isPackage] at hm

/-- A package, if the move sets one, is named by a text or not at all. -/
def PackageNamed : Move → Prop
  | call (.package name) => name = .none ∨ ∃ text, name = .text text
  | _ => True

end Move

namespace Scribe
variable {σ : Type} [Sink σ]

/-- The text that the sink takes in a move. -/
def written (w : Scribe (Watched σ)) (m : Move) : String :=
  String.ofList ((w.move m).scribe.sink.taken.toList.drop w.sink.taken.toList.length)

/-- The text of all moves of one kind in a run. -/
def writtenBy (kind : Move → Bool) (w : Scribe (Watched σ)) : List Move → String
  | [] => ""
  | m :: ms =>
    (if kind m then w.written m else "") ++ writtenBy kind (w.move m).scribe ms

/-- The names that the import calls of a run have registered, each with the keyword of its call. -/
def registrations (w : Scribe σ) : List Move → List (String × String)
  | [] => []
  | m :: ms =>
    let v := (w.move m).scribe
    let new := v.naming.imports.names.drop w.naming.imports.names.length
    (match m.importKeyword? with
      | some keyword => new.map fun name => (keyword, name)
      | none => []) ++ v.registrations ms

lemma written_eq {w : Scribe (Watched σ)} {m : Move} {text : String}
    (h : (w.move m).scribe.sink.taken = w.sink.taken ++ text) : w.written m = text := by
  simp [written, h]

/-! ## Imports -/

variable {w : Scribe (Watched σ)} {keyword : String} {m : Move} {moves : List Move}

/-- The names that a willing sink finds in the table after an import are those whose lines it has
taken. -/
lemma move_import (hm : m.importKeyword? = some keyword) (hw : (w.move m).scribe.Willing) :
    ∃ new, (w.move m).scribe.naming.imports.names = w.naming.imports.names ++ new ∧
      (w.move m).scribe.sink.taken =
        w.sink.taken ++ String.join (new.map (importLine keyword)) := by
  obtain ⟨c, rfl⟩ : ∃ c, m = .call c := by
    cases m with
    | call c => exact ⟨c, rfl⟩
    | setUnit | setShortens => simp [Move.importKeyword?] at hm
  have hs : w.perform c = w.run (Call.importSteps keyword c.importArguments) := perform_import hm
  simp only [move] at hw ⊢
  cases hn : Argument.imports c.importArguments with
  | error fault =>
    rw [hs, Call.importSteps, hn]
    exact ⟨[], by simp [Step.after, run, step, failing]⟩
  | ok names =>
    rw [perform_import_of_ok hm hn] at hw ⊢
    obtain ⟨done, rest, tried, -, hp, hends, hscribe⟩ :=
      w.run_importLines keyword ((Argument.pairwise_imports hn).imp fun h => h.ne)
    rw [hscribe] at hw ⊢
    obtain rfl := hends.tried_eq hw
    exact ⟨tried, names_imported hp.short?, hp.taken⟩

lemma move_other (hm : m.importKeyword? = none) :
    (w.move m).scribe.naming.imports = w.naming.imports := by
  cases m with
  | setUnit | setShortens => rfl
  | call c => exact imports_perform hm

/-- What import calls write in a run is a line for each name that comes into the table. -/
theorem imports_moveAll (hw : (w.moveAll moves).Willing) :
    w.writtenBy Move.isImport moves =
        String.join ((w.registrations moves).map fun r => importLine r.1 r.2) ∧
      (w.moveAll moves).naming.imports.names =
        w.naming.imports.names ++ (w.registrations moves).map Prod.snd := by
  induction moves generalizing w with
  | nil => simp [writtenBy, registrations]
  | cons m moves ih =>
    rw [moveAll_cons] at hw ⊢
    obtain ⟨htext, hnames⟩ := ih hw
    rw [hnames, writtenBy, registrations, htext]
    rcases hm : m.importKeyword? with _ | keyword
    · simp [Move.isImport, hm, move_other hm]
    · obtain ⟨new, hn, ht⟩ := move_import hm hw.of_moveAll
      simp [Move.isImport, hm, hn, written_eq ht, Function.comp_def]

/-! ## The package -/

/-- The declaration of a package, none for the default package. -/
def declaration (name : Value) : String :=
  if name.truthy then "package " ++ name.plain ++ ";\n\n" else ""

lemma move_package {name : Value} (hn : name = .none ∨ ∃ text, name = .text text)
    (hp : w.naming.package = none) (hw : (w.move (.call (.package name))).scribe.Willing) :
    (w.move (.call (.package name))).scribe.naming.package = some (packagePrefix name) ∧
      (w.move (.call (.package name))).scribe.sink.taken = w.sink.taken ++ declaration name := by
  rw [move, perform_package_eq hp hn] at hw ⊢
  by_cases ht : name.truthy = true
  · simp only [if_pos ht, List.cons_append, List.nil_append] at hw ⊢
    obtain ⟨s, hput, htaken⟩ := put_willing hw.of_run_cons
    simp [run, step, hput, done, note, htaken, declaration, ht]
  · simp [ht, run, step, done, note, declaration]

lemma package_move (hm : m.isPackage = false) :
    (w.move m).scribe.naming.package = w.naming.package := by
  cases m with
  | setUnit | setShortens => rfl
  | call c =>
    refine package_perform ?_
    rintro name rfl
    simp [Move.isPackage] at hm

/-- A package that is there is never declared again. -/
lemma writtenBy_isPackage {package : String} (h : w.naming.package = some package) :
    w.writtenBy Move.isPackage moves = "" := by
  induction moves generalizing w with
  | nil => rfl
  | cons m moves ih =>
    have hm : m.isPackage = true → w.written m = "" := fun hm => by
      obtain ⟨name, rfl⟩ := Move.exists_of_isPackage hm
      exact written_eq (by simp [move, perform_packageTwice h, failing])
    have hkept : (w.move m).scribe.naming.package = some package := package_moveAll h [m]
    rw [writtenBy, ih hkept]
    split
    · rename_i hp
      rw [hm hp]
      rfl
    · rfl

/-- The package is declared once if it has a name, and never otherwise. -/
theorem package_moveAll_declared (hm : ∀ m ∈ moves, m.PackageNamed)
    (hp : w.naming.package = none) (hw : (w.moveAll moves).Willing) :
    (w.moveAll moves).naming.package = none ∧ w.writtenBy Move.isPackage moves = "" ∨
      ∃ name, (name = .none ∨ ∃ text, name = .text text) ∧
        (w.moveAll moves).naming.package = some (packagePrefix name) ∧
        w.writtenBy Move.isPackage moves = declaration name := by
  induction moves generalizing w with
  | nil => exact Or.inl ⟨hp, rfl⟩
  | cons m moves ih =>
    rw [List.forall_mem_cons] at hm
    rw [moveAll_cons] at hw ⊢
    cases hk : m.isPackage with
    | true =>
      obtain ⟨name, rfl⟩ := Move.exists_of_isPackage hk
      obtain ⟨hset, ht⟩ := move_package hm.1 hp hw.of_moveAll
      refine Or.inr ⟨name, hm.1, package_moveAll hset moves, ?_⟩
      rw [writtenBy, writtenBy_isPackage hset, if_pos hk, written_eq ht]
      simp
    | false =>
      have hnone := (package_move hk).trans hp
      simpa [writtenBy, hk] using ih hm.2 hnone hw

/-! ## Agreement -/

/-- The header of a page and what the scribe keeps of it say the same. What import calls have
written is one line for each entry of the import table, in order and with the keyword of the call
that has registered it. The names are of name characters and different from each other, each is kept
with its short name, and no entry is ever changed. The package is set once, if at all, and what
package calls have written is its declaration, none for the default package. -/
theorem header_agrees (sink : σ) (unit : String) (shortens : Bool)
    (hm : ∀ m ∈ moves, m.PackageNamed)
    (hw : ((blank (watch sink) unit shortens).moveAll moves).Willing) :
    let start := blank (watch sink) unit shortens
    let naming := (start.moveAll moves).naming
    (start.writtenBy Move.isImport moves =
        String.join ((start.registrations moves).map fun r => importLine r.1 r.2) ∧
      (start.registrations moves).map Prod.snd = naming.imports.names) ∧
    (naming.imports.names.Nodup ∧
      ∀ name ∈ naming.imports.names, ∀ c ∈ name.toList, Name.isNameChar c = true) ∧
    (∀ name ∈ naming.imports.names, (Name.short? name).isSome = true ∧
      naming.imports.shortName? name = Name.short? name) ∧
    (∀ short, naming.imports.displays short = true ↔
      ∃ name ∈ naming.imports.names, Name.short? name = some short) ∧
    (∀ before later, moves = before ++ later →
      (start.moveAll before).naming.imports.entries <+: naming.imports.entries ∧
        ((start.moveAll before).naming.package = none ∨
          (start.moveAll before).naming.package = naming.package)) ∧
    ((naming.package = none ∨ naming.package = some "") ∧
        start.writtenBy Move.isPackage moves = "" ∨
      ∃ name, name ≠ "" ∧ naming.package = some (name ++ ".") ∧
        start.writtenBy Move.isPackage moves = "package " ++ name ++ ";\n\n") := by
  intro start naming
  have hr : naming.imports.Registered :=
    Reached.registered (w := start.moveAll moves) ⟨_, _, _, _, rfl⟩
  have hshort : ∀ name ∈ naming.imports.names, ∃ short, Name.short? name = some short ∧
      naming.imports.shortName? name = some short := by
    intro name hn
    obtain ⟨short, he⟩ := Imports.mem_names_iff.mp hn
    exact ⟨short, hr.short? he, hr.shortName?_eq_some_iff.mpr he⟩
  obtain ⟨htext, hnames⟩ := imports_moveAll hw
  refine ⟨⟨htext, hnames.symm⟩, ⟨hr.nodup, fun name hn => ?_⟩, fun name hn => ?_, fun short => ?_,
    ?_, ?_⟩
  · obtain ⟨short, hs, -⟩ := hshort name hn
    exact Imports.isNameChar_of_short? hs
  · obtain ⟨short, hs, hl⟩ := hshort name hn
    exact ⟨by simp [hs], hl.trans hs.symm⟩
  · rw [Imports.displays_iff]
    constructor
    · rintro ⟨name, he⟩
      exact ⟨name, Imports.mem_names_iff.mpr ⟨short, he⟩, hr.short? he⟩
    · rintro ⟨name, hn, hs⟩
      obtain ⟨other, he⟩ := Imports.mem_names_iff.mp hn
      obtain rfl := Option.some.inj (hs.symm.trans (hr.short? he))
      exact ⟨name, he⟩
  · rintro before later rfl
    have ha : naming = ((start.moveAll before).moveAll later).naming :=
      congrArg Scribe.naming (moveAll_append start before later)
    rw [ha]
    refine ⟨entries_moveAll later, ?_⟩
    cases hp : (start.moveAll before).naming.package with
    | none => exact Or.inl rfl
    | some package => exact Or.inr (package_moveAll hp later).symm
  · rcases package_moveAll_declared hm rfl hw with ⟨hp, hd⟩ | ⟨name, rfl | ⟨text, rfl⟩, hp, hd⟩
    · exact Or.inl ⟨Or.inl hp, hd⟩
    · exact Or.inl ⟨Or.inr hp, hd⟩
    · by_cases ht : text = ""
      · subst ht
        exact Or.inl ⟨Or.inr hp, hd⟩
      · refine Or.inr ⟨text, ht, hp.trans (congrArg some (Naming.packagePrefix_text ht)), ?_⟩
        rw [hd]
        simp [declaration, Value.truthy, Value.plain_text, ht]

/-- Imports of which some break off: at a name that is there, and at one that is no name. The second
package is refused. -/
def brokenImports : List Move :=
  [.call (.imports ["java.util.Map"]), .call (.package "p"),
    .call (.staticImports ["z.Z", "java.util.Map", "a.B.*"]), .call (.package .none),
    .call (.imports [.list ["q.R", "q.R"], "~"])]

theorem header_of_broken_imports :
    (blank (watch ({} : Page)) "  " true).writtenBy Move.isImport brokenImports =
        "import java.util.Map;\nimport static a.B.*;\nimport q.R;\n" ∧
      ((blank (watch ({} : Page)) "  " true).moveAll brokenImports).naming.imports.names =
        ["java.util.Map", "a.B.*", "q.R"] ∧
      (blank (watch ({} : Page)) "  " true).writtenBy Move.isPackage brokenImports =
        "package p;\n\n" := by
  have hm : ∀ m ∈ brokenImports, m.PackageNamed := by simp [brokenImports, Move.PackageNamed]
  have hw : ((blank (watch ({} : Page)) "  " true).moveAll brokenImports).sink.refused = false := by
    decide +kernel
  have hr : (blank (watch ({} : Page)) "  " true).registrations brokenImports =
      [("import", "java.util.Map"), ("import static", "a.B.*"), ("import", "q.R")] := by
    decide +kernel
  have hp : ((blank (watch ({} : Page)) "  " true).moveAll brokenImports).naming.package =
      some ("p" ++ ".") := by decide +kernel
  obtain ⟨⟨htext, hnames⟩, -, -, -, -, hpackage⟩ := header_agrees ({} : Page) "  " true hm hw
  rw [hr] at htext hnames
  refine ⟨htext.trans (by decide +kernel), hnames.symm, ?_⟩
  rcases hpackage with ⟨hn | hn, -⟩ | ⟨name, -, hn, hd⟩
  · exact absurd (hp.symm.trans hn) (by simp)
  · exact absurd (hp.symm.trans hn) (by decide)
  · have he : "p" ++ "." = name ++ "." := Option.some.inj (hp.symm.trans hn)
    obtain rfl : "p" = name := (String.append_left_inj ".").mp he
    exact hd

end Scribe
end JavaScribe
