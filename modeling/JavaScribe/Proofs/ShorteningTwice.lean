import JavaScribe.Proofs.Emission
import JavaScribe.Proofs.LeadingSegments
import JavaScribe.Proofs.Resolution

/-!
# Shortening twice

A name without a dot is displayed as it is, whatever is imported and whatever the package is called.
So a text is displayed as itself once its runs have been displayed as themselves or without dots.
A run may vanish, since what stands between runs is kept and no two of them meet.
-/
namespace JavaScribe.Naming
open Name (pieces isNameChar)

variable {t : Imports} {v : Value} {package name text : String}

/-- What has no dot ends in none. -/
lemma eq_nil_of_no_dot {lead rest : List Char} (h : '.' ∉ lead ++ rest)
    (hl : lead = [] ∨ lead.getLast? = some '.') : lead = [] :=
  hl.resolve_right fun hd => h (List.mem_append_left _ (List.mem_of_getLast? hd))

theorem shorten_of_no_dot (ht : t.Registered) (h : '.' ∉ name.toList) :
    shorten t (Scribe.packagePrefix v) name = name := by
  generalize hs : shorten t (Scribe.packagePrefix v) name = s
  rcases shorten_origin hs with hi | hr | rfl | rfl
  · obtain ⟨lead, hl, hd⟩ := Name.short?_lead (ht.short? hi)
    obtain rfl := eq_nil_of_no_dot (hl ▸ h) hd
    exact (String.toList_inj.mp hl).symm
  · have hn : name.toList = (Scribe.packagePrefix v).toList ++ s.toList := by
      rw [eq_append_of_sibling hr, String.toList_append]
    have hp := eq_nil_of_no_dot (hn ▸ h) (getLast?_packagePrefix v)
    rw [hp] at hn
    exact (String.toList_inj.mp hn).symm
  · rfl
  · simp at h

/-- The runs of a displayed text are displayed runs. -/
lemma mem_pieces_shortenText (ht : t.Registered) {run : List Char}
    (hr : .name run ∈ pieces (shortenText t (Scribe.packagePrefix v) text).toList) :
    ∃ run', .name run' ∈ pieces text.toList ∧
      String.ofList run = shorten t (Scribe.packagePrefix v) (String.ofList run') := by
  let f : List Char → List Char :=
    fun run => (shorten t (Scribe.packagePrefix v) (String.ofList run)).toList
  have hcut := Name.pieces_cut text.toList
  have hf : ∀ run, .name run ∈ pieces text.toList → ∀ c ∈ f run, isNameChar c = true := by
    intro run hm c hc
    have hcs : ∀ c ∈ run, isNameChar c = true := (hcut.proper _ hm).2
    have hshown : Shown t (Scribe.packagePrefix v) (String.ofList run)
        (shorten t (Scribe.packagePrefix v) (String.ofList run)) :=
      shown_shorten ht (by simpa using hcs)
    obtain ⟨lead, hl, -⟩ := hshown.lead ht
    rw [String.toList_ofList] at hl
    exact hcs c (hl ▸ List.mem_append_right _ hc)
  have hp : shortenPiece t (Scribe.packagePrefix v) = fun p => (p.mapName f).toList := by
    funext p
    cases p <;> rfl
  rw [toList_shortenText, hp, hcut.pieces_mapName hf] at hr
  obtain ⟨p, hm, he⟩ := List.mem_map.mp (List.mem_filter.mp hr).1
  cases p with
  | other c => simp at he
  | name run' =>
    rw [Name.Piece.mapName_name, Name.Piece.name.injEq] at he
    exact ⟨run', hm, by rw [← he, String.ofList_toList]⟩

lemma shortenText_eq_self (h : ∀ run, .name run ∈ pieces text.toList →
    shorten t package (String.ofList run) = String.ofList run) :
    shortenText t package text = text := by
  apply String.toList_inj.mp
  rw [toList_shortenText]
  conv_rhs => rw [← Name.flatMap_pieces text.toList]
  apply List.flatMap_congr
  intro p hm
  cases p with
  | other c => rfl
  | name run => rw [shortenPiece, h run hm, String.toList_ofList, Name.Piece.toList_name]

theorem shortenText_of_no_dot (ht : t.Registered) (h : '.' ∉ text.toList) :
    shortenText t (Scribe.packagePrefix v) text = text := by
  refine shortenText_eq_self fun run hr => shorten_of_no_dot ht ?_
  rw [String.toList_ofList]
  intro hd
  refine h ?_
  rw [← Name.flatMap_pieces text.toList]
  exact List.mem_flatMap.mpr ⟨_, hr, hd⟩

theorem shortenText_shortenText (ht : t.Registered)
    (h : ∀ run, .name run ∈ pieces text.toList →
      shorten t (Scribe.packagePrefix v) (String.ofList run) = String.ofList run ∨
        '.' ∉ (shorten t (Scribe.packagePrefix v) (String.ofList run)).toList) :
    shortenText t (Scribe.packagePrefix v) (shortenText t (Scribe.packagePrefix v) text) =
      shortenText t (Scribe.packagePrefix v) text := by
  refine shortenText_eq_self fun run hr => ?_
  obtain ⟨run', hm, he⟩ := mem_pieces_shortenText ht hr
  rcases h run' hm with hk | hd
  · rw [he, hk, hk]
  · rw [he, shorten_of_no_dot ht hd]

end JavaScribe.Naming

namespace JavaScribe.Scribe
open Line Sink

variable {σ : Type} [Sink σ] {w : Scribe σ} {v : Value}

lemma typeText_of_no_dot {s : Setting} (hr : s.naming.imports.Registered) {text : String}
    (h : '.' ∉ text.toList) : s.typeText (packagePrefix v) text = text := by
  unfold Setting.typeText
  rw [Naming.shortenText_of_no_dot hr h, ite_self]

/-- Parameters are written with their names as given. -/
lemma parameterText_of_no_dot {s : Setting} (hr : s.naming.imports.Registered)
    {pairs : List (String × String)} (h : ∀ p ∈ pairs, '.' ∉ p.2.toList) :
    parameterText (s.typeText (packagePrefix v)) pairs =
      ", ".intercalate (pairs.map fun p => s.typeText (packagePrefix v) p.1 ++ " " ++ p.2) := by
  unfold parameterText
  congr 1
  refine List.map_congr_left fun p hp => ?_
  rw [typeText_of_no_dot hr (h p hp)]

/-- A type without a dot comes to the sink as it is. -/
lemma step_writeType_of_no_dot (hr : w.naming.imports.Registered)
    (hp : w.naming.package = some (packagePrefix v)) {text : String} (h : '.' ∉ text.toList) :
    ∃ log, w.step (.writeType (.text text)) = put { w with log } text := by
  by_cases hs : w.shortens = true
  · refine ⟨w.log ++ w.naming.remarks (.text text), ?_⟩
    simp [step, hs, Naming.display_ok hp, Naming.shortenText_of_no_dot hr h, remarked]
  · have he : w.step (.writeType (.text text)) = w.put text := by simp [step, hs, offer]
    exact ⟨w.log, he⟩

/-- A text whose runs are displayed as themselves or without dots is displayed as a text that is
displayed as itself. A text without a dot is so at once, and comes to the sink as it is. Hence the
head of a method has the names of its parameters as they are given, although they are displayed like
types. -/
theorem simple_display_stays (hr : w.naming.imports.Registered)
    (hp : w.naming.package = some (packagePrefix v)) :
    (∀ text : String,
      (∀ run, .name run ∈ Name.pieces text.toList →
        ∀ short, w.naming.displayName (String.ofList run) = .ok short →
          short = String.ofList run ∨ '.' ∉ short.toList) →
      ∃ out, w.displayType (.text text) = .ok out ∧ w.displayType (.text out) = .ok out) ∧
    (∀ text : String, '.' ∉ text.toList →
      w.displayType (.text text) = .ok text ∧
        ∃ log, w.step (.writeType (.text text)) = put { w with log } text) ∧
    ∀ head : MethodHead, Accepts w.sink → head.MayStand w.nesting →
      (∀ p ∈ head.parameters.pairs, '.' ∉ p.2.toList) →
      let display := w.setting.typeText (packagePrefix v)
      ∃ w', w.perform head.call = ⟨none, w'⟩ ∧
        Wrote w.sink
          (render w.unit (headed w.depth
            (keywords head.modifiers.modifiers ++ head.title display w.setting.owner ++ "(" ++
              ", ".intercalate (head.parameters.pairs.map fun p => display p.1 ++ " " ++ p.2) ++
              ")")
            "throws" (head.throws.types.map display) (if head.IsAbstract then ";" else " \x7b")))
          w'.sink := by
  refine ⟨fun text h => ?_, fun text h => ⟨?_, step_writeType_of_no_dot hr hp h⟩,
    fun head ha hm hd => ?_⟩
  · refine ⟨_, Naming.display_ok hp text, ?_⟩
    rw [displayType, Naming.display_ok hp]
    refine congrArg Except.ok (Naming.shortenText_shortenText hr fun run hm => ?_)
    exact h run hm _ (by rw [Naming.displayName, hp])
  · rw [displayType, Naming.display_ok hp, Naming.shortenText_of_no_dot hr h]
  · have hc : w.setting.call? head.call = some (_, _) := Setting.call?_openMethod hp hm
    obtain ⟨w', hw, -, hwrote⟩ := run_of_run? ha hc
    refine ⟨w', hw, ?_⟩
    rw [MethodHead.lines, parameterText_of_no_dot hr hd] at hwrote
    exact hwrote

/-- What is displayed with a dot may be displayed shorter the next time. -/
example :
    (Naming.mk {} (some "A.")).display (.text "A.A.B") = .ok "A.B" ∧
      (Naming.mk {} (some "A.")).display (.text "A.B") = .ok "B" := by
  decide +kernel

/-- A scribe in a class of the package `p`, with `java.util.Map` imported. -/
def inPackage : Scribe Page :=
  { sink := {}, naming := ⟨Naming.mapImported, some "p."⟩, scopes := [.typeBody], types := ["Foo"] }

/-- A run vanishes between two others, and a parameter is called like an imported class. -/
theorem simple_display_stays_in_package :
    inPackage.naming.imports.Registered ∧
      inPackage.naming.package = some (packagePrefix (.text "p")) ∧
      inPackage.displayType (.text "java.util.Map<p., q.Foo, x>") = .ok "Map<, q.Foo, x>" ∧
      inPackage.displayType (.text "Map<, q.Foo, x>") = .ok "Map<, q.Foo, x>" ∧
      ∃ w', inPackage.perform (.openMethod "void" "put" .none
          (.list ["java.util.Map", "Map", "p.Bar", "x"])) = ⟨none, w'⟩ ∧
        w'.sink.text = "  void put(Map Map, Bar x) \x7b\n" := by
  have hr : inPackage.naming.imports.Registered := Naming.mapImported_registered
  have hp : inPackage.naming.package = some (packagePrefix (.text "p")) := by decide
  obtain ⟨htwice, -, hmethod⟩ := simple_display_stays hr hp
  have hfirst : inPackage.displayType (.text "java.util.Map<p., q.Foo, x>") =
      .ok "Map<, q.Foo, x>" := by decide +kernel
  have hruns : Name.pieces "java.util.Map<p., q.Foo, x>".toList =
      [.name "java.util.Map".toList, .other '<', .name "p.".toList, .other ',', .other ' ',
        .name "q.Foo".toList, .other ',', .other ' ', .name "x".toList, .other '>'] := by
    decide +kernel
  have hmap : inPackage.naming.displayName "java.util.Map" = .ok "Map" := by decide +kernel
  have hnone : inPackage.naming.displayName "p." = .ok "" := by decide +kernel
  have hfoo : inPackage.naming.displayName "q.Foo" = .ok "q.Foo" := by decide +kernel
  have hx : inPackage.naming.displayName "x" = .ok "x" := by decide +kernel
  obtain ⟨out, hout, hagain⟩ := htwice "java.util.Map<p., q.Foo, x>" (by
    intro run hm short hs
    simp only [hruns, List.mem_cons, Name.Piece.name.injEq, reduceCtorEq, false_or,
      List.not_mem_nil, or_false] at hm
    rcases hm with rfl | rfl | rfl | rfl
    · exact Or.inr (by simp [← Except.ok.inj (hmap.symm.trans hs)])
    · exact Or.inr (by simp [← Except.ok.inj (hnone.symm.trans hs)])
    · exact Or.inl (Except.ok.inj (hfoo.symm.trans hs)).symm
    · exact Or.inl (Except.ok.inj (hx.symm.trans hs)).symm)
  obtain rfl := Except.ok.inj (hfirst.symm.trans hout)
  obtain ⟨w', hw, hwrote⟩ := hmethod
    ⟨.method "void" "put", ⟨.none, [], rfl⟩,
      ⟨.list ["java.util.Map", "Map", "p.Bar", "x"], [("java.util.Map", "Map"), ("p.Bar", "x")],
        rfl⟩, ⟨.none, [], rfl⟩⟩
    (Page.accepts rfl rfl rfl) ⟨rfl, by simp⟩ (by simp)
  refine ⟨hr, hp, hfirst, hagain, w', hw, ?_⟩
  rw [(Page.wrote_iff rfl rfl rfl).mp hwrote]
  decide +kernel

end JavaScribe.Scribe
