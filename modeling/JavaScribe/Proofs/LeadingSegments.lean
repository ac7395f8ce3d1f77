import JavaScribe.Proofs.Expansion

/-!
# What a displayed text leaves out

Each rule takes from a name a leading part that ends in a dot: the qualifier of an imported name,
the package, or `java.lang`. So a displayed text has, in place of each run of name characters, the
last segments of that run, and all else as it was.
-/
namespace JavaScribe

/-- A piece of a text and what is displayed for it: of a run, what is left when leading segments are
taken away with their dots. -/
inductive Clipped : Name.Piece → List Char → Prop
  | name {run lead rest : List Char} (hr : run = lead ++ rest)
      (hl : lead = [] ∨ lead.getLast? = some '.') : Clipped (.name run) rest
  | other (c : Char) : Clipped (.other c) [c]

namespace Clipped
variable {p : Name.Piece} {run rest : List Char}

lemma sublist (h : Clipped p rest) : rest.Sublist p.toList := by
  cases h with
  | name hr hl => exact hr ▸ List.sublist_append_right _ _
  | other c => exact List.Sublist.refl _

/-- No segment is cut in the middle. -/
lemma segments (h : Clipped (.name run) rest) : rest.splitOn '.' <:+ run.splitOn '.' := by
  cases h with
  | @name _ lead _ hr hl =>
    subst hr
    rcases hl with rfl | hl
    · exact List.suffix_refl _
    · obtain ⟨front, rfl⟩ := List.getLast?_eq_some_iff.mp hl
      have hs : (front ++ '.' :: rest).splitOn '.' = front.splitOn '.' ++ rest.splitOn '.' :=
        List.splitOnP_append_cons front rest (by decide)
      exact ⟨front.splitOn '.', by simp [hs]⟩

lemma getLast?_of_vanished (hn : run ≠ []) (h : Clipped (.name run) []) :
    run.getLast? = some '.' := by
  cases h with
  | @name _ lead _ hr hl =>
    rw [List.append_nil] at hr
    subst hr
    exact hl.resolve_left hn

lemma sublist_flatten {cut : List Name.Piece} {kept : List (List Char)}
    (h : List.Forall₂ Clipped cut kept) : kept.flatten.Sublist (cut.flatMap Name.Piece.toList) := by
  induction h with
  | nil => exact List.Sublist.refl _
  | cons h _ ih =>
    rw [List.flatten_cons, List.flatMap_cons]
    exact h.sublist.append ih

end Clipped

namespace Naming
variable {t : Imports} {name out : String}

lemma getLast?_packagePrefix (v : Value) : (Scribe.packagePrefix v).toList = [] ∨
    (Scribe.packagePrefix v).toList.getLast? = some '.' := by
  rcases packagePrefix_cases v with h | ⟨p, h⟩
  · exact Or.inl (by rw [h]; rfl)
  · exact Or.inr (by simp [h])

lemma Shown.lead (ht : t.Registered) {v : Value}
    (h : Shown t (Scribe.packagePrefix v) name out) :
    ∃ lead, name.toList = lead ++ out.toList ∧ (lead = [] ∨ lead.getLast? = some '.') := by
  cases h with
  | imported hm => exact Name.short?_lead (ht.short? hm)
  | sibling _ hr => exact ⟨_, by rw [hr, String.toList_append], getLast?_packagePrefix v⟩
  | builtin _ _ hr => exact ⟨_, by rw [hr, String.toList_append], Or.inr (by decide)⟩
  | shadowed | unchanged => exact ⟨[], rfl, Or.inl rfl⟩

lemma ShownPiece.clipped (ht : t.Registered) {v : Value} {p : Name.Piece} {kept : List Char}
    (h : ShownPiece t (Scribe.packagePrefix v) p kept) : Clipped p kept := by
  cases h with
  | other c => exact .other c
  | name h =>
    obtain ⟨lead, hl, hd⟩ := h.lead ht
    rw [String.toList_ofList] at hl
    exact .name hl hd

/-- A displayed text is the text with leading segments taken from its runs. Nothing else is taken
away, nothing is added, and only a run that ends in a dot can vanish. -/
theorem display_clips (ht : t.Registered) (v : Value) (text : String) :
    ∃ out cut kept,
      (Naming.mk t (some (Scribe.packagePrefix v))).display (.text text) = .ok out ∧
      Name.Cut text.toList cut ∧ List.Forall₂ Clipped cut kept ∧ out.toList = kept.flatten ∧
      out.toList.Sublist text.toList ∧ out.length ≤ text.length ∧
      ∀ run rest, (Name.Piece.name run, rest) ∈ cut.zip kept →
        rest.splitOn '.' <:+ run.splitOn '.' ∧ (rest = [] → run.getLast? = some '.') := by
  have hd : ShownText t (Scribe.packagePrefix v) text
      (shortenText t (Scribe.packagePrefix v) text) := (shownText_iff ht).mpr rfl
  obtain ⟨cut, kept, hc, hs, ho⟩ := hd
  have hk : List.Forall₂ Clipped cut kept := hs.imp fun _ _ h => h.clipped ht
  have hsub : kept.flatten.Sublist text.toList := hc.whole ▸ Clipped.sublist_flatten hk
  rw [← ho] at hsub
  refine ⟨_, cut, kept, display_ok rfl text, hc, hk, ho, hsub, ?_, fun run rest hm => ?_⟩
  · simpa only [String.length_toList] using hsub.length_le
  · have hp : Clipped (.name run) rest := (List.forall₂_iff_zip.mp hk).2 hm
    have hn : run ≠ [] := (hc.proper _ (List.of_mem_zip hm).1).1
    exact ⟨hp.segments, fun he => (he ▸ hp).getLast?_of_vanished hn⟩

theorem display_clips_map :
    mapImported.Registered ∧
      (Naming.mk mapImported (some (Scribe.packagePrefix (.text "p")))).display
        (.text "java.util.Map<p., p.Foo.Bar>") = .ok "Map<, Foo.Bar>" ∧
      ∃ out cut kept,
        (Naming.mk mapImported (some (Scribe.packagePrefix (.text "p")))).display
          (.text "java.util.Map<p., p.Foo.Bar>") = .ok out ∧
        Name.Cut "java.util.Map<p., p.Foo.Bar>".toList cut ∧ List.Forall₂ Clipped cut kept ∧
        out.toList = kept.flatten ∧ out.toList.Sublist "java.util.Map<p., p.Foo.Bar>".toList ∧
        out.length ≤ "java.util.Map<p., p.Foo.Bar>".length ∧
        ∀ run rest, (Name.Piece.name run, rest) ∈ cut.zip kept →
          rest.splitOn '.' <:+ run.splitOn '.' ∧ (rest = [] → run.getLast? = some '.') :=
  ⟨mapImported_registered, by decide +kernel, display_clips mapImported_registered _ _⟩

end Naming
end JavaScribe
