/-!
# Qualified names

A name is written with letters, digits, `_`, `$`, dots and `*`. Read from the left it is a
qualifier, which is a sequence of words each with a dot after it, and then the simple name, which
takes all name characters that are left and is never empty: a dot at the end goes to it with the
word before. `pieces` cuts a text into the names in it and the characters between them.
-/
namespace JavaScribe.Name

def isWordChar (c : Char) : Bool := c.isAlphanum || c == '_' || c == '$'

def isNameChar (c : Char) : Bool := isWordChar c || c == '.' || c == '*'

/-- A name at the head of a text, and what follows it. -/
structure Match where
  qualifier : List Char
  simple : List Char
  rest : List Char
  deriving DecidableEq, Repr

def Match.name (m : Match) : List Char := m.qualifier ++ m.simple

/-- A word with a dot after it at the head of a text, and what follows them. -/
def leadingWord? (cs : List Char) : Option (List Char × List Char) :=
  match cs.takeWhile isWordChar, cs.dropWhile isWordChar with
  | c :: word, '.' :: rest => some (c :: word ++ ['.'], rest)
  | _, _ => none

/-- All name characters at the head of a text, as a simple name. -/
def simple? (cs : List Char) : Option Match :=
  match cs.takeWhile isNameChar with
  | [] => none
  | c :: simple => some ⟨[], c :: simple, cs.dropWhile isNameChar⟩

theorem leadingWord?_append {cs word rest : List Char} (h : leadingWord? cs = some (word, rest)) :
    word ++ rest = cs := by
  have hcs := List.takeWhile_append_dropWhile (p := isWordChar) (l := cs)
  unfold leadingWord? at h
  split at h
  · rename_i c w r h1 h2
    injection h with h
    injection h with hw hr
    rw [h1, h2] at hcs
    subst hw hr
    simpa using hcs
  · exact absurd h (by simp)

theorem leadingWord?_ne_nil {cs word rest : List Char}
    (h : leadingWord? cs = some (word, rest)) : word ≠ [] := by
  unfold leadingWord? at h
  split at h
  · injection h with h
    injection h with hw _
    subst hw
    simp
  · exact absurd h (by simp)

theorem leadingWord?_length {cs word rest : List Char}
    (h : leadingWord? cs = some (word, rest)) : rest.length < cs.length := by
  have h1 := leadingWord?_append h
  have h2 := List.length_pos_iff.mpr (leadingWord?_ne_nil h)
  rw [← h1, List.length_append]
  omega

/-- The name at the head of a text: as many words as leave something for the simple name. -/
def match? (cs : List Char) : Option Match :=
  match _h : leadingWord? cs with
  | some (word, rest) =>
    match match? rest with
    | some m => some { m with qualifier := word ++ m.qualifier }
    | none => simple? cs
  | none => simple? cs
termination_by cs.length
decreasing_by exact leadingWord?_length _h

theorem simple?_append {cs : List Char} {m : Match} (h : simple? cs = some m) :
    m.name ++ m.rest = cs := by
  have hcs := List.takeWhile_append_dropWhile (p := isNameChar) (l := cs)
  unfold simple? at h
  split at h
  · exact absurd h (by simp)
  · rename_i c s h1
    injection h with h
    subst h
    rw [h1] at hcs
    simpa [Match.name] using hcs

theorem simple?_ne_nil {cs : List Char} {m : Match} (h : simple? cs = some m) :
    m.simple ≠ [] := by
  unfold simple? at h
  split at h
  · exact absurd h (by simp)
  · injection h with h
    subst h
    simp

theorem match?_append {cs : List Char} {m : Match} (h : match? cs = some m) :
    m.name ++ m.rest = cs := by
  fun_induction match? cs generalizing m with
  | case1 cs word rest hw m' hm ih =>
    injection h with h
    subst h
    have h1 := ih hm
    simp only [Match.name] at h1 ⊢
    rw [List.append_assoc, List.append_assoc, ← List.append_assoc m'.qualifier, h1]
    exact leadingWord?_append hw
  | case2 => exact simple?_append h
  | case3 => exact simple?_append h

theorem match?_simple_ne_nil {cs : List Char} {m : Match} (h : match? cs = some m) :
    m.simple ≠ [] := by
  fun_induction match? cs generalizing m with
  | case1 cs word rest hw m' hm ih =>
    injection h with h
    subst h
    have h1 := ih hm
    exact h1
  | case2 => exact simple?_ne_nil h
  | case3 => exact simple?_ne_nil h

theorem match?_length {cs : List Char} {m : Match} (h : match? cs = some m) :
    m.rest.length < cs.length := by
  have h1 := match?_append h
  have h2 := List.length_pos_iff.mpr (match?_simple_ne_nil h)
  rw [← h1]
  simp only [Match.name, List.length_append]
  omega

/-- The simple name of a text that is one name from end to end. -/
def short? (name : String) : Option String :=
  match match? name.toList with
  | some ⟨_, simple, []⟩ => some (String.ofList simple)
  | _ => none

inductive Piece where
  | name (cs : List Char)
  | other (c : Char)
  deriving DecidableEq, Repr

def Piece.toList : Piece → List Char
  | name cs => cs
  | other c => [c]

def pieces : List Char → List Piece
  | [] => []
  | c :: cs =>
    match _h : match? (c :: cs) with
    | some m => .name m.name :: pieces m.rest
    | none => .other c :: pieces cs
termination_by cs => cs.length
decreasing_by
  · exact match?_length _h
  · simp

theorem flatMap_pieces (cs : List Char) : (pieces cs).flatMap Piece.toList = cs := by
  fun_induction pieces cs with
  | case1 => rfl
  | case2 c cs m h ih => simp [Piece.toList, ih, match?_append h]
  | case3 c cs h ih => simp [Piece.toList, ih]

end JavaScribe.Name
