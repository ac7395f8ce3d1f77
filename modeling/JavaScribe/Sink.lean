import JavaScribe.Fault
import JavaScribe.Value.Order

/-!
# Sinks

A sink takes the text of a page piece by piece. It may refuse any piece, for good or for once, and
what it does then is its own affair: the scribe only learns that the piece was refused.
-/
namespace JavaScribe

class Sink (σ : Type) where
  write : σ → String → Option Refusal × σ
  /-- Offers a value that is no text, which no sink takes. -/
  refuse : σ → Value → Refusal × σ
  /-- Closes the sink. A sink that cannot be closed stays as it is. -/
  close : σ → σ

/-- A page in memory. It can be closed, and it can be made to refuse what is written. -/
structure Page where
  text : String := ""
  closable : Bool := true
  closes : Nat := 0
  full : Bool := false
  /-- Refuse every piece in which this text occurs. -/
  rejects : Option String := none
  deriving DecidableEq, Repr

namespace Page

def occursIn (part : List Char) : List Char → Bool
  | [] => part.isEmpty
  | c :: cs => part.isPrefixOf (c :: cs) || occursIn part cs

def diskFull : Refusal := .failed "disk full"

def refusal? (p : Page) (text : String) : Option Refusal :=
  if p.full || p.rejects.any (fun part => occursIn part.toList text.toList) then some diskFull
  else if 0 < p.closes then some .closed
  else none

/-- Why a value that is no text is refused. The text that the page rejects is sought among the
items of a collection. -/
def refusalOf (p : Page) (v : Value) : Refusal :=
  if p.full then diskFull
  else
    match p.rejects, v.items? with
    | some _, none => .notSearchable v.kind
    | some part, some vs =>
      if vs.any (·.agrees (.text part)) then diskFull
      else if 0 < p.closes then .closed
      else .notText v.kind
    | none, _ => if 0 < p.closes then .closed else .notText v.kind

instance : Sink Page where
  write p text :=
    match p.refusal? text with
    | some r => (some r, p)
    | none => (none, { p with text := p.text ++ text })
  refuse p v := (p.refusalOf v, p)
  close p := if p.closable then { p with closes := p.closes + 1 } else p

theorem refusal?_eq_none {p : Page} (hc : p.closes = 0) (hf : p.full = false)
    (hr : p.rejects = none) (text : String) : p.refusal? text = none := by
  simp [refusal?, hc, hf, hr]

theorem write_of_refusal?_eq_none {p : Page} {text : String} (h : p.refusal? text = none) :
    Sink.write p text = (none, { p with text := p.text ++ text }) := by
  simp [Sink.write, h]

theorem write_of_refusal?_eq_some {p : Page} {text : String} {r : Refusal}
    (h : p.refusal? text = some r) : Sink.write p text = (some r, p) := by
  simp [Sink.write, h]

end Page
end JavaScribe
