import Codemod.Markup.Builder
import Codemod.Markup.Foreign

/-!
# Entering drawings and formulas
-/

namespace Codemod.Markup.Build

/-- Creates an element of a drawing or a formula; one that closes itself stays closed. -/
def insertForeign (space : Space) (t : Tag) : Build Step := do
  let name : Name := ⟨space, t.name⟩
  let attributes := Foreign.attributes space t.attributes
  if t.selfClosing then
    let _ ← insertClosed name attributes
  else
    let _ ← insertNamed name attributes
  return .done

/-- The outermost element of a drawing or a formula. -/
def enterForeign (space : Space) (t : Tag) : Build Step :=
  insertForeign space t

end Codemod.Markup.Build
