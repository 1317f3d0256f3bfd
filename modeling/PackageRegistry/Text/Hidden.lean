import PackageRegistry.Unicode.Shape

/-!
Characters that do not stand for themselves in a line of text.
-/

namespace PackageRegistry.Text

/-- Whether a character is written as an escape in a quoted text: it has no shape, is shown as
nothing, or attaches to the character before it. -/
def isHidden (c : Char) : Bool :=
  Unicode.isShapeless c || Unicode.isFiller c || Unicode.isExtending c

end PackageRegistry.Text
