import Scriptorium.Text.Blank
/-! # The paper around a body

A template is a complete LaTeX document with a placeholder for the body. The
standard one is for lecture notes in the llncs class.
-/

namespace Scriptorium.Latex

/-- What stands in a template for the body. -/
def placeholder : Text :=
  "%%CONTENT%%".toList

/-- The template taken when none is configured; its links lead to the given site. -/
def standardTemplate (siteBaseUrl : Text) : Text :=
  ("\\documentclass[runningheads]\x7bllncs\x7d\n" ++
  "\\usepackage[T1]\x7bfontenc\x7d\n" ++
  "\\usepackage\x7bgraphicx\x7d\n" ++
  "\\usepackage\x7bxcolor\x7d\n" ++
  "\\usepackage\x7bsoul\x7d\n" ++
  "\\usepackage\x7betoolbox\x7d\n" ++
  "\\usepackage\x7bxspace\x7d\n" ++
  "\\usepackage[hyphens]\x7burl\x7d\n" ++
  "\\usepackage[hidelinks]\x7bhyperref\x7d\n" ++
  "\\usepackage\x7bamsmath\x7d\n" ++
  "\\usepackage\x7bamssymb\x7d\n" ++
  "\\hbadness=10000\n\n" ++
  "% Custom commands for library links\n" ++
  "\\newcommand\x7b\\lib\x7d[2]\x7b\\href\x7b").toList ++
  siteBaseUrl.dropEndWhile (· == '/') ++
  "#1\x7d\x7b#2\x7d\\xspace\x7d\n\n\\begin\x7bdocument\x7d\n\n".toList ++
  placeholder ++ "\n\n\\end\x7bdocument\x7d\n".toList

/-- A template with a body in place of its first placeholder. -/
def assemble (template body : Text) : Text :=
  template.replaceFirst placeholder body.trimEnd

end Scriptorium.Latex
