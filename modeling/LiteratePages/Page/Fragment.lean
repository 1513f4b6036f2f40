import LiteratePages.Page.Html
import LiteratePages.Page.Segment

namespace LiteratePages

def outputHeading : String := "# stdout"

/-- Prose is HTML already, and stands in a paragraph. -/
def renderProse (text : String) : String :=
  let text := trim text
  if text.isEmpty then "" else "<p>\n" ++ text ++ "\n</p>"

/-- Code keeps the indentation of its first line. -/
def renderCode (code : String) : String :=
  let code := trimEnd code
  if code.isEmpty then "" else "<pre>" ++ Html.escape code ++ "</pre>"

def renderStdout (captured : String) : String :=
  let captured := trim captured
  if captured.isEmpty then ""
  else "<pre>" ++ outputHeading ++ "\n" ++ Html.escape captured ++ "\n</pre>"

/-- The fragment of a segment, in which code is shown and not run. -/
def Segment.render (segment : Segment) : String :=
  match segment.kind with
  | .prose => renderProse segment.content
  | .code | .listing => renderCode segment.content
  | .stdout => renderStdout segment.content
  | .blank | .noExecFlag => ""

end LiteratePages
