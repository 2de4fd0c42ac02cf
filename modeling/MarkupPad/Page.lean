import MarkupPad.Library.Policy
import MarkupPad.Project
import MarkupPad.Text.Ascii
import MarkupPad.Text.Blank

/-!
# The page of a project

A project is exported as one HTML page that stands alone: the policy and the styles in the
head, the markup and the scripts in the body, and the libraries before the project's own
styles and script.
-/

namespace MarkupPad.Page

open Text

/-! ## Algorithm -/

/-- The styles that come before all others. -/
def baseStyles : List Text := [
  "* \x7b box-sizing: border-box; \x7d".toList,
  "body \x7b background-color: #ffffff; color: #1e293b; margin: 0; padding: 0; font-family: ".toList
    ++ "system-ui, -apple-system, sans-serif; \x7d".toList,
  "table \x7b border-collapse: collapse; width: 100%; max-width: 100%; \x7d".toList,
  "th, td \x7b border: 1px solid #e2e8f0; padding: 12px; text-align: left; \x7d".toList]

/-- The link to a style sheet. -/
def styleLink (library : Library) : Text :=
  "  <link rel=\"stylesheet\" href=\"".toList ++ library.url ++ "\">".toList

/-- The link to a script. -/
def scriptLink (library : Library) : Text :=
  "  <script src=\"".toList ++ library.url ++ "\"></script>".toList

/-- The policy as the page declares it. -/
def policyTag (s : LibrarySet) (reader : Url.Reader := Url.standard) : Text :=
  "  <meta http-equiv=\"Content-Security-Policy\" content=\"".toList ++
    Policy.ofLibraries s reader ++ "\">".toList

/-- The head of the page, line by line.  A buffer counts as one line. -/
def head (d : Document) (s : LibrarySet) (reader : Url.Reader := Url.standard) : List Text :=
  ["  <meta charset=\"utf-8\">".toList,
    "  <meta name=\"viewport\" content=\"width=device-width, initial-scale=1.0\">".toList,
    policyTag s reader, "  <style>".toList] ++ baseStyles ++ ["  </style>".toList] ++
  (s.ofKind .css).map styleLink ++
  ["  <style>".toList, d.style, "  </style>".toList]

/-- The body of the page, line by line.  A buffer counts as one line. -/
def body (d : Document) (s : LibrarySet) : List Text :=
  d.markup :: (s.ofKind .js).map scriptLink ++ ["  <script>".toList, d.script, "  </script>".toList]

/-- The page, line by line. -/
def contents (d : Document) (s : LibrarySet) (reader : Url.Reader := Url.standard) : List Text :=
  ["<!DOCTYPE html>".toList, "<html>".toList, "<head>".toList] ++ head d s reader ++
  ["</head>".toList, "<body>".toList] ++ body d s ++ ["</body>".toList, "</html>".toList]

/-- The page of a document that uses libraries. -/
def ofDocument (d : Document) (s : LibrarySet) (reader : Url.Reader := Url.standard) : Text :=
  (contents d s reader).flatMap (· ++ ['\n'])

/-- The ending of the name of a page. -/
def ending : Text := ".html".toList

/-- The name of the file for a page: the ending is added unless it is there, in whatever
case, and a page without a name is a project. -/
def fileName (name : Text) : Text :=
  let name := trim name
  if name = [] then "project.html".toList
  else if (asciiLower name).endsWith ending then name
  else name ++ ending

end MarkupPad.Page
