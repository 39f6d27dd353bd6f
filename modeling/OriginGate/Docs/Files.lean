import OriginGate.Http.Message

/-!
# The interactive documentation

The files of the page that shows the interface description, with their media types. Three of them
are given here; the scripts, the style sheet and the icons that the page asks for come from outside.
-/

namespace OriginGate.Docs

open Http Text

/-- A file with its media type. -/
structure File where
  name : String
  mediaType : FieldValue
  content : List UInt8

def indexPage : File where
  name := "index.html"
  mediaType := .ofString "text/html"
  content := Utf8.ofString "<!-- HTML for static distribution bundle build -->
<!DOCTYPE html>
<html lang=\"en\">
  <head>
    <meta charset=\"UTF-8\">
    <title>Swagger UI</title>
    <link rel=\"stylesheet\" type=\"text/css\" href=\"./swagger-ui.css\" />
    <link rel=\"stylesheet\" type=\"text/css\" href=\"index.css\" />
    <link rel=\"icon\" type=\"image/png\" href=\"./favicon-32x32.png\" sizes=\"32x32\" />
    <link rel=\"icon\" type=\"image/png\" href=\"./favicon-16x16.png\" sizes=\"16x16\" />
  </head>

  <body>
    <div id=\"swagger-ui\"></div>
    <script src=\"./swagger-ui-bundle.js\" charset=\"UTF-8\"> </script>
    <script src=\"./swagger-ui-standalone-preset.js\" charset=\"UTF-8\"> </script>
    <script src=\"./swagger-initializer.js\" charset=\"UTF-8\"> </script>
  </body>
</html>
"

def styles : File where
  name := "index.css"
  mediaType := .ofString "text/css"
  content := Utf8.ofString "html \x7b
    box-sizing: border-box;
    overflow: -moz-scrollbars-vertical;
    overflow-y: scroll;
\x7d

*,
*:before,
*:after \x7b
    box-sizing: inherit;
\x7d

body \x7b
    margin: 0;
    background: #fafafa;
\x7d
"

/-- The script that loads the interface description into the page. -/
def initializer : File where
  name := "swagger-initializer.js"
  mediaType := .ofString "text/javascript"
  content := Utf8.ofString "window.onload = function() \x7b
  //<editor-fold desc=\"Changeable Configuration Block\">

  // the following lines will be replaced by docker/configurator, when it runs in a docker-container
  window.ui = SwaggerUIBundle(\x7b
      \"dom_id\": \"#swagger-ui\",
  \"url\": \"/openapi.json\",
  \"deepLinking\": true,
  \"layout\": \"StandaloneLayout\",
    presets: [
      SwaggerUIBundle.presets.apis,
      SwaggerUIStandalonePreset
    ],
    plugins: [
      SwaggerUIBundle.plugins.DownloadUrl
    ],
    
  \x7d);

  //</editor-fold>
\x7d;
"

/-- The files that the page always has. -/
def ownFiles : List File := [indexPage, styles, initializer]

/-- The file that the rest of a path below the documentation names, where `assets` are the files
from outside; the bare directory names the index page. -/
def file? (assets : List File) (rest : List Char) : Option File :=
  if rest = [] ∨ rest = ['/'] then some indexPage
  else (ownFiles ++ assets).find? fun f => f.name.toList = rest

theorem file?_eq_none {assets : List File} {name : String}
    (hname : name.toList ≠ [] ∧ name.toList ≠ ['/'])
    (hfiles : ∀ f ∈ ownFiles ++ assets, f.name ≠ name) : file? assets name.toList = none := by
  rw [file?, if_neg (not_or.2 hname), List.find?_eq_none]
  intro f hf heq
  exact hfiles f hf (String.toList_inj.1 (of_decide_eq_true heq))

end OriginGate.Docs
