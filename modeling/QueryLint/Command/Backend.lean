import QueryLint.Diagnostic.Ansi
import QueryLint.Files.Glob
import QueryLint.Manifest.Yaml
import QueryLint.Pattern

/-! What stands behind the program: patterns, colours, manifests and the search for them are handled as
here, where nothing else is said. -/

set_option autoImplicit false

namespace QueryLint

instance : Pattern.Engine := Pattern.engine

instance : Coloring := Ansi.coloring

instance : Manifest.Decoder := Manifest.decoder

instance : FileTree.Globbing := FileTree.globbing

end QueryLint
