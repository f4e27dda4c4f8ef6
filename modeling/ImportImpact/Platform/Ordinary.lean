import ImportImpact.Console.Markup
import ImportImpact.Yaml.Reader

/-!
A platform to run on: no further encodings, the everyday part of YAML and of markup, and about as
much room as there usually is.
-/

namespace ImportImpact

def Room.ofLevels (levels : Nat) (least : 100 ≤ levels) : Room :=
  ⟨levels, least, "maximum recursion depth exceeded"⟩

def Platform.ordinary : Platform where
  decode _ _ := .refused
  readYaml := Yaml.read
  shownText? := Console.shownText?
  walkRoom := .ofLevels 970 (by decide)
  copyRoom := .ofLevels 480 (by decide)
  jsonRoom := .ofLevels 970 (by decide)
  yamlRoom := .ofLevels 250 (by decide)
  readRoom := .ofLevels 970 (by decide)

end ImportImpact
