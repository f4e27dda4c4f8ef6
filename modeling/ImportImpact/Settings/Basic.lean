import ImportImpact.Fault

/-!
The settings of an analysis. Every setting holds a value of any kind: what a settings file gives
is kept as it is, and a value of the wrong kind shows only where the setting is used.
-/

namespace ImportImpact

inductive Section where
  | parser
  | dependencies
  | graph
  | logging
  deriving DecidableEq

inductive Setting where
  | encoding
  | fallbackEncodings
  | maxFileSize
  | includeReverse
  | maxDepth
  | sourceRoots
  | ignoredDirectories
  | scriptExtensions
  | styleExtensions
  | resolveExtensions
  | indexName
  | followLinks
  | toolName
  | deduplicateEdges
  | logLevel
  | logFormat
  | logFile
  | logFileSize
  | logBackups
  deriving DecidableEq

namespace Setting

def name : Setting → String
  | .encoding => "encoding"
  | .fallbackEncodings => "fallback_encodings"
  | .maxFileSize => "max_file_size_mb"
  | .includeReverse => "include_reverse_deps"
  | .maxDepth => "max_depth"
  | .sourceRoots => "source_roots"
  | .ignoredDirectories => "ignored_dirs"
  | .scriptExtensions => "script_extensions"
  | .styleExtensions => "style_extensions"
  | .resolveExtensions => "resolve_extensions"
  | .indexName => "index_basename"
  | .followLinks => "follow_symlinks"
  | .toolName => "tool_name"
  | .deduplicateEdges => "deduplicate_edges"
  | .logLevel => "level"
  | .logFormat => "format"
  | .logFile => "file"
  | .logFileSize => "max_file_size_mb"
  | .logBackups => "backup_count"

def initial : Setting → Value
  | .encoding => .str "utf-8"
  | .fallbackEncodings => .texts ["latin-1"]
  | .maxFileSize => .int 5
  | .includeReverse => .bool true
  | .maxDepth => .int 2
  | .sourceRoots => .texts ["src", "frontend", "backend", "app", "lib"]
  | .ignoredDirectories =>
      .texts ["node_modules", ".git", "dist", "build", ".next", "coverage"]
  | .scriptExtensions =>
      .texts [".js", ".ts", ".jsx", ".tsx", ".svelte", ".mjs", ".cjs", ".vue"]
  | .styleExtensions => .texts [".css", ".scss", ".sass", ".less"]
  | .resolveExtensions =>
      .texts [".js", ".ts", ".jsx", ".tsx", ".svelte", ".json", ".css", ".scss"]
  | .indexName => .str "index"
  | .followLinks => .bool false
  | .toolName => .str "prgraph"
  | .deduplicateEdges => .bool true
  | .logLevel => .str "WARNING"
  | .logFormat => .str "%(asctime)s | %(levelname)s | %(name)s | %(message)s"
  | .logFile => .null
  | .logFileSize => .int 10
  | .logBackups => .int 3

end Setting

namespace Section

def name : Section → String
  | .parser => "parser"
  | .dependencies => "dependencies"
  | .graph => "graph"
  | .logging => "logging"

def className : Section → String
  | .parser => "ParserConfig"
  | .dependencies => "DependencyConfig"
  | .graph => "GraphConfig"
  | .logging => "LoggingConfig"

def all : List Section := [.parser, .dependencies, .graph, .logging]

def settings : Section → List Setting
  | .parser => [.encoding, .fallbackEncodings, .maxFileSize]
  | .dependencies =>
      [.includeReverse, .maxDepth, .sourceRoots, .ignoredDirectories, .scriptExtensions,
       .styleExtensions, .resolveExtensions, .indexName, .followLinks]
  | .graph => [.toolName, .deduplicateEdges]
  | .logging => [.logLevel, .logFormat, .logFile, .logFileSize, .logBackups]

def ofName? (name : String) : Option Section := all.find? fun part => part.name = name

def setting? (part : Section) (name : String) : Option Setting :=
  part.settings.find? fun setting => setting.name = name

end Section

structure Settings where
  value : Setting → Value

namespace Settings

def initial : Settings := ⟨Setting.initial⟩

def set (settings : Settings) (setting : Setting) (value : Value) : Settings :=
  ⟨fun other => if other = setting then value else settings.value other⟩

def toDocument (settings : Settings) : Value :=
  .record (Section.all.map fun part =>
    (part.name, .record (part.settings.map fun setting =>
      (setting.name, settings.value setting))))

end Settings

end ImportImpact
