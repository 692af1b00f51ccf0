/-!
# Help and version

What is printed when the help or the version is asked for.

Key definitions: `helpText`, `versionText`.
-/

namespace DocSieve

/-- The lines of the help. -/
def helpLines : List String := [
  "docpipe: stream random windows of a text file through load -> tokenize -> embed -> dedup and print each decision",
  "",
  "Usage: docpipe [OPTIONS]",
  "",
  "Options:",
  "  -c, --config <CONFIG>                Path to the configuration file",
  "  -l, --log-level <LOG_LEVEL>          Log level or filter directive (trace, debug, info, warn, error)",
  "  -f, --file <FILE>                    Source text file to sample documents from",
  "  -r, --rate <RATE>                    Load requests generated per second",
  "  -t, --threshold <THRESHOLD>          Similarity at or above which a document is a duplicate",
  "  -d, --dimensions <DIMENSIONS>        Embedding vector length",
  "  -n, --max-docs <MAX_DOCS>            Stop generating after this many documents",
  "      --duration-secs <DURATION_SECS>  Cancel the run after this many seconds",
  "      --json                           Print results as JSON lines instead of debug form",
  "  -h, --help                           Print help",
  "  -V, --version                        Print version"]

def helpText : String := String.join (helpLines.map (· ++ "\n"))

def versionText : String := "docpipe 0.1.0\n"

end DocSieve
