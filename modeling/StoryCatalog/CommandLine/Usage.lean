import StoryCatalog.CommandLine.Options

/-!
# Usage

What the program says of its command line, in short beside a fault and at length when asked for help.
-/

namespace StoryCatalog.CommandLine

def program : String := "storybook-api"

def lines (texts : List String) : String :=
  String.join (texts.map (· ++ "\n"))

def usage : String :=
  lines [
    "usage: storybook-api [-h] [-p PORT] [-s STORYBOOK_PORT]",
    "                     [--storybook-url STORYBOOK_URL] [-c CONFIG]",
    "                     [--log-file LOG_FILE] [--host HOST] [-v]",
    "                     [path]"]

def help : String :=
  usage ++ lines [
    "",
    "Expose Storybook stories via REST API.",
    "",
    "positional arguments:",
    "  path                  Project directory (defaults to current directory).",
    "",
    "options:",
    "  -h, --help            show this help message and exit",
    "  -p PORT, --port PORT  Port to run the API server on (default: 6006).",
    "  -s STORYBOOK_PORT, --storybook-port STORYBOOK_PORT",
    "                        Port of the Storybook dev server (default: 6010).",
    "  --storybook-url STORYBOOK_URL",
    "                        URL of a running Storybook instance (overrides",
    "                        --storybook-port).",
    "  -c CONFIG, --config CONFIG",
    "                        Path to a YAML config file (defaults to",
    "                        <path>/.storybook-api.yml).",
    "  --log-file LOG_FILE   Also write log records to this file.",
    "  --host HOST           Interface to bind the API server to.",
    "  -v, --verbose         Increase log verbosity for troubleshooting."]

def UsageError.report (error : UsageError) : String :=
  usage ++ lines [program ++ ": error: " ++ error.message]

end StoryCatalog.CommandLine
