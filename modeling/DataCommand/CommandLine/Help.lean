import DataCommand.CommandLine.Invocation
import DataCommand.Text.Join

/-!
The help texts.
-/

namespace DataCommand.CommandLine.Topic

/-- The lines of a help text. -/
def lines : Topic → List String
  | .general => [
    "cmdforge - render data-access commands for SQL, document and search backends",
    "",
    "USAGE:",
    "  cmdforge <COMMAND> [OPTIONS]",
    "",
    "COMMANDS:",
    "  render <FILE>         Render a TOML command file",
    "  init [FILE]           Write a template command file",
    "  dialects              List built-in dialects and their capabilities",
    "  help [COMMAND]        Print help",
    "",
    "ENVIRONMENT:",
    "  CMDFORGE_LOG          Log filter (default: warn), e.g. cmdforge=debug",
    "",
    "Run \x60cmdforge help <command>\x60 for more."]
  | .render => [
    "USAGE:",
    "  cmdforge render <FILE> [OPTIONS]",
    "",
    "OPTIONS:",
    "  -d, --dialect <NAME>  Dialect to render for (overrides the file)",
    "  --quote               Quote every identifier",
    "  --json                Print \x7b\x22sql\x22: ..., \x22args\x22: [...]\x7d instead of text",
    "  -h, --help            Print help"]
  | .init => [
    "USAGE:",
    "  cmdforge init [FILE]",
    "",
    "Writes a commented command file template (default: command.toml).",
    "Refuses to overwrite an existing file.",
    "",
    "OPTIONS:",
    "  -h, --help            Print help"]
  | .overview => [
    "USAGE:",
    "  cmdforge dialects",
    "",
    "Prints the built-in dialects with their quoting, alias, null-ordering,",
    "insert-conflict and pagination capabilities."]

/-- A help text; every line ends in a line break. -/
def text (topic : Topic) : String := String.join (topic.lines.map (· ++ "\n"))

end DataCommand.CommandLine.Topic
