set_option autoImplicit false

namespace TreeGrammar

namespace CommandLine

inductive Topic where
  | program
  | check
  | generate
  | dump
  | contexts
  | listFormats
  | helping
deriving DecidableEq

namespace Topic

def ofName? (name : String) : Option Topic :=
  if name = "check" then some .check
  else if name = "generate" then some .generate
  else if name = "dump" then some .dump
  else if name = "contexts" then some .contexts
  else if name = "list-formats" then some .listFormats
  else none

def pathHelp : String := "Arguments:\n  <path>  Path to the definition file\n\n"

def help : Topic → String
  | .program =>
    "Generate structured test inputs from bf definitions\n\n" ++
    "Usage: bf <COMMAND>\n\n" ++
    "Commands:\n" ++
    "  check         Validate a definition file\n" ++
    "  generate      Generate node graphs from a definition\n" ++
    "  dump          Print the parsed definition\n" ++
    "  contexts      Print the statements referencing each statement\n" ++
    "  list-formats  List available graph output formats\n" ++
    "  help          Print this message or the help of the given subcommand(s)\n\n" ++
    "Options:\n" ++
    "  -h, --help     Print help\n" ++
    "  -V, --version  Print version\n"
  | .check =>
    "Validate a definition file\n\n" ++
    "Usage: bf check <path>\n\n" ++ pathHelp ++
    "Options:\n" ++
    "  -h, --help  Print help\n"
  | .generate =>
    "Generate node graphs from a definition\n\n" ++
    "Usage: bf generate [OPTIONS] <path>\n\n" ++ pathHelp ++
    "Options:\n" ++
    "  -r, --root <root>      Statement to generate from (defaults to the first unreferenced " ++
      "statement)\n" ++
    "  -s, --seed <seed>      RNG seed, overrides the configured one\n" ++
    "  -c, --config <config>  Configuration file layered over the defaults\n" ++
    "  -f, --format <format>  Output format (see list-formats) [default: treeviz]\n" ++
    "  -n, --count <count>    Number of graphs to generate [default: 1]\n" ++
    "  -h, --help             Print help\n"
  | .dump =>
    "Print the parsed definition\n\n" ++
    "Usage: bf dump [OPTIONS] <path>\n\n" ++ pathHelp ++
    "Options:\n" ++
    "  -f, --format <format>  Output format [default: bf] [possible values: bf, yaml, json]\n" ++
    "  -h, --help             Print help\n"
  | .contexts =>
    "Print the statements referencing each statement\n\n" ++
    "Usage: bf contexts <path>\n\n" ++ pathHelp ++
    "Options:\n" ++
    "  -h, --help  Print help\n"
  | .listFormats =>
    "List available graph output formats\n\n" ++
    "Usage: bf list-formats\n\n" ++
    "Options:\n" ++
    "  -h, --help  Print help\n"
  | .helping =>
    "Print this message or the help of the given subcommand(s)\n\n" ++
    "Usage: bf help [COMMAND]...\n\n" ++
    "Arguments:\n" ++
    "  [COMMAND]...  Print help for the subcommand(s)\n"

end Topic

end CommandLine

end TreeGrammar
