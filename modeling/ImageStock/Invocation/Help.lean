import ImageStock.Invocation.Basic

/-!
The help pages of the program.
-/

namespace ImageStock.Invocation

def versionText : String := "image-provisioner 0.1.0\n"

def Verb.about : Verb → String
  | pull => "Pull every configured image that is not present locally (default)"
  | list => "Show the configured images and whether they are present locally"
  | init => "Write a provision.toml with the built-in image list"
  | help => "Print this message or the help of the given subcommand(s)"

def Switch.about : Switch → String
  | config =>
    "Project config file (defaults to provision.toml or .provision.toml in the working directory)"
  | containerCommand => "Container CLI to use (docker, podman, or e.g. \"docker --context remote\")"
  | force => "Overwrite an existing provision.toml"
  | help => "Print help"
  | version => "Print version"

def Switch.entry (s : Switch) : String :=
  match s.letter? with
  | some letter => s!"-{letter}, {s.shown}"
  | none => s!"    {s.shown}"

def Scope.about : Scope → String
  | program =>
    "Pull the container images a deployment needs, skipping the ones already present locally"
  | verb v => v.about

def helpSection (title : String) (entries : List (String × String)) : String :=
  let column := (entries.map (·.1.length)).foldl max 0
  s!"\n{title}:\n" ++ String.join (entries.map fun (entry, about) =>
    let gap := String.ofList (List.replicate (column + 2 - entry.length) ' ')
    s!"  {entry}{gap}{about}\n")

def Verb.entry (v : Verb) : String × String :=
  (v.name, v.about ++ (v.alias?.map fun a => s!" [alias: {a}]").getD "")

def Scope.sections : Scope → List (String × List (String × String))
  | program => [("Commands", Verb.all.map Verb.entry)]
  | verb .help => [("Arguments", [("[COMMAND]...", "Print help for the subcommand(s)")])]
  | verb _ => []

def Scope.help (scope : Scope) : String :=
  let options := scope.switches.map fun s => (s.entry, s.about)
  let sections := scope.sections ++ if options.isEmpty then [] else [("Options", options)]
  s!"{scope.about}\n\nUsage: {scope.usage}\n" ++
    String.join (sections.map fun (title, entries) => helpSection title entries)

end ImageStock.Invocation
