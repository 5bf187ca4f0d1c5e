import ImageStock.Command
import ImageStock.Failure
import ImageStock.Image

/-!
What a run reports about itself.
-/

namespace ImageStock

inductive Level where
  | error
  | warn
  | info
  | debug
  deriving DecidableEq, Repr

def Level.name : Level → String
  | error => "ERROR"
  | warn => "WARN"
  | info => "INFO"
  | debug => "DEBUG"

inductive Notice where
  | loading (path : String)
  | unknownField (path field : String)
  | versionAssumed (path : String)
  | twoProjectFiles
  | written (path : String)
  | userFileIgnored (failure : Failure)
  | usingCommand (commandLine : String)
  | chosen (name : String) (image : Image)
  | started
  | alreadyPresent (image : Image)
  | pulling (image : Image) (runtime : String)
  | pulled (image : Image)
  | finished (total fresh present : Nat)
  | executing (command : Command)
  | queryEnded (program : String) (image : Image) (status : Status)
  | failed (failure : Failure)
  deriving Repr

namespace Notice

def level : Notice → Level
  | failed _ => .error
  | unknownField .. | twoProjectFiles | userFileIgnored _ => .warn
  | versionAssumed _ | usingCommand _ | executing _ | queryEnded .. => .debug
  | loading _ | written _ | chosen .. | started | alreadyPresent _ | pulling .. | pulled _
  | finished .. => .info

def target : Notice → String
  | failed _ => "provision_images"
  | chosen .. => "provision_images::cli::pull"
  | loading _ | unknownField .. | versionAssumed _ | twoProjectFiles | written _
  | userFileIgnored _ | usingCommand _ => "provision_images::config"
  | started | alreadyPresent _ | pulling .. | pulled _ | finished .. =>
    "provision_images::provision"
  | executing _ | queryEnded .. => "provision_images::provision::runtime"

def text : Notice → String
  | loading path => s!"Loading project config from {path}"
  | unknownField path field => s!"Unknown configuration field in {path}: {field}"
  | versionAssumed path => s!"No version specified in {path}, using latest"
  | twoProjectFiles => "Both provision.toml and .provision.toml found. Using provision.toml."
  | written path => s!"Wrote project config to {path}"
  | userFileIgnored failure =>
    s!"Failed to load global config: {failure.chain}. Continuing without it."
  | usingCommand commandLine => s!"Using container CLI: {commandLine}"
  | chosen name image => s!"Image {name}: {image.reference}"
  | started => "==== Pulling images ===="
  | alreadyPresent image => s!"Image {image.reference} already exists locally, skipping pull"
  | pulling image runtime => s!"Pulling image {image.reference} with {runtime}..."
  | pulled image => s!"✓ Pulled image {image.reference}"
  | finished total fresh present =>
    s!"✓ All {total} images present ({fresh} pulled, {present} already present)"
  | executing command => s!"Executing command: {command.message}"
  | queryEnded program image status =>
    s!"{program} images -q {image.reference} exited with status: {status.message}"
  | failed failure => failure.chain

end Notice

end ImageStock
